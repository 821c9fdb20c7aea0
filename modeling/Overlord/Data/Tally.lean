import Mathlib

/-!
# Counting maps

A table that bounds how many of its elements share a key keeps, next to the elements, a map from
keys to counts, in which a key without elements has no entry.  `increment` and `decrement` are the
two updates of such a map, and `Tallies m key l` says that `m` is the exact count of the list `l` by
`key`.  Elements may have no key; they are not counted.

`Tallies` sees the list up to permutation (`Tallies.of_perm`) and follows it element by element
(`Tallies.cons`, `Tallies.uncons`), so an invariant about the map is kept by a proof about the list.
-/

set_option autoImplicit false

namespace Tally

variable {κ α : Type} [DecidableEq κ]

/-- The entry that stands for a count: none for zero. -/
def entry (n : Nat) : Option Nat := if n = 0 then none else some n

@[simp] theorem entry_succ (n : Nat) : entry (n + 1) = some (n + 1) := rfl

@[simp] theorem getD_entry (n : Nat) : (entry n).getD 0 = n := by
  cases n <;> rfl

/-- Count one more element of the key, inserting the key if it is new. -/
def increment (m : κ → Option Nat) (k : κ) : κ → Option Nat :=
  Function.update m k (some ((m k).getD 0 + 1))

/-- Count one element less, removing the key with its last element. -/
def decrement (m : κ → Option Nat) (k : κ) : κ → Option Nat :=
  match m k with
  | some n => if 1 < n then Function.update m k (some (n - 1)) else Function.update m k none
  | none => m

/-- The number of elements with a key. -/
def total (key : α → Option κ) (l : List α) (k : κ) : Nat :=
  l.countP fun a => decide (key a = some k)

/-- The map is the exact count of the list by the key. -/
def Tallies (m : κ → Option Nat) (key : α → Option κ) (l : List α) : Prop :=
  ∀ k, m k = entry (total key l k)

variable {m : κ → Option Nat} {key : α → Option κ} {l l' : List α} {a : α} {k : κ}

theorem total_cons (key : α → Option κ) (a : α) (l : List α) (k : κ) :
    total key (a :: l) k = total key l k + if key a = some k then 1 else 0 := by
  rw [total, List.countP_cons, total]
  simp only [decide_eq_true_eq]

theorem total_of_perm (h : l.Perm l') (k : κ) : total key l k = total key l' k :=
  h.countP_eq _

theorem total_le_cons (key : α → Option κ) (a : α) (l : List α) (k : κ) :
    total key l k ≤ total key (a :: l) k := by
  rw [total_cons]
  exact Nat.le_add_right _ _

/-- A bound on the counts survives an element whose key is below the bound. -/
theorem total_cons_le {bound : Nat} (h : ∀ k, total key l k ≤ bound)
    (ha : ∀ k, key a = some k → total key l k < bound) (k : κ) :
    total key (a :: l) k ≤ bound := by
  rw [total_cons]
  split
  · next hk => exact ha k hk
  · exact h k

theorem tallies_nil : Tallies (fun _ => none) key [] := fun _ => rfl

theorem Tallies.of_perm (h : Tallies m key l) (hperm : l.Perm l') : Tallies m key l' :=
  fun k => (h k).trans (congrArg entry (total_of_perm hperm k))

/-- Replacing the first element by one with the same key changes no count. -/
theorem Tallies.replace {b : α} (h : Tallies m key (a :: l)) (hkey : key a = key b) :
    Tallies m key (b :: l) := by
  intro k
  rw [h k, total_cons, total_cons, hkey]

theorem increment_entry {n : Nat} (h : m k = entry n) : increment m k k = entry (n + 1) := by
  rw [increment, Function.update_self, h, getD_entry, entry_succ]

theorem increment_of_ne {k' : κ} (h : k' ≠ k) : increment m k k' = m k' :=
  Function.update_of_ne h _ _

theorem decrement_entry {n : Nat} (h : m k = entry (n + 1)) : decrement m k k = entry n := by
  rw [decrement, h, entry_succ]
  cases n with
  | zero => exact Function.update_self ..
  | succ n => exact Function.update_self ..

theorem decrement_of_ne {k' : κ} (h : k' ≠ k) : decrement m k k' = m k' := by
  rw [decrement]
  cases m k with
  | none => rfl
  | some n =>
    dsimp only
    split
    · exact Function.update_of_ne h _ _
    · exact Function.update_of_ne h _ _

/-- An element with a key is counted by an increment at that key. -/
theorem Tallies.cons (h : Tallies m key l) (hkey : key a = some k) :
    Tallies (increment m k) key (a :: l) := by
  intro k'
  rw [total_cons, hkey]
  by_cases hk : k' = k
  · subst hk
    rw [if_pos rfl, increment_entry (h k')]
  · rw [if_neg fun heq => hk (Option.some.inj heq).symm, increment_of_ne hk, h k', Nat.add_zero]

/-- An element with a key is taken out by a decrement at that key. -/
theorem Tallies.uncons (h : Tallies m key (a :: l)) (hkey : key a = some k) :
    Tallies (decrement m k) key l := by
  intro k'
  have hk' := h k'
  rw [total_cons, hkey] at hk'
  by_cases hk : k' = k
  · subst hk
    rw [if_pos rfl] at hk'
    exact decrement_entry hk'
  · rw [if_neg fun heq => hk (Option.some.inj heq).symm, Nat.add_zero] at hk'
    rw [decrement_of_ne hk, hk']

/-- An element without a key is not counted. -/
theorem tallies_cons_of_none (hkey : key a = none) :
    Tallies m key (a :: l) ↔ Tallies m key l := by
  refine forall_congr' fun k => ?_
  rw [total_cons, hkey, if_neg (Option.some_ne_none k).symm, Nat.add_zero]

end Tally
