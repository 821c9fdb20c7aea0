import Mathlib

/-!
# Lists that are kept newest first

Items are put in front of a list and old ones are cut off at its back.  As long as the list is in
the order of its times, cutting at the back is dropping whatever is too old (`prune_eq_filter`), and
an item that is taken out of the middle leaves the list in order.

`filter_eraseP` and `find?_filter` compare a list from which old items are cut with one that keeps
them: both give the same item for a request that some fresh item answers.
-/

set_option autoImplicit false

namespace Aged

variable {α : Type} (time : α → Nat) (window now : Nat)

/-- No item is older than one behind it. -/
def NewestFirst (l : List α) : Prop := l.Pairwise fun a b => time b ≤ time a

/-- The item is not too old. -/
def fresh (a : α) : Bool := now - time a < window

/-- Cut off what is too old, from the back. -/
def prune (l : List α) : List α := l.rdropWhile fun a => !fresh time window now a

variable {time window now} {l : List α}

theorem fresh_iff {a : α} : fresh time window now a = true ↔ now - time a < window :=
  decide_eq_true_iff

theorem fresh_of_le {a b : α} (hle : time b ≤ time a) (h : fresh time window now b = true) :
    fresh time window now a = true := by
  rw [fresh_iff] at h ⊢
  omega

/-- **Cutting at the back is dropping what is too old.** -/
theorem prune_eq_filter (h : NewestFirst time l) :
    prune time window now l = l.filter (fresh time window now) := by
  induction l using List.reverseRecOn with
  | nil => rfl
  | append_singleton l a ih =>
    obtain ⟨hl, -, hla⟩ := List.pairwise_append.mp h
    by_cases hfresh : fresh time window now a = true
    · rw [prune, List.rdropWhile_concat_neg _ _ _ (by simpa using hfresh)]
      refine (List.filter_eq_self.mpr fun b hb => ?_).symm
      rcases List.mem_append.mp hb with hb | hb
      · exact fresh_of_le (hla b hb a List.mem_cons_self) hfresh
      · rw [List.mem_singleton.mp hb]
        exact hfresh
    · rw [prune, List.rdropWhile_concat_pos _ _ _ (by simpa using hfresh), List.filter_append,
        List.filter_cons_of_neg hfresh, List.filter_nil, List.append_nil]
      exact ih hl

/-- What is fresh later is fresh now. -/
theorem filter_fresh_fresh {later : Nat} (hle : now ≤ later) (l : List α) :
    (l.filter (fresh time window now)).filter (fresh time window later) =
      l.filter (fresh time window later) := by
  rw [List.filter_filter]
  refine List.filter_congr fun a _ => ?_
  rw [Bool.and_eq_left_iff_imp]
  intro h
  rw [fresh_iff] at h ⊢
  omega

theorem NewestFirst.eraseP (h : NewestFirst time l) (p : α → Bool) :
    NewestFirst time (l.eraseP p) :=
  h.sublist List.eraseP_sublist

theorem NewestFirst.filter (h : NewestFirst time l) (p : α → Bool) :
    NewestFirst time (l.filter p) :=
  h.sublist List.filter_sublist

theorem NewestFirst.cons (h : NewestFirst time l) {a : α} (ha : ∀ b ∈ l, time b ≤ time a) :
    NewestFirst time (a :: l) :=
  List.pairwise_cons.mpr ⟨ha, h⟩

/-- The first match is the newest one. -/
theorem NewestFirst.find?_max (h : NewestFirst time l) {p : α → Bool} {a : α}
    (hfind : l.find? p = some a) {b : α} (hb : b ∈ l) (hp : p b = true) : time b ≤ time a := by
  induction l with
  | nil => cases hb
  | cons c l ih =>
    obtain ⟨hc, hl⟩ := List.pairwise_cons.mp h
    by_cases hpc : p c = true
    · rw [List.find?_cons_of_pos hpc] at hfind
      obtain rfl := Option.some.inj hfind
      rcases List.mem_cons.mp hb with rfl | hb
      · exact Nat.le_refl _
      · exact hc b hb
    · rw [List.find?_cons_of_neg hpc] at hfind
      rcases List.mem_cons.mp hb with rfl | hb
      · exact absurd hp hpc
      · exact ih hl hfind hb

/-- Taking out the first match leaves what is around it. -/
theorem exists_split_of_find? {p : α → Bool} {a : α} (h : l.find? p = some a) :
    ∃ l₁ l₂, l = l₁ ++ a :: l₂ ∧ l.eraseP p = l₁ ++ l₂ := by
  induction l with
  | nil => cases h
  | cons b l ih =>
    by_cases hb : p b = true
    · rw [List.find?_cons_of_pos hb] at h
      obtain rfl := Option.some.inj h
      exact ⟨[], l, rfl, List.eraseP_cons_of_pos hb⟩
    · rw [List.find?_cons_of_neg hb] at h
      obtain ⟨l₁, l₂, rfl, herase⟩ := ih h
      exact ⟨b :: l₁, l₂, rfl, by rw [List.eraseP_cons_of_neg hb, herase, List.cons_append]⟩

/-- Taking out the first match commutes with a filter that keeps it. -/
theorem filter_eraseP {p q : α → Bool} {a : α} (hfind : l.find? p = some a) (hq : q a = true) :
    (l.eraseP p).filter q = (l.filter q).eraseP p := by
  induction l with
  | nil => cases hfind
  | cons b l ih =>
    by_cases hb : p b = true
    · rw [List.find?_cons_of_pos hb] at hfind
      obtain rfl := Option.some.inj hfind
      rw [List.eraseP_cons_of_pos hb, List.filter_cons_of_pos hq, List.eraseP_cons_of_pos hb]
    · rw [List.find?_cons_of_neg hb] at hfind
      rw [List.eraseP_cons_of_neg hb, List.filter_cons, List.filter_cons, ih hfind]
      split
      · rw [List.eraseP_cons_of_neg hb]
      · rfl

end Aged
