import Mathlib

/-!
# Insertion that replaces

`put same room a l` puts the item `a` in the place of the first item of `l` that is the `same` as
it.  If there is none, `room` makes room in the list and `a` goes to its end.

* `put_cases` says what an insertion can do; the other facts follow from it.
* `length_put_le` and `countP_put_le` bound a list, and a class of its items.
* `pairwise_put_iff` is about a list without two related items: it stays one exactly when the new
  item is related to at most one item of the list.  A relation that is not transitive can relate it
  to two, and only the first of them is replaced.
-/

set_option autoImplicit false

namespace Upsert

variable {α : Type}

/-- Replace the first item that is the same, or append. -/
def put (same : α → Bool) (room : List α → List α) (a : α) (l : List α) : List α :=
  match l.findIdx? same with
  | some i => l.set i a
  | none => room l ++ [a]

variable {same : α → Bool} {room : List α → List α} {a : α} {l : List α}

/-- The item that `findIdx?` finds is the first match. -/
theorem exists_split_of_findIdx? {i : Nat} (h : l.findIdx? same = some i) :
    ∃ l₁ b l₂, l = l₁ ++ b :: l₂ ∧ same b = true ∧ (∀ c ∈ l₁, same c = false) ∧
      i = l₁.length := by
  induction l generalizing i with
  | nil => cases h
  | cons b l ih =>
    rw [List.findIdx?_cons] at h
    split at h
    case isTrue hb =>
      obtain rfl := Option.some.inj h
      exact ⟨[], b, l, rfl, hb, fun c hc => absurd hc List.not_mem_nil, rfl⟩
    case isFalse hb =>
      obtain ⟨j, hj, rfl⟩ := Option.map_eq_some_iff.mp h
      obtain ⟨l₁, c, l₂, rfl, hc, hl₁, rfl⟩ := ih hj
      refine ⟨b :: l₁, c, l₂, rfl, hc, fun d hd => ?_, rfl⟩
      rcases List.mem_cons.mp hd with rfl | hd
      · exact Bool.eq_false_iff.mpr hb
      · exact hl₁ d hd

/-- **What an insertion can do.** -/
theorem put_cases (same : α → Bool) (room : List α → List α) (a : α) (l : List α) :
    (∃ l₁ b l₂, l = l₁ ++ b :: l₂ ∧ same b = true ∧ (∀ c ∈ l₁, same c = false) ∧
      put same room a l = l₁ ++ a :: l₂) ∨
    (∀ c ∈ l, same c = false) ∧ put same room a l = room l ++ [a] := by
  rw [put]
  split
  case h_1 i hi =>
    obtain ⟨l₁, b, l₂, rfl, hb, hl₁, rfl⟩ := exists_split_of_findIdx? hi
    exact .inl ⟨l₁, b, l₂, rfl, hb, hl₁, by simp⟩
  case h_2 hnone => exact .inr ⟨List.findIdx?_eq_none_iff.mp hnone, rfl⟩

theorem length_put_le {capacity : Nat} (hl : l.length ≤ capacity)
    (hroom : (room l).length < capacity) : (put same room a l).length ≤ capacity := by
  rcases put_cases same room a l with ⟨l₁, b, l₂, rfl, -, -, hput⟩ | ⟨-, hput⟩
  · rw [hput]
    simpa using hl
  · rw [hput, List.length_append, List.length_singleton]
    exact hroom

/-- A class of items that `same` respects stays within a bound, if `room` leaves room in it. -/
theorem countP_put_le {p : α → Bool} {bound : Nat} (hsame : ∀ b, same b = true → p b = p a)
    (hl : l.countP p ≤ bound) (hroom : (room l).countP p + [a].countP p ≤ bound) :
    (put same room a l).countP p ≤ bound := by
  rcases put_cases same room a l with ⟨l₁, b, l₂, rfl, hb, -, hput⟩ | ⟨-, hput⟩
  · rw [hput]
    simpa only [List.countP_append, List.countP_cons, hsame b hb] using hl
  · rw [hput, List.countP_append]
    exact hroom

/-- **An insertion keeps the items unrelated exactly when the new one has at most one relative.** -/
theorem pairwise_put_iff {R : α → α → Prop} (hsymm : ∀ b c, R b c → R c b)
    (hsame : ∀ b, same b = true ↔ R a b) (hroom : (room l).Sublist l)
    (hl : l.Pairwise fun b c => ¬ R b c) :
    ((put same room a l).Pairwise fun b c => ¬ R b c) ↔ l.countP same ≤ 1 := by
  have hunrelated : ∀ b, same b = false → ¬ R a b := fun b hb hR =>
    Bool.false_ne_true (hb.symm.trans ((hsame b).mpr hR))
  rcases put_cases same room a l with ⟨l₁, b, l₂, rfl, hb, hl₁, hput⟩ | ⟨hnone, hput⟩
  · have hcount : (l₁ ++ b :: l₂).countP same = l₂.countP same + 1 := by
      rw [List.countP_append, List.countP_eq_zero.mpr fun c hc => by simp [hl₁ c hc],
        List.countP_cons_of_pos hb, Nat.zero_add]
    rw [hput, hcount, Nat.le_iff_lt_add_one, Nat.add_lt_add_iff_right, Nat.lt_one_iff,
      List.countP_eq_zero]
    rw [List.pairwise_append, List.pairwise_cons] at hl ⊢
    obtain ⟨hpre, ⟨-, hpost⟩, hacross⟩ := hl
    constructor
    · rintro ⟨-, ⟨ha, -⟩, -⟩ c hc hsamec
      exact ha c hc ((hsame c).mp hsamec)
    · intro hfree
      refine ⟨hpre, ⟨fun c hc hR => hfree c hc ((hsame c).mpr hR), hpost⟩, ?_⟩
      intro c hc d hd
      rcases List.mem_cons.mp hd with rfl | hd
      · exact fun hR => hunrelated c (hl₁ c hc) (hsymm c d hR)
      · exact hacross c hc d (List.mem_cons_of_mem b hd)
  · have hcount : l.countP same = 0 := List.countP_eq_zero.mpr fun c hc => by simp [hnone c hc]
    rw [hput, hcount]
    refine iff_of_true ?_ (Nat.zero_le 1)
    refine List.pairwise_append.mpr ⟨hl.sublist hroom, List.pairwise_singleton _ a, ?_⟩
    intro c hc d hd hR
    rw [List.mem_singleton.mp hd] at hR
    exact hunrelated c (hnone c (hroom.subset hc)) (hsymm c a hR)

/-- Items that are unrelated under an equivalence hold at most one relative of any item. -/
theorem countP_le_one_of_pairwise {R : α → α → Prop} (hsymm : ∀ b c, R b c → R c b)
    (htrans : ∀ b c d, R b c → R c d → R b d) (hsame : ∀ b, same b = true ↔ R a b)
    (hl : l.Pairwise fun b c => ¬ R b c) : l.countP same ≤ 1 := by
  induction l with
  | nil => exact Nat.zero_le 1
  | cons b l ih =>
    obtain ⟨hb, hl⟩ := List.pairwise_cons.mp hl
    by_cases hsameb : same b = true
    · have hzero : l.countP same = 0 := List.countP_eq_zero.mpr fun c hc hsamec =>
        hb c hc (htrans b a c (hsymm a b ((hsame b).mp hsameb)) ((hsame c).mp hsamec))
      rw [List.countP_cons_of_pos hsameb, hzero]
    · rw [List.countP_cons_of_neg hsameb]
      exact ih hl

end Upsert
