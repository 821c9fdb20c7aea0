import Mathlib

/-!
# Lists ordered by a key

Elements are ordered by a key, their distance from something, and a list is kept or brought in the
order of its keys.

* `nearest key n l` sorts a list and cuts it off after `n` elements.  `isNearest_nearest` says that
  it is what its name says: in increasing order, as many as there are up to `n`, and nearer than
  whatever was left out.
* `nearest_of_perm`, `nearest_append` — neither the order of the list nor elements farther away than
  `n` others matter.  A search that visits the near part first may stop there.
* `pairwise_insertIdx` — inserting at the partition point keeps a list strictly sorted.
* `pairwise_destutter` — sorting and dropping adjacent duplicates makes a list strictly sorted, when
  elements with the same key are duplicates.
-/

set_option autoImplicit false

namespace KeyOrder

variable {α κ : Type} [LinearOrder κ]

/-- The list sorted by key. -/
def byKey (key : α → κ) (l : List α) : List α := l.mergeSort fun a b => decide (key a ≤ key b)

/-- The `n` elements with the smallest keys. -/
def nearest (key : α → κ) (n : Nat) (l : List α) : List α := (byKey key l).take n

/-- `r` is the list of the `n` nearest elements of `l`, nearest first. -/
structure IsNearest (key : α → κ) (n : Nat) (l r : List α) : Prop where
  /-- In increasing order. -/
  sorted : r.Pairwise fun a b => key a < key b
  /-- Elements of the list. -/
  subset : ∀ a ∈ r, a ∈ l
  /-- As many as there are, up to `n`. -/
  length_eq : r.length = min n l.length
  /-- Nearer than the others. -/
  nearer : ∀ a ∈ l, a ∉ r → ∀ b ∈ r, key b < key a

variable {key : α → κ} {l l' r : List α} {n : Nat}

theorem byKey_perm (key : α → κ) (l : List α) : (byKey key l).Perm l := List.mergeSort_perm _ _

theorem pairwise_byKey (key : α → κ) (l : List α) :
    (byKey key l).Pairwise fun a b => key a ≤ key b := by
  have htrans : ∀ a b c : α, decide (key a ≤ key b) = true → decide (key b ≤ key c) = true →
      decide (key a ≤ key c) = true := by
    simp only [decide_eq_true_eq]
    exact fun _ _ _ => le_trans
  have htotal : ∀ a b : α, (decide (key a ≤ key b) || decide (key b ≤ key a)) = true := by
    simp only [Bool.or_eq_true, decide_eq_true_eq]
    exact fun a b => le_total (key a) (key b)
  exact (List.pairwise_mergeSort htrans htotal l).imp of_decide_eq_true

/-- Distinct keys make the order strict. -/
theorem pairwise_lt_byKey (h : (l.map key).Nodup) :
    (byKey key l).Pairwise fun a b => key a < key b := by
  have hne : (byKey key l).Pairwise fun a b => key a ≠ key b :=
    List.pairwise_map.mp (((byKey_perm key l).map key).nodup_iff.mpr h)
  exact ((pairwise_byKey key l).and hne).imp fun hab => lt_of_le_of_ne hab.1 hab.2

/-- There is only one way to sort. -/
theorem byKey_eq_of_perm (hsorted : r.Pairwise fun a b => key a < key b) (hperm : r.Perm l) :
    byKey key l = r := by
  have hnodup : (l.map key).Nodup :=
    (hperm.map key).nodup_iff.mp (List.pairwise_map.mpr (hsorted.imp ne_of_lt))
  refine List.Perm.eq_of_pairwise (fun a b _ _ hab hba => absurd hba hab.asymm)
    (pairwise_lt_byKey hnodup) hsorted ?_
  exact (byKey_perm key l).trans hperm.symm

theorem nearest_of_perm (hnodup : (l.map key).Nodup) (hperm : l.Perm l') :
    nearest key n l = nearest key n l' := by
  rw [nearest, nearest, byKey_eq_of_perm (pairwise_lt_byKey hnodup)
    ((byKey_perm key l).trans hperm)]

/-- **Elements beyond the `n` nearest do not matter.** -/
theorem nearest_append (hnodup : ((l ++ r).map key).Nodup)
    (hlt : ∀ a ∈ l, ∀ b ∈ r, key a < key b) (hn : r = [] ∨ n ≤ l.length) :
    nearest key n (l ++ r) = nearest key n l := by
  rw [List.map_append] at hnodup
  have hsorted : (byKey key l ++ byKey key r).Pairwise fun a b => key a < key b := by
    refine List.pairwise_append.mpr ⟨pairwise_lt_byKey hnodup.of_append_left,
      pairwise_lt_byKey hnodup.of_append_right, fun a ha b hb => ?_⟩
    exact hlt a ((byKey_perm key l).mem_iff.mp ha) b ((byKey_perm key r).mem_iff.mp hb)
  rw [nearest, byKey_eq_of_perm hsorted ((byKey_perm key l).append (byKey_perm key r)), nearest]
  rcases hn with rfl | hn
  · rw [(byKey_perm key []).eq_nil, List.append_nil]
  · exact List.take_append_of_le_length (hn.trans_eq (byKey_perm key l).length_eq.symm)

/-- **The result is the list of the nearest elements.** -/
theorem isNearest_nearest (hnodup : (l.map key).Nodup) (n : Nat) :
    IsNearest key n l (nearest key n l) where
  sorted := (pairwise_lt_byKey hnodup).sublist (List.take_sublist _ _)
  subset a ha := (byKey_perm key l).mem_iff.mp (List.mem_of_mem_take ha)
  length_eq := by rw [nearest, List.length_take, (byKey_perm key l).length_eq]
  nearer a ha hout b hb := by
    have hsorted := pairwise_lt_byKey hnodup
    rw [← List.take_append_drop n (byKey key l), List.pairwise_append] at hsorted
    refine hsorted.2.2 b hb a ?_
    have hmem := (byKey_perm key l).mem_iff.mpr ha
    rw [← List.take_append_drop n (byKey key l), List.mem_append] at hmem
    exact hmem.resolve_left hout

/-! ## Positions -/

/-- The element at a position, with what stands before and after it. -/
theorem exists_middle {i : Nat} {a : α} (h : l[i]? = some a) :
    ∃ front back, l = front ++ a :: back ∧ ∀ b, l.set i b = front ++ b :: back := by
  obtain ⟨hi, rfl⟩ := List.getElem?_eq_some_iff.mp h
  have hset : ∀ b, l.set i b = l.take i ++ b :: l.drop (i + 1) := fun b => by
    rw [List.set_eq_take_append_cons_drop, if_pos hi]
  exact ⟨l.take i, l.drop (i + 1), by rw [← hset, List.set_getElem_self], hset⟩

/-- The position at which an element is inserted. -/
theorem exists_insertIdx {i : Nat} (h : i ≤ l.length) (a : α) :
    ∃ front back, l = front ++ back ∧ l.insertIdx i a = front ++ a :: back := by
  induction l generalizing i with
  | nil => exact ⟨[], [], rfl, by rw [Nat.le_zero.mp h]; rfl⟩
  | cons b l ih =>
    rcases i with _ | i
    · exact ⟨[], b :: l, rfl, rfl⟩
    · obtain ⟨front, back, heq, hins⟩ := ih (Nat.le_of_succ_le_succ h)
      exact ⟨b :: front, back, congrArg _ heq, by rw [List.insertIdx_succ_cons, hins]; rfl⟩

/-! ## Insertion -/

/-- The number of leading elements that satisfy the predicate: where a binary search for the first
element that does not ends, if the list is partitioned. -/
def partitionPoint (p : α → Bool) (l : List α) : Nat := (l.takeWhile p).length

theorem partitionPoint_le (p : α → Bool) (l : List α) : partitionPoint p l ≤ l.length :=
  (List.takeWhile_sublist p).length_le

theorem pairwise_insertIdx {a : α} (h : l.Pairwise fun x y => key x < key y)
    (hne : ∀ b ∈ l, key b ≠ key a) :
    (l.insertIdx (partitionPoint (fun x => decide (key x < key a)) l) a).Pairwise
      fun x y => key x < key y := by
  induction l with
  | nil => exact List.pairwise_singleton _ _
  | cons b l ih =>
    obtain ⟨hb, hl⟩ := List.pairwise_cons.mp h
    by_cases hlt : key b < key a
    · have htail := ih hl fun c hc => hne c (List.mem_cons_of_mem b hc)
      rw [partitionPoint, List.takeWhile_cons, if_pos (decide_eq_true hlt), List.length_cons,
        List.insertIdx_succ_cons]
      refine List.pairwise_cons.mpr ⟨fun c hc => ?_, htail⟩
      rcases List.eq_or_mem_of_mem_insertIdx hc with rfl | hc
      · exact hlt
      · exact hb c hc
    · have hab : key a < key b :=
        lt_of_le_of_ne (le_of_not_gt hlt) (hne b List.mem_cons_self).symm
      rw [partitionPoint, List.takeWhile_cons, if_neg (by simpa using hlt)]
      refine List.pairwise_cons.mpr ⟨fun c hc => ?_, h⟩
      rcases List.mem_cons.mp hc with rfl | hc
      · exact hab
      · exact hab.trans (hb c hc)

/-- Dropping adjacent duplicates of a sorted list leaves it strictly sorted. -/
theorem pairwise_destutter {dup : α → α → Prop} [DecidableRel dup]
    (h : l.Pairwise fun a b => key a ≤ key b)
    (hdup : ∀ a ∈ l, ∀ b ∈ l, key a = key b → dup a b) :
    (l.destutter fun a b => ¬ dup a b).Pairwise fun a b => key a < key b := by
  have hsub := List.destutter_sublist (fun a b => ¬ dup a b) l
  have hchain := List.isChain_destutter (R := fun a b => ¬ dup a b) l
  have hle := (h.sublist hsub).isChain
  have htrans : Trans (fun a b : α => key a < key b) (fun a b => key a < key b)
    (fun a b => key a < key b) := ⟨lt_trans⟩
  rw [← List.isChain_iff_pairwise]
  rw [List.isChain_iff_forall_rel_of_append_cons_cons] at hchain hle ⊢
  intro a b front back heq
  have hmem : ∀ c ∈ [a, b], c ∈ l := fun c hc => hsub.subset (by rw [heq]; simp at hc ⊢; tauto)
  exact lt_of_le_of_ne (hle heq) fun hkey =>
    hchain heq (hdup a (hmem a (by simp)) b (hmem b (by simp)) hkey)

end KeyOrder
