import Mathlib

/-!
# Keeping the first of each key

A loop that keeps a set of the keys it has seen, and lets an item through when its key is new.
`firstSeen key seen l` is what comes through of `l` when the keys `seen` are there already.

* `nodup_firstSeen` — what comes through has distinct keys, and none of them was there already
  (`not_mem_seen_of_mem`).
* `firstSeen_append` — a list can be read in parts, with the keys of the earlier parts carried on.
-/

set_option autoImplicit false

namespace FirstSeen

variable {α κ : Type} [DecidableEq κ]

/-- What comes through. -/
def firstSeen (key : α → κ) (seen : List κ) : List α → List α
  | [] => []
  | a :: l => if key a ∈ seen then firstSeen key seen l else a :: firstSeen key (key a :: seen) l

variable {key : α → κ} {seen seen' : List κ} {a : α} {l l' : List α}

@[simp] theorem firstSeen_nil : firstSeen key seen [] = [] := rfl

theorem firstSeen_cons_of_mem (h : key a ∈ seen) :
    firstSeen key seen (a :: l) = firstSeen key seen l := if_pos h

theorem firstSeen_cons_of_not_mem (h : key a ∉ seen) :
    firstSeen key seen (a :: l) = a :: firstSeen key (key a :: seen) l := if_neg h

/-- Only the set of the keys matters. -/
theorem firstSeen_congr (h : ∀ k, k ∈ seen ↔ k ∈ seen') :
    firstSeen key seen l = firstSeen key seen' l := by
  induction l generalizing seen seen' with
  | nil => rfl
  | cons a l ih =>
    by_cases ha : key a ∈ seen
    · rw [firstSeen_cons_of_mem ha, firstSeen_cons_of_mem ((h _).mp ha), ih h]
    · have hcons : ∀ k, k ∈ key a :: seen ↔ k ∈ key a :: seen' := by simp [h]
      rw [firstSeen_cons_of_not_mem ha, firstSeen_cons_of_not_mem fun ha' => ha ((h _).mpr ha'),
        ih hcons]

theorem firstSeen_sublist : (firstSeen key seen l).Sublist l := by
  induction l generalizing seen with
  | nil => exact List.Sublist.slnil
  | cons a l ih =>
    by_cases ha : key a ∈ seen
    · rw [firstSeen_cons_of_mem ha]
      exact ih.cons a
    · rw [firstSeen_cons_of_not_mem ha]
      exact ih.cons_cons a

theorem not_mem_seen_of_mem (h : a ∈ firstSeen key seen l) : key a ∉ seen := by
  induction l generalizing seen with
  | nil => exact absurd h List.not_mem_nil
  | cons b l ih =>
    by_cases hb : key b ∈ seen
    · rw [firstSeen_cons_of_mem hb] at h
      exact ih h
    · rw [firstSeen_cons_of_not_mem hb] at h
      rcases List.mem_cons.mp h with rfl | h
      · exact hb
      · exact fun ha => ih h (List.mem_cons_of_mem _ ha)

/-- What comes through has distinct keys. -/
theorem nodup_firstSeen : ((firstSeen key seen l).map key).Nodup := by
  induction l generalizing seen with
  | nil => exact List.nodup_nil
  | cons a l ih =>
    by_cases ha : key a ∈ seen
    · rw [firstSeen_cons_of_mem ha]
      exact ih
    · rw [firstSeen_cons_of_not_mem ha, List.map_cons, List.nodup_cons]
      refine ⟨fun hmem => ?_, ih⟩
      obtain ⟨b, hb, hkey⟩ := List.mem_map.mp hmem
      exact not_mem_seen_of_mem hb (hkey ▸ List.mem_cons_self)

/-- **A list can be read in parts.** -/
theorem firstSeen_append : firstSeen key seen (l ++ l') =
    firstSeen key seen l ++ firstSeen key ((firstSeen key seen l).map key ++ seen) l' := by
  induction l generalizing seen with
  | nil => rfl
  | cons a l ih =>
    by_cases ha : key a ∈ seen
    · rw [List.cons_append, firstSeen_cons_of_mem ha, firstSeen_cons_of_mem ha, ih]
    · rw [List.cons_append, firstSeen_cons_of_not_mem ha, firstSeen_cons_of_not_mem ha, ih]
      refine congrArg (a :: _ ++ ·) (firstSeen_congr fun k => ?_)
      simp [or_left_comm]

/-- Reading a longer list lets the same through at first. -/
theorem firstSeen_mono (h : l <+: l') : firstSeen key seen l <+: firstSeen key seen l' := by
  obtain ⟨rest, rfl⟩ := h
  rw [firstSeen_append]
  exact List.prefix_append _ _

end FirstSeen
