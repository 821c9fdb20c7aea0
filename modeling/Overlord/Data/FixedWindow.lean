import Mathlib

/-!
# Counting in fixed windows

Events are listed in the order of their times.  Some of them open a window, and two that do are at
least a window's width apart.  If no stretch within one window has more than `m` events of a kind,
then no half-open interval that is at most as wide as a window has more than `2 * m` of them: it
touches at most two windows (`countP_interval_le`).
-/

set_option autoImplicit false

namespace FixedWindow

variable {α : Type} {time : α → Nat} {l : List α}

/-! ## Intervals of a sorted list -/

theorem prefix_filter_lt (hsorted : l.Pairwise fun x y => time x ≤ time y) (b : Nat) :
    (l.filter fun x => time x < b) <+: l := by
  induction l with
  | nil => exact List.prefix_refl []
  | cons x l ih =>
    obtain ⟨hx, hl⟩ := List.pairwise_cons.mp hsorted
    by_cases hlt : time x < b
    · rw [List.filter_cons_of_pos (by simpa using hlt)]
      exact List.cons_prefix_cons.mpr ⟨rfl, ih hl⟩
    · have hnone : (x :: l).filter (fun y => time y < b) = [] := by
        rw [List.filter_eq_nil_iff]
        intro y hy
        have hle : time x ≤ time y := by
          rcases List.mem_cons.mp hy with rfl | hy
          · exact Nat.le_refl _
          · exact hx y hy
        rw [decide_eq_true_iff]
        omega
      rw [hnone]
      exact List.nil_prefix

/-- The events in an interval are a stretch of the list. -/
theorem filter_interval_infix (hsorted : l.Pairwise fun x y => time x ≤ time y) (a b : Nat) :
    (l.filter fun x => a ≤ time x ∧ time x < b) <:+: l := by
  induction l with
  | nil => exact List.infix_refl []
  | cons x l ih =>
    obtain ⟨hx, hl⟩ := List.pairwise_cons.mp hsorted
    by_cases ha : a ≤ time x
    · have hfilter : (x :: l).filter (fun y => a ≤ time y ∧ time y < b) =
          (x :: l).filter fun y => time y < b := by
        refine List.filter_congr fun y hy => ?_
        have hle : a ≤ time y := by
          rcases List.mem_cons.mp hy with rfl | hy
          · exact ha
          · exact ha.trans (hx y hy)
        simp [hle]
      rw [hfilter]
      exact (prefix_filter_lt hsorted b).isInfix
    · rw [List.filter_cons_of_neg (by simp [ha])]
      exact (ih hl).trans (List.suffix_cons x l).isInfix

/-! ## Windows -/

variable {opened allowed : α → Bool} {w m : Nat}

/-- A stretch in which all windows that open do so within a width is cut into two that lie in one
window each: before the first that opens, and from there on. -/
theorem countP_le_two_mul {part : List α}
    (hclose : part.Pairwise fun x y => ¬ (opened x = true ∧ opened y = true))
    (hwindow : ∀ stretch, stretch <:+: part → (∀ x ∈ stretch.tail, opened x = false) →
      stretch.countP allowed ≤ m) :
    part.countP allowed ≤ 2 * m := by
  have hsplit : (part.takeWhile fun x => !opened x) ++ (part.dropWhile fun x => !opened x) = part :=
    List.takeWhile_append_dropWhile
  have hfront : ∀ x ∈ part.takeWhile fun x => !opened x, opened x = false := fun x hx => by
    simpa using List.mem_takeWhile_imp hx
  have hback : ∀ x ∈ (part.dropWhile fun x => !opened x).tail, opened x = false := by
    intro x hx
    cases hcons : part.dropWhile fun x => !opened x with
    | nil => rw [hcons] at hx; cases hx
    | cons y rest =>
      have hy : opened y = true := by
        have hhead := List.head_dropWhile_not (fun x => !opened x)
          (hcons ▸ List.cons_ne_nil y rest : (part.dropWhile fun x => !opened x) ≠ [])
        simpa [hcons] using hhead
      have hpair := hclose.sublist (List.dropWhile_sublist fun x => !opened x)
      rw [hcons] at hx hpair
      exact Bool.eq_false_iff.mpr fun h => (List.pairwise_cons.mp hpair).1 x hx ⟨hy, h⟩
  have hfirst := hwindow _ (List.takeWhile_prefix _).isInfix fun x hx =>
    hfront x (List.mem_of_mem_tail hx)
  have hsecond := hwindow _ (List.dropWhile_suffix _).isInfix hback
  calc part.countP allowed
      = (part.takeWhile fun x => !opened x).countP allowed +
          (part.dropWhile fun x => !opened x).countP allowed := by
        rw [← List.countP_append, hsplit]
    _ ≤ 2 * m := by omega

/-- **An interval touches at most two windows.** -/
theorem countP_interval_le (hsorted : l.Pairwise fun x y => time x ≤ time y)
    (hspaced : l.Pairwise fun x y => opened x = true → opened y = true → time x + w ≤ time y)
    (hwindow : ∀ stretch, stretch <:+: l → (∀ x ∈ stretch.tail, opened x = false) →
      stretch.countP allowed ≤ m)
    (a : Nat) {width : Nat} (hwidth : width ≤ w) :
    (l.filter fun x => a ≤ time x ∧ time x < a + width).countP allowed ≤ 2 * m := by
  have hinfix := filter_interval_infix hsorted a (a + width)
  refine countP_le_two_mul ?_ fun stretch hstretch =>
    hwindow stretch (hstretch.trans hinfix)
  refine (hspaced.filter _).imp_of_mem fun {x y} hx hy hxy hboth => ?_
  have hx := of_decide_eq_true (List.mem_filter.mp hx).2
  have hy := of_decide_eq_true (List.mem_filter.mp hy).2
  have := hxy hboth.1 hboth.2
  omega

end FixedWindow
