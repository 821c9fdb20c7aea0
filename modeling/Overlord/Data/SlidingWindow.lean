import Mathlib

/-!
# A budget over a sliding window

A limiter keeps the times of the events it let through in a queue.  At a call it drops those from
the front of the queue that have left the window, and lets the event through if few enough are left.

* `prune` is the dropping.
* `Kept` relates the queue to the log of all events: what is not in the queue any more has left
  the window for good, because the calls come in the order of their times.
* `Within` is the budget, over every position of the window.  It is kept by every event that is let
  through (`Within.snoc`).
-/

set_option autoImplicit false

namespace SlidingWindow

variable {T : Type} [LinearOrder T] [Add T]

/-- Drop the times before the cutoff from the front of the queue. -/
def prune (cutoff : T) (queue : List T) : List T := queue.dropWhile (· < cutoff)

/-- **The queue and the log.**  What the queue does not have of the log left the window before the
clock. -/
def Kept (width : T) (log queue : List T) (clock : T) : Prop :=
  ∃ old, log = old ++ queue ∧ ∀ t ∈ old, t + width < clock

/-- Every window of the width has at most so many events. -/
def Within (width : T) (limit : Nat) (log : List T) : Prop :=
  ∀ start, log.countP (fun t => start ≤ t ∧ t ≤ start + width) ≤ limit

variable {width clock now : T} {log queue : List T} {limit : Nat}

theorem Kept.nil : Kept width [] [] clock := ⟨[], rfl, fun _ h => absurd h List.not_mem_nil⟩

theorem Within.nil : Within width limit [] := fun _ => Nat.zero_le _

theorem Kept.mono (h : Kept width log queue clock) (hnow : clock ≤ now) :
    Kept width log queue now := by
  obtain ⟨old, hlog, hold⟩ := h
  exact ⟨old, hlog, fun t ht => (hold t ht).trans_le hnow⟩

/-- What is dropped at the clock has left the window. -/
theorem Kept.prune (h : Kept width log queue clock) {cutoff : T}
    (hcutoff : ∀ t, t < cutoff → t + width < clock) :
    Kept width log (prune cutoff queue) clock := by
  obtain ⟨old, hlog, hold⟩ := h
  refine ⟨old ++ queue.takeWhile (· < cutoff), ?_, fun t ht => ?_⟩
  · rw [hlog, List.append_assoc, SlidingWindow.prune, List.takeWhile_append_dropWhile]
  · rcases List.mem_append.mp ht with ht | ht
    · exact hold t ht
    · exact hcutoff t (by simpa using List.mem_takeWhile_imp ht)

theorem Kept.snoc (h : Kept width log queue clock) (t : T) :
    Kept width (log ++ [t]) (queue ++ [t]) clock := by
  obtain ⟨old, hlog, hold⟩ := h
  exact ⟨old, by rw [hlog, List.append_assoc], hold⟩

/-- **An event that is let through keeps the budget.**  A window with the event in it has nothing
in it that the queue does not have. -/
theorem Within.snoc [AddRightMono T] (h : Within width limit log)
    (hkept : Kept width log queue clock) (hfew : queue.length < limit) :
    Within width limit (log ++ [clock]) := by
  intro start
  rw [List.countP_append, List.countP_singleton]
  split_ifs with hin
  · obtain ⟨old, hlog, hold⟩ := hkept
    have hend : clock ≤ start + width := (of_decide_eq_true hin).2
    have hzero : old.countP (fun t => start ≤ t ∧ t ≤ start + width) = 0 := by
      refine List.countP_eq_zero.mpr fun t ht hmem => ?_
      have hstart : start + width ≤ t + width := add_le_add_left (of_decide_eq_true hmem).1 width
      exact ((hend.trans hstart).trans_lt (hold t ht)).false
    have hle := List.countP_le_length (p := fun t => start ≤ t ∧ t ≤ start + width) (l := queue)
    rw [hlog, List.countP_append, hzero]
    omega
  · exact h start

end SlidingWindow
