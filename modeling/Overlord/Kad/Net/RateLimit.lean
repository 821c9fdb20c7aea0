import Overlord.Data.Rounding
import Overlord.Machine.Outputs

/-!
# The outbound budgets

`rate_limit.rs` of the network crate, and the two stages of `send_with_class`: a packet first takes
a token from the bucket of its work class and then one from the bucket that all packets share.  A
bucket is refilled by the time that has passed, up to what it holds; a task that gets no token
sleeps and tries again.

Tokens are `f64` in the source, so the model computes with a `Rounding`.  The numbers that occur are
sums of multiples of a nanosecond, which are far from what overflows or underflows.

The machine (`Senders`) counts the tasks that wait at each of the buckets.  A task can be dropped
while it waits, and what it has taken is lost then; the clock can go on by itself (`tick`).

`sends_bounded` — how many packets leave in any part of any run.  The shared bucket bounds them by
what it holds and what it is refilled with.  The bucket of a class does so only up to the packets
that had their class token already and were held up at the shared bucket: these can leave all at
once.
-/

set_option autoImplicit false

namespace Overlord.Kad.Net

open Machine

/-! ## One bucket -/

/-- What a bucket keeps; times are in nanoseconds. -/
structure RateState where
  tokens : ℚ
  lastRefill : Nat
deriving DecidableEq, Repr

namespace RateState

variable (r : Rounding) (maxPps : UInt32)

/-- `RateLimiter::new`. -/
def new (now : Nat) : RateState := ⟨maxPps.toNat, now⟩

/-- `Duration::as_secs_f64`. -/
def asSecsF64 (nanos : Nat) : ℚ :=
  r.fl (r.fl (nanos / 1000000000 : Nat) + r.fl ((nanos % 1000000000 : Nat) / 1000000000))

/-- The tokens after a refill. -/
def refill (s : RateState) (now : Nat) : ℚ :=
  let elapsed := asSecsF64 r (now - s.lastRefill)
  min (r.fl (s.tokens + r.fl (elapsed * maxPps.toNat))) maxPps.toNat

/-- `RateLimiter::try_acquire`. -/
def tryAcquire (s : RateState) (now : Nat) : Bool × RateState :=
  if maxPps = 0 then (true, s)
  else
    let tokens := s.refill r maxPps now
    if 1 ≤ tokens then (true, ⟨r.fl (tokens - 1), now⟩) else (false, ⟨tokens, now⟩)

/-- Tokens that come in a nanosecond, with what the rounding may add. -/
def rate : ℚ := (1 + r.unit) ^ 4 * maxPps.toNat / 1000000000

/-- What the rounding of a call may add besides. -/
def slack : ℚ := 3 * (r.unit * maxPps.toNat)

/-- What a bucket holds is not negative, and bounded. -/
structure Valid (s : RateState) : Prop where
  nonneg : 0 ≤ s.tokens
  -- a refill keeps to the maximum, but the subtraction after it is rounded again
  le_max : s.tokens ≤ 2 * maxPps.toNat

/-- What a bucket can give at a time. -/
def available (s : RateState) (now : Nat) : ℚ :=
  min maxPps.toNat (s.tokens + rate r maxPps * ((now - s.lastRefill : Nat) : ℚ))

theorem valid_new (now : Nat) : (new maxPps now).Valid maxPps where
  nonneg := Nat.cast_nonneg _
  le_max := le_mul_of_one_le_left (Nat.cast_nonneg _) one_le_two

theorem rate_nonneg : 0 ≤ rate r maxPps := by
  have hunit := r.unit_nonneg
  unfold rate
  positivity

theorem slack_nonneg : 0 ≤ slack r maxPps := by
  have hunit := r.unit_nonneg
  unfold slack
  positivity

theorem asSecsF64_nonneg (nanos : Nat) : 0 ≤ asSecsF64 r nanos :=
  r.fl_nonneg (add_nonneg (r.fl_nonneg (Nat.cast_nonneg _)) (r.fl_nonneg (by positivity)))

theorem asSecsF64_le (nanos : Nat) :
    asSecsF64 r nanos ≤ (1 + r.unit) ^ 2 * (nanos / 1000000000) := by
  have hsecs : (0 : ℚ) ≤ (nanos / 1000000000 : Nat) := Nat.cast_nonneg _
  have hsub : (0 : ℚ) ≤ (nanos % 1000000000 : Nat) / 1000000000 := by positivity
  have hsum : ((nanos / 1000000000 : Nat) : ℚ) + (nanos % 1000000000 : Nat) / 1000000000 =
      nanos / 1000000000 := by
    have hdiv : ((1000000000 * (nanos / 1000000000) + nanos % 1000000000 : Nat) : ℚ) = nanos := by
      rw [Nat.div_add_mod]
    push_cast at hdiv
    linarith
  have hexact : r.fl (nanos / 1000000000 : Nat) + r.fl ((nanos % 1000000000 : Nat) / 1000000000) ≤
      (1 + r.unit) * (nanos / 1000000000) := by
    rw [← hsum, mul_add]
    exact add_le_add (r.fl_le hsecs) (r.fl_le hsub)
  have hrounded := r.fl_le_of_le (add_nonneg (r.fl_nonneg hsecs) (r.fl_nonneg hsub)) hexact
  rwa [← mul_assoc, ← sq] at hrounded

variable {s : RateState}

theorem refill_le_max (now : Nat) : s.refill r maxPps now ≤ maxPps.toNat := min_le_right _ _

variable {maxPps}

theorem refill_nonneg (hs : s.Valid maxPps) (now : Nat) : 0 ≤ s.refill r maxPps now := by
  have hpps : (0 : ℚ) ≤ maxPps.toNat := Nat.cast_nonneg _
  have hgain := r.fl_nonneg (mul_nonneg (asSecsF64_nonneg r (now - s.lastRefill)) hpps)
  exact le_min (r.fl_nonneg (add_nonneg hs.nonneg hgain)) hpps

/-- **A refill adds what the time gives**, and what the rounding may add. -/
theorem refill_le (hs : s.Valid maxPps) (now : Nat) :
    s.refill r maxPps now ≤ s.available r maxPps now + 2 * (r.unit * maxPps.toNat) := by
  have hunit := r.unit_nonneg
  have hpps : (0 : ℚ) ≤ maxPps.toNat := Nat.cast_nonneg _
  have hseconds := asSecsF64_nonneg r (now - s.lastRefill)
  have hproduct : r.fl (asSecsF64 r (now - s.lastRefill) * maxPps.toNat) ≤
      (1 + r.unit) * ((1 + r.unit) ^ 2 * ((now - s.lastRefill : Nat) / 1000000000) *
        maxPps.toNat) :=
    r.fl_le_of_le (mul_nonneg hseconds hpps) (mul_le_mul_of_nonneg_right (asSecsF64_le r _) hpps)
  have hsum : r.fl (s.tokens + r.fl (asSecsF64 r (now - s.lastRefill) * maxPps.toNat)) ≤
      (1 + r.unit) * (s.tokens + (1 + r.unit) * ((1 + r.unit) ^ 2 *
        ((now - s.lastRefill : Nat) / 1000000000) * maxPps.toNat)) :=
    r.fl_le_of_le (add_nonneg hs.nonneg (r.fl_nonneg (mul_nonneg hseconds hpps)))
      (add_le_add_right hproduct _)
  have htokens : r.unit * s.tokens ≤ r.unit * (2 * maxPps.toNat) :=
    mul_le_mul_of_nonneg_left hs.le_max hunit
  have hgain : (1 + r.unit) * (s.tokens + (1 + r.unit) * ((1 + r.unit) ^ 2 *
      ((now - s.lastRefill : Nat) / 1000000000) * maxPps.toNat)) =
      s.tokens + rate r maxPps * ((now - s.lastRefill : Nat) : ℚ) + r.unit * s.tokens := by
    rw [rate]
    ring
  rw [refill, available, min_add, le_min_iff]
  constructor
  · exact (min_le_right _ _).trans (le_add_of_nonneg_right (by positivity))
  · refine (min_le_left _ _).trans ?_
    rw [hgain] at hsum
    linarith

variable {r} {now : Nat} {granted : Bool} {s' : RateState}

/-- **A call pays for the token it gives.** -/
theorem tryAcquire_spec (hpps : maxPps ≠ 0) (hs : s.Valid maxPps)
    (h : s.tryAcquire r maxPps now = (granted, s')) :
    s'.Valid maxPps ∧ s'.lastRefill = now ∧
    s'.tokens + (if granted then 1 else 0) ≤ s.available r maxPps now + slack r maxPps := by
  have hrefill := refill_le r hs now
  have hnonneg := refill_nonneg r hs now
  have hmax : s.refill r maxPps now ≤ maxPps.toNat := refill_le_max r maxPps now
  have hpps' : (0 : ℚ) ≤ maxPps.toNat := Nat.cast_nonneg _
  have hunit := mul_nonneg r.unit_nonneg hpps'
  simp only [tryAcquire, hpps, if_false] at h
  by_cases hone : 1 ≤ s.refill r maxPps now
  · rw [if_pos hone] at h
    obtain ⟨rfl, rfl⟩ := Prod.mk.inj h
    have hsub : 0 ≤ s.refill r maxPps now - 1 := by linarith
    have hfl := r.fl_le hsub
    have hround : r.unit * (s.refill r maxPps now - 1) ≤ r.unit * maxPps.toNat :=
      mul_le_mul_of_nonneg_left (by linarith) r.unit_nonneg
    have hhalf : r.unit * (s.refill r maxPps now - 1) ≤ s.refill r maxPps now - 1 :=
      mul_le_of_le_one_left hsub r.unit_le_one
    refine ⟨⟨r.fl_nonneg hsub, ?_⟩, rfl, ?_⟩
    · dsimp only
      linarith
    · rw [slack, if_pos rfl]
      linarith
  · rw [if_neg hone] at h
    obtain ⟨rfl, rfl⟩ := Prod.mk.inj h
    refine ⟨⟨hnonneg, ?_⟩, rfl, ?_⟩
    · dsimp only
      linarith
    · rw [slack, if_neg Bool.false_ne_true]
      linarith

theorem valid_tryAcquire (hs : s.Valid maxPps) (h : s.tryAcquire r maxPps now = (granted, s')) :
    s'.Valid maxPps := by
  by_cases hpps : maxPps = 0
  · simp only [tryAcquire, hpps, if_true] at h
    exact (Prod.mk.inj h).2 ▸ hs
  · exact (tryAcquire_spec hpps hs h).1

/-! ### What has been paid for -/

variable (r maxPps)

/-- What a bucket can give, less what the time so far has given. -/
def level (s : RateState) (now : Nat) : ℚ := s.available r maxPps now - rate r maxPps * now

variable {r maxPps}

/-- Time alone does not raise the level. -/
theorem level_anti (s : RateState) {now now' : Nat} (h : now ≤ now') :
    s.level r maxPps now' ≤ s.level r maxPps now := by
  have hrate := rate_nonneg r maxPps
  have hpassed : (0 : ℚ) ≤ now' - now := sub_nonneg.mpr (Nat.cast_le.mpr h)
  have hcast : ((now' - s.lastRefill : Nat) : ℚ) ≤ (now - s.lastRefill : Nat) + (now' - now) := by
    have hnat : now' - s.lastRefill ≤ now - s.lastRefill + (now' - now) := by omega
    have hle : ((now' - s.lastRefill : Nat) : ℚ) ≤ (now - s.lastRefill + (now' - now) : Nat) :=
      Nat.cast_le.mpr hnat
    rwa [Nat.cast_add, Nat.cast_sub h] at hle
  have hgain := mul_le_mul_of_nonneg_left hcast hrate
  have havailable : s.available r maxPps now' ≤
      s.available r maxPps now + rate r maxPps * (now' - now) := by
    rw [available, available, min_add, le_min_iff]
    constructor
    · exact (min_le_left _ _).trans (le_add_of_nonneg_right (mul_nonneg hrate hpassed))
    · refine (min_le_right _ _).trans ?_
      rw [mul_add] at hgain
      linarith
  rw [level, level]
  linarith

/-- A call lowers the level by what it gives. -/
theorem level_tryAcquire (hpps : maxPps ≠ 0) (hs : s.Valid maxPps) {clock : Nat}
    (hclock : clock ≤ now) (h : s.tryAcquire r maxPps now = (granted, s')) :
    s'.level r maxPps now + (if granted then 1 else 0) ≤
      s.level r maxPps clock + slack r maxPps := by
  obtain ⟨-, hlast, hpays⟩ := tryAcquire_spec hpps hs h
  have hanti : s.level r maxPps now ≤ s.level r maxPps clock := s.level_anti hclock
  have hlevel : s'.available r maxPps now ≤ s'.tokens := by
    refine (min_le_right _ _).trans ?_
    rw [hlast, Nat.sub_self, Nat.cast_zero, mul_zero, add_zero]
  rw [level] at hanti ⊢
  linarith

/-- What a limited bucket has given between two times, when its level has gone from one to the
other. -/
theorem le_of_level_le {s s' : RateState} (hs' : s'.Valid maxPps) {now now' : Nat} {given : ℚ}
    (h : s'.level r maxPps now' + given ≤ s.level r maxPps now) :
    given ≤ maxPps.toNat + rate r maxPps * (now' - now) := by
  have hmax : s.available r maxPps now ≤ maxPps.toNat := min_le_left _ _
  have hnonneg : 0 ≤ s'.available r maxPps now' :=
    le_min (Nat.cast_nonneg _)
      (add_nonneg hs'.nonneg (mul_nonneg (rate_nonneg r maxPps) (Nat.cast_nonneg _)))
  rw [level, level] at h
  linarith

end RateState

/-! ## The senders -/

/-- `RpcWorkClass`. -/
inductive RpcWorkClass where
  | interactive
  | harvest
  | maintenance
  | publish
deriving DecidableEq, Repr

/-- The rates, in packets per second; zero means unlimited. -/
structure OutboundLimits where
  maxOutboundPps : UInt32
  maxOutboundPpsFor : RpcWorkClass → UInt32

/-- The buckets and the tasks that wait at them. -/
structure Senders where
  clock : Nat
  classRateLimiter : RpcWorkClass → RateState
  globalRateLimiter : RateState
  /-- Tasks that wait for a token of their class. -/
  waitingClass : RpcWorkClass → Nat
  /-- Tasks that have it and wait for a shared one. -/
  waitingGlobal : RpcWorkClass → Nat
  /-- Packets that were let through. -/
  sent : RpcWorkClass → Nat

/-- What happens to a task of a class. -/
inductive SenderEvent where
  /-- `send_with_class` is called. -/
  | call (workClass : RpcWorkClass)
  /-- A task tries for a token of its class. -/
  | tryClass (workClass : RpcWorkClass)
  /-- A task tries for a shared token. -/
  | tryGlobal (workClass : RpcWorkClass)
  /-- A task is dropped while it waits. -/
  | dropClass (workClass : RpcWorkClass)
  | dropGlobal (workClass : RpcWorkClass)
  /-- Time passes. -/
  | tick
deriving DecidableEq, Repr

namespace Senders

open Function (update)

variable (r : Rounding) (limits : OutboundLimits)

/-- `RpcManager::new`, as far as the budgets go. -/
def new (now : Nat) : Senders where
  clock := now
  classRateLimiter := fun workClass => .new (limits.maxOutboundPpsFor workClass) now
  globalRateLimiter := .new limits.maxOutboundPps now
  waitingClass := fun _ => 0
  waitingGlobal := fun _ => 0
  sent := fun _ => 0

/-- One more of a class. -/
def add (count : RpcWorkClass → Nat) (c : RpcWorkClass) : RpcWorkClass → Nat :=
  update count c (count c + 1)

/-- One fewer of a class. -/
def sub (count : RpcWorkClass → Nat) (c : RpcWorkClass) : RpcWorkClass → Nat :=
  update count c (count c - 1)

/-- The senders after an event. -/
def next (s : Senders) (now : Nat) : SenderEvent → Option Senders
  | .call c => some { s with waitingClass := add s.waitingClass c }
  | .tryClass c =>
    if s.waitingClass c = 0 then none
    else
      let (granted, limiter) := (s.classRateLimiter c).tryAcquire r (limits.maxOutboundPpsFor c) now
      let s := { s with classRateLimiter := update s.classRateLimiter c limiter }
      if granted then
        some { s with
          waitingClass := sub s.waitingClass c
          waitingGlobal := add s.waitingGlobal c }
      else some s
  | .tryGlobal c =>
    if s.waitingGlobal c = 0 then none
    else
      let (granted, limiter) := s.globalRateLimiter.tryAcquire r limits.maxOutboundPps now
      let s := { s with globalRateLimiter := limiter }
      if granted then
        some { s with waitingGlobal := sub s.waitingGlobal c, sent := add s.sent c }
      else some s
  | .dropClass c =>
    if s.waitingClass c = 0 then none else some { s with waitingClass := sub s.waitingClass c }
  | .dropGlobal c =>
    if s.waitingGlobal c = 0 then none else some { s with waitingGlobal := sub s.waitingGlobal c }
  | .tick => some s

/-- One event, at a time that is not in the past. -/
def step (s : Senders) (event : Nat × SenderEvent) : Option Senders :=
  if s.clock ≤ event.1 then
    (s.next r limits event.1 event.2).map fun s' => { s' with clock := event.1 }
  else none

/-- All packets that were let through. -/
def sentTotal (s : Senders) : Nat :=
  s.sent .interactive + s.sent .harvest + s.sent .maintenance + s.sent .publish

variable {r limits} {s s' : Senders}

/-- What an event does to the buckets and to those that are past the first. -/
inductive Effect (r : Rounding) (limits : OutboundLimits) (s s' : Senders) (now : Nat) : Prop where
  | idle (hclass : s'.classRateLimiter = s.classRateLimiter)
      (hglobal : s'.globalRateLimiter = s.globalRateLimiter) (hsent : s'.sent = s.sent)
      (hwaiting : ∀ c, s'.waitingGlobal c ≤ s.waitingGlobal c)
  | askedClass (c : RpcWorkClass) (granted : Bool) (limiter : RateState)
      (hacquire : (s.classRateLimiter c).tryAcquire r (limits.maxOutboundPpsFor c) now =
        (granted, limiter))
      (hclass : s'.classRateLimiter = update s.classRateLimiter c limiter)
      (hglobal : s'.globalRateLimiter = s.globalRateLimiter) (hsent : s'.sent = s.sent)
      (hwaiting : s'.waitingGlobal = if granted then add s.waitingGlobal c else s.waitingGlobal)
  | askedGlobal (c : RpcWorkClass) (granted : Bool) (hwaits : s.waitingGlobal c ≠ 0)
      (hacquire : s.globalRateLimiter.tryAcquire r limits.maxOutboundPps now =
        (granted, s'.globalRateLimiter))
      (hclass : s'.classRateLimiter = s.classRateLimiter)
      (hsent : s'.sent = if granted then add s.sent c else s.sent)
      (hwaiting : s'.waitingGlobal = if granted then sub s.waitingGlobal c else s.waitingGlobal)

theorem sub_le (count : RpcWorkClass → Nat) (c c' : RpcWorkClass) : sub count c c' ≤ count c' := by
  by_cases hc : c' = c
  · subst hc
    simp [sub]
  · simp [sub, Function.update_of_ne hc]

/-- **What an event can do.** -/
theorem effect_of_step {now : Nat} {event : SenderEvent}
    (hstep : step r limits s (now, event) = some s') :
    s.clock ≤ now ∧ s'.clock = now ∧ Effect r limits s s' now := by
  by_cases hclock : s.clock ≤ now
  case neg => simp [step, hclock] at hstep
  rw [step, if_pos hclock] at hstep
  obtain ⟨s₁, hnext, rfl⟩ := Option.map_eq_some_iff.mp hstep
  refine ⟨hclock, rfl, ?_⟩
  cases event with
  | call c =>
    obtain rfl := Option.some.inj hnext
    exact .idle rfl rfl rfl fun _ => Nat.le_refl _
  | tick =>
    obtain rfl := Option.some.inj hnext
    exact .idle rfl rfl rfl fun _ => Nat.le_refl _
  | dropClass c =>
    simp only [next] at hnext
    split_ifs at hnext
    obtain rfl := Option.some.inj hnext
    exact .idle rfl rfl rfl fun _ => Nat.le_refl _
  | dropGlobal c =>
    simp only [next] at hnext
    split_ifs at hnext
    obtain rfl := Option.some.inj hnext
    exact .idle rfl rfl rfl (sub_le s.waitingGlobal c)
  | tryClass c =>
    simp only [next] at hnext
    split_ifs at hnext with hwaits hgranted
    · obtain rfl := Option.some.inj hnext
      exact .askedClass c true _ (Prod.ext hgranted rfl) rfl rfl rfl rfl
    · obtain rfl := Option.some.inj hnext
      exact .askedClass c false _ (Prod.ext (Bool.eq_false_iff.mpr hgranted) rfl) rfl rfl rfl rfl
  | tryGlobal c =>
    simp only [next] at hnext
    split_ifs at hnext with hwaits hgranted
    · obtain rfl := Option.some.inj hnext
      exact .askedGlobal c true hwaits (Prod.ext hgranted rfl) rfl rfl rfl
    · obtain rfl := Option.some.inj hnext
      exact .askedGlobal c false hwaits (Prod.ext (Bool.eq_false_iff.mpr hgranted) rfl) rfl rfl rfl

/-- The buckets are within their bounds. -/
structure Valid (limits : OutboundLimits) (s : Senders) : Prop where
  classes : ∀ c, (s.classRateLimiter c).Valid (limits.maxOutboundPpsFor c)
  global : s.globalRateLimiter.Valid limits.maxOutboundPps

theorem valid_new (now : Nat) : (new limits now).Valid limits :=
  ⟨fun _ => RateState.valid_new _ now, RateState.valid_new _ now⟩

theorem valid_step {event : Nat × SenderEvent} (hs : s.Valid limits)
    (hstep : step r limits s event = some s') : s'.Valid limits := by
  obtain ⟨-, -, heffect⟩ := effect_of_step hstep
  cases heffect with
  | idle hclass hglobal => exact ⟨hclass ▸ hs.classes, hglobal ▸ hs.global⟩
  | askedClass c granted limiter hacquire hclass hglobal =>
    refine ⟨fun c' => ?_, hglobal ▸ hs.global⟩
    rw [hclass]
    by_cases hc : c' = c
    · subst hc
      rw [Function.update_self]
      exact RateState.valid_tryAcquire (hs.classes c') hacquire
    · rw [Function.update_of_ne hc]
      exact hs.classes c'
  | askedGlobal c granted hwaits hacquire hclass =>
    exact ⟨hclass ▸ hs.classes, RateState.valid_tryAcquire hs.global hacquire⟩

/-! ## What leaves -/

/-- The packets that were let through, and what the shared bucket can still give. -/
def globalLevel (r : Rounding) (limits : OutboundLimits) (s : Senders) : ℚ :=
  s.globalRateLimiter.level r limits.maxOutboundPps s.clock + s.sentTotal

/-- The packets of a class that have their class token, and what the bucket can still give. -/
def classLevel (r : Rounding) (limits : OutboundLimits) (c : RpcWorkClass) (s : Senders) : ℚ :=
  (s.classRateLimiter c).level r (limits.maxOutboundPpsFor c) s.clock +
    (s.sent c + s.waitingGlobal c : Nat)

theorem sentTotal_add {s s' : Senders} {c : RpcWorkClass} (h : s'.sent = add s.sent c) :
    s'.sentTotal = s.sentTotal + 1 := by
  rw [sentTotal, sentTotal, h]
  cases c <;> simp [add] <;> omega

theorem globalLevel_step {event : Nat × SenderEvent} (hpps : limits.maxOutboundPps ≠ 0)
    (hs : s.Valid limits) (hstep : step r limits s event = some s') :
    s'.globalLevel r limits ≤ s.globalLevel r limits + RateState.slack r limits.maxOutboundPps := by
  obtain ⟨hclock, hclock', heffect⟩ := effect_of_step hstep
  have hslack := RateState.slack_nonneg r limits.maxOutboundPps
  have hanti : s.globalRateLimiter.level r limits.maxOutboundPps event.1 ≤
      s.globalRateLimiter.level r limits.maxOutboundPps s.clock := RateState.level_anti _ hclock
  rw [globalLevel, globalLevel, hclock']
  cases heffect with
  | idle hclass hglobal hsent =>
    rw [hglobal, sentTotal, sentTotal, hsent]
    linarith
  | askedClass c granted limiter hacquire hclass hglobal hsent =>
    rw [hglobal, sentTotal, sentTotal, hsent]
    linarith
  | askedGlobal c granted hwaits hacquire hclass hsent =>
    have hpays := RateState.level_tryAcquire hpps hs.global hclock hacquire
    cases granted with
    | true =>
      rw [sentTotal_add hsent, Nat.cast_succ]
      rw [if_pos rfl] at hpays
      linarith
    | false =>
      rw [if_neg Bool.false_ne_true] at hpays hsent
      rw [sentTotal, sentTotal, hsent]
      linarith

theorem classLevel_step {c : RpcWorkClass} {event : Nat × SenderEvent}
    (hpps : limits.maxOutboundPpsFor c ≠ 0) (hs : s.Valid limits)
    (hstep : step r limits s event = some s') :
    s'.classLevel r limits c ≤
      s.classLevel r limits c + RateState.slack r (limits.maxOutboundPpsFor c) := by
  obtain ⟨hclock, hclock', heffect⟩ := effect_of_step hstep
  have hslack := RateState.slack_nonneg r (limits.maxOutboundPpsFor c)
  have hanti : (s.classRateLimiter c).level r (limits.maxOutboundPpsFor c) event.1 ≤
      (s.classRateLimiter c).level r (limits.maxOutboundPpsFor c) s.clock :=
    RateState.level_anti _ hclock
  -- an event that leaves the bucket alone must not add to those that are past it
  have hidle : s'.classRateLimiter c = s.classRateLimiter c →
      s'.sent c + s'.waitingGlobal c ≤ s.sent c + s.waitingGlobal c →
      s'.classLevel r limits c ≤
        s.classLevel r limits c + RateState.slack r (limits.maxOutboundPpsFor c) := by
    intro hbucket hpast
    have hpast' : ((s'.sent c + s'.waitingGlobal c : Nat) : ℚ) ≤
        (s.sent c + s.waitingGlobal c : Nat) := Nat.cast_le.mpr hpast
    rw [classLevel, classLevel, hclock', hbucket]
    linarith
  cases heffect with
  | idle hclass hglobal hsent hwaiting =>
    exact hidle (by rw [hclass]) (by rw [hsent]; exact Nat.add_le_add_left (hwaiting c) _)
  | askedClass c' granted limiter hacquire hclass hglobal hsent hwaiting =>
    by_cases hc : c = c'
    · subst hc
      have hpays := RateState.level_tryAcquire hpps (hs.classes c) hclock hacquire
      rw [classLevel, classLevel, hclock', hclass, hsent, Function.update_self]
      cases granted with
      | true =>
        rw [if_pos rfl] at hpays hwaiting
        rw [hwaiting, add, Function.update_self, ← Nat.add_assoc, Nat.cast_succ]
        linarith
      | false =>
        rw [if_neg Bool.false_ne_true] at hpays hwaiting
        rw [hwaiting]
        linarith
    · refine hidle (by rw [hclass, Function.update_of_ne hc]) ?_
      rw [hsent, hwaiting]
      cases granted with
      | true => simp [add, Function.update_of_ne hc]
      | false => simp
  | askedGlobal c' granted hwaits hacquire hclass hsent hwaiting =>
    refine hidle (by rw [hclass]) ?_
    rw [hsent, hwaiting]
    cases granted with
    | true =>
      by_cases hc : c = c'
      · subst hc
        simp only [if_true, add, sub, Function.update_self]
        omega
      · simp [add, sub, Function.update_of_ne hc]
    | false => simp

theorem valid_of_run {start : Nat} {events : List (Nat × SenderEvent)}
    (hrun : run (step r limits) (new limits start) events = some s) : s.Valid limits :=
  run_invariant (fun _ _ _ => valid_step) (valid_new start) hrun

/-- **How many packets leave**, in any part of any run of any number of tasks.  A limited shared
bucket lets through what it holds and what it is refilled with; a limited bucket of a class does so
for its class, besides the packets that waited at the shared bucket already. -/
theorem sends_bounded (r : Rounding) (limits : OutboundLimits) (start : Nat)
    (before events : List (Nat × SenderEvent)) (s₁ s₂ : Senders)
    (h₁ : run (step r limits) (new limits start) before = some s₁)
    (h₂ : run (step r limits) s₁ events = some s₂) :
    (limits.maxOutboundPps ≠ 0 →
      (s₂.sentTotal - s₁.sentTotal : ℚ) ≤ limits.maxOutboundPps.toNat +
        RateState.rate r limits.maxOutboundPps * (s₂.clock - s₁.clock) +
        events.length * RateState.slack r limits.maxOutboundPps) ∧
    ∀ c, limits.maxOutboundPpsFor c ≠ 0 →
      (s₂.sent c - s₁.sent c : ℚ) ≤ s₁.waitingGlobal c + (limits.maxOutboundPpsFor c).toNat +
        RateState.rate r (limits.maxOutboundPpsFor c) * (s₂.clock - s₁.clock) +
        events.length * RateState.slack r (limits.maxOutboundPpsFor c) := by
  have hvalid₁ := valid_of_run h₁
  constructor
  · intro hpps
    obtain ⟨hvalid₂, hlevel⟩ := growth_le (I := Valid limits) (f := globalLevel r limits)
      (fun s event s' hs hstep => ⟨valid_step hs hstep, globalLevel_step hpps hs hstep⟩)
      hvalid₁ h₂
    rw [globalLevel, globalLevel, nsmul_eq_mul] at hlevel
    have hgiven := RateState.le_of_level_le (s := s₁.globalRateLimiter) hvalid₂.global
      (by linarith : s₂.globalRateLimiter.level r limits.maxOutboundPps s₂.clock +
        (s₂.sentTotal - s₁.sentTotal - events.length * RateState.slack r limits.maxOutboundPps) ≤
          s₁.globalRateLimiter.level r limits.maxOutboundPps s₁.clock)
    linarith
  · intro c hpps
    obtain ⟨hvalid₂, hlevel⟩ := growth_le (I := Valid limits) (f := classLevel r limits c)
      (fun s event s' hs hstep => ⟨valid_step hs hstep, classLevel_step hpps hs hstep⟩)
      hvalid₁ h₂
    rw [classLevel, classLevel, nsmul_eq_mul, Nat.cast_add, Nat.cast_add] at hlevel
    have hwaiting : (0 : ℚ) ≤ s₂.waitingGlobal c := Nat.cast_nonneg _
    have hgiven := RateState.le_of_level_le (s := s₁.classRateLimiter c) (hvalid₂.classes c)
      (by linarith : (s₂.classRateLimiter c).level r (limits.maxOutboundPpsFor c) s₂.clock +
        (s₂.sent c - s₁.sent c - s₁.waitingGlobal c -
          events.length * RateState.slack r (limits.maxOutboundPpsFor c)) ≤
          (s₁.classRateLimiter c).level r (limits.maxOutboundPpsFor c) s₁.clock)
    linarith

/-- One packet a second for everybody, two for each class. -/
def sampleLimits : OutboundLimits := ⟨1, fun _ => 2⟩

/-- Two packets of a class get their class tokens at once, and the second waits. -/
def sampleBefore : List (Nat × SenderEvent) :=
  [(0, .call .publish), (0, .call .publish), (0, .tryClass .publish), (0, .tryClass .publish),
    (0, .tryGlobal .publish)]

theorem sends_bounded_sample :
    let step := step .exact sampleLimits
    ∃ s₁ s₂, run step (new sampleLimits 0) sampleBefore = some s₁ ∧
      run step s₁ [(0, .tryGlobal .publish), (1000000000, .tryGlobal .publish)] = some s₂ ∧
      s₁.sentTotal = 1 ∧ s₁.waitingGlobal .publish = 1 ∧ s₂.sentTotal = 2 ∧
      (s₂.sentTotal - s₁.sentTotal : ℚ) ≤
        1 + RateState.rate .exact 1 * (s₂.clock - s₁.clock) + 2 * RateState.slack .exact 1 := by
  intro step
  have hbefore : (run step (new sampleLimits 0) sampleBefore).map
      (fun s => (s.sentTotal, s.waitingGlobal .publish)) = some (1, 1) := by
    decide +kernel
  obtain ⟨s₁, h₁, hcounts₁⟩ := Option.map_eq_some_iff.mp hbefore
  have hafter : ((run step (new sampleLimits 0) sampleBefore).bind fun s =>
      run step s [(0, .tryGlobal .publish), (1000000000, .tryGlobal .publish)]).map sentTotal =
        some 2 := by
    decide +kernel
  rw [h₁, Option.bind_some] at hafter
  obtain ⟨s₂, h₂, hcount₂⟩ := Option.map_eq_some_iff.mp hafter
  obtain ⟨hsent₁, hwaiting₁⟩ := Prod.mk.inj hcounts₁
  exact ⟨s₁, s₂, h₁, h₂, hsent₁, hwaiting₁, hcount₂,
    (sends_bounded .exact sampleLimits 0 sampleBefore _ s₁ s₂ h₁ h₂).1 (by decide)⟩

end Senders

end Overlord.Kad.Net
