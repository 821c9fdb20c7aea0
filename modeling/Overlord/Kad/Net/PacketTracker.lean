import Overlord.Data.FixedWindow
import Overlord.Machine.Run
import Overlord.Net.Addr

/-!
# The flood tracker

`PacketTracker` counts the requests of each address and opcode family in fixed windows.  A window
opens with the first packet and is replaced by a new one lazily, when a packet comes after it is
over.  `prune` only saves memory: it drops windows that are over for some time.

A run is a list of calls with the time each of them reads from the clock; `trace` lists what
`record_and_check` decides, with a note whether the call opened a window.

* `countP_stretch_le` — within one window at most `max_packets` are allowed; `pairwise_opened` — two
  windows of a key open at least a window's width apart.  Together they bound every interval
  (`FixedWindow.countP_interval_le`).
* `trace_eq_of_sameFrom` — the decisions only depend on what the windows are worth from now on, and
  pruning does not change that.

The counter of a window is a `u32` that is incremented without a check.  When a window has seen all
its `2 ^ 32` values it starts over, and packets are allowed again.
-/

set_option autoImplicit false

namespace Overlord.Kad.Net

open Machine

/-! ## Durations -/

/-- `Duration::MAX` in nanoseconds. -/
def DURATION_MAX : Nat := 2 ^ 64 * 10 ^ 9 - 1

/-- `Duration`. -/
structure Duration where
  nanos : Nat
  le_max : nanos ≤ DURATION_MAX
deriving DecidableEq, Repr

/-- `Duration::from_secs`. -/
def Duration.fromSecs (secs : UInt64) : Duration :=
  ⟨secs.toNat * 10 ^ 9, by have := secs.toNat_lt; unfold DURATION_MAX; omega⟩

/-- `Duration::saturating_mul`. -/
def Duration.saturatingMul (d : Duration) (k : Nat) : Duration :=
  ⟨min (d.nanos * k) DURATION_MAX, Nat.min_le_right _ _⟩

theorem Duration.le_saturatingMul_two (d : Duration) : d.nanos ≤ (d.saturatingMul 2).nanos :=
  Nat.le_min.mpr ⟨Nat.le_mul_of_pos_right d.nanos (by decide), d.le_max⟩

/-! ## State -/

inductive PacketTrackerBucket where
  | bootstrapReq
  | helloReq
  | findNodeReq
  | searchReq
  | publishKeyReq
  | publishSourceReq
  | publishNotesReq
  | firewalledReq
  | findBuddyReq
  | callbackReq
  | pingReq
  | searchRes
  | default
deriving DecidableEq, Repr

structure PacketTrackerKey where
  ip : IpAddr
  bucket : PacketTrackerBucket
deriving DecidableEq, Repr

structure PacketTrackerLimit where
  maxPackets : UInt32
  window : Duration
deriving DecidableEq, Repr

inductive PacketTrackerAction where
  | allow
  | drop
  | massiveDrop
deriving DecidableEq, Repr

structure PacketTrackerDecision where
  action : PacketTrackerAction
  allowed : Bool
  observedPackets : UInt32
  maxPackets : UInt32
  window : Duration
deriving DecidableEq, Repr

/-- The tracker.  A window is its packet count and its start. -/
structure PacketTracker where
  counts : PacketTrackerKey → Option (UInt32 × Nat)
  limits : PacketTrackerBucket → Option PacketTrackerLimit
  defaultLimit : PacketTrackerLimit

namespace PacketTracker

/-- `PacketTracker::new`. -/
def new (maxPerWindow searchResMaxPerWindow : UInt32) (window requestWindow : Duration) :
    PacketTracker where
  counts _ := none
  limits
    | .bootstrapReq => some ⟨2, requestWindow⟩
    | .helloReq => some ⟨3, requestWindow⟩
    | .findNodeReq => some ⟨10, requestWindow⟩
    | .searchReq => some ⟨3, requestWindow⟩
    | .publishKeyReq => some ⟨4, requestWindow⟩
    | .publishSourceReq => some ⟨3, requestWindow⟩
    | .publishNotesReq => some ⟨2, requestWindow⟩
    | .firewalledReq => some ⟨2, requestWindow⟩
    | .findBuddyReq => some ⟨2, requestWindow⟩
    | .callbackReq => some ⟨1, requestWindow⟩
    | .pingReq => some ⟨2, requestWindow⟩
    | .searchRes => some ⟨searchResMaxPerWindow, window⟩
    | .default => none
  defaultLimit := ⟨maxPerWindow, window⟩

/-- `limit_for_bucket`. -/
def limitForBucket (t : PacketTracker) (bucket : PacketTrackerBucket) : PacketTrackerLimit :=
  (t.limits bucket).getD t.defaultLimit

/-! ## Operations -/

/-- The window a packet is counted in: the stored one, or a new one if there is none or it is
over. -/
def current (t : PacketTracker) (key : PacketTrackerKey) (now : Nat) : UInt32 × Nat :=
  let entry := (t.counts key).getD (0, now)
  if (t.limitForBucket key.bucket).window.nanos ≤ now - entry.2 then (0, now) else entry

/-- `u32::saturating_mul(4)`. -/
def saturatingMulFour (n : UInt32) : UInt32 := UInt32.ofNat (min (n.toNat * 4) (2 ^ 32 - 1))

/-- The action for the packet with this number in its window. -/
def actionFor (count maxPackets : UInt32) : PacketTrackerAction :=
  if saturatingMulFour maxPackets < count then .massiveDrop
  else if maxPackets < count then .drop
  else .allow

/-- `record_and_check`. -/
def recordAndCheck (t : PacketTracker) (key : PacketTrackerKey) (now : Nat) :
    PacketTrackerDecision × PacketTracker :=
  let limit := t.limitForBucket key.bucket
  let (packets, start) := t.current key now
  let count := packets + 1
  let action := actionFor count limit.maxPackets
  (⟨action, action = .allow, count, limit.maxPackets, limit.window⟩,
    { t with counts := Function.update t.counts key (some (count, start)) })

/-- `prune`. -/
def prune (t : PacketTracker) (now : Nat) : PacketTracker :=
  { t with
    counts := fun key => (t.counts key).filter fun entry =>
      now - entry.2 < ((t.limitForBucket key.bucket).window.saturatingMul 2).nanos }

/-! ## Runs -/

/-- A call, with the time it reads from the clock. -/
inductive Call where
  | recordAndCheck (key : PacketTrackerKey) (now : Nat)
  | prune (now : Nat)
deriving DecidableEq, Repr

def Call.now : Call → Nat
  | .recordAndCheck _ now => now
  | .prune now => now

def Call.isPrune : Call → Bool
  | .recordAndCheck _ _ => false
  | .prune _ => true

/-- The clock does not go back. -/
def Clocked (calls : List Call) : Prop := calls.Pairwise fun c d => c.now ≤ d.now

instance (calls : List Call) : Decidable (Clocked calls) :=
  inferInstanceAs (Decidable (calls.Pairwise _))

/-- The tracker after a call. -/
def step (t : PacketTracker) : Call → Option PacketTracker
  | .recordAndCheck key now => some (t.recordAndCheck key now).2
  | .prune now => some (t.prune now)

/-- A packet that was checked, and whether it opened a window. -/
structure Checked where
  key : PacketTrackerKey
  now : Nat
  opened : Bool
  decision : PacketTrackerDecision
deriving DecidableEq, Repr

/-- A packet at this time opens a window: there is none, or it is over. -/
def opens (t : PacketTracker) (key : PacketTrackerKey) (now : Nat) : Bool :=
  match t.counts key with
  | none => true
  | some entry => (t.limitForBucket key.bucket).window.nanos ≤ now - entry.2

/-- What a run decides. -/
def trace (t : PacketTracker) : List Call → List Checked
  | [] => []
  | .recordAndCheck key now :: calls =>
    ⟨key, now, t.opens key now, (t.recordAndCheck key now).1⟩ ::
      (t.recordAndCheck key now).2.trace calls
  | .prune now :: calls => (t.prune now).trace calls

/-- The counter of the window is not at its end. -/
def CounterFree (t : PacketTracker) : Call → Prop
  | .recordAndCheck key now => (t.current key now).1.toNat + 1 < 2 ^ 32
  | .prune _ => True

instance (t : PacketTracker) : (call : Call) → Decidable (t.CounterFree call)
  | .recordAndCheck _ _ => inferInstanceAs (Decidable (_ < _))
  | .prune _ => inferInstanceAs (Decidable True)

/-! ## One call -/

variable {t : PacketTracker} {key : PacketTrackerKey} {now : Nat} {calls : List Call}

theorem current_of_opens (h : t.opens key now = true) : t.current key now = (0, now) := by
  rw [opens] at h
  rw [current]
  cases hentry : t.counts key with
  | none => simp
  | some entry =>
    rw [hentry] at h
    exact if_pos (of_decide_eq_true h)

theorem counts_of_not_opens (h : t.opens key now = false) :
    t.counts key = some (t.current key now) := by
  rw [opens] at h
  rw [current]
  cases hentry : t.counts key with
  | none => rw [hentry] at h; cases h
  | some entry =>
    rw [hentry] at h
    exact congrArg some (if_neg (of_decide_eq_false h)).symm

/-- A packet is counted in the window there is, or in one that starts now. -/
theorem start_current {entry : UInt32 × Nat} (hentry : t.counts key = some entry) :
    (t.current key now).2 = entry.2 ∨ (t.current key now).2 = now := by
  cases hopens : t.opens key now with
  | true => exact .inr (by rw [current_of_opens hopens])
  | false => exact .inl (by rw [Option.some.inj (hentry.symm.trans (counts_of_not_opens hopens))])

theorem counts_recordAndCheck_self :
    (t.recordAndCheck key now).2.counts key =
      some ((t.current key now).1 + 1, (t.current key now).2) :=
  Function.update_self ..

theorem counts_recordAndCheck_le {entry : UInt32 × Nat}
    (h : (t.recordAndCheck key now).2.counts key = some entry) :
    ((t.current key now).1 + 1).toNat ≤ entry.1.toNat := by
  rw [counts_recordAndCheck_self] at h
  rw [← Option.some.inj h]

theorem counts_recordAndCheck_of_ne {other : PacketTrackerKey} (h : key ≠ other) :
    (t.recordAndCheck other now).2.counts key = t.counts key :=
  Function.update_of_ne h ..

theorem counts_prune {entry : UInt32 × Nat} (h : (t.prune now).counts key = some entry) :
    t.counts key = some entry :=
  (Option.filter_eq_some_iff.mp h).1

theorem le_saturatingMulFour (n : UInt32) : n ≤ saturatingMulFour n := by
  have hlt := n.toNat_lt
  rw [UInt32.le_iff_toNat_le, saturatingMulFour, UInt32.toNat_ofNat']
  omega

theorem actionFor_eq_allow_iff {count limit : UInt32} :
    actionFor count limit = .allow ↔ count ≤ limit := by
  have hle := UInt32.le_iff_toNat_le.mp (le_saturatingMulFour limit)
  rw [actionFor, UInt32.le_iff_toNat_le]
  split_ifs with hmassive hdrop
  · rw [UInt32.lt_iff_toNat_lt] at hmassive
    exact iff_of_false (by simp) (by omega)
  · rw [UInt32.lt_iff_toNat_lt] at hdrop
    exact iff_of_false (by simp) (by omega)
  · rw [UInt32.lt_iff_toNat_lt] at hdrop
    exact iff_of_true rfl (by omega)

/-- A packet is allowed while its number in the window is within the budget. -/
theorem allowed_recordAndCheck :
    (t.recordAndCheck key now).1.allowed = true ↔
      (t.current key now).1 + 1 ≤ (t.limitForBucket key.bucket).maxPackets := by
  rw [← actionFor_eq_allow_iff]
  exact decide_eq_true_iff

/-! ## The packets of one key -/

/-- The packets of a key in a run. -/
def keyTrace (t : PacketTracker) (key : PacketTrackerKey) (calls : List Call) : List Checked :=
  (t.trace calls).filter fun c => c.key = key

theorem keyTrace_record_self :
    t.keyTrace key (.recordAndCheck key now :: calls) =
      ⟨key, now, t.opens key now, (t.recordAndCheck key now).1⟩ ::
        (t.recordAndCheck key now).2.keyTrace key calls := by
  rw [keyTrace, trace, List.filter_cons_of_pos (by simp)]
  rfl

theorem keyTrace_record_of_ne {other : PacketTrackerKey} (h : key ≠ other) :
    t.keyTrace key (.recordAndCheck other now :: calls) =
      (t.recordAndCheck other now).2.keyTrace key calls := by
  rw [keyTrace, trace, List.filter_cons_of_neg (by simpa using h.symm)]
  rfl

/-! ## Within a window -/

/-- The number of a packet in its window, when the counter is not at its end. -/
theorem toNat_count (hfree : t.CounterFree (.recordAndCheck key now)) :
    ((t.current key now).1 + 1).toNat = (t.current key now).1.toNat + 1 := by
  rw [UInt32.toNat_add]
  exact Nat.mod_eq_of_lt hfree

/-- One packet uses up one place of the budget. -/
theorem countP_cons_le {part : List Checked} {opened : Bool}
    (hfree : t.CounterFree (.recordAndCheck key now))
    (hlater : part.countP (·.decision.allowed) ≤
      (t.limitForBucket key.bucket).maxPackets.toNat - ((t.current key now).1 + 1).toNat) :
    (⟨key, now, opened, (t.recordAndCheck key now).1⟩ :: part).countP (·.decision.allowed) ≤
      (t.limitForBucket key.bucket).maxPackets.toNat - (t.current key now).1.toNat := by
  have hnat := toNat_count hfree
  rw [List.countP_cons]
  split_ifs with hallowed
  · rw [allowed_recordAndCheck, UInt32.le_iff_toNat_le] at hallowed
    omega
  · omega

/-- Up to the next window, no more packets are allowed than the budget has left. -/
theorem countP_prefix_le {c : Nat} {part : List Checked}
    (hfree : Meets step CounterFree t calls)
    (hcount : ∀ entry, t.counts key = some entry → c ≤ entry.1.toNat)
    (hpart : part <+: t.keyTrace key calls) (hclosed : ∀ x ∈ part, x.opened = false) :
    part.countP (·.decision.allowed) ≤ (t.limitForBucket key.bucket).maxPackets.toNat - c := by
  induction calls generalizing t c part with
  | nil =>
    obtain rfl : part = [] := List.prefix_nil.mp hpart
    exact Nat.zero_le _
  | cons call calls ih =>
    cases call with
    | prune time =>
      have hlater := ih (hfree _ rfl).2
        (fun entry hentry => hcount entry (counts_prune hentry)) hpart hclosed
      exact hlater
    | recordAndCheck other time =>
      obtain ⟨hcall, hrest⟩ := hfree _ rfl
      by_cases hkey : key = other
      · subst hkey
        rw [keyTrace_record_self] at hpart
        cases part with
        | nil => exact Nat.zero_le _
        | cons x part =>
          obtain ⟨rfl, htail⟩ := List.cons_prefix_cons.mp hpart
          have hle := hcount _ (counts_of_not_opens (hclosed _ List.mem_cons_self))
          have hlater := ih hrest (fun entry hentry => counts_recordAndCheck_le hentry) htail
            fun y hy => hclosed y (List.mem_cons_of_mem _ hy)
          exact (countP_cons_le hcall hlater).trans (Nat.sub_le_sub_left hle _)
      · rw [keyTrace_record_of_ne hkey] at hpart
        have hlater := ih hrest (fun entry hentry =>
          hcount entry (counts_recordAndCheck_of_ne hkey ▸ hentry)) hpart hclosed
        exact hlater

/-- **Within one window no more packets are allowed than its budget.** -/
theorem countP_stretch_le {part : List Checked} (hfree : Meets step CounterFree t calls)
    (hpart : part <:+: t.keyTrace key calls) (hclosed : ∀ x ∈ part.tail, x.opened = false) :
    part.countP (·.decision.allowed) ≤ (t.limitForBucket key.bucket).maxPackets.toNat := by
  induction calls generalizing t with
  | nil =>
    obtain rfl : part = [] := List.infix_nil.mp hpart
    exact Nat.zero_le _
  | cons call calls ih =>
    cases call with
    | prune time =>
      have hlater := ih (hfree _ rfl).2 hpart
      exact hlater
    | recordAndCheck other time =>
      obtain ⟨hcall, hrest⟩ := hfree _ rfl
      by_cases hkey : key = other
      · subst hkey
        rw [keyTrace_record_self] at hpart
        rcases List.infix_cons_iff.mp hpart with hpre | hin
        · cases part with
          | nil => exact Nat.zero_le _
          | cons x part =>
            obtain ⟨rfl, htail⟩ := List.cons_prefix_cons.mp hpre
            have hlater := countP_prefix_le hrest
              (fun entry hentry => counts_recordAndCheck_le hentry) htail hclosed
            exact (countP_cons_le hcall hlater).trans (Nat.sub_le _ _)
        · have hlater := ih hrest hin
          exact hlater
      · rw [keyTrace_record_of_ne hkey] at hpart
        have hlater := ih hrest hpart
        exact hlater

/-! ## From window to window -/

theorem exists_call_of_mem_trace {c : Checked} (h : c ∈ t.trace calls) :
    ∃ call ∈ calls, call.now = c.now := by
  induction calls generalizing t with
  | nil => cases h
  | cons call calls ih =>
    have hlater : ∀ {t' : PacketTracker}, c ∈ t'.trace calls →
        ∃ d ∈ call :: calls, d.now = c.now := fun h =>
      (ih h).imp fun d hd => ⟨List.mem_cons_of_mem call hd.1, hd.2⟩
    cases call with
    | prune time => exact hlater h
    | recordAndCheck key time =>
      rcases List.mem_cons.mp h with rfl | h
      · exact ⟨_, List.mem_cons_self, rfl⟩
      · exact hlater h

/-- The packets are listed in the order of their times. -/
theorem pairwise_now_trace (hclock : Clocked calls) :
    (t.trace calls).Pairwise fun x y => x.now ≤ y.now := by
  induction calls generalizing t with
  | nil => exact .nil
  | cons call calls ih =>
    obtain ⟨hcall, hcalls⟩ := List.pairwise_cons.mp hclock
    cases call with
    | prune time => exact ih hcalls
    | recordAndCheck key time =>
      refine List.pairwise_cons.mpr ⟨fun y hy => ?_, ih hcalls⟩
      obtain ⟨d, hd, hnow⟩ := exists_call_of_mem_trace hy
      exact hnow ▸ hcall d hd

/-- A window that is pruned is over. -/
theorem le_of_counts_prune_eq_none {entry : UInt32 × Nat} (hentry : t.counts key = some entry)
    (hprune : (t.prune now).counts key = none) :
    (t.limitForBucket key.bucket).window.nanos ≤ now - entry.2 := by
  have hover := (t.limitForBucket key.bucket).window.le_saturatingMul_two
  have hnot := Option.filter_eq_none_iff.mp hprune entry hentry
  rw [decide_eq_true_iff] at hnot
  omega

/-- No window of a key opens before the one it has is over. -/
theorem start_add_window_le {entry : UInt32 × Nat} (hentry : t.counts key = some entry)
    (hclock : Clocked calls) (hstart : ∀ call ∈ calls, entry.2 ≤ call.now) {c : Checked}
    (hc : c ∈ t.keyTrace key calls) (hopened : c.opened = true) :
    entry.2 + (t.limitForBucket key.bucket).window.nanos ≤ c.now := by
  induction calls generalizing t entry with
  | nil => cases hc
  | cons call calls ih =>
    obtain ⟨hcall, hcalls⟩ := List.pairwise_cons.mp hclock
    have hnow := hstart call List.mem_cons_self
    have hrest : ∀ d ∈ calls, entry.2 ≤ d.now := fun d hd =>
      hstart d (List.mem_cons_of_mem call hd)
    cases call with
    | prune time =>
      cases hprune : (t.prune time).counts key with
      | some kept =>
        obtain rfl : entry = kept := Option.some.inj (hentry.symm.trans (counts_prune hprune))
        have hlater := ih hprune hcalls hrest hc
        exact hlater
      | none =>
        have hover := le_of_counts_prune_eq_none hentry hprune
        obtain ⟨d, hd, hdnow⟩ := exists_call_of_mem_trace
          (show c ∈ (t.prune time).trace calls from (List.mem_filter.mp hc).1)
        have hle : time ≤ d.now := hcall d hd
        have hnow : entry.2 ≤ time := hnow
        omega
    | recordAndCheck other time =>
      have hnow : entry.2 ≤ time := hnow
      by_cases hkey : key = other
      · subst hkey
        rw [keyTrace_record_self] at hc
        rcases List.mem_cons.mp hc with rfl | hc
        · have hover : (t.limitForBucket key.bucket).window.nanos ≤ time - entry.2 := by
            have hopens : t.opens key time = true := hopened
            rw [opens, hentry] at hopens
            exact of_decide_eq_true hopens
          show entry.2 + _ ≤ time
          omega
        · -- the window either stays or is replaced by a later one
          have hle : entry.2 ≤ (t.current key time).2 := by
            rcases start_current hentry with hsame | hnew
            · exact hsame.ge
            · exact hnow.trans hnew.ge
          have hstart' : ∀ d ∈ calls, (t.current key time).2 ≤ d.now := fun d hd => by
            rcases start_current hentry with hsame | hnew
            · exact hsame.le.trans (hrest d hd)
            · exact hnew.le.trans (hcall d hd)
          have hlater := ih counts_recordAndCheck_self hcalls hstart' hc
          exact (Nat.add_le_add_right hle _).trans hlater
      · rw [keyTrace_record_of_ne hkey] at hc
        have hlater := ih ((counts_recordAndCheck_of_ne hkey).trans hentry) hcalls hrest hc
        exact hlater

/-- **Two windows of a key open at least a window's width apart.** -/
theorem pairwise_opened (hclock : Clocked calls) :
    (t.keyTrace key calls).Pairwise fun x y => x.opened = true → y.opened = true →
      x.now + (t.limitForBucket key.bucket).window.nanos ≤ y.now := by
  induction calls generalizing t with
  | nil => exact .nil
  | cons call calls ih =>
    obtain ⟨hcall, hcalls⟩ := List.pairwise_cons.mp hclock
    cases call with
    | prune time =>
      have hlater := ih (t := t.prune time) hcalls
      exact hlater
    | recordAndCheck other time =>
      have hlater := ih (t := (t.recordAndCheck other time).2) hcalls
      by_cases hkey : key = other
      · subst hkey
        rw [keyTrace_record_self]
        refine List.pairwise_cons.mpr ⟨fun y hy hx hopened => ?_, hlater⟩
        have hopens : t.opens key time = true := hx
        have hself : (t.recordAndCheck key time).2.counts key = some (1, time) := by
          rw [counts_recordAndCheck_self, current_of_opens hopens]
          rfl
        have hspaced := start_add_window_le hself hcalls (fun d hd => hcall d hd) hy hopened
        exact hspaced
      · rw [keyTrace_record_of_ne hkey]
        exact hlater

/-! ## Pruning -/

/-- From this time on, the two trackers count every packet alike. -/
structure SameFrom (now : Nat) (t t' : PacketTracker) : Prop where
  limits : t.limits = t'.limits
  defaultLimit : t.defaultLimit = t'.defaultLimit
  current : ∀ key time, now ≤ time → t.current key time = t'.current key time

theorem SameFrom.limitForBucket {t t' : PacketTracker} (h : SameFrom now t t')
    (bucket : PacketTrackerBucket) : t.limitForBucket bucket = t'.limitForBucket bucket := by
  rw [PacketTracker.limitForBucket, PacketTracker.limitForBucket, h.limits, h.defaultLimit]

/-- What a packet is counted as only depends on the window of its key. -/
theorem current_congr {t t' : PacketTracker} (hcounts : t.counts key = t'.counts key)
    (hlimit : t.limitForBucket key.bucket = t'.limitForBucket key.bucket) (time : Nat) :
    t.current key time = t'.current key time := by
  rw [current, current, hcounts, hlimit]

/-- A window that is over for long enough to be pruned is over for the next packet as well. -/
theorem sameFrom_prune (t : PacketTracker) (now : Nat) : SameFrom now (t.prune now) t where
  limits := rfl
  defaultLimit := rfl
  current key time htime := by
    cases hprune : (t.prune now).counts key with
    | some entry => exact current_congr (hprune.trans (counts_prune hprune).symm) rfl time
    | none =>
      have hopens : (t.prune now).opens key time = true := by rw [opens, hprune]
      rw [current_of_opens hopens]
      cases hentry : t.counts key with
      | none => exact (current_of_opens (by rw [opens, hentry])).symm
      | some entry =>
        have hover := le_of_counts_prune_eq_none hentry hprune
        refine (current_of_opens ?_).symm
        rw [opens, hentry]
        exact decide_eq_true (by omega)

theorem SameFrom.trans {t t' t'' : PacketTracker} {later : Nat} (h : SameFrom later t t')
    (h' : SameFrom now t' t'') (hle : now ≤ later) : SameFrom later t t'' where
  limits := h.limits.trans h'.limits
  defaultLimit := h.defaultLimit.trans h'.defaultLimit
  current key time htime := (h.current key time htime).trans (h'.current key time (hle.trans htime))

/-- Such trackers make the same decision and stay alike. -/
theorem SameFrom.recordAndCheck {t t' : PacketTracker} (h : SameFrom now t t') {time : Nat}
    (htime : now ≤ time) (key : PacketTrackerKey) :
    (t.recordAndCheck key time).1 = (t'.recordAndCheck key time).1 ∧
      SameFrom time (t.recordAndCheck key time).2 (t'.recordAndCheck key time).2 := by
  have hcurrent := h.current key time htime
  have hlimit := h.limitForBucket key.bucket
  refine ⟨?_, h.limits, h.defaultLimit, fun other later hlater => ?_⟩
  · simp only [PacketTracker.recordAndCheck, hcurrent, hlimit]
  · by_cases hkey : other = key
    · subst hkey
      have hcounts : (t.recordAndCheck other time).2.counts other =
          (t'.recordAndCheck other time).2.counts other := by
        rw [counts_recordAndCheck_self, counts_recordAndCheck_self, hcurrent]
      exact current_congr hcounts hlimit later
    · have hother := h.current other later (htime.trans hlater)
      rw [current_congr (counts_recordAndCheck_of_ne hkey) rfl, hother]
      exact (current_congr (counts_recordAndCheck_of_ne hkey) rfl later).symm

/-- **Pruning changes no decision.** -/
theorem trace_eq_of_sameFrom {t t' : PacketTracker} (h : SameFrom now t t')
    (hclock : Clocked calls) (hnow : ∀ call ∈ calls, now ≤ call.now) :
    (t.trace calls).map (·.decision) =
      (t'.trace (calls.filter fun call => !call.isPrune)).map (·.decision) := by
  induction calls generalizing t t' now with
  | nil => rfl
  | cons call calls ih =>
    obtain ⟨hcall, hcalls⟩ := List.pairwise_cons.mp hclock
    have hle := hnow call List.mem_cons_self
    cases call with
    | prune time => exact ih ((sameFrom_prune t time).trans h hle) hcalls hcall
    | recordAndCheck key time =>
      obtain ⟨hdecision, hafter⟩ := h.recordAndCheck hle key
      exact congrArg₂ List.cons hdecision (ih hafter hcalls hcall)

/-! ## Whole runs -/

/-- The packets of a key that are allowed in the half-open interval of this width. -/
def allowedWithin (t : PacketTracker) (calls : List Call) (key : PacketTrackerKey)
    (a width : Nat) : Nat :=
  (t.trace calls).countP fun c =>
    c.key = key ∧ a ≤ c.now ∧ c.now < a + width ∧ c.decision.allowed = true

theorem allowedWithin_le (hclock : Clocked calls) (hfree : Meets step CounterFree t calls) (a : Nat)
    {width : Nat} (hwidth : width ≤ (t.limitForBucket key.bucket).window.nanos) :
    t.allowedWithin calls key a width ≤
      2 * (t.limitForBucket key.bucket).maxPackets.toNat := by
  have hsorted : (t.keyTrace key calls).Pairwise fun x y => x.now ≤ y.now :=
    (pairwise_now_trace hclock).filter _
  have hinterval := FixedWindow.countP_interval_le hsorted (pairwise_opened hclock)
    (fun stretch => countP_stretch_le hfree) a hwidth
  refine Eq.trans_le ?_ hinterval
  rw [allowedWithin, keyTrace, List.filter_filter, List.countP_filter]
  refine List.countP_congr fun c _ => ?_
  simp only [Bool.and_eq_true, decide_eq_true_eq]
  tauto

/-- **The flood tracker bounds what it lets through.**  In a run in which no counter comes to its
end, an interval of at most a window's width has at most twice the budget, what lies between two
openings has at most the budget, and the calls of `prune` make no difference. -/
theorem flood_bounds (maxPerWindow searchResMaxPerWindow : UInt32)
    (window requestWindow : Duration) (calls : List Call) (hclock : Clocked calls)
    (hfree : Meets step CounterFree
      (new maxPerWindow searchResMaxPerWindow window requestWindow) calls) :
    let t := new maxPerWindow searchResMaxPerWindow window requestWindow
    (∀ key a width, width ≤ (t.limitForBucket key.bucket).window.nanos →
      t.allowedWithin calls key a width ≤ 2 * (t.limitForBucket key.bucket).maxPackets.toNat) ∧
    (∀ key stretch, stretch <:+: t.keyTrace key calls →
      (∀ c ∈ stretch.tail, c.opened = false) →
      stretch.countP (·.decision.allowed) ≤ (t.limitForBucket key.bucket).maxPackets.toNat) ∧
    (t.trace calls).map (·.decision) =
      (t.trace (calls.filter fun call => !call.isPrune)).map (·.decision) := by
  intro t
  refine ⟨fun key a width hwidth => allowedWithin_le hclock hfree a hwidth,
    fun key stretch => countP_stretch_le hfree, ?_⟩
  exact trace_eq_of_sameFrom ⟨rfl, rfl, fun _ _ _ => rfl⟩ hclock fun call _ => Nat.zero_le call.now

/-- A peer, and the family with a budget of one packet. -/
def sampleKey : PacketTrackerKey := ⟨.v4 (.new 1 2 3 4), .callbackReq⟩

/-- Three packets in one window, a call of `prune` after it is over, and one more packet. -/
theorem flood_bounds_sample :
    (new 10 20 ⟨5, by decide⟩ ⟨5, by decide⟩).allowedWithin
      [.recordAndCheck sampleKey 0, .recordAndCheck sampleKey 1, .recordAndCheck sampleKey 4,
        .prune 20, .recordAndCheck sampleKey 20] sampleKey 0 5 ≤ 2 * 1 :=
  (flood_bounds 10 20 ⟨5, by decide⟩ ⟨5, by decide⟩
    [.recordAndCheck sampleKey 0, .recordAndCheck sampleKey 1, .recordAndCheck sampleKey 4,
      .prune 20, .recordAndCheck sampleKey 20] (by decide) (by decide +kernel)).1
    sampleKey 0 5 (by decide)

/-! ## A counter that starts over -/

/-- A flood of one key at one time. -/
def flood (n : Nat) : List Call := List.replicate n (.recordAndCheck sampleKey 0)

/-- The sample key has a budget of one, and a window at time zero with this count. -/
structure Flooded (t : PacketTracker) (count : UInt32) : Prop where
  counts : t.counts sampleKey = some (count, 0)
  maxPackets : (t.limitForBucket sampleKey.bucket).maxPackets = 1
  window : 0 < (t.limitForBucket sampleKey.bucket).window.nanos

theorem Flooded.current {count : UInt32} (h : Flooded t count) :
    t.current sampleKey 0 = (count, 0) := by
  have hopens : t.opens sampleKey 0 = false := by
    rw [opens, h.counts]
    exact decide_eq_false (Nat.not_le.mpr h.window)
  exact (Option.some.inj (h.counts.symm.trans (counts_of_not_opens hopens))).symm

theorem Flooded.recordAndCheck {count : UInt32} (h : Flooded t count) :
    Flooded (t.recordAndCheck sampleKey 0).2 (count + 1) where
  counts := by rw [counts_recordAndCheck_self, h.current]
  maxPackets := h.maxPackets
  window := h.window

/-- A flood adds its length to the counter, which may start over. -/
theorem Flooded.run_flood {count : UInt32} (h : Flooded t count) (n : Nat) :
    ∃ t', run step t (flood n) = some t' ∧ Flooded t' (count + UInt32.ofNat n) := by
  induction n generalizing t count with
  | zero => exact ⟨t, rfl, by simpa using h⟩
  | succ n ih =>
    obtain ⟨t', hrun, h'⟩ := ih h.recordAndCheck
    refine ⟨t', hrun, ?_⟩
    rwa [Nat.add_comm, UInt32.ofNat_add, ← UInt32.add_assoc]

theorem clocked_of_forall (now : Nat) (h : ∀ call ∈ calls, call.now = now) : Clocked calls :=
  List.pairwise_of_forall_mem_list fun c hc d hd => ((h c hc).trans (h d hd).symm).le

theorem now_of_mem_flood {n : Nat} {call : Call} (h : call ∈ flood n) : call.now = 0 :=
  List.eq_of_mem_replicate h ▸ rfl

theorem trace_append {calls more : List Call} {t t' : PacketTracker}
    (hrun : run step t calls = some t') :
    t.trace (calls ++ more) = t.trace calls ++ t'.trace more := by
  induction calls generalizing t with
  | nil => rw [Option.some.inj hrun]; rfl
  | cons call calls ih =>
    cases call with
    | prune time =>
      have hrest := ih hrun
      exact hrest
    | recordAndCheck key time =>
      have hrest := ih hrun
      exact congrArg (List.cons _) hrest

/-- The packets with the numbers zero and one of a full counter are allowed. -/
theorem Flooded.allowed_two {count : UInt32} (h : Flooded t count) (hcount : count + 1 = 0) :
    2 ≤ t.allowedWithin (flood 2) sampleKey 0 5 := by
  have hfirst : (t.recordAndCheck sampleKey 0).1.allowed = true := by
    rw [allowed_recordAndCheck, h.current, h.maxPackets, hcount]
    decide
  have hsecond :
      ((t.recordAndCheck sampleKey 0).2.recordAndCheck sampleKey 0).1.allowed = true := by
    rw [allowed_recordAndCheck, h.recordAndCheck.current, h.recordAndCheck.maxPackets, hcount]
    decide
  have htrace : t.trace (flood 2) =
      [⟨sampleKey, 0, t.opens sampleKey 0, (t.recordAndCheck sampleKey 0).1⟩,
        ⟨sampleKey, 0, (t.recordAndCheck sampleKey 0).2.opens sampleKey 0,
          ((t.recordAndCheck sampleKey 0).2.recordAndCheck sampleKey 0).1⟩] := rfl
  rw [allowedWithin, htrace, List.countP_cons_of_pos (by simp [hfirst]),
    List.countP_cons_of_pos (by simp [hsecond])]
  simp

/-- **The counter starts over.**  After a flood of `2 ^ 32 - 1` packets the budget of one packet is
there again, so one more in the same window makes three. -/
theorem wrapped_counter_allows :
    ∃ calls, Clocked calls ∧
      2 * 1 < (new 10 20 ⟨5, by decide⟩ ⟨5, by decide⟩).allowedWithin calls sampleKey 0 5 := by
  obtain ⟨t, ht⟩ : ∃ t, t = new 10 20 ⟨5, by decide⟩ ⟨5, by decide⟩ := ⟨_, rfl⟩
  have hfirst : Flooded (t.recordAndCheck sampleKey 0).2 1 := by
    subst ht
    exact ⟨rfl, rfl, by decide⟩
  obtain ⟨t', hrun, h'⟩ := hfirst.run_flood (2 ^ 32 - 2)
  refine ⟨.recordAndCheck sampleKey 0 :: (flood (2 ^ 32 - 2) ++ flood 2), ?_, ?_⟩
  · refine clocked_of_forall 0 fun call hcall => ?_
    rcases List.mem_cons.mp hcall with rfl | hcall
    · rfl
    · exact (List.mem_append.mp hcall).elim now_of_mem_flood now_of_mem_flood
  · have hone : (t.recordAndCheck sampleKey 0).1.allowed = true := by
      subst ht
      decide
    have htwo := h'.allowed_two (by decide)
    rw [← ht, allowedWithin, trace, List.countP_cons_of_pos (by simp [hone]), trace_append hrun,
      List.countP_append]
    rw [allowedWithin] at htwo
    omega

end PacketTracker

end Overlord.Kad.Net
