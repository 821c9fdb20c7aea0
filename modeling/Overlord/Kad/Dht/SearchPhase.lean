import Overlord.Kad.Dht.WalkInvariant
import Overlord.Machine.Outputs
import Overlord.Net.Scope

/-!
# Asking the nearest contacts

Phase 2 of `run_traversal`: a search for a keyword, for sources or for notes goes on from the
contacts that answered the walk.  `run_search_phase` asks the nearest of them one after the other,
a tick apart, starting once the lookup has been quiet for a while, and in between takes the
`SEARCH_RES` packets off the stream of everything that the socket receives.

The model is a machine again.  The drain of the stream (`collect_search_results_until`) is a loop of
its own inside the loop, so there are two heads where the cancel token and the clock are looked at;
an event carries the time at which it happens.  A contact counts as queried when the send has come
to its end, which is later than its start by what the rate limiters take.

* `search_phase_disciplined` — who is asked, in which order, how far apart and how many of them.
* `search_phase_delivers` — what is handed on: the entries of exactly those packets that come from a
  contact that was asked before and that name the target.
-/

set_option autoImplicit false

namespace Overlord.Kad.Dht

open Machine

/-! ## The contacts -/

def SEARCHTOLERANCE : UInt32 := 0x01000000

/-- `is_lan_ip`. -/
def isLanIp (ip : Ipv4Addr) : Bool := ip.isPrivate || ip.isLoopback || ip.isLinkLocal

/-- `distance_high32`. -/
def distanceHigh32 (distance : NodeId) : UInt32 :=
  UInt32.ofNat (Wire.ofLe (distance.bytes.toList.take 4))

/-- `passes_search_tolerance`. -/
def passesSearchTolerance (target : NodeId) (contact : TraversalContact) : Bool :=
  match contact.addr.ip with
  | .v4 ip =>
    if isLanIp ip then true
    else decide (distanceHigh32 (target.distance contact.id) ≤ SEARCHTOLERANCE)
  | .v6 _ => false

/-- `select_phase2_contacts`. -/
def selectPhase2Contacts (responded : List TraversalContact) (target : NodeId)
    (phase2Fanout : Nat) : List TraversalContact :=
  let oracleCeiling := min phase2Fanout K
  (responded.filter (passesSearchTolerance target)).take oracleCeiling

theorem length_selectPhase2Contacts_le (responded : List TraversalContact) (target : NodeId)
    (fanout : Nat) : (selectPhase2Contacts responded target fanout).length ≤ min fanout K :=
  List.length_take_le _ _

/-- The contacts are taken in the order in which they are. -/
theorem selectPhase2Contacts_sublist (responded : List TraversalContact) (target : NodeId)
    (fanout : Nat) : (selectPhase2Contacts responded target fanout).Sublist responded :=
  (List.take_sublist _ _).trans List.filter_sublist

/-! ## The machine -/

/-- An entry of a `SEARCH_RES`. -/
abbrev SearchEntry : Type := Ed2kHash × List Tag

/-- eMule checks stalled searches once per second; times are in milliseconds. -/
def SEARCH_JUMPSTART_TICK : Nat := 1000

/-- eMule only jump-starts once the last lookup response is at least 3 seconds old. -/
def SEARCH_JUMPSTART_IDLE_GRACE : Nat := 3000

/-- The inputs of the phase. -/
structure SearchPhaseConfig where
  responded : List TraversalContact
  kind : TraversalKind
  target : NodeId
  queryTimeout : Nat
  deadline : Nat
  phase2Fanout : Nat
  lastLookupResponseAt : Option Nat
  jumpstartIdleGrace : Nat
  jumpstartTick : Nat
  /-- Whether the entries go to a channel. -/
  resultTx : Bool

/-- What `run_traversal` hands to the phase after a walk. -/
def Walk.searchPhaseConfig (w : Walk) (cfg : TraversalConfig) (queryTimeout deadline : Nat)
    (resultTx : Bool) : SearchPhaseConfig where
  responded := w.responded
  kind := cfg.searchKind
  target := cfg.target
  queryTimeout := queryTimeout
  deadline := deadline
  phase2Fanout := cfg.phase2Fanout
  lastLookupResponseAt := w.lastLookupResponseAt
  jumpstartIdleGrace := SEARCH_JUMPSTART_IDLE_GRACE
  jumpstartTick := SEARCH_JUMPSTART_TICK
  resultTx := resultTx

namespace SearchPhaseConfig

/-- The packet that is sent; the other kinds have no second phase. -/
def packet (cfg : SearchPhaseConfig) : Option KadPacket :=
  match cfg.kind with
  | .keyword request => some (.searchKeyReq request)
  | .source request => some (.searchSourceReq request)
  | .notes size => some (.searchNotesReq ⟨cfg.target, size⟩)
  | .findNode | .store => none

/-- `compute_initial_jumpstart_emit_at`. -/
def initialJumpstartEmitAt (cfg : SearchPhaseConfig) (now : Nat) : Nat :=
  match cfg.lastLookupResponseAt with
  | none => now
  | some lastLookupResponseAt => max (lastLookupResponseAt + cfg.jumpstartIdleGrace) now

end SearchPhaseConfig

/-- A packet that was given to the RPC layer. -/
structure Sent where
  contact : TraversalContact
  packet : KadPacket
  /-- When it was given. -/
  at_ : Nat
deriving DecidableEq, Repr

/-- Where the phase is. -/
inductive Position where
  /-- At the head of the loop. -/
  | top
  /-- At the head of the drain. -/
  | draining (receiveUntil : Nat)
  /-- Waiting for a packet. -/
  | receiving (receiveUntil : Nat)
  /-- Past the drain. -/
  | drained
  /-- Waiting for a send to end. -/
  | sending (sent : Sent)
  | finished
deriving DecidableEq, Repr

/-- The send that has not ended. -/
def Position.inFlight : Position → List Sent
  | .sending sent => [sent]
  | _ => []

/-- The variables of the phase, with the sends so far. -/
structure SearchPhase where
  clock : Nat
  phaseDeadline : Nat
  pendingContacts : List TraversalContact
  queriedAddrs : List SocketAddr
  nextEmitAt : Nat
  searchEntries : List SearchEntry
  /-- What has gone to the channel. -/
  streamed : List SearchEntry
  /-- The sends that have ended. -/
  sends : List Sent
  position : Position
deriving DecidableEq, Repr

/-- What happens. -/
inductive SearchEvent where
  /-- A head looks at the cancel token and the clock. -/
  | check (cancelled : Bool)
  | received (sender : SocketAddr) (packet : KadPacket)
  /-- The receiver has been too slow, and packets were dropped. -/
  | lagged
  /-- The wait ends without a packet: cancelled, out of time, or the stream is closed. -/
  | ended
  /-- The loop goes on after the drain. -/
  | resume
  /-- The send has ended, well or not. -/
  | sent
deriving DecidableEq, Repr

namespace SearchPhase

variable (cfg : SearchPhaseConfig)

/-- The phase up to the loop, unless it returns at once; the three times are those at which it looks
at the clock. -/
def enter (cancelled : Bool) (now phaseStart emitFrom : Nat) : Option SearchPhase :=
  if cancelled then none
  else if cfg.deadline ≤ now then none
  else
    let remaining := cfg.deadline - now
    let qt := min cfg.queryTimeout remaining
    some
      { clock := emitFrom
        phaseDeadline := phaseStart + qt
        pendingContacts := selectPhase2Contacts cfg.responded cfg.target cfg.phase2Fanout
        queriedAddrs := []
        nextEmitAt := cfg.initialJumpstartEmitAt emitFrom
        searchEntries := []
        streamed := []
        sends := []
        position := .top }

/-- Until when the drain lasts. -/
def receiveUntil (s : SearchPhase) : Nat :=
  if s.pendingContacts = [] then s.phaseDeadline else min s.nextEmitAt s.phaseDeadline

/-- The entries of a response. -/
def entries (response : SearchResOf String) : List SearchEntry :=
  response.results.map fun entry => (entry.entryId, entry.tags)

/-- A packet from the stream. -/
def collect (s : SearchPhase) (sender : SocketAddr) : KadPacket → SearchPhase
  | .searchRes response =>
    if sender ∉ s.queriedAddrs then s
    else if response.target ≠ cfg.target then s
    else if cfg.resultTx then { s with streamed := s.streamed ++ entries response }
    else { s with searchEntries := s.searchEntries ++ entries response }
  | _ => s

/-- The phase after an event at the time `now`. -/
def next (s : SearchPhase) (now : Nat) : Position → SearchEvent → Option SearchPhase
  | .top, .check cancelled =>
    some { s with
      position := if cancelled ∨ s.phaseDeadline ≤ now then .finished
        else .draining s.receiveUntil }
  | .draining receiveUntil, .check cancelled =>
    some { s with
      position := if cancelled ∨ receiveUntil ≤ now then .drained else .receiving receiveUntil }
  | .receiving receiveUntil, .received sender packet =>
    some { s.collect cfg sender packet with position := .draining receiveUntil }
  | .receiving receiveUntil, .lagged => some { s with position := .draining receiveUntil }
  | .receiving _, .ended => some { s with position := .drained }
  | .drained, .resume =>
    if s.phaseDeadline ≤ now then some { s with position := .finished }
    else
      match s.pendingContacts with
      | [] => some { s with position := .top }
      | contact :: rest =>
        if now < s.nextEmitAt then some { s with position := .top }
        else cfg.packet.map fun packet =>
          { s with pendingContacts := rest, position := .sending ⟨contact, packet, now⟩ }
  | .sending sent, .sent =>
    some { s with
      sends := s.sends ++ [sent]
      queriedAddrs := sent.contact.addr :: s.queriedAddrs
      nextEmitAt := now + cfg.jumpstartTick
      position := .top }
  | _, _ => none

/-- One event, at a time that is not in the past. -/
def step (s : SearchPhase) (event : Nat × SearchEvent) : Option SearchPhase :=
  if s.clock ≤ event.1 then
    (s.next cfg event.1 s.position event.2).map fun s' => { s' with clock := event.1 }
  else none

/-- The contacts that were asked, the one that is being asked included. -/
def asked (s : SearchPhase) : List Sent := s.sends ++ s.position.inFlight

/-- The entries that were handed on. -/
def delivered (s : SearchPhase) : List SearchEntry :=
  if cfg.resultTx then s.streamed else s.searchEntries

/-- What an event adds to them. -/
def answers (s : SearchPhase) : Nat × SearchEvent → List SearchEntry
  | (_, .received sender (.searchRes response)) =>
    if (∃ x ∈ s.sends, x.contact.addr = sender) ∧ response.target = cfg.target then
      entries response
    else []
  | _ => []

/-! ## What an event can do -/

variable {cfg} {s s' : SearchPhase}

/-- What changes of the contacts and of their times. -/
inductive Effect (cfg : SearchPhaseConfig) (s s' : SearchPhase) (now : Nat) : Prop where
  | waits (hpending : s'.pendingContacts = s.pendingContacts) (hsends : s'.sends = s.sends)
      (haddrs : s'.queriedAddrs = s.queriedAddrs) (hnext : s'.nextEmitAt = s.nextEmitAt)
      (hidle : s.position.inFlight = []) (hidle' : s'.position.inFlight = [])
  | asks (sent : Sent) (hpending : s.pendingContacts = sent.contact :: s'.pendingContacts)
      (hsends : s'.sends = s.sends) (haddrs : s'.queriedAddrs = s.queriedAddrs)
      (hnext : s'.nextEmitAt = s.nextEmitAt) (hidle : s.position.inFlight = [])
      (hflight : s'.position.inFlight = [sent]) (hpacket : cfg.packet = some sent.packet)
      (hat : sent.at_ = now) (hdue : s.nextEmitAt ≤ now) (hearly : now < s.phaseDeadline)
  | asked (sent : Sent) (hpending : s'.pendingContacts = s.pendingContacts)
      (hflight : s.position.inFlight = [sent]) (hsends : s'.sends = s.sends ++ [sent])
      (haddrs : s'.queriedAddrs = sent.contact.addr :: s.queriedAddrs)
      (hnext : s'.nextEmitAt = now + cfg.jumpstartTick) (hidle' : s'.position.inFlight = [])

theorem collect_eq (cfg : SearchPhaseConfig) (s : SearchPhase) (sender : SocketAddr)
    (packet : KadPacket) :
    ∃ streamed searchEntries, s.collect cfg sender packet =
      { s with streamed := streamed, searchEntries := searchEntries } := by
  unfold collect
  split
  · split_ifs
    · exact ⟨_, _, rfl⟩
    · exact ⟨_, _, rfl⟩
    · exact ⟨_, _, rfl⟩
    · exact ⟨_, _, rfl⟩
  · exact ⟨_, _, rfl⟩

/-- **What an event can do.** -/
theorem effect_of_step {now : Nat} {event : SearchEvent}
    (hstep : step cfg s (now, event) = some s') :
    s.clock ≤ now ∧ s'.clock = now ∧ s'.phaseDeadline = s.phaseDeadline ∧
      Effect cfg s s' now := by
  by_cases hclock : s.clock ≤ now
  case neg => simp [step, hclock] at hstep
  rw [step, if_pos hclock] at hstep
  obtain ⟨s₁, hnext, rfl⟩ := Option.map_eq_some_iff.mp hstep
  refine ⟨hclock, rfl, ?_⟩
  cases hposition : s.position with
  | top =>
    cases event <;> simp only [next, hposition, reduceCtorEq, Option.some.injEq] at hnext
    subst hnext
    refine ⟨rfl, .waits rfl rfl rfl rfl (by simp [hposition, Position.inFlight]) ?_⟩
    dsimp only
    split_ifs <;> rfl
  | draining receiveUntil =>
    cases event <;> simp only [next, hposition, reduceCtorEq, Option.some.injEq] at hnext
    subst hnext
    refine ⟨rfl, .waits rfl rfl rfl rfl (by simp [hposition, Position.inFlight]) ?_⟩
    dsimp only
    split_ifs <;> rfl
  | receiving receiveUntil =>
    have hidle : s.position.inFlight = [] := by simp [hposition, Position.inFlight]
    cases event <;> simp only [next, hposition, reduceCtorEq, Option.some.injEq] at hnext
    case received sender packet =>
      obtain ⟨streamed, searchEntries, hcollect⟩ := collect_eq cfg s sender packet
      rw [hcollect] at hnext
      subst hnext
      exact ⟨rfl, .waits rfl rfl rfl rfl hidle rfl⟩
    case lagged =>
      subst hnext
      exact ⟨rfl, .waits rfl rfl rfl rfl hidle rfl⟩
    case ended =>
      subst hnext
      exact ⟨rfl, .waits rfl rfl rfl rfl hidle rfl⟩
  | drained =>
    have hidle : s.position.inFlight = [] := by simp [hposition, Position.inFlight]
    cases event <;> simp only [next, hposition, reduceCtorEq] at hnext
    split at hnext
    · obtain rfl := Option.some.inj hnext
      exact ⟨rfl, .waits rfl rfl rfl rfl hidle rfl⟩
    · next hearly =>
      split at hnext
      · obtain rfl := Option.some.inj hnext
        exact ⟨rfl, .waits rfl rfl rfl rfl hidle rfl⟩
      · next contact rest hpending =>
        split at hnext
        · obtain rfl := Option.some.inj hnext
          exact ⟨rfl, .waits rfl rfl rfl rfl hidle rfl⟩
        · next hdue =>
          obtain ⟨packet, hpacket, rfl⟩ := Option.map_eq_some_iff.mp hnext
          exact ⟨rfl, .asks ⟨contact, packet, now⟩ hpending rfl rfl rfl hidle rfl hpacket rfl
            (Nat.not_lt.mp hdue) (Nat.not_le.mp hearly)⟩
  | sending sent =>
    cases event <;> simp only [next, hposition, reduceCtorEq, Option.some.injEq] at hnext
    subst hnext
    exact ⟨rfl, .asked sent rfl (by simp [hposition, Position.inFlight]) rfl rfl rfl rfl⟩
  | finished => cases event <;> simp [next, hposition] at hnext

/-! ## Who is asked, and when -/

/-- What holds throughout the phase; `contacts` are those that were selected, and nobody is asked
before the time `gate`. -/
structure Inv (cfg : SearchPhaseConfig) (contacts : List TraversalContact) (gate deadline : Nat)
    (s : SearchPhase) : Prop where
  deadline_eq : s.phaseDeadline = deadline
  contacts_eq : s.asked.map (·.contact) ++ s.pendingContacts = contacts
  packet_eq : ∀ x ∈ s.asked, cfg.packet = some x.packet
  addrs_iff : ∀ addr, addr ∈ s.queriedAddrs ↔ ∃ x ∈ s.sends, x.contact.addr = addr
  spaced : s.asked.Pairwise fun a b => a.at_ + cfg.jumpstartTick ≤ b.at_
  timely : ∀ x ∈ s.asked, gate ≤ x.at_ ∧ x.at_ ≤ s.clock ∧ x.at_ < deadline
  gate_le : gate ≤ s.nextEmitAt
  next_le : ∀ x ∈ s.sends, x.at_ + cfg.jumpstartTick ≤ s.nextEmitAt

theorem inv_enter {cancelled : Bool} {now phaseStart emitFrom : Nat}
    (h : enter cfg cancelled now phaseStart emitFrom = some s) :
    Inv cfg (selectPhase2Contacts cfg.responded cfg.target cfg.phase2Fanout)
      (cfg.initialJumpstartEmitAt emitFrom)
      (phaseStart + min cfg.queryTimeout (cfg.deadline - now)) s := by
  simp only [enter] at h
  split_ifs at h
  obtain rfl := Option.some.inj h
  exact ⟨rfl, rfl, by simp [asked, Position.inFlight], by simp, List.Pairwise.nil,
    by simp [asked, Position.inFlight], Nat.le_refl _, by simp⟩

theorem inv_step {contacts : List TraversalContact} {gate deadline : Nat}
    {event : Nat × SearchEvent} (hinv : Inv cfg contacts gate deadline s)
    (hstep : step cfg s event = some s') : Inv cfg contacts gate deadline s' := by
  obtain ⟨hclock, hclock', hdeadline, heffect⟩ := effect_of_step hstep
  cases heffect with
  | waits hpending hsends haddrs hnext hidle hidle' =>
    have hasked : s'.asked = s.asked := by rw [asked, asked, hsends, hidle, hidle']
    refine ⟨hdeadline.trans hinv.deadline_eq, ?_, ?_, ?_, ?_, ?_, ?_, ?_⟩
    · rw [hasked, hpending, hinv.contacts_eq]
    · rw [hasked]
      exact hinv.packet_eq
    · rw [haddrs, hsends]
      exact hinv.addrs_iff
    · rw [hasked]
      exact hinv.spaced
    · rw [hasked, hclock']
      exact fun x hx => ⟨(hinv.timely x hx).1, (hinv.timely x hx).2.1.trans hclock,
        (hinv.timely x hx).2.2⟩
    · rw [hnext]
      exact hinv.gate_le
    · rw [hsends, hnext]
      exact hinv.next_le
  | asks sent hpending hsends haddrs hnext hidle hflight hpacket hat hdue hearly =>
    have hasked : s.asked = s.sends := by rw [asked, hidle, List.append_nil]
    have hasked' : s'.asked = s.sends ++ [sent] := by rw [asked, hsends, hflight]
    have hcontacts := hinv.contacts_eq
    have hspaced := hinv.spaced
    rw [hasked] at hcontacts hspaced
    refine ⟨hdeadline.trans hinv.deadline_eq, ?_, ?_, ?_, ?_, ?_, ?_, ?_⟩
    · rw [hasked', List.map_append, List.append_assoc, ← hcontacts, hpending]
      rfl
    · rw [hasked']
      intro x hx
      rcases List.mem_append.mp hx with hx | hx
      · exact hinv.packet_eq x (hasked ▸ hx)
      · exact List.mem_singleton.mp hx ▸ hpacket
    · rw [haddrs, hsends]
      exact hinv.addrs_iff
    · rw [hasked', List.pairwise_append]
      refine ⟨hspaced, List.pairwise_singleton _ _, fun x hx y hy => ?_⟩
      rw [List.mem_singleton.mp hy, hat]
      exact (hinv.next_le x hx).trans hdue
    · rw [hasked', hclock']
      intro x hx
      rcases List.mem_append.mp hx with hx | hx
      · obtain ⟨hgate, hle, hlt⟩ := hinv.timely x (hasked ▸ hx)
        exact ⟨hgate, hle.trans hclock, hlt⟩
      · rw [List.mem_singleton.mp hx, hat]
        exact ⟨hinv.gate_le.trans hdue, Nat.le_refl _, hinv.deadline_eq ▸ hearly⟩
    · rw [hnext]
      exact hinv.gate_le
    · rw [hsends, hnext]
      exact hinv.next_le
  | asked sent hpending hflight hsends haddrs hnext hidle' =>
    have hasked : s.asked = s.sends ++ [sent] := by rw [SearchPhase.asked, hflight]
    have hasked' : s'.asked = s.asked := by
      rw [hasked, SearchPhase.asked, hsends, hidle', List.append_nil]
    have htimely : ∀ x ∈ s.asked, x.at_ ≤ event.1 := fun x hx =>
      (hinv.timely x hx).2.1.trans hclock
    refine ⟨hdeadline.trans hinv.deadline_eq, ?_, ?_, ?_, ?_, ?_, ?_, ?_⟩
    · rw [hasked', hpending, hinv.contacts_eq]
    · rw [hasked']
      exact hinv.packet_eq
    · intro addr
      rw [haddrs, hsends, List.mem_cons, hinv.addrs_iff]
      simp [or_and_right, exists_or, eq_comm, or_comm]
    · rw [hasked']
      exact hinv.spaced
    · rw [hasked', hclock']
      exact fun x hx => ⟨(hinv.timely x hx).1, htimely x hx, (hinv.timely x hx).2.2⟩
    · have hsent : sent ∈ s.asked := hasked ▸ List.mem_append_right _ List.mem_cons_self
      rw [hnext]
      exact ((hinv.timely sent hsent).1.trans (htimely sent hsent)).trans (Nat.le_add_right _ _)
    · rw [hsends, hnext]
      exact fun x hx => Nat.add_le_add_right (htimely x (hasked ▸ hx)) _

theorem inv_of_run {contacts : List TraversalContact} {gate deadline : Nat}
    {events : List (Nat × SearchEvent)} (hinv : Inv cfg contacts gate deadline s)
    (hrun : run (step cfg) s events = some s') : Inv cfg contacts gate deadline s' :=
  run_invariant (fun _ _ _ => inv_step) hinv hrun

/-- Things that are a tick apart take the ticks between them. -/
theorem first_add_le_of_spaced {tick gate deadline : Nat} {l : List Sent}
    (hspaced : l.Pairwise fun a b => a.at_ + tick ≤ b.at_) (hgate : ∀ x ∈ l, gate ≤ x.at_)
    (hdeadline : ∀ x ∈ l, x.at_ < deadline) (hne : l ≠ []) :
    gate + (l.length - 1) * tick < deadline := by
  induction l generalizing gate with
  | nil => exact absurd rfl hne
  | cons a l ih =>
    obtain ⟨ha, hspaced⟩ := List.pairwise_cons.mp hspaced
    have hgatea := hgate a List.mem_cons_self
    cases l with
    | nil => simpa using hgatea.trans_lt (hdeadline a List.mem_cons_self)
    | cons b l =>
      have hgateb : ∀ x ∈ b :: l, gate + tick ≤ x.at_ := fun x hx =>
        (Nat.add_le_add_right hgatea tick).trans (ha x hx)
      have hrest := ih hspaced hgateb (fun x hx => hdeadline x (List.mem_cons_of_mem a hx))
        (List.cons_ne_nil b l)
      simp only [List.length_cons, Nat.add_sub_cancel] at hrest ⊢
      rw [Nat.succ_mul]
      omega

/-- **Who is asked in a search, and when**, after any walk and through any events.  They are the
nearest contacts that answered the walk and are within tolerance, at most `K` of them and in this
order; the first is asked once the lookup has been quiet for the grace, the others a tick apart, and
all before the deadline.  So the ticks that fit bound their number. -/
theorem search_phase_disciplined (cfg : TraversalConfig) (initial : List TraversalContact)
    (walkEvents : List Event) (w : Walk)
    (hwalk : run (Walk.step cfg) (Walk.start cfg initial) walkEvents = some w)
    (queryTimeout deadline now phaseStart emitFrom : Nat) (resultTx cancelled : Bool)
    (s₀ s : SearchPhase) (events : List (Nat × SearchEvent))
    (henter : enter (w.searchPhaseConfig cfg queryTimeout deadline resultTx) cancelled now
      phaseStart emitFrom = some s₀)
    (hrun : run (step (w.searchPhaseConfig cfg queryTimeout deadline resultTx)) s₀ events =
      some s) :
    let phaseDeadline := phaseStart + min queryTimeout (deadline - now)
    s.asked.map (·.contact) <+: selectPhase2Contacts w.responded cfg.target cfg.phase2Fanout ∧
    s.asked.length ≤ min cfg.phase2Fanout K ∧
    s.asked.Pairwise (fun a b =>
      cfg.target.distance a.contact.id < cfg.target.distance b.contact.id ∧
      a.at_ + SEARCH_JUMPSTART_TICK ≤ b.at_) ∧
    (∀ x ∈ s.asked, emitFrom ≤ x.at_ ∧ x.at_ < phaseDeadline ∧
      ∀ last, w.lastLookupResponseAt = some last → last + SEARCH_JUMPSTART_IDLE_GRACE ≤ x.at_) ∧
    (∀ last, w.lastLookupResponseAt = some last → s.asked ≠ [] →
      last + SEARCH_JUMPSTART_IDLE_GRACE + (s.asked.length - 1) * SEARCH_JUMPSTART_TICK <
        phaseDeadline) := by
  have hinv := SearchPhase.inv_of_run (inv_enter henter) hrun
  have hselected : s.asked.map (·.contact) <+:
      selectPhase2Contacts w.responded cfg.target cfg.phase2Fanout :=
    ⟨s.pendingContacts, hinv.contacts_eq⟩
  have hemit : emitFrom ≤ (w.searchPhaseConfig cfg queryTimeout deadline
      resultTx).initialJumpstartEmitAt emitFrom := by
    rw [SearchPhaseConfig.initialJumpstartEmitAt]
    split
    · exact Nat.le_refl _
    · exact Nat.le_max_right _ _
  have hgrace : ∀ last, w.lastLookupResponseAt = some last → last + SEARCH_JUMPSTART_IDLE_GRACE ≤
      (w.searchPhaseConfig cfg queryTimeout deadline resultTx).initialJumpstartEmitAt emitFrom := by
    intro last hlast
    simp only [SearchPhaseConfig.initialJumpstartEmitAt, Walk.searchPhaseConfig, hlast]
    exact Nat.le_max_left _ _
  refine ⟨hselected, ?_, ?_, ?_, ?_⟩
  · have hlength := hselected.length_le
    rw [List.length_map] at hlength
    exact hlength.trans (length_selectPhase2Contacts_le _ _ _)
  · have hdistance := (Walk.responded_pairwise (Walk.inv_of_run hwalk).ordered).sublist
      (hselected.sublist.trans (selectPhase2Contacts_sublist _ _ _))
    exact (List.pairwise_map.mp hdistance).and hinv.spaced
  · intro x hx
    obtain ⟨hgate, -, hlt⟩ := hinv.timely x hx
    exact ⟨hemit.trans hgate, hlt, fun last hlast => (hgrace last hlast).trans hgate⟩
  · intro last hlast hne
    exact first_add_le_of_spaced hinv.spaced
      (fun x hx => (hgrace last hlast).trans (hinv.timely x hx).1)
      (fun x hx => (hinv.timely x hx).2.2) hne

/-! ## What is handed on -/

/-- Only a packet adds entries. -/
theorem next_cases {now : Nat} {event : SearchEvent}
    (hnext : s.next cfg now s.position event = some s') :
    (∃ sender packet position, event = .received sender packet ∧
      s' = { s.collect cfg sender packet with position := position }) ∨
    (∀ sender packet, event ≠ .received sender packet) ∧ s'.streamed = s.streamed ∧
      s'.searchEntries = s.searchEntries := by
  cases event with
  | received sender packet =>
    cases hposition : s.position <;> simp [next, hposition] at hnext
    exact .inl ⟨sender, packet, _, rfl, hnext.symm⟩
  | check cancelled =>
    refine .inr ⟨nofun, ?_⟩
    cases hposition : s.position <;> simp [next, hposition] at hnext
    all_goals
      subst hnext
      exact ⟨rfl, rfl⟩
  | lagged =>
    refine .inr ⟨nofun, ?_⟩
    cases hposition : s.position <;> simp [next, hposition] at hnext
    subst hnext
    exact ⟨rfl, rfl⟩
  | ended =>
    refine .inr ⟨nofun, ?_⟩
    cases hposition : s.position <;> simp [next, hposition] at hnext
    subst hnext
    exact ⟨rfl, rfl⟩
  | resume =>
    refine .inr ⟨nofun, ?_⟩
    cases hposition : s.position <;> simp only [next, hposition, reduceCtorEq] at hnext
    split at hnext
    · obtain rfl := Option.some.inj hnext
      exact ⟨rfl, rfl⟩
    · split at hnext
      · obtain rfl := Option.some.inj hnext
        exact ⟨rfl, rfl⟩
      · split at hnext
        · obtain rfl := Option.some.inj hnext
          exact ⟨rfl, rfl⟩
        · obtain ⟨packet, -, rfl⟩ := Option.map_eq_some_iff.mp hnext
          exact ⟨rfl, rfl⟩
  | sent =>
    refine .inr ⟨nofun, ?_⟩
    cases hposition : s.position <;> simp [next, hposition] at hnext
    subst hnext
    exact ⟨rfl, rfl⟩

/-- The buffer that is not in use stays empty. -/
def OneBuffer (cfg : SearchPhaseConfig) (s : SearchPhase) : Prop :=
  if cfg.resultTx then s.searchEntries = [] else s.streamed = []

/-- A packet adds the entries that it answers with. -/
theorem delivered_collect {contacts : List TraversalContact} {gate deadline now : Nat}
    (hinv : Inv cfg contacts gate deadline s) (hone : OneBuffer cfg s) (sender : SocketAddr)
    (packet : KadPacket) :
    OneBuffer cfg (s.collect cfg sender packet) ∧
    (s.collect cfg sender packet).delivered cfg =
      s.delivered cfg ++ s.answers cfg (now, .received sender packet) := by
  cases packet
  case searchRes response =>
    have hsent := hinv.addrs_iff sender
    by_cases hsender : sender ∈ s.queriedAddrs
    · by_cases htarget : response.target = cfg.target
      · cases htx : cfg.resultTx with
        | true =>
          simpa [collect, answers, hsender, htarget, ← hsent, OneBuffer, delivered, htx] using hone
        | false =>
          simpa [collect, answers, hsender, htarget, ← hsent, OneBuffer, delivered, htx] using hone
      · simpa [collect, answers, hsender, htarget] using hone
    · simpa only [collect, answers, ← hsent, hsender, not_false_eq_true, if_true, false_and,
        if_false, List.append_nil, and_true] using hone
  all_goals exact ⟨hone, (List.append_nil _).symm⟩

/-- **A step hands on what its event answers.** -/
theorem delivered_of_step {contacts : List TraversalContact} {gate deadline : Nat}
    {event : Nat × SearchEvent} (hinv : Inv cfg contacts gate deadline s) (hone : OneBuffer cfg s)
    (hstep : step cfg s event = some s') :
    OneBuffer cfg s' ∧ s'.delivered cfg = s.delivered cfg ++ s.answers cfg event := by
  obtain ⟨now, event⟩ := event
  rw [step] at hstep
  split at hstep
  case isFalse => cases hstep
  obtain ⟨s₁, hnext, rfl⟩ := Option.map_eq_some_iff.mp hstep
  rcases next_cases hnext with ⟨sender, packet, position, rfl, rfl⟩ | ⟨hevent, hstream, hentries⟩
  · exact delivered_collect hinv hone sender packet
  · have hanswers : s.answers cfg (now, event) = [] := by
      unfold answers
      split
      · next sender response heq => exact absurd (Prod.mk.inj heq).2 (hevent _ _)
      · rfl
    rw [hanswers, List.append_nil]
    simp only [OneBuffer, delivered, hstream, hentries, and_true]
    exact hone

theorem delivered_of_run {cancelled : Bool} {now phaseStart emitFrom : Nat} {s₀ : SearchPhase}
    {events : List (Nat × SearchEvent)}
    (henter : enter cfg cancelled now phaseStart emitFrom = some s₀)
    (hrun : run (step cfg) s₀ events = some s) :
    s.delivered cfg = outputs (step cfg) (answers cfg) s₀ events ∧ OneBuffer cfg s := by
  have hinv₀ := inv_enter henter
  obtain ⟨hempty, hone₀⟩ : s₀.delivered cfg = [] ∧ OneBuffer cfg s₀ := by
    simp only [enter] at henter
    split_ifs at henter
    obtain rfl := Option.some.inj henter
    simp [delivered, OneBuffer]
  have hout : _ ∧ s.delivered cfg =
      s₀.delivered cfg ++ outputs (step cfg) (answers cfg) s₀ events :=
    outputs_eq (fun s event s' (h : Inv cfg _ _ _ s ∧ OneBuffer cfg s) hstep =>
      ⟨⟨inv_step h.1 hstep, (delivered_of_step h.1 h.2 hstep).1⟩,
        (delivered_of_step h.1 h.2 hstep).2⟩) ⟨hinv₀, hone₀⟩ hrun
  rw [hempty, List.nil_append] at hout
  exact ⟨hout.2, hout.1.2⟩

/-- An entry that was handed on stands in a response that names the target and was received from one
of the contacts that were selected. -/
theorem exists_response_of_mem_delivered {cancelled : Bool} {now phaseStart emitFrom : Nat}
    {s₀ : SearchPhase} {events : List (Nat × SearchEvent)}
    (henter : enter cfg cancelled now phaseStart emitFrom = some s₀)
    (hrun : run (step cfg) s₀ events = some s) {entry : SearchEntry}
    (hentry : entry ∈ s.delivered cfg) :
    ∃ time contact response,
      (time, SearchEvent.received contact.addr (.searchRes response)) ∈ events ∧
      contact ∈ selectPhase2Contacts cfg.responded cfg.target cfg.phase2Fanout ∧
      response.target = cfg.target ∧ entry ∈ entries response := by
  rw [(delivered_of_run henter hrun).1] at hentry
  obtain ⟨done, event, s₁, hpre, hdone, hanswer⟩ := exists_of_mem_outputs hrun hentry
  have hinv := SearchPhase.inv_of_run (inv_enter henter) hdone
  have hmem : event ∈ events := hpre.subset (List.mem_append_right _ List.mem_cons_self)
  unfold answers at hanswer
  split at hanswer
  · next time sender response =>
    split_ifs at hanswer with hasked
    · obtain ⟨⟨x, hx, rfl⟩, htarget⟩ := hasked
      refine ⟨time, x.contact, response, hmem, ?_, htarget, hanswer⟩
      rw [← hinv.contacts_eq, asked, List.map_append, List.append_assoc]
      exact List.mem_append_left _ (List.mem_map_of_mem hx)
    · exact absurd hanswer List.not_mem_nil
  · exact absurd hanswer List.not_mem_nil

/-- **What a search hands on**, through any events: the entries of the responses that come from a
contact that had been asked and that name the target, all of them and in the order in which they
come, to the channel if there is one and into the batch if there is none.  These contacts are among
those that were selected. -/
theorem search_phase_delivers (cfg : SearchPhaseConfig) (cancelled : Bool)
    (now phaseStart emitFrom : Nat) (s₀ s : SearchPhase) (events : List (Nat × SearchEvent))
    (henter : enter cfg cancelled now phaseStart emitFrom = some s₀)
    (hrun : run (step cfg) s₀ events = some s) :
    s.delivered cfg = outputs (step cfg) (answers cfg) s₀ events ∧ OneBuffer cfg s ∧
    ∀ entry ∈ s.delivered cfg, ∃ time contact response,
      (time, SearchEvent.received contact.addr (.searchRes response)) ∈ events ∧
      contact ∈ selectPhase2Contacts cfg.responded cfg.target cfg.phase2Fanout ∧
      response.target = cfg.target ∧ entry ∈ entries response := by
  obtain ⟨hdelivered, hone⟩ := delivered_of_run henter hrun
  exact ⟨hdelivered, hone, fun _ => exists_response_of_mem_delivered henter hrun⟩

/-! ## A search for notes -/

def sampleSearch : TraversalConfig := ⟨.ZERO, .notes 42, 5⟩

/-- The contact that the walk begins with. -/
def sampleContact : TraversalContact := ⟨Walk.sampleId 0, .v4 (.new 80 1 2 3) 4672, 9⟩

def secondId : NodeId := ⟨#v[0, 0, 0, 0, 0, 0, 0, 0, 0, 0, 0, 0, 0, 0, 0, 1]⟩

/-- The contact that the first one tells of. -/
def secondContact : TraversalContact := ⟨secondId, .v4 (.new 80 1 2 4) 4672, 9⟩

/-- A walk that ends with the answer of the second contact, at the time 5000. -/
def sampleWalk : Walk where
  candidates := [⟨sampleContact, .responded, NodeId.ZERO.distance (Walk.sampleId 0)⟩,
    ⟨secondContact, .responded, NodeId.ZERO.distance secondId⟩]
  seen := [secondId, Walk.sampleId 0]
  joinSet := []
  lastLookupResponseAt := some 5000
  queries := [⟨sampleContact.addr, ⟨KADEMLIA_FIND_VALUE, .ZERO, Walk.sampleId 0⟩⟩,
    ⟨secondContact.addr, ⟨KADEMLIA_FIND_VALUE, .ZERO, secondId⟩⟩]
  phase := .finished

def sampleWalkEvents : List Event :=
  [.launch, .answered (Walk.sampleId 0) (.ok (.res ⟨.ZERO, [⟨secondId, 0x50010204, 4672, 4662,
    9⟩]⟩)) 4000, .launch, .answered secondId (.ok (.res ⟨.ZERO, []⟩)) 5000]

/-- A response with one rating. -/
def sampleResponse (rating : UInt8) : SearchResOf String :=
  ⟨Walk.sampleId 0, .ZERO, [⟨⟨Vector.replicate 16 rating⟩, [⟨.short 0xF7, .u8 rating⟩]⟩]⟩

/-- A response before the contact was asked is left out, those after it are taken. -/
def sampleSearchEvents : List (Nat × SearchEvent) :=
  [(5100, .check false), (5100, .check false),
    (5200, .received sampleContact.addr (.searchRes (sampleResponse 4))), (5300, .check false),
    (8000, .ended), (8000, .resume), (8010, .sent), (8010, .check false), (8010, .check false),
    (8100, .received sampleContact.addr (.searchRes (sampleResponse 4))), (8100, .check false),
    (9010, .ended), (9010, .resume), (9020, .sent), (9020, .check false), (9020, .check false),
    (9100, .received secondContact.addr (.searchRes (sampleResponse 5)))]

theorem run_sampleWalk : run (Walk.step sampleSearch) (Walk.start sampleSearch [sampleContact])
    sampleWalkEvents = some sampleWalk := by
  have hstart : Walk.start sampleSearch [sampleContact] =
      { candidates := [Walk.newCandidate .ZERO sampleContact]
        seen := [Walk.sampleId 0]
        joinSet := []
        lastLookupResponseAt := none
        queries := []
        phase := .top } := by
    simp [Walk.start, Walk.initialCandidates, Walk.newCandidate, sampleSearch, sampleContact]
  rw [hstart]
  decide +kernel

/-- The phase of the sample at its beginning. -/
def sampleEntered : SearchPhase where
  clock := 5050
  phaseDeadline := 15000
  pendingContacts := [sampleContact, secondContact]
  queriedAddrs := []
  nextEmitAt := 8000
  searchEntries := []
  streamed := []
  sends := []
  position := .top

theorem enter_sample :
    enter (sampleWalk.searchPhaseConfig sampleSearch 10000 50000 true) false 5000 5000 5050 =
      some sampleEntered := by
  decide +kernel

theorem search_phase_disciplined_notes :
    let cfg := sampleWalk.searchPhaseConfig sampleSearch 10000 50000 true
    ∃ s, run (step cfg) sampleEntered sampleSearchEvents = some s ∧
      s.asked.map (fun x => (x.contact, x.at_)) =
        [(sampleContact, 8000), (secondContact, 9010)] ∧
      5000 + SEARCH_JUMPSTART_IDLE_GRACE + (s.asked.length - 1) * SEARCH_JUMPSTART_TICK <
        15000 := by
  intro cfg
  have hmap : (run (step cfg) sampleEntered sampleSearchEvents).map
      (fun s => s.asked.map fun x => (x.contact, x.at_)) =
        some [(sampleContact, 8000), (secondContact, 9010)] := by
    decide +kernel
  obtain ⟨s, hrun, hasked⟩ := Option.map_eq_some_iff.mp hmap
  have hne : s.asked ≠ [] := fun h => by simp [h] at hasked
  exact ⟨s, hrun, hasked,
    (search_phase_disciplined sampleSearch _ _ _ run_sampleWalk 10000 50000 5000 5000 5050 true
      false sampleEntered s _ enter_sample hrun).2.2.2.2 5000 rfl hne⟩

theorem search_phase_delivers_notes :
    let cfg := sampleWalk.searchPhaseConfig sampleSearch 10000 50000 true
    ∃ s, run (step cfg) sampleEntered sampleSearchEvents = some s ∧
      s.delivered cfg = entries (sampleResponse 4) ++ entries (sampleResponse 5) ∧
      s.delivered cfg = outputs (step cfg) (answers cfg) sampleEntered sampleSearchEvents := by
  intro cfg
  have hmap : (run (step cfg) sampleEntered sampleSearchEvents).map (delivered cfg) =
      some (entries (sampleResponse 4) ++ entries (sampleResponse 5)) := by
    decide +kernel
  obtain ⟨s, hrun, hdelivered⟩ := Option.map_eq_some_iff.mp hmap
  exact ⟨s, hrun, hdelivered,
    (search_phase_delivers cfg false 5000 5000 5050 sampleEntered s _ enter_sample hrun).1⟩

end SearchPhase

end Overlord.Kad.Dht
