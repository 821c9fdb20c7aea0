import Overlord.Kad.Proto.Packet
import Overlord.Machine.Run
import Overlord.Net.Addr

/-!
# The pending table of the RPC manager

`RpcManager::request_with_class` puts an entry into a shared table, sends its packet and waits; the
receive loop looks for the oldest entry an inbound packet answers, takes it out and completes it.
Many requests run at once, and each of them can be dropped at either of its two await points: a
traversal that ends aborts its tasks, and callers drop futures.

The model is a machine whose steps are the pieces of this code between two points where another
task can run:

* `start` — a request inserts its entry;
* `sent`, `sendFailed`, `answered`, `channelClosed`, `timeout` — an await of the request ends;
* `remove` — a request on one of its three error paths removes its entry and returns;
* `drop` — a request is dropped while it awaits;
* `receive` — the receive loop matches an inbound packet.

A request is identified by its position in `calls`, which stands for the receiving end of its
channel; the table knows it only by the `u64` it drew from a wrapping counter.  The table is a
`HashMap`, so among entries of the same age the choice of the receive loop is part of its action.

The table is meant to hold waiting requests only, so that no packet which a request waits for is
spent on one that does not.  There are two ways in which this fails.

* Nothing removes the entry of a dropped request.  It stays in the table for good, and as it is
  older than those of later requests to the same peer it takes their answers.
* A request that has timed out, or could not send its packet, removes its entry, but it takes the
  lock for this only after its wait has ended.  A packet that arrives in between is matched with
  the entry of a request that no longer listens.

`RpcState.always_entriesWaited_iff` says that there is no third way: along a run every entry belongs
to a request that waits or is about to remove it (`EntriesWaited`), and every packet that is waited
for reaches a waiting request (`ReachesWaiting`), exactly if the run has neither of the two.
`RpcState.gone_request_takes_answer` has a run for each.
-/

set_option autoImplicit false

namespace Overlord.Kad.Net

open Machine

/-! ## State -/

/-- `PendingEntry`; `tx` is the request at the other end of the channel. -/
structure PendingEntry where
  remoteAddr : SocketAddr
  requestOpcode : UInt8
  expectedOpcode : UInt8
  tx : Nat
  createdAt : Nat
deriving DecidableEq, Repr

/-- How a request returns. -/
inductive Outcome where
  /-- The answer. -/
  | ok (packet : KadPacket)
  /-- `send_with_class` failed. -/
  | sendError
  /-- `NetError::ChannelClosed`. -/
  | channelClosed
  /-- `NetError::Timeout`. -/
  | timeout
deriving DecidableEq, Repr

/-- Where a request is. -/
inductive Phase where
  /-- It awaits `send_with_class`. -/
  | sending
  /-- It awaits the answer or the timeout. -/
  | waiting
  /-- It is about to remove its entry and return an error. -/
  | leaving (outcome : Outcome)
  /-- It returned. -/
  | returned (outcome : Outcome)
  /-- It was dropped. -/
  | dropped
deriving DecidableEq, Repr

/-- A call of `request_with_class`. -/
structure Call where
  id : UInt64
  addr : SocketAddr
  expectedOpcode : UInt8
  phase : Phase
  /-- What the receive loop sent into the channel. -/
  inbox : Option KadPacket
deriving DecidableEq, Repr

/-- The caller waits for the answer. -/
def Call.StillWaiting (call : Call) : Prop := call.phase = .sending ∨ call.phase = .waiting

/-- The wait is over without an answer, and the request is about to remove its entry. -/
def Call.Leaving (call : Call) : Prop := ∃ outcome, call.phase = .leaving outcome

theorem Call.StillWaiting.not_leaving {call : Call} (h : call.StillWaiting) : ¬ call.Leaving := by
  rintro ⟨outcome, hleaving⟩
  rcases h with h | h
  · cases h.symm.trans hleaving
  · cases h.symm.trans hleaving

/-- The shared table and the requests around it. -/
structure RpcState where
  pending : List (UInt64 × PendingEntry)
  nextId : UInt64
  calls : List Call
deriving DecidableEq, Repr

namespace RpcState

/-- No request yet. -/
def init : RpcState := ⟨[], 0, []⟩

/-- `HashMap::remove`. -/
def removePending (id : UInt64) (pending : List (UInt64 × PendingEntry)) :
    List (UInt64 × PendingEntry) :=
  pending.filter fun p => p.1 ≠ id

/-- `HashMap::insert`. -/
def insertPending (id : UInt64) (entry : PendingEntry) (pending : List (UInt64 × PendingEntry)) :
    List (UInt64 × PendingEntry) :=
  removePending id pending ++ [(id, entry)]

/-- The entries an inbound packet may answer: those for its very address, or, when there are none,
those for its IP. -/
def candidates (pending : List (UInt64 × PendingEntry)) (source : SocketAddr)
    (responseOpcode : UInt8) : List (UInt64 × PendingEntry) :=
  let exact := pending.filter fun p =>
    p.2.remoteAddr = source ∧ p.2.expectedOpcode = responseOpcode
  if exact.isEmpty then
    pending.filter fun p => p.2.remoteAddr.ip = source.ip ∧ p.2.expectedOpcode = responseOpcode
  else exact

/-- The inbound packet is matched with this entry: it is an oldest one of the candidates. -/
def Matches (pending : List (UInt64 × PendingEntry)) (source : SocketAddr) (responseOpcode : UInt8)
    (p : UInt64 × PendingEntry) : Prop :=
  p ∈ candidates pending source responseOpcode ∧
    ∀ q ∈ candidates pending source responseOpcode, p.2.createdAt ≤ q.2.createdAt

instance (pending : List (UInt64 × PendingEntry)) (source : SocketAddr) (responseOpcode : UInt8)
    (p : UInt64 × PendingEntry) : Decidable (Matches pending source responseOpcode p) :=
  inferInstanceAs (Decidable (_ ∧ _))

/-- Change one call. -/
def update (s : RpcState) (token : Nat) (f : Call → Call) : RpcState :=
  { s with calls := s.calls.modify token f }

/-- Move one call to another phase. -/
def setPhase (s : RpcState) (token : Nat) (phase : Phase) : RpcState :=
  s.update token fun call => { call with phase := phase }

/-! ## Steps -/

/-- What can happen between two points where tasks interleave. -/
inductive Event where
  | start (addr : SocketAddr) (requestOpcode expectedOpcode : UInt8) (now : Nat)
  | sent (token : Nat)
  | sendFailed (token : Nat)
  | answered (token : Nat)
  | channelClosed (token : Nat)
  | timeout (token : Nat)
  | remove (token : Nat)
  | drop (token : Nat)
  | receive (source : SocketAddr) (packet : KadPacket) (pick : Option (UInt64 × PendingEntry))
deriving DecidableEq, Repr

/-- One step. -/
def step (s : RpcState) : Event → Option RpcState
  | .start addr requestOpcode expectedOpcode now =>
    some {
      pending := insertPending s.nextId
        ⟨addr, requestOpcode, expectedOpcode, s.calls.length, now⟩ s.pending
      nextId := s.nextId + 1
      calls := s.calls ++ [⟨s.nextId, addr, expectedOpcode, .sending, none⟩] }
  | .sent token => do
    let call ← s.calls[token]?
    if call.phase = .sending then some (s.setPhase token .waiting) else none
  | .sendFailed token => do
    let call ← s.calls[token]?
    if call.phase = .sending then some (s.setPhase token (.leaving .sendError)) else none
  | .answered token => do
    let call ← s.calls[token]?
    let packet ← call.inbox
    if call.phase = .waiting then some (s.setPhase token (.returned (.ok packet))) else none
  | .channelClosed token => do
    -- the sender is gone when its entry was overwritten or removed by another request
    let call ← s.calls[token]?
    if call.phase = .waiting ∧ call.inbox = none ∧ ∀ p ∈ s.pending, p.2.tx ≠ token then
      some (s.setPhase token (.leaving .channelClosed))
    else none
  | .timeout token => do
    let call ← s.calls[token]?
    if call.phase = .waiting ∧ call.inbox = none then
      some (s.setPhase token (.leaving .timeout))
    else none
  | .remove token => do
    let call ← s.calls[token]?
    match call.phase with
    | .leaving outcome =>
      some { s.setPhase token (.returned outcome) with pending := removePending call.id s.pending }
    | _ => none
  | .drop token => do
    let call ← s.calls[token]?
    if call.phase = .sending ∨ call.phase = .waiting then some (s.setPhase token .dropped) else none
  | .receive source packet pick =>
    match pick with
    | none => if candidates s.pending source packet.opcode = [] then some s else none
    | some p =>
      if Matches s.pending source packet.opcode p then
        some { s.update p.2.tx fun call => { call with inbox := some packet } with
          pending := removePending p.1 s.pending }
      else none

/-! ## What the table is meant to hold -/

/-- Every entry of the table belongs to a request whose caller is still waiting, or which is about
to remove it: none is left behind. -/
def EntriesWaited (s : RpcState) : Prop :=
  ∀ p ∈ s.pending, ∃ call, s.calls[p.2.tx]? = some call ∧ (call.StillWaiting ∨ call.Leaving)

/-- Some request waits for such a packet from this address. -/
def Awaited (s : RpcState) (source : SocketAddr) (packet : KadPacket) : Prop :=
  ∃ call ∈ s.calls, call.StillWaiting ∧ call.addr = source ∧ call.expectedOpcode = packet.opcode

/-- A packet that some request waits for is not spent on one that no longer waits. -/
def ReachesWaiting (s : RpcState) : Event → Prop
  | .receive source packet (some p) =>
    s.Awaited source packet → ∃ call, s.calls[p.2.tx]? = some call ∧ call.StillWaiting
  | _ => True

/-- Background: an entry stands under the number its request drew, and a request that was answered
has no entry left. -/
structure Linked (s : RpcState) : Prop where
  /-- Entries are filed under the number of their request. -/
  key : ∀ p ∈ s.pending, ∃ call, s.calls[p.2.tx]? = some call ∧ call.id = p.1
  /-- An answered request has no entry. -/
  inbox : ∀ token call, s.calls[token]? = some call → call.inbox ≠ none →
    ∀ p ∈ s.pending, p.2.tx ≠ token

/-- A request is dropped only when its entry is gone. -/
def DropsClean (s : RpcState) : Event → Prop
  | .drop token => ∀ p ∈ s.pending, p.2.tx ≠ token
  | _ => True

/-- No packet that some request waits for is matched between the end of the wait of another request
and the removal of its entry, with that entry. -/
def MatchesInTime (s : RpcState) : Event → Prop
  | .receive source packet (some p) =>
    s.Awaited source packet → ∀ call, s.calls[p.2.tx]? = some call → ¬ call.Leaving
  | _ => True

section Updates

variable {s : RpcState} {token : Nat}

theorem calls_update (s : RpcState) (token : Nat) (f : Call → Call) (i : Nat) :
    (s.update token f).calls[i]? = if token = i then s.calls[i]?.map f else s.calls[i]? := by
  rw [update, List.getElem?_modify]
  split_ifs <;> simp

/-- The call an updated call comes from. -/
theorem exists_call_of_update {f : Call → Call} {i : Nat} {call : Call}
    (h : (s.update token f).calls[i]? = some call) :
    ∃ call₀, s.calls[i]? = some call₀ ∧ (call = call₀ ∨ call = f call₀) := by
  rw [calls_update] at h
  split_ifs at h
  · obtain ⟨call₀, h₀, rfl⟩ := Option.map_eq_some_iff.mp h
    exact ⟨call₀, h₀, .inr rfl⟩
  · exact ⟨call, h, .inl rfl⟩

theorem linked_setPhase (hl : Linked s) (phase : Phase) : Linked (s.setPhase token phase) where
  key p hp := by
    obtain ⟨call, hcall, hid⟩ := hl.key p hp
    rw [setPhase, calls_update, hcall]
    split_ifs
    · exact ⟨_, rfl, hid⟩
    · exact ⟨call, rfl, hid⟩
  inbox t call hcall hinbox p hp := by
    obtain ⟨call₀, h₀, rfl | rfl⟩ := exists_call_of_update hcall
    · exact hl.inbox t _ h₀ hinbox p hp
    · exact hl.inbox t call₀ h₀ hinbox p hp

/-- Removing entries never unlinks the rest. -/
theorem Linked.removePending (hl : Linked s) (id : UInt64) :
    Linked { s with pending := removePending id s.pending } where
  key p hp := hl.key p (List.mem_of_mem_filter hp)
  inbox t call hcall hinbox p hp := hl.inbox t call hcall hinbox p (List.mem_of_mem_filter hp)

/-- The requests left in the table after a removal drew another number. -/
theorem tx_ne_of_mem_removePending (hl : Linked s) {call : Call}
    (hcall : s.calls[token]? = some call) {p : UInt64 × PendingEntry}
    (hp : p ∈ RpcState.removePending call.id s.pending) : p.2.tx ≠ token := by
  rintro rfl
  obtain ⟨hmem, hne⟩ := List.mem_filter.mp hp
  obtain ⟨call', hcall', hid⟩ := hl.key p hmem
  rw [hcall, Option.some.injEq] at hcall'
  subst hcall'
  exact absurd hid.symm (by simpa using hne)

/-- A call that goes on waiting, or to the removal of its entry, keeps it covered. -/
theorem entriesWaited_setPhase (hw : EntriesWaited s) {phase : Phase}
    (hphase : phase = .waiting ∨ ∃ outcome, phase = .leaving outcome) :
    EntriesWaited (s.setPhase token phase) := by
  intro p hp
  obtain ⟨call, hcall, hwait⟩ := hw p hp
  rw [setPhase, calls_update, hcall]
  split_ifs
  · exact ⟨_, rfl, hphase.imp_left .inr⟩
  · exact ⟨call, rfl, hwait⟩

/-- A call without an entry may go anywhere. -/
theorem entriesWaited_of_tx_ne {pending : List (UInt64 × PendingEntry)}
    (hw : EntriesWaited s) (hsub : ∀ p ∈ pending, p ∈ s.pending)
    (hne : ∀ p ∈ pending, p.2.tx ≠ token) (f : Call → Call) :
    EntriesWaited { s.update token f with pending := pending } := by
  intro p hp
  obtain ⟨call, hcall, hwait⟩ := hw p (hsub p hp)
  refine ⟨call, ?_, hwait⟩
  show (s.update token f).calls[p.2.tx]? = some call
  rw [calls_update, if_neg (hne p hp).symm, hcall]

end Updates

/-! ## One step -/

/-- The entry the receive loop takes out is filed under the number of its request. -/
theorem Matches.mem {pending : List (UInt64 × PendingEntry)} {source : SocketAddr} {op : UInt8}
    {p : UInt64 × PendingEntry} (h : Matches pending source op p) : p ∈ pending := by
  have hmem := h.1
  rw [candidates] at hmem
  split_ifs at hmem
  · exact List.mem_of_mem_filter hmem
  · exact List.mem_of_mem_filter hmem

/-- What a step can do. -/
inductive Effect (s : RpcState) : Event → RpcState → Prop
  /-- A request inserts its entry. -/
  | start (addr : SocketAddr) (requestOpcode expectedOpcode : UInt8) (now : Nat) :
    Effect s (.start addr requestOpcode expectedOpcode now) {
      pending := insertPending s.nextId
        ⟨addr, requestOpcode, expectedOpcode, s.calls.length, now⟩ s.pending
      nextId := s.nextId + 1
      calls := s.calls ++ [⟨s.nextId, addr, expectedOpcode, .sending, none⟩] }
  /-- A request goes on to wait, or to the removal of its entry. -/
  | goesOn {ev : Event} (token : Nat) {phase : Phase}
    (hphase : phase = .waiting ∨ ∃ outcome, phase = .leaving outcome) (hev : DropsClean s ev) :
    Effect s ev (s.setPhase token phase)
  /-- A request returns its answer. -/
  | answered {token : Nat} {call : Call} {packet : KadPacket}
    (hcall : s.calls[token]? = some call) (hinbox : call.inbox = some packet) :
    Effect s (.answered token) (s.setPhase token (.returned (.ok packet)))
  /-- A request removes its entry and returns an error. -/
  | remove {token : Nat} {call : Call} {outcome : Outcome} (hcall : s.calls[token]? = some call) :
    Effect s (.remove token) { s.setPhase token (.returned outcome) with
      pending := removePending call.id s.pending }
  /-- A request is dropped. -/
  | drop {token : Nat} {call : Call} (hcall : s.calls[token]? = some call) :
    Effect s (.drop token) (s.setPhase token .dropped)
  /-- An inbound packet answers nothing. -/
  | unmatched (source : SocketAddr) (packet : KadPacket) : Effect s (.receive source packet none) s
  /-- An inbound packet answers an entry. -/
  | matched {source : SocketAddr} {packet : KadPacket} {p : UInt64 × PendingEntry}
    (h : Matches s.pending source packet.opcode p) :
    Effect s (.receive source packet (some p))
      { s.update p.2.tx fun call => { call with inbox := some packet } with
        pending := removePending p.1 s.pending }

theorem effect_of_step {s s' : RpcState} {ev : Event} (h : step s ev = some s') :
    Effect s ev s' := by
  cases ev with
  | start addr requestOpcode expectedOpcode now =>
    cases h
    exact .start ..
  | sent token =>
    obtain ⟨call, hcall, h⟩ := Option.bind_eq_some_iff.mp h
    split_ifs at h
    cases h
    exact .goesOn token (.inl rfl) trivial
  | sendFailed token =>
    obtain ⟨call, hcall, h⟩ := Option.bind_eq_some_iff.mp h
    split_ifs at h
    cases h
    exact .goesOn token (.inr ⟨_, rfl⟩) trivial
  | answered token =>
    obtain ⟨call, hcall, h⟩ := Option.bind_eq_some_iff.mp h
    obtain ⟨packet, hpacket, h⟩ := Option.bind_eq_some_iff.mp h
    split_ifs at h
    cases h
    exact .answered hcall hpacket
  | channelClosed token =>
    obtain ⟨call, hcall, h⟩ := Option.bind_eq_some_iff.mp h
    split_ifs at h
    cases h
    exact .goesOn token (.inr ⟨_, rfl⟩) trivial
  | timeout token =>
    obtain ⟨call, hcall, h⟩ := Option.bind_eq_some_iff.mp h
    split_ifs at h
    cases h
    exact .goesOn token (.inr ⟨_, rfl⟩) trivial
  | remove token =>
    obtain ⟨call, hcall, h⟩ := Option.bind_eq_some_iff.mp h
    split at h
    · cases h
      exact .remove hcall
    · cases h
  | drop token =>
    obtain ⟨call, hcall, h⟩ := Option.bind_eq_some_iff.mp h
    split_ifs at h
    cases h
    exact .drop hcall
  | receive source packet pick =>
    cases pick with
    | none =>
      rw [step] at h
      split_ifs at h
      cases h
      exact .unmatched source packet
    | some p =>
      rw [step] at h
      split_ifs at h with hmatch
      cases h
      exact .matched hmatch

/-- The entry of a new request is filed under its number, and nothing has answered it yet. -/
theorem Linked.start {s : RpcState} (hl : Linked s) (addr : SocketAddr)
    (requestOpcode expectedOpcode : UInt8) (now : Nat) :
    Linked {
      pending := insertPending s.nextId
        ⟨addr, requestOpcode, expectedOpcode, s.calls.length, now⟩ s.pending
      nextId := s.nextId + 1
      calls := s.calls ++ [⟨s.nextId, addr, expectedOpcode, .sending, none⟩] } where
  key p hp := by
    rcases List.mem_append.mp hp with hp | hp
    · obtain ⟨call, hcall, hid⟩ := hl.key p (List.mem_of_mem_filter hp)
      have hold := (List.getElem?_eq_some_iff.mp hcall).1
      exact ⟨call, by rw [List.getElem?_append_left hold, hcall], hid⟩
    · rw [List.mem_singleton.mp hp]
      exact ⟨_, List.getElem?_concat_length, rfl⟩
  inbox t call hcall hinbox p hp := by
    rcases lt_or_ge t s.calls.length with ht | ht
    · rw [List.getElem?_append_left ht] at hcall
      rcases List.mem_append.mp hp with hp | hp
      · exact hl.inbox t call hcall hinbox p (List.mem_of_mem_filter hp)
      · rw [List.mem_singleton.mp hp]
        exact ht.ne'
    · rw [List.getElem?_append_right ht] at hcall
      rw [List.mem_singleton.mp (List.mem_of_getElem? hcall)] at hinbox
      exact absurd rfl hinbox

/-- A request that is answered loses its entry. -/
theorem Linked.matched {s : RpcState} (hl : Linked s) {p : UInt64 × PendingEntry}
    (hp : p ∈ s.pending) (packet : KadPacket) :
    Linked { s.update p.2.tx fun call => { call with inbox := some packet } with
      pending := RpcState.removePending p.1 s.pending } where
  key q hq := by
    obtain ⟨c, hc, hcid⟩ := hl.key q (List.mem_of_mem_filter hq)
    show ∃ c', (s.update _ _).calls[q.2.tx]? = some c' ∧ c'.id = q.1
    rw [calls_update, hc]
    split_ifs
    · exact ⟨_, rfl, hcid⟩
    · exact ⟨c, rfl, hcid⟩
  inbox t call' hcall' hinbox q hq := by
    obtain ⟨call, hcall, hid⟩ := hl.key p hp
    -- the answered request lost its entry in this very step, the others had none before
    have hother : q.2.tx ≠ p.2.tx := tx_ne_of_mem_removePending hl hcall (hid ▸ hq)
    change (s.update _ _).calls[t]? = some call' at hcall'
    rw [calls_update] at hcall'
    split_ifs at hcall' with ht
    · exact ht ▸ hother
    · exact hl.inbox t call' hcall' hinbox q (List.mem_of_mem_filter hq)

theorem linked_step {s s' : RpcState} {ev : Event} (hl : Linked s) (h : step s ev = some s') :
    Linked s' := by
  cases effect_of_step h with
  | start addr requestOpcode expectedOpcode now => exact hl.start ..
  | goesOn token hphase hev => exact linked_setPhase hl _
  | answered hcall hinbox => exact linked_setPhase hl _
  | remove hcall => exact (linked_setPhase hl _).removePending _
  | drop hcall => exact linked_setPhase hl _
  | unmatched source packet => exact hl
  | matched hmatch => exact hl.matched hmatch.mem _

/-- **A step keeps the table to waiting requests exactly when it is not an unclean drop.** -/
theorem entriesWaited_step_iff {s s' : RpcState} {ev : Event} (hl : Linked s)
    (hw : EntriesWaited s) (h : step s ev = some s') : EntriesWaited s' ↔ DropsClean s ev := by
  cases effect_of_step h with
  | start addr requestOpcode expectedOpcode now =>
    refine iff_of_true (fun p hp => ?_) trivial
    rcases List.mem_append.mp hp with hp | hp
    · obtain ⟨call, hcall, hwait⟩ := hw p (List.mem_of_mem_filter hp)
      refine ⟨call, ?_, hwait⟩
      rw [List.getElem?_append_left (List.getElem?_eq_some_iff.mp hcall).1, hcall]
    · rw [List.mem_singleton.mp hp]
      exact ⟨_, List.getElem?_concat_length, .inl (.inl rfl)⟩
  | goesOn token hphase hev => exact iff_of_true (entriesWaited_setPhase hw hphase) hev
  | @answered token call packet hcall hinbox =>
    refine iff_of_true ?_ trivial
    exact entriesWaited_of_tx_ne hw (fun _ hp => hp)
      (hl.inbox token call hcall (by rw [hinbox]; simp)) _
  | remove hcall =>
    refine iff_of_true ?_ trivial
    exact entriesWaited_of_tx_ne hw (fun _ hp => List.mem_of_mem_filter hp)
      (fun _ hp => tx_ne_of_mem_removePending hl hcall hp) _
  | @drop token call hcall =>
    constructor
    · rintro hw' p hp rfl
      obtain ⟨call', hcall', hwait⟩ := hw' p hp
      rw [setPhase, calls_update, if_pos rfl, hcall, Option.map_some, Option.some.injEq] at hcall'
      subst hcall'
      simp [Call.StillWaiting, Call.Leaving] at hwait
    · exact fun hclean => entriesWaited_of_tx_ne hw (fun _ hp => hp) hclean _
  | unmatched source packet => exact iff_of_true hw trivial
  | @matched source packet p hmatch =>
    obtain ⟨call, hcall, hid⟩ := hl.key p hmatch.mem
    refine iff_of_true ?_ trivial
    exact entriesWaited_of_tx_ne hw (fun _ hp => List.mem_of_mem_filter hp)
      (fun _ hp => tx_ne_of_mem_removePending hl hcall (hid ▸ hp)) _

/-! ## Every run -/

theorem linked_init : Linked init := ⟨by simp [init], by simp [init]⟩

theorem entriesWaited_init : EntriesWaited init := by simp [EntriesWaited, init]

/-- While no entry is left behind, a packet goes astray only at a request that is about to remove
its entry. -/
theorem reachesWaiting_iff {s s' : RpcState} {ev : Event} (hw : EntriesWaited s)
    (h : step s ev = some s') : ReachesWaiting s ev ↔ MatchesInTime s ev := by
  cases ev with
  | receive source packet pick =>
    cases pick with
    | none => exact Iff.rfl
    | some p =>
      rw [step] at h
      split_ifs at h with hmatch
      obtain ⟨call, hcall, hwait⟩ := hw p hmatch.mem
      refine imp_congr_right fun _ => ⟨?_, fun htime => ?_⟩
      · rintro ⟨call', hcall', hwait'⟩ call'' hcall''
        rw [hcall', Option.some.injEq] at hcall''
        exact hcall'' ▸ hwait'.not_leaving
      · exact ⟨call, hcall, hwait.resolve_right (htime call hcall)⟩
  | _ => exact Iff.rfl

/-- **How the pending table loses answers.**  Along every interleaving, every entry belongs to a
request that still waits or is about to remove it, and no packet that a request waits for is spent
on another one that no longer waits, if and only if no request is dropped while its entry is in the
table, and no packet that a request waits for is matched with an entry between the end of its
request's wait and its removal. -/
theorem always_entriesWaited_iff (events : List Event) :
    Always step EntriesWaited init events ∧ Meets step ReachesWaiting init events ↔
      Meets step (fun s ev => DropsClean s ev ∧ MatchesInTime s ev) init events := by
  have hdrops : Always step EntriesWaited init events ↔ Meets step DropsClean init events :=
    always_iff_meets (fun _ _ _ => linked_step) (fun _ _ _ => entriesWaited_step_iff) linked_init
      entriesWaited_init
  rw [meets_and, ← hdrops]
  refine and_congr_right fun hwaited => ?_
  exact hwaited.meets_congr fun s ev s' => reachesWaiting_iff

/-- A peer. -/
def peer : SocketAddr := .v4 (.new 192 0 2 1) 4672

/-- Two lookups of the same peer; the first is dropped while it waits. -/
def staleRun : List Event :=
  [.start peer opcode.REQ opcode.RES 0, .sent 0, .drop 0, .start peer opcode.REQ opcode.RES 1,
    .sent 1]

/-- Two lookups of the same peer; the first has timed out and not removed its entry yet. -/
def expiredRun : List Event :=
  [.start peer opcode.REQ opcode.RES 0, .sent 0, .start peer opcode.REQ opcode.RES 1, .sent 1,
    .timeout 0]

/-- The entry of the first lookup. -/
def firstEntry : UInt64 × PendingEntry := (0, ⟨peer, opcode.REQ, opcode.RES, 0, 0⟩)

/-- The entry of the second. -/
def secondEntry : UInt64 × PendingEntry := (1, ⟨peer, opcode.REQ, opcode.RES, 1, 1⟩)

/-- An answer of the peer goes to the older of the two entries. -/
theorem matches_firstEntry_iff (p : UInt64 × PendingEntry) :
    Matches [firstEntry, secondEntry] peer opcode.RES p ↔ p = firstEntry := by
  constructor
  · rintro ⟨hmem, hold⟩
    have hle := hold firstEntry (by decide)
    rcases List.mem_cons.mp hmem with rfl | hmem
    · rfl
    · rw [List.mem_singleton.mp hmem] at hle
      exact absurd hle (by decide)
  · rintro rfl
    decide

/-- **A request that is gone takes the answer of a waiting one.**  After `staleRun` and after
`expiredRun` the second request still waits, and the peer's answer can only be matched with the
entry of the first, which was dropped or has timed out. -/
theorem gone_request_takes_answer :
    (∃ s, run step init staleRun = some s ∧ ¬ EntriesWaited s ∧
      (∃ call, s.calls[1]? = some call ∧ call.StillWaiting ∧ call.addr = peer ∧
        call.expectedOpcode = opcode.RES) ∧
      (∀ p, Matches s.pending peer opcode.RES p ↔ p = firstEntry) ∧
      (s.calls[firstEntry.2.tx]?).map Call.phase = some .dropped) ∧
    ∃ s, run step init expiredRun = some s ∧
      (∃ call, s.calls[1]? = some call ∧ call.StillWaiting ∧ call.addr = peer ∧
        call.expectedOpcode = opcode.RES) ∧
      (∀ p, Matches s.pending peer opcode.RES p ↔ p = firstEntry) ∧
      (s.calls[firstEntry.2.tx]?).map Call.phase = some (.leaving .timeout) := by
  refine ⟨⟨_, rfl, fun hw => ?_, ⟨_, rfl, .inr rfl, rfl, rfl⟩, matches_firstEntry_iff, rfl⟩,
    ⟨_, rfl, ⟨_, rfl, .inr rfl, rfl, rfl⟩, matches_firstEntry_iff, rfl⟩⟩
  obtain ⟨call, hcall, hwait⟩ := hw firstEntry (by decide)
  cases hcall
  simp [Call.StillWaiting, Call.Leaving] at hwait

end RpcState

end Overlord.Kad.Net
