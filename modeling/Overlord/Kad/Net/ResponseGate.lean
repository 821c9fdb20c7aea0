import Overlord.Kad.Net.Receive
import Overlord.Machine.Run

/-!
# The gate for responses

A response that no request waits for is let through only if a request that was sent vouches for it.
The machine here (`Gate`) is the manager of the receive loop together with a book of what has
happened: the requests that were sent, those among them that have not been consumed, and the
responses that were let through.  A lookup consumes the newest request for the address and the
opcode it finds.

The tracker is a window into the book (`Gate.Tracks`): what a lookup sees, after cutting off what is
too old, are the requests of the last three minutes that are not consumed, as far as the tracker
records them.  This needs the order of the deque, as entries are cut off at its back only.

* `responses_vouched` — every response that was let through has a request of its own.
* `requests_vouch_iff` — a request that is not consumed vouches for its response exactly if it is
  not one of the two firewall checks, which are paired with a response but not recorded.
-/

set_option autoImplicit false

namespace Overlord.Kad.Net

open Machine Wire

/-! ## The book -/

/-- A request in the order of sending. -/
structure SentRequest extends OutboundRequestEntry where
  serial : Nat
deriving DecidableEq, Repr

/-- A response that was let through. -/
structure AcceptedResponse where
  receivedAt : Nat
  ip : IpAddr
  opcode : UInt8
  /-- The opcode of the tracked request. -/
  tracked : Option UInt8
  /-- How many requests had been sent. -/
  sentBefore : Nat
deriving DecidableEq, Repr

/-- The request vouches for the response. -/
structure AcceptedResponse.VouchedBy (response : AcceptedResponse) (serial : Nat)
    (request : OutboundRequestEntry) : Prop where
  earlier : serial < response.sentBefore
  ip : request.ip = response.ip
  paired : request.opcode ∈ pairedRequests response.opcode
  tracked : response.tracked = some request.opcode
  past : request.insertedAt ≤ response.receivedAt
  recent : response.receivedAt - request.insertedAt < (Duration.fromSecs 180).nanos

structure Gate where
  manager : RpcManager
  clock : Nat
  /-- All that was sent. -/
  sent : List OutboundRequestEntry
  /-- What was sent and not consumed, the newest first. -/
  outstanding : List SentRequest
  /-- The responses that were forwarded, or matched with a tracked request. -/
  accepted : List AcceptedResponse

inductive GateEvent where
  /-- `send_with_class`. -/
  | send (addr : SocketAddr) (packet : KadPacket) (now : Nat)
  | receive (source : SocketAddr) (data : Bytes) (pick : Option (UInt64 × PendingEntry)) (now : Nat)
  /-- Anything else that happens to the pending table. -/
  | rpc (event : RpcState.Event)
  | registerPeerIdentity (addr : SocketAddr) (nodeId : NodeId)
  | registerPeerVersion (addr : SocketAddr) (kadVersion : UInt8)
  | registerPeerKey (addr : SocketAddr) (key : UInt32)

/-- The tracked request of a packet that was not dropped. -/
def Verdict.tracked : Verdict → Option UInt8
  | .matched tracked | .forwarded _ tracked => tracked
  | _ => none

/-- The packet was forwarded, or matched with a tracked request. -/
def Verdict.accepts : Verdict → Bool
  | .matched tracked => tracked.isSome
  | .forwarded _ _ => true
  | _ => false

namespace Gate

def init (obfuscation : ObfuscationLayer) (config : RpcConfig) : Gate :=
  ⟨.new obfuscation config, 0, [], [], []⟩

variable (pf : Platform) (md5 : Bytes → Vector UInt8 16)

/-- The book after a datagram. -/
def book (g : Gate) (source : SocketAddr) (data : Bytes) (now : Nat) (verdict : Verdict)
    (manager : RpcManager) : Gate where
  manager := manager
  clock := now
  sent := g.sent
  outstanding :=
    match verdict.tracked with
    | some op => g.outstanding.eraseP fun request => request.isFor source.ip op
    | none => g.outstanding
  accepted :=
    match KadPacket.decode pf (g.manager.obfuscation.decrypt md5 source data).data with
    | .error _ => g.accepted
    | .ok packet =>
      if isTrackedResponseOpcode packet.opcode && verdict.accepts then
        g.accepted ++ [⟨now, source.ip, packet.opcode, verdict.tracked, g.sent.length⟩]
      else g.accepted

def step (g : Gate) : GateEvent → Option Gate
  | .send addr packet now =>
    if now < g.clock then none
    else
      match packet.encode with
      | .error _ => some { g with clock := now }
      | .ok _ =>
        let entry : OutboundRequestEntry := ⟨now, addr.ip, packet.opcode⟩
        some { g with
          manager := { g.manager with
            outboundTracker := g.manager.outboundTracker.record now addr.ip packet.opcode }
          clock := now
          sent := g.sent ++ [entry]
          outstanding := ⟨entry, g.sent.length⟩ :: g.outstanding }
  | .receive source data pick now =>
    if now < g.clock then none
    else (g.manager.receive pf md5 source data pick now).map fun result =>
      g.book pf md5 source data now result.1 result.2
  | .rpc (.receive _ _ _) => none
  | .rpc event => (g.manager.rpc.step event).map fun rpc =>
      { g with manager := { g.manager with rpc := rpc } }
  | .registerPeerIdentity addr nodeId => some { g with manager := { g.manager with
      obfuscation := g.manager.obfuscation.registerPeerIdentity addr nodeId } }
  | .registerPeerVersion addr kadVersion => some { g with manager := { g.manager with
      obfuscation := g.manager.obfuscation.registerPeerVersion addr kadVersion } }
  | .registerPeerKey addr key => some { g with manager := { g.manager with
      obfuscation := g.manager.obfuscation.registerPeerKey addr key } }

end Gate

/-! ## The tracker is a window into the book -/

/-- How long a request is remembered. -/
def trackingWindow : Nat := (Duration.fromSecs 180).nanos

/-- The request is not too old. -/
def OutboundRequestEntry.fresh (now : Nat) : OutboundRequestEntry → Bool :=
  Aged.fresh OutboundRequestEntry.insertedAt trackingWindow now

/-- What the tracker should have at a time. -/
def live (now : Nat) (outstanding : List SentRequest) : List OutboundRequestEntry :=
  (outstanding.filter fun request =>
    tracksOutboundRequestOpcode request.opcode && request.fresh now).map
      (·.toOutboundRequestEntry)

namespace Gate

variable {pf : Platform} {md5 : Bytes → Vector UInt8 16} {g g' : Gate} {now : Nat} {ip : IpAddr}
  {op : UInt8}

/-- The tracker agrees with the book about what is not too old. -/
structure Tracks (g : Gate) : Prop where
  window : g.manager.outboundTracker.window = .fromSecs 180
  newestFirst : Aged.NewestFirst OutboundRequestEntry.insertedAt g.manager.outboundTracker.entries
  past : ∀ entry ∈ g.manager.outboundTracker.entries, entry.insertedAt ≤ g.clock
  bookNewestFirst : Aged.NewestFirst (fun request : SentRequest => request.insertedAt) g.outstanding
  bookPast : ∀ request ∈ g.outstanding, request.insertedAt ≤ g.clock
  same : g.manager.outboundTracker.entries.filter (·.fresh g.clock) = live g.clock g.outstanding

theorem filter_live {clock : Nat} (hle : clock ≤ now) (outstanding : List SentRequest) :
    (live clock outstanding).filter (·.fresh now) = live now outstanding := by
  rw [live, List.filter_map, List.filter_filter, live]
  congr 1
  refine List.filter_congr fun request _ => ?_
  have hmono : request.fresh now = true → request.fresh clock = true := by
    intro hfresh
    rw [OutboundRequestEntry.fresh, Aged.fresh_iff] at hfresh ⊢
    omega
  rw [Function.comp_apply, Bool.eq_iff_iff]
  simp only [Bool.and_eq_true]
  tauto

/-- **What a lookup sees.** -/
theorem Tracks.prune_entries (h : g.Tracks) (hle : g.clock ≤ now) :
    (g.manager.outboundTracker.prune now).entries = live now g.outstanding := by
  have hprune : (g.manager.outboundTracker.prune now).entries =
      Aged.prune OutboundRequestEntry.insertedAt trackingWindow now
        g.manager.outboundTracker.entries := by
    rw [OutboundRequestTracker.prune, Aged.prune, h.window]
    dsimp only
    congr 1
    funext entry
    rw [Aged.fresh, ← decide_not]
    exact decide_eq_decide.mpr Nat.not_lt.symm
  rw [hprune, Aged.prune_eq_filter h.newestFirst, ← Aged.filter_fresh_fresh hle]
  exact (congrArg (List.filter _) h.same).trans (filter_live hle g.outstanding)

theorem opcode_of_isFor {entry : OutboundRequestEntry} (h : entry.isFor ip op = true) :
    entry.ip = ip ∧ entry.opcode = op := by
  simpa [OutboundRequestEntry.isFor] using h

/-- A lookup succeeds exactly if there is a request that is recorded and not too old. -/
theorem Tracks.any_iff (h : g.Tracks) (hle : g.clock ≤ now) :
    (g.manager.outboundTracker.prune now).entries.any (OutboundRequestEntry.isFor ip op) = true ↔
      tracksOutboundRequestOpcode op = true ∧
        ∃ request ∈ g.outstanding, request.isFor ip op = true ∧ request.fresh now = true := by
  rw [h.prune_entries hle, List.any_eq_true]
  constructor
  · rintro ⟨entry, hentry, hfor⟩
    obtain ⟨request, hrequest, rfl⟩ := List.mem_map.mp hentry
    obtain ⟨hmem, hlive⟩ := List.mem_filter.mp hrequest
    obtain ⟨htracks, hfresh⟩ := (Bool.and_eq_true _ _).mp hlive
    exact ⟨(opcode_of_isFor hfor).2 ▸ htracks, request, hmem, hfor, hfresh⟩
  · rintro ⟨htracks, request, hmem, hfor, hfresh⟩
    refine ⟨request.toOutboundRequestEntry, List.mem_map.mpr ⟨request, ?_, rfl⟩, hfor⟩
    refine List.mem_filter.mpr ⟨hmem, (Bool.and_eq_true _ _).mpr ⟨?_, hfresh⟩⟩
    rw [(opcode_of_isFor hfor).2]
    exact htracks

/-- The newest request of an opcode is consumed, here and there. -/
theorem Tracks.take (h : g.Tracks) (hle : g.clock ≤ now)
    (hany : (g.manager.outboundTracker.prune now).entries.any
      (OutboundRequestEntry.isFor ip op) = true) :
    (∃ request, g.outstanding.find? (fun request => request.isFor ip op) = some request ∧
      request.fresh now = true) ∧
    (g.manager.outboundTracker.prune now).entries.eraseP (OutboundRequestEntry.isFor ip op) =
      live now (g.outstanding.eraseP fun request => request.isFor ip op) := by
  obtain ⟨htracks, other, hother, hfor, hfresh⟩ := (h.any_iff hle).mp hany
  obtain ⟨request, hfind⟩ : ∃ request,
      g.outstanding.find? (fun request => request.isFor ip op) = some request :=
    Option.isSome_iff_exists.mp (List.find?_isSome.mpr ⟨other, hother, hfor⟩)
  -- the first match is at least as new as the one that is fresh
  have hnewest : request.fresh now = true :=
    Aged.fresh_of_le (h.bookNewestFirst.find?_max hfind hother hfor) hfresh
  refine ⟨⟨request, hfind, hnewest⟩, ?_⟩
  have hfound := List.find?_some (p := fun request : SentRequest => request.isFor ip op) hfind
  rw [h.prune_entries hle, live, List.eraseP_map, live, Aged.filter_eraseP hfind]
  · rfl
  · rw [(opcode_of_isFor hfound).2, htracks, hnewest]
    rfl

theorem tracks_init (obfuscation : ObfuscationLayer) (config : RpcConfig) :
    (init obfuscation config).Tracks :=
  ⟨rfl, .nil, fun _ h => absurd h List.not_mem_nil, .nil, fun _ h => absurd h List.not_mem_nil, rfl⟩

/-! ## Steps -/

/-- What a step does to the tracker and to the book. -/
inductive Move (g g' : Gate) : Prop
  /-- Neither is touched. -/
  | rest (htracker : g'.manager.outboundTracker = g.manager.outboundTracker ∨
      g'.manager.outboundTracker = g.manager.outboundTracker.prune g'.clock)
    (hclock : g.clock ≤ g'.clock) (hsent : g'.sent = g.sent)
    (houtstanding : g'.outstanding = g.outstanding) (haccepted : g'.accepted = g.accepted)
  /-- A request is sent. -/
  | sent {entry : OutboundRequestEntry} (hclock : g.clock ≤ g'.clock)
    (hentry : entry.insertedAt = g'.clock)
    (htracker : g'.manager.outboundTracker =
      g.manager.outboundTracker.record g'.clock entry.ip entry.opcode)
    (hsent : g'.sent = g.sent ++ [entry])
    (houtstanding : g'.outstanding = ⟨entry, g.sent.length⟩ :: g.outstanding)
    (haccepted : g'.accepted = g.accepted)
  /-- A request is consumed for a response. -/
  | taken {ip : IpAddr} {op responseOpcode : UInt8} (hclock : g.clock ≤ g'.clock)
    (hpaired : op ∈ pairedRequests responseOpcode)
    (hany : (g.manager.outboundTracker.prune g'.clock).entries.any
      (OutboundRequestEntry.isFor ip op) = true)
    (htracker : g'.manager.outboundTracker = { g.manager.outboundTracker.prune g'.clock with
      entries := (g.manager.outboundTracker.prune g'.clock).entries.eraseP
        (OutboundRequestEntry.isFor ip op) })
    (hsent : g'.sent = g.sent)
    (houtstanding : g'.outstanding = g.outstanding.eraseP fun request => request.isFor ip op)
    (haccepted : g'.accepted = g.accepted ∨
      g'.accepted = g.accepted ++ [⟨g'.clock, ip, responseOpcode, some op, g.sent.length⟩])

theorem move_of_receive {source : SocketAddr} {data : Bytes}
    {pick : Option (UInt64 × PendingEntry)} {verdict : Verdict} {manager : RpcManager}
    (hclock : g.clock ≤ now)
    (hreceive : g.manager.receive pf md5 source data pick now = some (verdict, manager)) :
    Move g (g.book pf md5 source data now verdict manager) := by
  cases RpcManager.turn_of_receive hreceive with
  | undecoded hdecode => exact .rest (.inl rfl) hclock rfl rfl (by rw [book, hdecode])
  | flooded hdecode =>
    refine .rest (.inl rfl) hclock rfl rfl ?_
    rw [book, hdecode]
    exact if_neg (by simp [Verdict.accepts])
  | @dispatched packet rpc tracker hdecode hrpc =>
    have hlookup := g.manager.outboundTracker.lookup_trackedRequestOpcodeForResponse now source.ip
      packet.opcode
    generalize g.manager.outboundTracker.trackedRequestOpcodeForResponse now source.ip
      packet.opcode = looked at hlookup ⊢
    cases hlookup with
    | none ht hnone =>
      have htracked : (RpcManager.verdictFor source
          (g.manager.obfuscation.decrypt md5 source data) packet pick none).tracked = none := by
        rw [RpcManager.verdictFor]
        split_ifs <;> rfl
      refine .rest ht hclock rfl (by rw [book, htracked]) ?_
      rw [book, hdecode]
      refine if_neg ?_
      rw [RpcManager.verdictFor]
      split_ifs <;> simp_all [Verdict.accepts]
    | @taken op hop hany =>
      have htracked : (RpcManager.verdictFor source
          (g.manager.obfuscation.decrypt md5 source data) packet pick (some op)).tracked =
            some op := by
        rw [RpcManager.verdictFor, Option.isNone_some, Bool.and_false, if_neg Bool.false_ne_true]
        split <;> rfl
      refine .taken hclock hop hany rfl rfl (by rw [book, htracked]) ?_
      rw [book, hdecode, htracked]
      dsimp only
      split
      · exact .inr rfl
      · exact .inl rfl

theorem move_of_step {event : GateEvent} (hstep : step pf md5 g event = some g') : Move g g' := by
  cases event with
  | send addr packet now =>
    rw [step] at hstep
    split at hstep
    · exact absurd hstep nofun
    next hclock =>
      rw [Nat.not_lt] at hclock
      split at hstep
      · obtain rfl := Option.some.inj hstep
        exact .rest (.inl rfl) hclock rfl rfl rfl
      · obtain rfl := Option.some.inj hstep
        exact .sent hclock rfl rfl rfl rfl rfl
  | receive source data pick now =>
    rw [step] at hstep
    split at hstep
    · exact absurd hstep nofun
    next hclock =>
      obtain ⟨⟨verdict, manager⟩, hreceive, rfl⟩ := Option.map_eq_some_iff.mp hstep
      exact move_of_receive (Nat.not_lt.mp hclock) hreceive
  | rpc event =>
    cases event with
    | receive source packet pick => exact absurd hstep nofun
    | _ =>
      simp only [step] at hstep
      obtain ⟨rpc, -, rfl⟩ := Option.map_eq_some_iff.mp hstep
      exact .rest (.inl rfl) (Nat.le_refl _) rfl rfl rfl
  | registerPeerIdentity addr nodeId =>
    obtain rfl := Option.some.inj hstep
    exact .rest (.inl rfl) (Nat.le_refl _) rfl rfl rfl
  | registerPeerVersion addr kadVersion =>
    obtain rfl := Option.some.inj hstep
    exact .rest (.inl rfl) (Nat.le_refl _) rfl rfl rfl
  | registerPeerKey addr key =>
    obtain rfl := Option.some.inj hstep
    exact .rest (.inl rfl) (Nat.le_refl _) rfl rfl rfl

/-! ## The tracker along a run -/

/-- A tracker that has just what it should have. -/
theorem tracks_of_live (hwindow : g.manager.outboundTracker.window = .fromSecs 180)
    (hentries : g.manager.outboundTracker.entries = live g.clock g.outstanding)
    (hnewest : Aged.NewestFirst (fun request : SentRequest => request.insertedAt) g.outstanding)
    (hpast : ∀ request ∈ g.outstanding, request.insertedAt ≤ g.clock) : g.Tracks := by
  refine ⟨hwindow, ?_, fun entry hentry => ?_, hnewest, hpast, ?_⟩
  · rw [hentries, live]
    exact List.pairwise_map.mpr (hnewest.filter _)
  · rw [hentries] at hentry
    obtain ⟨request, hrequest, rfl⟩ := List.mem_map.mp hentry
    exact hpast request (List.mem_filter.mp hrequest).1
  · rw [hentries]
    exact filter_live (Nat.le_refl _) g.outstanding

theorem Tracks.move (h : g.Tracks) (hmove : Move g g') : g'.Tracks := by
  cases hmove with
  | rest htracker hclock _ houtstanding _ =>
    have hpast : ∀ request ∈ g'.outstanding, request.insertedAt ≤ g'.clock :=
      fun request hrequest =>
      (h.bookPast request (houtstanding ▸ hrequest)).trans hclock
    rcases htracker with hsame | hprune
    · refine ⟨hsame ▸ h.window, hsame ▸ h.newestFirst, fun entry hentry => ?_,
        houtstanding ▸ h.bookNewestFirst, hpast, ?_⟩
      · exact (h.past entry (hsame ▸ hentry)).trans hclock
      · rw [hsame, houtstanding, ← filter_live hclock, ← h.same]
        exact (Aged.filter_fresh_fresh hclock _).symm
    · refine tracks_of_live (hprune ▸ h.window) ?_ (houtstanding ▸ h.bookNewestFirst) hpast
      rw [hprune, houtstanding, h.prune_entries hclock]
  | @sent entry hclock hentry htracker _ houtstanding _ =>
    have hpast : ∀ request ∈ g.outstanding, request.insertedAt ≤ g'.clock := fun request hrequest =>
      (h.bookPast request hrequest).trans hclock
    refine tracks_of_live ?_ ?_ ?_ ?_
    · rw [htracker, OutboundRequestTracker.record]
      split <;> exact h.window
    · have hfresh : entry.fresh g'.clock = true := by
        rw [OutboundRequestEntry.fresh, Aged.fresh_iff, hentry, Nat.sub_self]
        decide
      rw [htracker, OutboundRequestTracker.record, houtstanding, live, List.filter_cons, hfresh,
        Bool.and_true]
      cases tracksOutboundRequestOpcode entry.opcode with
      | false => exact h.prune_entries hclock
      | true =>
        refine List.cons_eq_cons.mpr ⟨?_, h.prune_entries hclock⟩
        rw [← hentry]
    · rw [houtstanding]
      exact h.bookNewestFirst.cons fun request hrequest => hentry ▸ hpast request hrequest
    · rw [houtstanding]
      intro request hrequest
      rcases List.mem_cons.mp hrequest with rfl | hold
      · exact hentry.le
      · exact hpast request hold
  | taken hclock _ hany htracker _ houtstanding _ =>
    refine tracks_of_live (htracker ▸ h.window) ?_ (houtstanding ▸ h.bookNewestFirst.eraseP _) ?_
    · rw [htracker, houtstanding]
      exact (h.take hclock hany).2
    · rw [houtstanding]
      exact fun request hrequest =>
        (h.bookPast request (List.mem_of_mem_eraseP hrequest)).trans hclock

/-! ## Responses and their requests -/

/-- Every response that was let through has a request of its own, which is not outstanding. -/
structure Ledger (g : Gate) : Prop where
  listed : ∀ request ∈ g.outstanding,
    g.sent[request.serial]? = some request.toOutboundRequestEntry
  vouched : ∃ vouchers : List Nat, (vouchers ++ g.outstanding.map (·.serial)).Nodup ∧
    List.Forall₂ (fun serial response => ∃ request, g.sent[serial]? = some request ∧
      AcceptedResponse.VouchedBy response serial request) vouchers g.accepted

theorem Ledger.exists_of_mem (h : g.Ledger) {vouchers : List Nat}
    (hvouched : List.Forall₂ (fun serial response => ∃ request, g.sent[serial]? = some request ∧
      AcceptedResponse.VouchedBy response serial request) vouchers g.accepted) {serial : Nat}
    (hmem : serial ∈ vouchers ++ g.outstanding.map (·.serial)) :
    ∃ request, g.sent[serial]? = some request := by
  rcases List.mem_append.mp hmem with hvoucher | hserial
  · obtain ⟨i, hi, rfl⟩ := List.mem_iff_getElem.mp hvoucher
    obtain ⟨request, hget, -⟩ := hvouched.get hi (hvouched.length_eq ▸ hi)
    exact ⟨request, hget⟩
  · obtain ⟨request, hrequest, rfl⟩ := List.mem_map.mp hserial
    exact ⟨_, h.listed request hrequest⟩

theorem Ledger.move (h : g.Ledger) (htracks : g.Tracks) (hmove : Move g g') : g'.Ledger := by
  obtain ⟨vouchers, hnodup, hvouched⟩ := h.vouched
  cases hmove with
  | rest _ _ hsent houtstanding haccepted =>
    refine ⟨?_, vouchers, ?_, ?_⟩
    · rw [hsent, houtstanding]
      exact h.listed
    · rwa [houtstanding]
    · rwa [hsent, haccepted]
  | @sent entry _ _ _ hsent houtstanding haccepted =>
    have hkept : ∀ {serial : Nat} {request : OutboundRequestEntry},
        g.sent[serial]? = some request → g'.sent[serial]? = some request := by
      intro serial request hget
      rw [hsent, List.getElem?_append_left (List.getElem?_eq_some_iff.mp hget).1, hget]
    refine ⟨fun request hrequest => ?_, vouchers, ?_, ?_⟩
    · rw [houtstanding] at hrequest
      rcases List.mem_cons.mp hrequest with rfl | hold
      · rw [hsent]
        exact List.getElem?_concat_length
      · exact hkept (h.listed request hold)
    · rw [houtstanding, List.map_cons]
      refine List.nodup_middle.mpr (List.nodup_cons.mpr ⟨fun hmem => ?_, hnodup⟩)
      obtain ⟨request, hget⟩ := h.exists_of_mem hvouched hmem
      exact absurd (List.getElem?_eq_some_iff.mp hget).1 (Nat.lt_irrefl _)
    · rw [haccepted]
      exact hvouched.imp fun serial response ⟨request, hget, hby⟩ => ⟨request, hkept hget, hby⟩
  | @taken ip op responseOpcode hclock hpaired hany _ hsent houtstanding haccepted =>
    obtain ⟨⟨request, hfind, hfresh⟩, -⟩ := htracks.take hclock hany
    obtain ⟨front, back, hsplit, herase⟩ := Aged.exists_split_of_find? hfind
    have hmem : request ∈ g.outstanding := List.mem_of_find?_eq_some hfind
    have hget := h.listed request hmem
    have hlisted : ∀ other ∈ g'.outstanding,
        g'.sent[other.serial]? = some other.toOutboundRequestEntry := by
      rw [houtstanding, hsent]
      exact fun other hother => h.listed other (List.mem_of_mem_eraseP hother)
    rw [hsplit, List.map_append, List.map_cons] at hnodup
    rcases haccepted with hsame | hnew
    · refine ⟨hlisted, vouchers, ?_, by rwa [hsent, hsame]⟩
      rw [houtstanding, herase, List.map_append]
      refine hnodup.sublist (.append_left (.append_left ?_ _) _)
      exact List.sublist_cons_self _ _
    · refine ⟨hlisted, vouchers ++ [request.serial], ?_, ?_⟩
      · rw [houtstanding, herase, List.map_append, List.append_assoc, List.singleton_append]
        exact (List.Perm.append_left vouchers List.perm_middle).nodup_iff.mp hnodup
      · rw [hsent, hnew]
        refine List.rel_append hvouched (.cons ⟨_, hget, ?_⟩ .nil)
        obtain ⟨hip, hopcode⟩ := opcode_of_isFor
          (List.find?_some (p := fun request : SentRequest => request.isFor ip op) hfind)
        exact ⟨(List.getElem?_eq_some_iff.mp hget).1, hip, hopcode ▸ hpaired, hopcode ▸ rfl,
          (htracks.bookPast request hmem).trans hclock, Aged.fresh_iff.mp hfresh⟩

theorem ledger_init (obfuscation : ObfuscationLayer) (config : RpcConfig) :
    (init obfuscation config).Ledger :=
  ⟨fun _ h => absurd h List.not_mem_nil, [], .nil, .nil⟩

/-- The two invariants of every run. -/
theorem run_tracks_ledger {obfuscation : ObfuscationLayer} {config : RpcConfig}
    {events : List GateEvent}
    (hrun : run (step pf md5) (init obfuscation config) events = some g) :
    g.Tracks ∧ g.Ledger :=
  run_invariant (I := fun g => g.Tracks ∧ g.Ledger)
    (fun _ _ _ h hstep => ⟨h.1.move (move_of_step hstep), h.2.move h.1 (move_of_step hstep)⟩)
    ⟨tracks_init obfuscation config, ledger_init obfuscation config⟩ hrun

end Gate

/-- **Every response that was let through has a request of its own.**  Take any run of sends,
datagrams and whatever else happens to the manager, with a clock that does not go back.  To each
response of a tracked opcode that was forwarded, or matched with a tracked request, belongs a
request that was sent before to the same address, with an opcode that is paired with that of the
response, less than 180 seconds before; and no request belongs to two responses. -/
theorem responses_vouched (pf : Platform) (md5 : Bytes → Vector UInt8 16)
    (obfuscation : ObfuscationLayer) (config : RpcConfig) (events : List GateEvent) (g : Gate)
    (hrun : run (Gate.step pf md5) (.init obfuscation config) events = some g) :
    ∃ voucher : Nat → Nat,
      (∀ i < g.accepted.length, ∀ j < g.accepted.length, voucher i = voucher j → i = j) ∧
      ∀ i response, g.accepted[i]? = some response → ∃ request,
        g.sent[voucher i]? = some request ∧ response.VouchedBy (voucher i) request := by
  obtain ⟨vouchers, hnodup, hvouched⟩ := (Gate.run_tracks_ledger hrun).2.vouched
  have hlength := hvouched.length_eq
  refine ⟨fun i => vouchers.getD i 0, fun i hi j hj heq => ?_, fun i response hresponse => ?_⟩
  · dsimp only at heq
    rw [List.getD_eq_getElem _ _ (hlength ▸ hi), List.getD_eq_getElem _ _ (hlength ▸ hj)] at heq
    exact (List.nodup_append.mp hnodup).1.getElem_inj_iff.mp heq
  · obtain ⟨hi, rfl⟩ := List.getElem?_eq_some_iff.mp hresponse
    dsimp only
    rw [List.getD_eq_getElem _ _ (hlength ▸ hi)]
    exact hvouched.get (hlength ▸ hi) hi

def samplePeer : SocketAddr := .v4 (.new 192 0 2 1) 4672

/-- A ping is sent, and a second later the pong is forwarded. -/
theorem pong_vouched :
    ∃ g, run (Gate.step samplePlatform fun _ => Vector.replicate 16 0)
        (.init (.new ⟨Vector.replicate 16 0x11⟩ 7 true) {})
        [.send samplePeer .ping 0,
          .receive samplePeer [0xE4, 0x61, 0x40, 0x12] none (10 ^ 9)] = some g ∧
      g.accepted.length = 1 ∧ ∃ voucher : Nat → Nat, ∃ response request,
        g.accepted[0]? = some response ∧ g.sent[voucher 0]? = some request ∧
          response.VouchedBy (voucher 0) request := by
  obtain ⟨g, hrun, response, haccepted⟩ : ∃ g,
      run (Gate.step samplePlatform fun _ => Vector.replicate 16 0)
        (.init (.new ⟨Vector.replicate 16 0x11⟩ 7 true) {})
        [.send samplePeer .ping 0,
          .receive samplePeer [0xE4, 0x61, 0x40, 0x12] none (10 ^ 9)] = some g ∧
      ∃ response, g.accepted = [response] := ⟨_, rfl, _, rfl⟩
  obtain ⟨voucher, -, hvouched⟩ := responses_vouched _ _ _ _ _ g hrun
  have hfirst : g.accepted[0]? = some response := by rw [haccepted]; rfl
  obtain ⟨request, hget, hby⟩ := hvouched 0 response hfirst
  exact ⟨g, hrun, by rw [haccepted]; rfl, voucher, response, request, hfirst, hget, hby⟩

/-- The requests that are paired with one response are all recorded, or none is. -/
theorem tracks_of_paired {op op' responseOpcode : UInt8} (hop : op ∈ pairedRequests responseOpcode)
    (hop' : op' ∈ pairedRequests responseOpcode) :
    isTrackedResponseOpcode responseOpcode = true ∧
      tracksOutboundRequestOpcode op' = tracksOutboundRequestOpcode op := by
  have hall : ∀ responseOpcode, ∀ op ∈ pairedRequests responseOpcode,
      ∀ op' ∈ pairedRequests responseOpcode, isTrackedResponseOpcode responseOpcode = true ∧
        tracksOutboundRequestOpcode op' = tracksOutboundRequestOpcode op := by
    decide +kernel
  exact hall responseOpcode op hop op' hop'

/-- **Which requests vouch for their responses.**  A request that was sent less than 180 seconds ago
and is not consumed vouches for a response that is paired with it, exactly if it is none of the two
firewall checks. -/
theorem requests_vouch_iff (pf : Platform) (md5 : Bytes → Vector UInt8 16)
    (obfuscation : ObfuscationLayer) (config : RpcConfig) (events : List GateEvent) (g : Gate)
    (hrun : run (Gate.step pf md5) (.init obfuscation config) events = some g)
    (source : SocketAddr) (data : Bytes) (now : Nat) (packet : KadPacket) (verdict : Verdict)
    (manager : RpcManager) (request : SentRequest) (hclock : g.clock ≤ now)
    (hdecode : KadPacket.decode pf (g.manager.obfuscation.decrypt md5 source data).data =
      .ok packet)
    (hreceive : g.manager.receive pf md5 source data none now = some (verdict, manager))
    (hbudget : ∀ action, verdict ≠ .trackerDrop action)
    (hsent : request ∈ g.outstanding) (hip : request.ip = source.ip)
    (hpaired : request.opcode ∈ pairedRequests packet.opcode)
    (hrecent : now - request.insertedAt < (Duration.fromSecs 180).nanos) :
    verdict ≠ .unrequested ↔
      request.opcode ≠ opcode.FIREWALLED_REQ ∧ request.opcode ≠ opcode.FIREWALLED2_REQ := by
  have htracks := (Gate.run_tracks_ledger hrun).1
  rw [← not_or, ← tracks_of_mem_pairedRequests hpaired]
  refine not_congr ?_
  obtain ⟨hresponse, -⟩ := tracks_of_paired hpaired hpaired
  cases RpcManager.turn_of_receive hreceive with
  | undecoded herror => exact absurd (hdecode.symm.trans herror) nofun
  | flooded _ => exact absurd rfl (hbudget _)
  | @dispatched packet' rpc tracker hdecode' hrpc =>
    obtain rfl := Except.ok.inj (hdecode.symm.trans hdecode')
    have hlookup := g.manager.outboundTracker.lookup_trackedRequestOpcodeForResponse now source.ip
      packet.opcode
    generalize g.manager.outboundTracker.trackedRequestOpcodeForResponse now source.ip
      packet.opcode = looked at hlookup ⊢
    cases hlookup with
    | none _ hnone =>
      have hdropped : RpcManager.verdictFor source
          (g.manager.obfuscation.decrypt md5 source data) packet none none = .unrequested := by
        simp [RpcManager.verdictFor, hresponse]
      refine iff_of_true hdropped (Bool.eq_false_iff.mpr fun hrecorded => ?_)
      have hfor : request.isFor source.ip request.opcode = true := by
        simp [OutboundRequestEntry.isFor, hip]
      have hany := (htracks.any_iff hclock).mpr
        ⟨hrecorded, request, hsent, hfor, Aged.fresh_iff.mpr hrecent⟩
      rw [hnone request.opcode hpaired] at hany
      exact absurd hany nofun
    | @taken op hop hany =>
      have hforwarded : RpcManager.verdictFor source
          (g.manager.obfuscation.decrypt md5 source data) packet none (some op) ≠
            .unrequested := by
        simp [RpcManager.verdictFor]
      refine iff_of_false hforwarded ?_
      rw [(tracks_of_paired hop hpaired).2, ((htracks.any_iff hclock).mp hany).1]
      exact nofun

/-- A ping that is outstanding vouches for a pong. -/
theorem ping_vouches :
    ∃ g verdict manager, run (Gate.step samplePlatform fun _ => Vector.replicate 16 0)
        (.init (.new ⟨Vector.replicate 16 0x11⟩ 7 true) {}) [.send samplePeer .ping 0] = some g ∧
      g.manager.receive samplePlatform (fun _ => Vector.replicate 16 0) samplePeer
        [0xE4, 0x61, 0x40, 0x12] none (10 ^ 9) = some (verdict, manager) ∧
      verdict ≠ .unrequested := by
  obtain ⟨g, hrun, hclock, houtstanding, hdecode, manager, hreceive⟩ : ∃ g,
      run (Gate.step samplePlatform fun _ => Vector.replicate 16 0)
        (.init (.new ⟨Vector.replicate 16 0x11⟩ 7 true) {}) [.send samplePeer .ping 0] = some g ∧
      g.clock = 0 ∧ g.outstanding = [⟨⟨0, samplePeer.ip, opcode.PING⟩, 0⟩] ∧
      KadPacket.decode samplePlatform (g.manager.obfuscation.decrypt
        (fun _ => Vector.replicate 16 0) samplePeer [0xE4, 0x61, 0x40, 0x12]).data =
          .ok (.pong ⟨0x1240⟩) ∧
      ∃ manager, g.manager.receive samplePlatform (fun _ => Vector.replicate 16 0) samplePeer
        [0xE4, 0x61, 0x40, 0x12] none (10 ^ 9) =
          some (.forwarded ⟨.pong ⟨0x1240⟩, samplePeer, false, none, false⟩ (some opcode.PING),
            manager) :=
    ⟨_, rfl, rfl, rfl, rfl, _, rfl⟩
  refine ⟨g, _, manager, hrun, hreceive, ?_⟩
  exact (requests_vouch_iff _ _ _ _ _ g hrun samplePeer _ (10 ^ 9) (.pong ⟨0x1240⟩) _ manager
    ⟨⟨0, samplePeer.ip, opcode.PING⟩, 0⟩ (hclock ▸ Nat.zero_le _) hdecode hreceive nofun
    (houtstanding ▸ List.mem_singleton.mpr rfl) rfl (by decide) (by decide)).mpr
    ⟨by decide, by decide⟩

/-- A firewall check is sent, and the response of the peer a second later is dropped. -/
theorem firewalled_response_dropped :
    ∃ g packet manager, run (Gate.step samplePlatform fun _ => Vector.replicate 16 0)
        (.init (.new ⟨Vector.replicate 16 0x11⟩ 7 true) {})
        [.send samplePeer (.firewalledReq ⟨4662⟩) 0] = some g ∧
      g.outstanding = [⟨⟨0, samplePeer.ip, opcode.FIREWALLED_REQ⟩, 0⟩] ∧
      KadPacket.decode samplePlatform (g.manager.obfuscation.decrypt
        (fun _ => Vector.replicate 16 0) samplePeer [0xE4, 0x58, 4, 3, 2, 1]).data = .ok packet ∧
      opcode.FIREWALLED_REQ ∈ pairedRequests packet.opcode ∧
      g.manager.receive samplePlatform (fun _ => Vector.replicate 16 0) samplePeer
        [0xE4, 0x58, 4, 3, 2, 1] none (10 ^ 9) = some (.unrequested, manager) :=
  ⟨_, _, _, rfl, rfl, rfl, by decide, rfl⟩

end Overlord.Kad.Net
