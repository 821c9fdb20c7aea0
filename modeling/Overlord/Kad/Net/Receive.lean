import Overlord.Kad.Net.Obfuscation
import Overlord.Kad.Net.OutboundTracker
import Overlord.Kad.Net.Rpc

/-!
# The receive loop

`RpcManager::start` takes one datagram after the other: it decrypts and decodes it, learns from it
who the sender is, charges it to the flood budget of the sender, gives it to the request that waits
for it, and drops it if it is a response that nobody asked for.  `receive` is one turn of the loop.

The pending table and the choice among its entries are those of `RpcState`; a turn that does not
come to the table does not look at the choice.

Learning comes before both of the checks that may reject a datagram.  So what a rejected datagram
says about its sender is kept, unless it is known already (`learn_eq_iff`).

* `Turn` — what a turn can come to, with what has been learned in each case.
* `NothingNew` — what a datagram says about its sender is known already.
* `rejected_leaves_peers_iff` — a rejected datagram leaves the peers alone exactly in that case.  A
  `HELLO_RES` that nobody asked for is not such a one (`rejected_hello_replaces_identity`): what is
  sent to the peer afterwards is encrypted under the identity that it claimed.
-/

set_option autoImplicit false

namespace Overlord.Kad.Net

open Wire

/-! ## Packet families -/

structure InboundKadPacketInfo where
  trackerBucket : Option PacketTrackerBucket
  peerId : Option NodeId
  kadVersion : Option UInt8
deriving DecidableEq, Repr

/-- `tracker_bucket_for_opcode`. -/
def trackerBucketForOpcode (op : UInt8) : Option PacketTrackerBucket :=
  match op with
  | opcode.BOOTSTRAP_REQ => some .bootstrapReq
  | opcode.HELLO_REQ => some .helloReq
  | opcode.REQ => some .findNodeReq
  | opcode.SEARCH_KEY_REQ | opcode.SEARCH_SOURCE_REQ | opcode.SEARCH_NOTES_REQ => some .searchReq
  | opcode.PUBLISH_KEY_REQ => some .publishKeyReq
  | opcode.PUBLISH_SOURCE_REQ => some .publishSourceReq
  | opcode.PUBLISH_NOTES_REQ => some .publishNotesReq
  | opcode.FIREWALLED_REQ | opcode.FIREWALLED2_REQ => some .firewalledReq
  | opcode.FINDBUDDY_REQ => some .findBuddyReq
  | opcode.CALLBACK_REQ => some .callbackReq
  | opcode.PING => some .pingReq
  | opcode.SEARCH_RES => some .searchRes
  | _ => none

/-- `inspect_inbound_packet`. -/
def inspectInboundPacket : KadPacket → InboundKadPacketInfo
  | .bootstrapRes res => ⟨none, some res.senderId, some res.senderVersion⟩
  | .helloReq req => ⟨some .helloReq, some req.nodeId, some req.version⟩
  | .helloRes res => ⟨none, some res.nodeId, some res.version⟩
  | .helloResAck ack => ⟨none, some ack.nodeId, none⟩
  | .searchRes res => ⟨some .searchRes, some res.senderId, none⟩
  | packet => ⟨trackerBucketForOpcode packet.opcode, none, none⟩

/-- `should_learn_sender_verify_key`. -/
def shouldLearnSenderVerifyKey (op : UInt8) : Bool :=
  op ∈ [opcode.BOOTSTRAP_REQ, opcode.BOOTSTRAP_RES, opcode.HELLO_REQ, opcode.HELLO_RES,
    opcode.HELLO_RES_ACK, opcode.REQ, opcode.SEARCH_KEY_REQ, opcode.SEARCH_SOURCE_REQ,
    opcode.SEARCH_NOTES_REQ, opcode.PUBLISH_KEY_REQ, opcode.PUBLISH_SOURCE_REQ,
    opcode.PUBLISH_NOTES_REQ, opcode.PUBLISH_RES, opcode.PUBLISH_RES_ACK, opcode.FIREWALLED_REQ,
    opcode.FIREWALLED2_REQ, opcode.FINDBUDDY_REQ, opcode.FINDBUDDY_RES, opcode.CALLBACK_REQ,
    opcode.PING]

/-- `is_tracked_response_opcode`. -/
def isTrackedResponseOpcode (op : UInt8) : Bool :=
  op ∈ [opcode.BOOTSTRAP_RES, opcode.HELLO_RES, opcode.HELLO_RES_ACK, opcode.RES,
    opcode.PUBLISH_RES, opcode.PUBLISH_RES_ACK, opcode.FIREWALLED_RES, opcode.FIREWALLED_ACK_RES,
    opcode.FINDBUDDY_RES, opcode.PONG]

/-! ## One turn -/

/-- The parts of `RpcInner` that decide what happens to a datagram. -/
structure RpcManager where
  obfuscation : ObfuscationLayer
  tracker : PacketTracker
  outboundTracker : OutboundRequestTracker
  rpc : RpcState

/-- `RpcConfig`, without the outbound rates, the capacity of the channel and the flood handler. -/
structure RpcConfig where
  maxInboundPerIp : UInt32 := 20
  maxInboundSearchResPerIp : UInt32 := 256
  floodWindow : Duration := .fromSecs 1
  requestTrackingWindow : Duration := .fromSecs 60
deriving DecidableEq, Repr

/-- `RpcManager::new`. -/
def RpcManager.new (obfuscation : ObfuscationLayer) (config : RpcConfig) : RpcManager where
  obfuscation := obfuscation
  tracker := .new config.maxInboundPerIp config.maxInboundSearchResPerIp config.floodWindow
    config.requestTrackingWindow
  outboundTracker := .new (.fromSecs 180)
  rpc := .init

structure ReceivedKadPacket where
  packet : KadPacket
  source : SocketAddr
  wasObfuscated : Bool
  senderVerifyKey : Option UInt32
  receiverVerifyKeyValid : Bool
deriving DecidableEq, Repr

/-- What becomes of a datagram.  The opcode is that of the tracked request, as it is logged. -/
inductive Verdict where
  | decodeFailed
  | trackerDrop (action : PacketTrackerAction)
  | unrequested
  | matched (trackedRequestOpcode : Option UInt8)
  | forwarded (received : ReceivedKadPacket) (trackedRequestOpcode : Option UInt8)
deriving DecidableEq, Repr

/-- What the receive loop learns from a packet before it does anything else with it. -/
def ObfuscationLayer.learn (layer : ObfuscationLayer) (source : SocketAddr) (packet : KadPacket)
    (senderVerifyKey : Option UInt32) : ObfuscationLayer :=
  let inbound := inspectInboundPacket packet
  let layer :=
    match inbound.peerId with
    | some peerId => layer.registerPeerIdentity source peerId
    | none => layer
  let layer :=
    match inbound.kadVersion with
    | some kadVersion => layer.registerPeerVersion source kadVersion
    | none => layer
  match shouldLearnSenderVerifyKey packet.opcode, senderVerifyKey with
  | true, some key => layer.registerPeerKey source key
  | _, _ => layer

namespace RpcManager

/-- Charge a packet to the flood budget of its sender; the action is given if the packet is
dropped. -/
def charge (m : RpcManager) (source : SocketAddr) (packet : KadPacket) (now : Nat) :
    Option PacketTrackerAction × RpcManager :=
  match (inspectInboundPacket packet).trackerBucket with
  | none => (none, m)
  | some bucket =>
    let (decision, tracker) := m.tracker.recordAndCheck ⟨source.ip, bucket⟩ now
    (if decision.allowed then none else some decision.action, { m with tracker := tracker })

/-- The part of a turn behind the flood budget. -/
def dispatch (m : RpcManager) (source : SocketAddr) (opened : DecryptResult) (packet : KadPacket)
    (pick : Option (UInt64 × PendingEntry)) (now : Nat) : Option (Verdict × RpcManager) := do
  let rpc ← m.rpc.step (.receive source packet pick)
  let (tracked, outboundTracker) :=
    m.outboundTracker.trackedRequestOpcodeForResponse now source.ip packet.opcode
  let m := { m with rpc := rpc, outboundTracker := outboundTracker }
  if pick.isSome then return (.matched tracked, m)
  else if isTrackedResponseOpcode packet.opcode && tracked.isNone then return (.unrequested, m)
  else
    return (.forwarded ⟨packet, source, opened.wasObfuscated, opened.senderVerifyKey,
      opened.receiverVerifyKeyValid⟩ tracked, m)

variable (pf : Platform) (md5 : Bytes → Vector UInt8 16)

/-- One turn of the loop of `RpcManager::start`.  It is `none` if the choice from the pending table
is not one the loop can make. -/
def receive (m : RpcManager) (source : SocketAddr) (data : Bytes)
    (pick : Option (UInt64 × PendingEntry)) (now : Nat) : Option (Verdict × RpcManager) :=
  let opened := m.obfuscation.decrypt md5 source data
  match KadPacket.decode pf opened.data with
  | .error _ => some (.decodeFailed, m)
  | .ok packet =>
    let m := { m with obfuscation := m.obfuscation.learn source packet opened.senderVerifyKey }
    match m.charge source packet now with
    | (some action, m) => some (.trackerDrop action, m)
    | (none, m) => m.dispatch source opened packet pick now

end RpcManager

/-! ## Learning -/

namespace ObfuscationLayer

variable {layer : ObfuscationLayer} {source addr : SocketAddr}

theorem peerStateForAddr_registerPeerIdentity (nodeId : NodeId) :
    (layer.registerPeerIdentity source nodeId).peerStateForAddr addr =
      { layer.peerStateForAddr addr with
        nodeId :=
          if addr = source then some nodeId else (layer.peerStateForAddr addr).nodeId } := by
  by_cases h : addr = source
  · subst h
    simp [peerStateForAddr, peerEntry, registerPeerIdentity]
  · simp [peerStateForAddr, peerEntry, registerPeerIdentity, h]

theorem peerStateForAddr_registerPeerVersion (kadVersion : UInt8) :
    (layer.registerPeerVersion source kadVersion).peerStateForAddr addr =
      { layer.peerStateForAddr addr with
        kadVersion :=
          if addr = source then some kadVersion
          else (layer.peerStateForAddr addr).kadVersion } := by
  by_cases h : addr = source
  · subst h
    simp [peerStateForAddr, peerEntry, registerPeerVersion]
  · simp [peerStateForAddr, peerEntry, registerPeerVersion, h]

theorem peerStateForAddr_registerPeerKey (key : UInt32) :
    (layer.registerPeerKey source key).peerStateForAddr addr =
      { layer.peerStateForAddr addr with
        receiverVerifyKey := if addr.ip = source.ip then some key
          else (layer.peerStateForAddr addr).receiverVerifyKey } := by
  by_cases h : addr.ip = source.ip
  · simp [peerStateForAddr, peerEntry, registerPeerKey, h]
  · simp [peerStateForAddr, peerEntry, registerPeerKey, h]

/-- The key the loop learns from a packet. -/
def taughtKey (packet : KadPacket) (senderVerifyKey : Option UInt32) : Option UInt32 :=
  if shouldLearnSenderVerifyKey packet.opcode then senderVerifyKey else none

/-- What is known of a peer after a packet: the identity and the version of its sender, and the key
of everybody at the address of the sender. -/
theorem peerStateForAddr_learn (packet : KadPacket) (senderVerifyKey : Option UInt32) :
    (layer.learn source packet senderVerifyKey).peerStateForAddr addr =
      let inbound := inspectInboundPacket packet
      let known := layer.peerStateForAddr addr
      ⟨if addr.ip = source.ip then taughtKey packet senderVerifyKey <|> known.receiverVerifyKey
          else known.receiverVerifyKey,
        if addr = source then inbound.peerId <|> known.nodeId else known.nodeId,
        if addr = source then inbound.kadVersion <|> known.kadVersion else known.kadVersion⟩ := by
  unfold learn taughtKey
  generalize shouldLearnSenderVerifyKey packet.opcode = learns
  obtain ⟨bucket, peerId, kadVersion⟩ := inspectInboundPacket packet
  -- each of the three things may be there or not
  cases peerId <;> cases kadVersion <;> cases learns <;> cases senderVerifyKey <;>
    simp [peerStateForAddr_registerPeerIdentity, peerStateForAddr_registerPeerVersion,
      peerStateForAddr_registerPeerKey]

/-- What the loop may learn from a packet is known of its sender already. -/
structure NothingNew (layer : ObfuscationLayer) (source : SocketAddr) (packet : KadPacket)
    (senderVerifyKey : Option UInt32) : Prop where
  identity : ∀ id, (inspectInboundPacket packet).peerId = some id →
    (layer.peerStateForAddr source).nodeId = some id
  version : ∀ version, (inspectInboundPacket packet).kadVersion = some version →
    (layer.peerStateForAddr source).kadVersion = some version
  key : shouldLearnSenderVerifyKey packet.opcode = true → ∀ key, senderVerifyKey = some key →
    (layer.peerStateForAddr source).receiverVerifyKey = some key

theorem orElse_eq_right_iff {α : Type} (a b : Option α) :
    (a <|> b) = b ↔ ∀ x, a = some x → b = some x := by
  cases a with
  | none => simp
  | some x => simp [eq_comm]

/-- **Learning changes nothing exactly if there is nothing new to learn.** -/
theorem learn_eq_iff (packet : KadPacket) (senderVerifyKey : Option UInt32) :
    (∀ addr, (layer.learn source packet senderVerifyKey).peerStateForAddr addr =
        layer.peerStateForAddr addr) ↔
      NothingNew layer source packet senderVerifyKey := by
  constructor
  · intro h
    have hsource := h source
    rw [peerStateForAddr_learn] at hsource
    simp only [if_true] at hsource
    refine ⟨(orElse_eq_right_iff _ _).mp (congrArg (·.nodeId) hsource),
      (orElse_eq_right_iff _ _).mp (congrArg (·.kadVersion) hsource), fun hlearn => ?_⟩
    have hkey := congrArg (·.receiverVerifyKey) hsource
    simp only [taughtKey, hlearn, if_true] at hkey
    exact (orElse_eq_right_iff _ _).mp hkey
  · intro h addr
    rw [peerStateForAddr_learn]
    have hkey : ∀ key, taughtKey packet senderVerifyKey = some key →
        (layer.peerStateForAddr source).receiverVerifyKey = some key := by
      intro key hkey
      rw [taughtKey] at hkey
      split_ifs at hkey with hlearn
      exact h.key hlearn key hkey
    refine ResolvedPeerCryptoState.ext ?_ ?_ ?_
    · dsimp only
      split_ifs with hip
      · refine (orElse_eq_right_iff _ _).mpr fun key hk => ?_
        have hsame : (layer.peerStateForAddr addr).receiverVerifyKey =
            (layer.peerStateForAddr source).receiverVerifyKey :=
          congrArg layer.receiverVerifyKeys hip
        exact hsame.trans (hkey key hk)
      · rfl
    · dsimp only
      split_ifs with haddr
      · subst haddr
        exact (orElse_eq_right_iff _ _).mpr h.identity
      · rfl
    · dsimp only
      split_ifs with haddr
      · subst haddr
        exact (orElse_eq_right_iff _ _).mpr h.version
      · rfl

end ObfuscationLayer

/-! ## What a turn does -/

namespace RpcManager

variable {pf : Platform} {md5 : Bytes → Vector UInt8 16} {m m' : RpcManager} {source : SocketAddr}
  {data : Bytes} {opened : DecryptResult} {packet : KadPacket}
  {pick : Option (UInt64 × PendingEntry)} {now : Nat} {verdict : Verdict}

theorem eq_of_charge {drop : Option PacketTrackerAction}
    (h : m.charge source packet now = (drop, m')) : m' = { m with tracker := m'.tracker } := by
  rw [charge] at h
  split at h <;> cases h <;> rfl

/-- The verdict on a packet within its flood budget. -/
def verdictFor (source : SocketAddr) (opened : DecryptResult) (packet : KadPacket)
    (pick : Option (UInt64 × PendingEntry)) (tracked : Option UInt8) : Verdict :=
  if pick.isSome then .matched tracked
  else if isTrackedResponseOpcode packet.opcode && tracked.isNone then .unrequested
  else .forwarded ⟨packet, source, opened.wasObfuscated, opened.senderVerifyKey,
    opened.receiverVerifyKeyValid⟩ tracked

theorem dispatch_eq_some_iff :
    m.dispatch source opened packet pick now = some (verdict, m') ↔
      let looked := m.outboundTracker.trackedRequestOpcodeForResponse now source.ip packet.opcode
      verdict = verdictFor source opened packet pick looked.1 ∧
        ∃ rpc, m.rpc.step (.receive source packet pick) = some rpc ∧
          m' = { m with rpc := rpc, outboundTracker := looked.2 } := by
  unfold dispatch verdictFor
  cases m.rpc.step (.receive source packet pick) with
  | none => simp
  | some rpc =>
    dsimp only [Option.bind_eq_bind, Option.bind_some]
    split_ifs <;> simp [eq_comm]

/-- What a turn can do. -/
inductive Turn (pf : Platform) (md5 : Bytes → Vector UInt8 16) (m : RpcManager)
    (source : SocketAddr) (data : Bytes) (pick : Option (UInt64 × PendingEntry)) (now : Nat) :
    Verdict → RpcManager → Prop
  /-- The datagram is no packet. -/
  | undecoded {e : ProtoError}
    (hdecode : KadPacket.decode pf (m.obfuscation.decrypt md5 source data).data = .error e) :
    Turn pf md5 m source data pick now .decodeFailed m
  /-- The sender has used up its flood budget. -/
  | flooded {packet : KadPacket} {action : PacketTrackerAction} {tracker : PacketTracker}
    (hdecode : KadPacket.decode pf (m.obfuscation.decrypt md5 source data).data = .ok packet) :
    Turn pf md5 m source data pick now (.trackerDrop action)
      { m with
        obfuscation := m.obfuscation.learn source packet
          (m.obfuscation.decrypt md5 source data).senderVerifyKey
        tracker := tracker }
  /-- The packet comes to the pending table. -/
  | dispatched {packet : KadPacket} {rpc : RpcState} {tracker : PacketTracker}
    (hdecode : KadPacket.decode pf (m.obfuscation.decrypt md5 source data).data = .ok packet)
    (hrpc : m.rpc.step (.receive source packet pick) = some rpc) :
    Turn pf md5 m source data pick now
      (verdictFor source (m.obfuscation.decrypt md5 source data) packet pick
        (m.outboundTracker.trackedRequestOpcodeForResponse now source.ip packet.opcode).1)
      { obfuscation := m.obfuscation.learn source packet
          (m.obfuscation.decrypt md5 source data).senderVerifyKey
        tracker := tracker
        outboundTracker :=
          (m.outboundTracker.trackedRequestOpcodeForResponse now source.ip packet.opcode).2
        rpc := rpc }

theorem turn_of_receive (h : m.receive pf md5 source data pick now = some (verdict, m')) :
    Turn pf md5 m source data pick now verdict m' := by
  rw [receive] at h
  dsimp only at h
  split at h
  next e hdecode =>
    cases h
    exact .undecoded hdecode
  next packet hdecode =>
    split at h
    next action m₁ hcharge =>
      cases h
      rw [eq_of_charge hcharge]
      exact .flooded hdecode
    next m₁ hcharge =>
      rw [eq_of_charge hcharge] at h
      obtain ⟨rfl, rpc, hrpc, rfl⟩ := dispatch_eq_some_iff.mp h
      exact .dispatched hdecode hrpc

end RpcManager

/-! ## Rejected datagrams -/

/-- The datagram is dropped for flooding or as a response that nobody asked for. -/
def Verdict.Rejects : Verdict → Prop
  | .trackerDrop _ | .unrequested => True
  | _ => False

/-- A rejected datagram was a packet, and the loop has learned from it. -/
theorem RpcManager.Turn.learns {pf : Platform} {md5 : Bytes → Vector UInt8 16}
    {m m' : RpcManager} {source : SocketAddr} {data : Bytes}
    {pick : Option (UInt64 × PendingEntry)} {now : Nat} {verdict : Verdict}
    (h : Turn pf md5 m source data pick now verdict m') (hrejects : verdict.Rejects) :
    ∃ packet, KadPacket.decode pf (m.obfuscation.decrypt md5 source data).data = .ok packet ∧
      m'.obfuscation = m.obfuscation.learn source packet
        (m.obfuscation.decrypt md5 source data).senderVerifyKey := by
  cases h with
  | undecoded hdecode => exact hrejects.elim
  | flooded hdecode => exact ⟨_, hdecode, rfl⟩
  | dispatched hdecode hrpc => exact ⟨_, hdecode, rfl⟩

/-- **A rejected datagram leaves the peers' crypto state alone exactly if it says nothing new.** -/
theorem RpcManager.rejected_leaves_peers_iff (pf : Platform) (md5 : Bytes → Vector UInt8 16)
    (m m' : RpcManager) (source : SocketAddr) (data : Bytes)
    (pick : Option (UInt64 × PendingEntry)) (now : Nat) (verdict : Verdict)
    (hreceive : m.receive pf md5 source data pick now = some (verdict, m'))
    (hrejects : verdict.Rejects) :
    (∀ addr, m'.obfuscation.peerStateForAddr addr = m.obfuscation.peerStateForAddr addr) ↔
      ∀ packet, KadPacket.decode pf (m.obfuscation.decrypt md5 source data).data = .ok packet →
        m.obfuscation.NothingNew source packet
          (m.obfuscation.decrypt md5 source data).senderVerifyKey := by
  obtain ⟨packet, hdecode, hlearn⟩ := (turn_of_receive hreceive).learns hrejects
  simp only [hlearn, ObfuscationLayer.learn_eq_iff, hdecode, Except.ok.injEq, forall_eq']

/-- A manager that knows the identity of one peer. -/
def sampleManager (peer : SocketAddr) : RpcManager :=
  .new ((ObfuscationLayer.new ⟨Vector.replicate 16 0x11⟩ 7 true).registerPeerIdentity peer
    ⟨Vector.replicate 16 0x22⟩) {}

def samplePlatform : Platform := ⟨fun _ => "", fun _ => none⟩

/-- A pong that nobody asked for is dropped and says nothing of its sender. -/
theorem rejected_pong_leaves_peers :
    let peer := SocketAddr.v4 (.new 192 0 2 1) 4672
    ∃ m', (sampleManager peer).receive samplePlatform (fun _ => Vector.replicate 16 0) peer
        [0xE4, 0x61, 0x40, 0x12] none 0 = some (.unrequested, m') ∧
      ∀ addr, m'.obfuscation.peerStateForAddr addr =
        (sampleManager peer).obfuscation.peerStateForAddr addr := by
  intro peer
  obtain ⟨m', hreceive⟩ : ∃ m', (sampleManager peer).receive samplePlatform
      (fun _ => Vector.replicate 16 0) peer [0xE4, 0x61, 0x40, 0x12] none 0 =
        some (.unrequested, m') := ⟨_, rfl⟩
  refine ⟨m', hreceive, (RpcManager.rejected_leaves_peers_iff _ _ _ m' peer _ none 0 .unrequested
    hreceive trivial).mpr fun packet hdecode => ?_⟩
  obtain rfl := Except.ok.inj hdecode
  exact ⟨nofun, nofun, nofun⟩

/-- A `HELLO_RES` that nobody asked for is dropped, and its sender goes under another identity from
then on. -/
theorem rejected_hello_replaces_identity :
    let peer := SocketAddr.v4 (.new 192 0 2 1) 4672
    ∃ m', (sampleManager peer).receive samplePlatform (fun _ => Vector.replicate 16 0) peer
        ([0xE4, 0x19] ++ List.replicate 16 0x33 ++ [0x36, 0x12, 9, 0]) none 0 =
          some (.unrequested, m') ∧
      ((sampleManager peer).obfuscation.peerStateForAddr peer).nodeId =
        some ⟨Vector.replicate 16 0x22⟩ ∧
      (m'.obfuscation.peerStateForAddr peer).nodeId = some ⟨Vector.replicate 16 0x33⟩ := by
  intro peer
  exact ⟨_, rfl, by decide +kernel, by decide +kernel⟩

end Overlord.Kad.Net
