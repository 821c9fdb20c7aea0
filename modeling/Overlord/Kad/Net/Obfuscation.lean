import Overlord.Kad.Proto.Packet
import Overlord.Net.Addr
import Overlord.Wire.KeyStream

/-!
# Obfuscated datagrams

`ObfuscationLayer` keeps what is known about the peers of the Kad socket and shapes its datagrams
with it.  A datagram to a peer with a known node id is encrypted under that id, one to a peer with
only a verify key under that key, and one to an unknown peer is left as it is.  The receiver does
not know which it gets: two bits of the first byte say what to try first, and a magic value says
whether the guess was right.

MD5 is a parameter and the random draws are arguments.  `select_marker` draws until it likes a
byte, so it is given a list and answers `none` if it would draw on.

`decrypt_encrypt` is the round trip: the marker of a datagram is never a plain protocol byte and
its two bits name the mode the sender chose, so the first key that is tried is the right one.

* `markerTryOrder_shapeMarker` — the two bits of a marker name its mode.
* `openTail_plainTail` — the tail that was written for a packet is opened again.
* `Knows` — the sender has the key that the receiver will try in the mode.
-/

set_option autoImplicit false

namespace Overlord.Kad.Net

open Wire

/-- `MAGICVALUE_UDP_SYNC_CLIENT`. -/
def MAGICVALUE_UDP_SYNC_CLIENT : UInt32 := 0x395F2EC1
/-- `KAD_MARKER_RECEIVER_KEY`. -/
def KAD_MARKER_RECEIVER_KEY : UInt8 := 0x02
/-- `UDP_PADDING_LEN`. -/
def UDP_PADDING_LEN : UInt8 := 0

/-! ## RC4 -/

/-- The state of `rc4`: the permutation and the two indices. -/
structure Rc4 where
  s : Vector UInt8 256
  i : Fin 256
  j : Fin 256
deriving DecidableEq

namespace Rc4

theorem index_lt (i : Fin 256) : i.val < 256 := i.isLt

/-- A round of the first loop of `rc4`. -/
def schedule (key : Bytes) (c : Rc4) (i : Fin 256) : Rc4 :=
  let j := c.j + (c.s.get i).toFin + (key.getD (i.val % key.length) 0).toFin
  { c with s := c.s.swap i j (index_lt i) (index_lt j), j := j }

/-- The state before the first byte. -/
def start (key : Bytes) : Rc4 :=
  let zero := (0 : UInt8).toFin
  let scheduled :=
    (List.finRange 256).foldl (schedule key) ⟨Vector.ofFn fun i => UInt8.ofFin i, zero, zero⟩
  { scheduled with i := zero, j := zero }

/-- A round of the second loop of `rc4`. -/
def next (c : Rc4) : UInt8 × Rc4 :=
  let i := c.i + (1 : UInt8).toFin
  let j := c.j + (c.s.get i).toFin
  let s := c.s.swap i j (index_lt i) (index_lt j)
  (s.get ((s.get i).toFin + (s.get j).toFin), ⟨s, i, j⟩)

/-- The bytes `rc4` adds. -/
def stream : KeyStream Rc4 := ⟨next⟩

end Rc4

/-- `rc4`. -/
def rc4 (key data : Bytes) : Bytes :=
  if key.isEmpty || data.isEmpty then data else (Rc4.stream.apply (Rc4.start key) data).1

theorem length_rc4 (key data : Bytes) : (rc4 key data).length = data.length := by
  rw [rc4]
  split_ifs
  · rfl
  · exact KeyStream.length_apply data

/-- Encrypting twice gives the text back. -/
theorem rc4_rc4 (key data : Bytes) : rc4 key (rc4 key data) = data := by
  by_cases h : (key.isEmpty || data.isEmpty) = true
  · simp only [rc4, if_pos h]
  · have hnonempty : ¬ (key.isEmpty || (rc4 key data).isEmpty) = true := by
      simpa only [List.isEmpty_iff_length_eq_zero, Bool.or_eq_true, length_rc4] using h
    rw [rc4, if_neg hnonempty, rc4, if_neg h, KeyStream.apply_apply]

/-! ## State -/

inductive KadKeyMode where
  | nodeId
  | receiverVerifyKey
deriving DecidableEq, Repr

structure DecryptResult where
  data : Bytes
  wasObfuscated : Bool
  senderVerifyKey : Option UInt32
  receiverVerifyKeyValid : Bool
deriving DecidableEq, Repr

inductive OutboundKadEncryptionMode where
  | plaintext
  | nodeId
  | receiverVerifyKey
deriving DecidableEq, Repr

structure OutboundKadEncryptionInfo where
  mode : OutboundKadEncryptionMode
  peerNodeId : Option NodeId
  peerKadVersion : Option UInt8
  receiverVerifyKey : Option UInt32
  senderVerifyKey : Option UInt32
deriving DecidableEq, Repr

structure PeerCryptoState where
  nodeId : Option NodeId
  kadVersion : Option UInt8
deriving DecidableEq, Repr

/-- `PeerCryptoState::default`. -/
def PeerCryptoState.default : PeerCryptoState := ⟨none, none⟩

@[ext]
structure ResolvedPeerCryptoState where
  receiverVerifyKey : Option UInt32
  nodeId : Option NodeId
  kadVersion : Option UInt8
deriving DecidableEq, Repr

structure ObfuscationLayer where
  ourNodeId : NodeId
  ourUdpKey : UInt32
  enabled : Bool
  peers : SocketAddr → Option PeerCryptoState
  receiverVerifyKeys : IpAddr → Option UInt32

namespace ObfuscationLayer

/-- `ObfuscationLayer::new`. -/
def new (ourNodeId : NodeId) (ourUdpKey : UInt32) (enabled : Bool) : ObfuscationLayer :=
  ⟨ourNodeId, ourUdpKey, enabled, fun _ => none, fun _ => none⟩

/-- `guard.entry(addr).or_default()`. -/
def peerEntry (layer : ObfuscationLayer) (addr : SocketAddr) : PeerCryptoState :=
  (layer.peers addr).getD .default

/-- `register_peer_identity`. -/
def registerPeerIdentity (layer : ObfuscationLayer) (addr : SocketAddr) (nodeId : NodeId) :
    ObfuscationLayer :=
  { layer with
    peers := Function.update layer.peers addr
      (some { layer.peerEntry addr with nodeId := some nodeId }) }

/-- `register_peer_version`. -/
def registerPeerVersion (layer : ObfuscationLayer) (addr : SocketAddr) (kadVersion : UInt8) :
    ObfuscationLayer :=
  { layer with
    peers := Function.update layer.peers addr
      (some { layer.peerEntry addr with kadVersion := some kadVersion }) }

/-- `register_peer_key`. -/
def registerPeerKey (layer : ObfuscationLayer) (addr : SocketAddr) (key : UInt32) :
    ObfuscationLayer :=
  { layer with
    receiverVerifyKeys := Function.update layer.receiverVerifyKeys addr.ip (some key) }

/-- `peer_state_for_addr`. -/
def peerStateForAddr (layer : ObfuscationLayer) (addr : SocketAddr) : ResolvedPeerCryptoState :=
  ⟨layer.receiverVerifyKeys addr.ip, (layer.peerEntry addr).nodeId,
    (layer.peerEntry addr).kadVersion⟩

end ObfuscationLayer

/-! ## Keys -/

section Layer

variable (md5 : Bytes → Vector UInt8 16)

/-- `derive_kad_request_key`. -/
def deriveKadRequestKey (nodeId : NodeId) (randomKeyPart : UInt16) : Vector UInt8 16 :=
  md5 (nodeId.bytes.toList ++ putU16 randomKeyPart)

/-- `derive_kad_receiver_key`. -/
def deriveKadReceiverKey (receiverVerifyKey : UInt32) (randomKeyPart : UInt16) :
    Vector UInt8 16 :=
  md5 (putU32 receiverVerifyKey ++ putU16 randomKeyPart)

/-- `u32::from_le_bytes` of four bytes at an offset. -/
def u32At (offset : Nat) (bytes : Bytes) : UInt32 :=
  UInt32.ofNat (ofLe ((bytes.drop offset).take 4))

/-- `derive_udp_verify_key`. -/
def deriveUdpVerifyKey (ourUdpKey : UInt32) (targetIp : Ipv4Addr) : UInt32 :=
  let digest := (md5 (targetIp.octets.toList ++ putU32 ourUdpKey)).toList
  let folded := u32At 0 digest ^^^ u32At 4 digest ^^^ u32At 8 digest ^^^ u32At 12 digest
  folded % 0xFFFFFFFE + 1

namespace ObfuscationLayer

/-- `verify_key_for_ip`. -/
def verifyKeyForIp (layer : ObfuscationLayer) (ip : Ipv4Addr) : UInt32 :=
  deriveUdpVerifyKey md5 layer.ourUdpKey ip

end ObfuscationLayer

/-! ## Sending -/

/-- `can_use_node_id_mode`. -/
def canUseNodeIdMode (peer : ResolvedPeerCryptoState) : Bool :=
  peer.nodeId.isSome && peer.kadVersion.all (6 ≤ ·)

/-- `should_prefer_receiver_verify_key`. -/
def shouldPreferReceiverVerifyKey (opcodeValue : UInt8) : Bool :=
  opcodeValue = opcode.FIREWALLED2_REQ

/-- `is_plain_protocol_marker`. -/
def isPlainProtocolMarker (byte : UInt8) : Bool :=
  byte ∈ [0xE3, 0xE4, 0xE5, 0xA3, 0xC5, 0xD4]

/-- What a round of `select_marker` makes of the byte it draws. -/
def shapeMarker (mode : KadKeyMode) (draw : UInt8) : UInt8 :=
  let marker := draw &&& ~~~0x03
  match mode with
  | .nodeId => marker
  | .receiverVerifyKey => marker ||| KAD_MARKER_RECEIVER_KEY

/-- `select_marker`, on the bytes it draws. -/
def selectMarker (mode : KadKeyMode) (draws : List UInt8) : Option UInt8 :=
  (draws.map (shapeMarker mode)).find? fun marker => !isPlainProtocolMarker marker

namespace ObfuscationLayer

/-- The mode of `inspect_outbound`. -/
def outboundMode (layer : ObfuscationLayer) (peer : ResolvedPeerCryptoState)
    (opcodeValue : UInt8) : OutboundKadEncryptionMode :=
  if !layer.enabled then .plaintext
  else if shouldPreferReceiverVerifyKey opcodeValue && peer.receiverVerifyKey.isSome then
    .receiverVerifyKey
  else if canUseNodeIdMode peer then .nodeId
  else if peer.receiverVerifyKey.isSome then .receiverVerifyKey
  else .plaintext

/-- `inspect_outbound`. -/
def inspectOutbound (layer : ObfuscationLayer) (addr : SocketAddr) (opcodeValue : UInt8) :
    OutboundKadEncryptionInfo :=
  let peer := layer.peerStateForAddr addr
  let mode := layer.outboundMode peer opcodeValue
  let senderVerifyKey :=
    match mode, addr.ip with
    | .plaintext, _ => none
    | _, .v4 ip => some (layer.verifyKeyForIp md5 ip)
    | _, .v6 _ => none
  ⟨mode, peer.nodeId, peer.kadVersion, peer.receiverVerifyKey, senderVerifyKey⟩

/-- The key of `encrypt`; both `unwrap`s are here. -/
def encryptionKey (peer : ResolvedPeerCryptoState) (mode : KadKeyMode) (randomKeyPart : UInt16) :
    Option (Vector UInt8 16) :=
  match mode with
  | .nodeId => peer.nodeId.map fun nodeId => deriveKadRequestKey md5 nodeId randomKeyPart
  | .receiverVerifyKey =>
    peer.receiverVerifyKey.map fun key => deriveKadReceiverKey md5 key randomKeyPart

/-- What `encrypt` puts behind the random part, before it is encrypted. -/
def plainTail (peer : ResolvedPeerCryptoState) (senderVerifyKey : UInt32) (plaintext : Bytes) :
    Bytes :=
  putU32 MAGICVALUE_UDP_SYNC_CLIENT ++ putU8 UDP_PADDING_LEN ++
    putU32 (peer.receiverVerifyKey.getD 0) ++ putU32 senderVerifyKey ++ plaintext

/-- The part of `encrypt` behind the choice of the mode. -/
def encryptWith (layer : ObfuscationLayer) (addr : SocketAddr) (mode : KadKeyMode)
    (plaintext : Bytes) (randomKeyPart : UInt16) (draws : List UInt8) : Option Bytes := do
  let peer := layer.peerStateForAddr addr
  let rc4Key ← encryptionKey md5 peer mode randomKeyPart
  match addr.ip with
  | .v6 _ => return plaintext
  | .v4 ip =>
    let encryptedTail := rc4 rc4Key.toList (plainTail peer (layer.verifyKeyForIp md5 ip) plaintext)
    return (← selectMarker mode draws) :: putU16 randomKeyPart ++ encryptedTail

/-- `encrypt`, with the random part of the key and the bytes `select_marker` draws.  It is `none`
if an `unwrap` fails or there are more bytes to draw. -/
def encrypt (layer : ObfuscationLayer) (addr : SocketAddr) (opcodeValue : UInt8)
    (plaintext : Bytes) (randomKeyPart : UInt16) (draws : List UInt8) : Option Bytes :=
  match (layer.inspectOutbound md5 addr opcodeValue).mode with
  | .plaintext => some plaintext
  | .nodeId => layer.encryptWith md5 addr .nodeId plaintext randomKeyPart draws
  | .receiverVerifyKey =>
    layer.encryptWith md5 addr .receiverVerifyKey plaintext randomKeyPart draws

end ObfuscationLayer

/-! ## Receiving -/

/-- `plaintext_result`. -/
def plaintextResult (buf : Bytes) : DecryptResult := ⟨buf, false, none, false⟩

/-- `marker_try_order`. -/
def markerTryOrder (marker : UInt8) : List KadKeyMode :=
  if marker &&& 0x03 = KAD_MARKER_RECEIVER_KEY then [.receiverVerifyKey, .nodeId]
  else [.nodeId, .receiverVerifyKey]

/-- The first byte of a Kad packet. -/
def isKadProtocol (byte : UInt8) : Bool :=
  byte = OP_KADEMLIAHEADER || byte = OP_KADEMLIAPACKEDPROT

/-- What a round of `decrypt` makes of the decrypted tail. -/
def openTail (mode : KadKeyMode) (decrypted : Bytes) : Option DecryptResult :=
  if decrypted.length < 13 then none
  else if u32At 0 decrypted ≠ MAGICVALUE_UDP_SYNC_CLIENT then none
  else
    let paddingLen := (decrypted.getD 4 0 &&& 0x0F).toNat
    let payloadOffset := 5 + paddingLen + 8
    if decrypted.length ≤ payloadOffset then none
    else
      let payload := decrypted.drop payloadOffset
      if !payload.head?.any isKadProtocol then none
      else some ⟨payload, true, some (u32At (5 + paddingLen + 4) decrypted),
        mode = .receiverVerifyKey⟩

namespace ObfuscationLayer

/-- The key a round of `decrypt` tries. -/
def decryptionKey (layer : ObfuscationLayer) (remoteIp : Ipv4Addr) (randomKeyPart : UInt16) :
    KadKeyMode → Vector UInt8 16
  | .nodeId => deriveKadRequestKey md5 layer.ourNodeId randomKeyPart
  | .receiverVerifyKey =>
    deriveKadReceiverKey md5 (layer.verifyKeyForIp md5 remoteIp) randomKeyPart

/-- `decrypt`. -/
def decrypt (layer : ObfuscationLayer) (source : SocketAddr) (buf : Bytes) : DecryptResult :=
  match buf with
  | marker :: low :: high :: tail =>
    if isKadProtocol marker then plaintextResult buf
    else
      match source.ip with
      | .v6 _ => plaintextResult buf
      | .v4 remoteIp =>
        let randomKeyPart := UInt16.ofNat (ofLe [low, high])
        let opened := (markerTryOrder marker).findSome? fun mode =>
          openTail mode (rc4 (layer.decryptionKey md5 remoteIp randomKeyPart mode).toList tail)
        opened.getD (plaintextResult buf)
  | _ => plaintextResult buf

end ObfuscationLayer

/-! ## The marker -/

/-- The mode as `inspect_outbound` reports it. -/
def KadKeyMode.outbound : KadKeyMode → OutboundKadEncryptionMode
  | .nodeId => .nodeId
  | .receiverVerifyKey => .receiverVerifyKey

/-- The mode that is not this one. -/
def KadKeyMode.other : KadKeyMode → KadKeyMode
  | .nodeId => .receiverVerifyKey
  | .receiverVerifyKey => .nodeId

/-- The two bits of a marker name its mode. -/
theorem markerTryOrder_shapeMarker (mode : KadKeyMode) (draw : UInt8) :
    markerTryOrder (shapeMarker mode draw) = [mode, mode.other] := by
  have hall : ∀ draw, markerTryOrder (shapeMarker .nodeId draw) = [.nodeId, .receiverVerifyKey] ∧
      markerTryOrder (shapeMarker .receiverVerifyKey draw) = [.receiverVerifyKey, .nodeId] := by
    decide +kernel
  cases mode with
  | nodeId => exact (hall draw).1
  | receiverVerifyKey => exact (hall draw).2

theorem isPlainProtocolMarker_of_isKadProtocol {byte : UInt8} (h : isKadProtocol byte = true) :
    isPlainProtocolMarker byte = true := by
  rcases Bool.or_eq_true_iff.mp h with h | h <;> rw [of_decide_eq_true h] <;> decide

/-- A marker is not taken for a plain packet, and its mode is tried first. -/
theorem selectMarker_spec {mode : KadKeyMode} {draws : List UInt8} {marker : UInt8}
    (h : selectMarker mode draws = some marker) :
    isKadProtocol marker = false ∧ markerTryOrder marker = [mode, mode.other] := by
  obtain ⟨draw, -, rfl⟩ := List.mem_map.mp (List.mem_of_find?_eq_some h)
  have hplain : isPlainProtocolMarker (shapeMarker mode draw) = false := by
    simpa using List.find?_some h
  refine ⟨Bool.eq_false_iff.mpr fun hkad => ?_, markerTryOrder_shapeMarker mode draw⟩
  rw [isPlainProtocolMarker_of_isKadProtocol hkad] at hplain
  cases hplain

/-! ## The tail -/

theorem u32At_append (front : Bytes) {rest : Bytes} {offset : Nat} (hoffset : front.length = offset)
    (v : UInt32) : u32At offset (front ++ (putU32 v ++ rest)) = v := by
  have htake : ((front ++ (putU32 v ++ rest)).drop offset).take 4 = putU32 v := by
    rw [List.drop_append_of_le_length hoffset.ge, List.drop_of_length_le hoffset.le,
      List.nil_append, List.take_append_of_le_length (by simp), List.take_of_length_le (by simp)]
  rw [u32At, htake, putU32, ofLe_toLe, show 256 ^ 4 = 2 ^ 32 from rfl, Nat.mod_eq_of_lt v.toNat_lt,
    UInt32.ofNat_toNat]

/-- The tail of a Kad packet is opened. -/
theorem openTail_plainTail (mode : KadKeyMode) (peer : ResolvedPeerCryptoState) (key : UInt32)
    {plaintext : Bytes} (hkad : plaintext.head?.any isKadProtocol = true) :
    openTail mode (ObfuscationLayer.plainTail peer key plaintext) =
      some ⟨plaintext, true, some key, mode = .receiverVerifyKey⟩ := by
  have hpos : 0 < plaintext.length := by
    cases plaintext with
    | nil => cases hkad
    | cons byte rest => exact Nat.succ_pos _
  have hlength : (ObfuscationLayer.plainTail peer key plaintext).length =
    13 + plaintext.length := by
    simp only [ObfuscationLayer.plainTail, List.length_append, length_putU32, length_putU8]
  have hmagic : u32At 0 (ObfuscationLayer.plainTail peer key plaintext) =
      MAGICVALUE_UDP_SYNC_CLIENT := by
    simp only [ObfuscationLayer.plainTail, List.append_assoc]
    exact u32At_append [] rfl _
  have hpadding : (ObfuscationLayer.plainTail peer key plaintext).getD 4 0 = 0 := rfl
  have hkey : u32At 9 (ObfuscationLayer.plainTail peer key plaintext) = key := by
    rw [ObfuscationLayer.plainTail, List.append_assoc]
    exact u32At_append _ (by simp) key
  have hpayload : (ObfuscationLayer.plainTail peer key plaintext).drop 13 = plaintext :=
    List.drop_left' (by simp)
  have hnone : ((0 : UInt8) &&& 0x0F).toNat = 0 := rfl
  rw [openTail, if_neg (by omega), if_neg (not_not.mpr hmagic), hpadding, hnone]
  dsimp only
  rw [if_neg (by omega), hkey, hpayload, hkad]
  rfl

/-! ## The round trip -/

namespace ObfuscationLayer

variable {md5} {a b : ObfuscationLayer} {aIp bIp : Ipv4Addr} {aPort bPort : UInt16}

theorem decrypt_eq {marker low high : UInt8} (hmarker : isKadProtocol marker = false)
    (tail : Bytes) :
    b.decrypt md5 (.v4 aIp aPort) (marker :: low :: high :: tail) =
      ((markerTryOrder marker).findSome? fun mode =>
        openTail mode (rc4 (b.decryptionKey md5 aIp (UInt16.ofNat (ofLe [low, high])) mode).toList
          tail)).getD (plaintextResult (marker :: low :: high :: tail)) :=
  if_neg (Bool.eq_false_iff.mp hmarker)

/-- What was encrypted under the key of the mode its marker names is decrypted. -/
theorem decrypt_of_selectMarker {mode : KadKeyMode} {marker : UInt8} {draws : List UInt8}
    (hmarker : selectMarker mode draws = some marker) (peer : ResolvedPeerCryptoState)
    (key : UInt32) (randomKeyPart : UInt16) {plaintext : Bytes}
    (hkad : plaintext.head?.any isKadProtocol = true) :
    b.decrypt md5 (.v4 aIp aPort) (marker :: putU16 randomKeyPart ++
        rc4 (b.decryptionKey md5 aIp randomKeyPart mode).toList (plainTail peer key plaintext)) =
      ⟨plaintext, true, some key, mode = .receiverVerifyKey⟩ := by
  obtain ⟨hplain, horder⟩ := selectMarker_spec hmarker
  have hrandom : UInt16.ofNat (ofLe (putU16 randomKeyPart)) = randomKeyPart := by
    rw [putU16, ofLe_toLe, show 256 ^ 2 = 2 ^ 16 from rfl, Nat.mod_eq_of_lt randomKeyPart.toNat_lt,
      UInt16.ofNat_toNat]
  obtain ⟨low, high, hbytes⟩ : ∃ low high, putU16 randomKeyPart = [low, high] := ⟨_, _, rfl⟩
  rw [hbytes] at hrandom ⊢
  rw [List.cons_append, List.cons_append, List.cons_append, List.nil_append]
  rw [decrypt_eq hplain, horder, hrandom, List.findSome?_cons, rc4_rc4,
    openTail_plainTail mode peer key hkad]
  rfl

/-- A plain packet is taken as it is. -/
theorem decrypt_plaintext {source : SocketAddr} {plaintext : Bytes}
    (hkad : plaintext.head?.any isKadProtocol = true) :
    b.decrypt md5 source plaintext = plaintextResult plaintext := by
  match plaintext, hkad with
  | [_], _ | [_, _], _ => rfl
  | marker :: _ :: _ :: _, hkad => exact if_pos hkad

theorem encrypt_of_mode {mode : KadKeyMode} {addr : SocketAddr} {opcodeValue : UInt8}
    (hmode : (a.inspectOutbound md5 addr opcodeValue).mode = mode.outbound) (plaintext : Bytes)
    (randomKeyPart : UInt16) (draws : List UInt8) :
    a.encrypt md5 addr opcodeValue plaintext randomKeyPart draws =
      a.encryptWith md5 addr mode plaintext randomKeyPart draws := by
  rw [encrypt, hmode]
  cases mode <;> rfl

theorem encryptWith_eq {mode : KadKeyMode} {randomKeyPart : UInt16} {key : Vector UInt8 16}
    (hkey : encryptionKey md5 (a.peerStateForAddr (.v4 bIp bPort)) mode randomKeyPart = some key)
    (plaintext : Bytes) (draws : List UInt8) :
    a.encryptWith md5 (.v4 bIp bPort) mode plaintext randomKeyPart draws =
      (selectMarker mode draws).map fun marker => marker :: putU16 randomKeyPart ++ rc4 key.toList
        (plainTail (a.peerStateForAddr (.v4 bIp bPort)) (a.verifyKeyForIp md5 bIp) plaintext) := by
  rw [encryptWith, hkey]
  cases selectMarker mode draws <;> rfl

/-- The sender has the key that the receiver tries in this mode. -/
def Knows (md5 : Bytes → Vector UInt8 16) (a b : ObfuscationLayer) (aIp : Ipv4Addr)
    (bAddr : SocketAddr) : KadKeyMode → Prop
  | .nodeId => (a.peerStateForAddr bAddr).nodeId = some b.ourNodeId
  | .receiverVerifyKey =>
    (a.peerStateForAddr bAddr).receiverVerifyKey = some (b.verifyKeyForIp md5 aIp)

theorem Knows.encryptionKey_eq {mode : KadKeyMode} {bAddr : SocketAddr}
    (h : Knows md5 a b aIp bAddr mode) (randomKeyPart : UInt16) :
    encryptionKey md5 (a.peerStateForAddr bAddr) mode randomKeyPart =
      some (b.decryptionKey md5 aIp randomKeyPart mode) := by
  cases mode with
  | nodeId => rw [encryptionKey, show _ = some b.ourNodeId from h]; rfl
  | receiverVerifyKey =>
    rw [encryptionKey, show _ = some (b.verifyKeyForIp md5 aIp) from h]; rfl

/-- **The round trip of a datagram.**  A sender in one of the two modes, with what that mode needs
to know of the receiver, gets its packet through once a byte it draws makes a marker; the receiver
also learns the sender's verify key and in which mode the packet came.  A sender in neither mode
sends its packet as it is, and that is how it is received. -/
theorem decrypt_encrypt (md5 : Bytes → Vector UInt8 16) (a b : ObfuscationLayer)
    (aIp bIp : Ipv4Addr) (aPort bPort : UInt16) (opcodeValue : UInt8) (plaintext : Bytes)
    (hkad : plaintext.head? = some 0xE4 ∨ plaintext.head? = some 0xE5) (randomKeyPart : UInt16)
    (draws : List UInt8) :
    let outbound := (a.inspectOutbound md5 (.v4 bIp bPort) opcodeValue).mode
    let wire? := a.encrypt md5 (.v4 bIp bPort) opcodeValue plaintext randomKeyPart draws
    (∀ mode : KadKeyMode, outbound = mode.outbound → Knows md5 a b aIp (.v4 bIp bPort) mode →
      (wire?.isSome ↔ (selectMarker mode draws).isSome) ∧
      ∀ wire, wire? = some wire → b.decrypt md5 (.v4 aIp aPort) wire =
        ⟨plaintext, decide (outbound ≠ .plaintext), some (a.verifyKeyForIp md5 bIp),
          decide (outbound = .receiverVerifyKey)⟩) ∧
    (outbound = .plaintext → ∃ wire, wire? = some wire ∧
      b.decrypt md5 (.v4 aIp aPort) wire = ⟨plaintext, false, none, false⟩) := by
  have hproto : plaintext.head?.any isKadProtocol = true := by
    rcases hkad with h | h <;> rw [h] <;> rfl
  refine ⟨fun mode hmode hknows => ?_, fun hmode => ?_⟩
  · have heq := (encrypt_of_mode hmode plaintext randomKeyPart draws).trans
      (encryptWith_eq (hknows.encryptionKey_eq randomKeyPart) plaintext draws)
    rw [heq, hmode]
    refine ⟨by rw [Option.isSome_map], fun wire hwire => ?_⟩
    obtain ⟨marker, hmarker, rfl⟩ := Option.map_eq_some_iff.mp hwire
    rw [decrypt_of_selectMarker hmarker _ _ _ hproto]
    cases mode <;> rfl
  · exact ⟨plaintext, by rw [encrypt, hmode], decrypt_plaintext hproto⟩

/-- Two layers, of which the first knows the node id of the second at this address. -/
def samplePair (bAddr : SocketAddr) : ObfuscationLayer × ObfuscationLayer :=
  ((new ⟨Vector.replicate 16 0x11⟩ 0x12345678 true).registerPeerIdentity bAddr
      ⟨Vector.replicate 16 0x22⟩,
    new ⟨Vector.replicate 16 0x22⟩ 0x87654321 true)

/-- A ping under the node id of the receiver, with a drawn byte that makes a marker. -/
theorem decrypt_encrypt_ping :
    let md5 : Bytes → Vector UInt8 16 := fun _ => Vector.replicate 16 0
    let (aIp, bIp) := (Ipv4Addr.new 1 2 3 4, Ipv4Addr.new 5 6 7 8)
    let (a, b) := samplePair (.v4 bIp 4672)
    ∃ wire, a.encrypt md5 (.v4 bIp 4672) opcode.PING [0xE4, 0x60] 7 [0x10] = some wire ∧
      b.decrypt md5 (.v4 aIp 4672) wire =
        ⟨[0xE4, 0x60], true, some (a.verifyKeyForIp md5 bIp), false⟩ := by
  intro md5
  obtain ⟨hsome, hround⟩ := (decrypt_encrypt md5
    (samplePair (.v4 (.new 5 6 7 8) 4672)).1 (samplePair (.v4 (.new 5 6 7 8) 4672)).2
    (.new 1 2 3 4) (.new 5 6 7 8) 4672 4672 opcode.PING [0xE4, 0x60] (.inl rfl) 7 [0x10]).1
    .nodeId (by decide) (by unfold Knows; decide)
  obtain ⟨wire, hwire⟩ := Option.isSome_iff_exists.mp (hsome.mpr (by decide))
  exact ⟨wire, hwire, hround wire hwire⟩

end ObfuscationLayer

end Layer

end Overlord.Kad.Net
