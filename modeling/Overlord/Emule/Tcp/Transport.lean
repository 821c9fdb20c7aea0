import Overlord.Emule.Tcp.Obfuscation
import Overlord.Wire.Framing

/-!
# The transport under TCP connections

`ed2k_tcp/transport.rs`, and `read_packet` of `ed2k_server/session.rs`.  A packet is read in stages:
between peers the marker, the rest of the header and the payload, from a server the header and the
payload.  Each stage is one `read_exact`, and its bytes are decrypted when they are all there.

`handle_connection` reads under a timeout and the loop of the server session reads in a `select!`,
so that a read that waits is dropped whenever a timer or another branch comes first, and a new one
is started later.  A `read_exact` that is dropped has taken bytes from the socket.

* `peerFraming` and `serverFraming` are the two readers; what they make of a packet that was sent is
  `peerDecode` and `serverDecode`.
* `packets_in_order`: what is read is what was sent, in any arrival and under any timers, as long as
  no read is dropped inside a packet.
* `lost_packet`: if it is, the packets are gone and what stands in their payload may be read
  instead.
* `handshake_then_packets`: two agents that share the user hash of the called one agree on the keys,
  and read what the other writes.

The loop that inflates a packed payload is a parameter, except for its limit.
-/

set_option autoImplicit false

namespace Overlord.Emule

open Machine Wire
open Rc4KeyStream (rc4)

/-! ## Packets -/

def MAX_PEER_DECOMPRESSED_PACKET_LEN : Nat := 50000

def MAX_SERVER_DECOMPRESSED_PACKET_LEN : Nat := 250000

/-- A packet of a server. -/
structure Ed2kPacket where
  opcode : UInt8
  payload : List UInt8
deriving DecidableEq, Repr

/-- A packet whose length fits into its header. -/
def EmuleTcpPacket.Fits (packet : EmuleTcpPacket) : Prop := packet.payload.length + 1 < 2 ^ 32

section Reading

variable (inflate : List UInt8 → Except String (List UInt8))

/-- Inflate a packed payload, up to a limit. -/
def inflatePacked (limit : Nat) (peer : String) (payload : List UInt8) :
    Except String (List UInt8) :=
  match inflate payload with
  | .error _ => .error "zlib inflate failed"
  | .ok decoded =>
    if limit < decoded.length then
      .error s!"decompressed ED2K {peer} packet exceeded {limit} bytes"
    else .ok decoded

/-- `decode_peer_payload`. -/
def decodePeerPayload (protocol : UInt8) (payload : List UInt8) :
    Except String (UInt8 × List UInt8) :=
  if protocol ≠ OP_PACKEDPROT then .ok (protocol, payload)
  else do
    let decoded ← inflatePacked inflate MAX_PEER_DECOMPRESSED_PACKET_LEN "peer" payload
    return (OP_EMULEPROT, decoded)

/-- `decode_server_payload`. -/
def decodeServerPayload (protocol : UInt8) (payload : List UInt8) : Except String (List UInt8) :=
  if protocol ≠ OP_PACKEDPROT then .ok payload
  else inflatePacked inflate MAX_SERVER_DECOMPRESSED_PACKET_LEN "server" payload

/-- What a peer makes of a packet. -/
def peerDecode (packet : EmuleTcpPacket) : Except String EmuleTcpPacket := do
  let (protocol, payload) ← decodePeerPayload inflate packet.protocol packet.payload
  return ⟨protocol, packet.opcode, payload⟩

/-- What the session makes of a packet of the server at `endpoint`. -/
def serverDecode (endpoint : String) (packet : EmuleTcpPacket) : Except String Ed2kPacket :=
  if packet.protocol ≠ OP_EDONKEYPROT ∧ packet.protocol ≠ OP_PACKEDPROT then
    .error ("unsupported ED2K server protocol 0x" ++
      Hex.upper 2 packet.protocol.toNat ++ " from " ++ endpoint)
  else match decodeServerPayload inflate packet.protocol packet.payload with
    | .error _ => .error ("failed to decode ED2K server packet from " ++ endpoint)
    | .ok payload => .ok ⟨packet.opcode, payload⟩

/-- The payload of a packet after its header, with the length `packetLength`. -/
def payloadStage {α : Type} (zero : String) (packetLength : Nat) (payload : List UInt8)
    (result : Except String α) : Stage α :=
  if packetLength = 0 then .complete (.error zero)
  else if payload.length < packetLength - 1 then .need (packetLength - 1 - payload.length)
  else .complete result

/-- `Ed2kTransport::read_packet`. -/
def peerFraming : Framing EmuleTcpPacket
  | [] => .need 1
  | [_] => .need (TCP_PACKET_HEADER_LEN - 1)
  | protocol :: headerRest =>
    payloadStage "invalid eD2k packet length 0" (ofLe (headerRest.take 4)) (headerRest.drop 5)
      (peerDecode inflate ⟨protocol, headerRest.getD 4 0, headerRest.drop 5⟩)

/-- `read_packet` of the server session. -/
def serverFraming (endpoint : String) : Framing Ed2kPacket
  | [] => .need TCP_PACKET_HEADER_LEN
  | protocol :: headerRest =>
    let packet : EmuleTcpPacket := ⟨protocol, headerRest.getD 4 0, headerRest.drop 5⟩
    if protocol ≠ OP_EDONKEYPROT ∧ protocol ≠ OP_PACKEDPROT then
      .complete (serverDecode inflate endpoint packet)
    else payloadStage "invalid ED2K server packet length 0" (ofLe (headerRest.take 4))
      packet.payload (serverDecode inflate endpoint packet)

end Reading

/-! ## Both readers expect what `encode_packet` writes -/

theorem payloadStage_need_pos {α : Type} {zero : String} {packetLength n : Nat}
    {payload : List UInt8} {result : Except String α}
    (h : payloadStage zero packetLength payload result = .need n) : 0 < n := by
  rw [payloadStage] at h
  split at h
  · cases h
  · split at h
    · obtain rfl := Stage.need.inj h
      omega
    · cases h

/-- The payload is the last stage, if it is not empty. -/
theorem parses_payload {α : Type} {framing : Framing α} {front payload : List UInt8}
    (zero : String) (result : List UInt8 → Except String α)
    (h : ∀ body, framing (front ++ body) =
      payloadStage zero (payload.length + 1) body (result body)) :
    Parses framing front payload (result payload) := by
  have hfull : framing (front ++ payload) = .complete (result payload) := by
    simp [h, payloadStage]
  by_cases hempty : payload = []
  · subst hempty
    rw [List.append_nil] at hfull
    exact .complete hfull fun _ _ => rfl
  · have hpos : 0 < payload.length := List.length_pos_iff.mpr hempty
    have hneed : framing front = .need payload.length := by
      have hfront := h []
      rwa [List.append_nil, payloadStage, if_neg (Nat.succ_ne_zero _), if_pos (by simpa)] at hfront
    have hparses := Parses.need hneed rfl (.complete hfull fun _ _ => rfl)
    rwa [List.append_nil] at hparses

variable {inflate : List UInt8 → Except String (List UInt8)} {packet : EmuleTcpPacket}

/-- What stands in the header. -/
theorem ofLe_length (h : packet.Fits) :
    ofLe (toLe 4 (packet.payload.length + 1)) = packet.payload.length + 1 := by
  rw [ofLe_toLe]
  exact Nat.mod_eq_of_lt h

theorem parses_peerFraming (h : packet.Fits) :
    Parses (peerFraming inflate) [] (encodePacket packet) (peerDecode inflate packet) := by
  have hsplit : encodePacket packet = [packet.protocol] ++
      ((toLe 4 (packet.payload.length + 1) ++ [packet.opcode]) ++ packet.payload) := by
    simp [encodePacket]
  rw [hsplit]
  refine .need rfl rfl (.need rfl (by simp [TCP_PACKET_HEADER_LEN]) ?_)
  refine parses_payload "invalid eD2k packet length 0"
    (fun body => peerDecode inflate ⟨packet.protocol, packet.opcode, body⟩) fun body => ?_
  have hstage : peerFraming inflate ([packet.protocol] ++
      (toLe 4 (packet.payload.length + 1) ++ [packet.opcode]) ++ body) =
        payloadStage "invalid eD2k packet length 0"
          (ofLe (toLe 4 (packet.payload.length + 1))) body
          (peerDecode inflate ⟨packet.protocol, packet.opcode, body⟩) := rfl
  rwa [ofLe_length h] at hstage

theorem parses_serverFraming (h : packet.Fits) (endpoint : String) :
    Parses (serverFraming inflate endpoint) [] (encodePacket packet)
      (serverDecode inflate endpoint packet) := by
  have hsplit : encodePacket packet =
      (packet.protocol :: toLe 4 (packet.payload.length + 1) ++ [packet.opcode]) ++
        packet.payload := by
    simp [encodePacket]
  rw [hsplit]
  refine .need rfl (by simp [TCP_PACKET_HEADER_LEN]) ?_
  by_cases hprotocol : packet.protocol ≠ OP_EDONKEYPROT ∧ packet.protocol ≠ OP_PACKEDPROT
  · -- refused before the payload is read
    have hdecode : ∀ body, serverDecode inflate endpoint ⟨packet.protocol, packet.opcode, body⟩ =
        serverDecode inflate endpoint packet := by
      intro body
      rw [serverDecode, serverDecode, if_pos hprotocol, if_pos hprotocol]
    refine .complete ((if_pos hprotocol).trans (congrArg Stage.complete (hdecode []))) ?_
    intro a ha
    rw [serverDecode, if_pos hprotocol] at ha
    cases ha
  · refine parses_payload "invalid ED2K server packet length 0"
      (fun body => serverDecode inflate endpoint ⟨packet.protocol, packet.opcode, body⟩)
      fun body => ?_
    have hstage : serverFraming inflate endpoint
        ((packet.protocol :: toLe 4 (packet.payload.length + 1) ++ [packet.opcode]) ++ body) =
          payloadStage "invalid ED2K server packet length 0"
            (ofLe (toLe 4 (packet.payload.length + 1))) body
            (serverDecode inflate endpoint ⟨packet.protocol, packet.opcode, body⟩) :=
      if_neg hprotocol
    rwa [ofLe_length h] at hstage

variable {sent : List EmuleTcpPacket}

theorem expects_peer (hsent : ∀ packet ∈ sent, packet.Fits) :
    Receiver.Expects (peerFraming inflate) sent encodePacket (peerDecode inflate) where
  start := ⟨1, rfl⟩
  pos := by
    intro front n h
    match front with
    | [] => exact Stage.need.inj h ▸ Nat.one_pos
    | [_] => exact Stage.need.inj h ▸ (by decide)
    | _ :: _ :: _ => exact payloadStage_need_pos h
  parses packet hmem := parses_peerFraming (hsent packet hmem)

theorem expects_server (hsent : ∀ packet ∈ sent, packet.Fits) (endpoint : String) :
    Receiver.Expects (serverFraming inflate endpoint) sent encodePacket
      (serverDecode inflate endpoint) where
  start := ⟨TCP_PACKET_HEADER_LEN, rfl⟩
  pos := by
    intro front n h
    match front with
    | [] => exact Stage.need.inj h ▸ (by decide)
    | protocol :: headerRest =>
      rw [serverFraming] at h
      dsimp only at h
      split at h
      · cases h
      · exact payloadStage_need_pos h
  parses packet hmem := parses_serverFraming (hsent packet hmem) endpoint

/-! ## Timers -/

/-- What a peer has sent is on its way, behind what was read before the transport was built. -/
structure OnTheWire (channel : Option Rc4KeyStream) (sent : List EmuleTcpPacket)
    (prefetched flight : List UInt8) : Prop where
  fits : ∀ packet ∈ sent, packet.Fits
  bytes : prefetched ++ (rc4.crypt channel flight).1 = (sent.map encodePacket).flatten

/-- **Packets under timers.**  Whatever a peer or a server sends, however it arrives, in the clear
or obfuscated, and whenever reads are dropped: as long as none is dropped after it has taken a byte,
the packets that have been read are the first ones that were sent. -/
theorem packets_in_order (inflate : List UInt8 → Except String (List UInt8)) (endpoint : String)
    {channel : Option Rc4KeyStream} {prefetched flight : List UInt8}
    (hwire : OnTheWire channel sent prefetched flight) (events : List Receiver.Event) :
    (∀ r, Meets (Receiver.step rc4 (peerFraming inflate)) Receiver.CancelsClean
          (.new channel prefetched flight) events →
        run (Receiver.step rc4 (peerFraming inflate)) (.new channel prefetched flight) events =
          some r →
        r.returned.map .ok <+: sent.map (peerDecode inflate)) ∧
      ∀ r, Meets (Receiver.step rc4 (serverFraming inflate endpoint)) Receiver.CancelsClean
          (.new channel prefetched flight) events →
        run (Receiver.step rc4 (serverFraming inflate endpoint))
          (.new channel prefetched flight) events = some r →
        r.returned.map .ok <+: sent.map (serverDecode inflate endpoint) := by
  constructor
  · intro r hmeets hrun
    exact (Receiver.returned_of_run (expects_peer hwire.fits) hwire.bytes hmeets hrun).1
  · intro r hmeets hrun
    exact (Receiver.returned_of_run (expects_server hwire.fits endpoint) hwire.bytes hmeets hrun).1

/-- A packet, and one whose payload is that packet as it stands on the wire. -/
def samplePacket : EmuleTcpPacket := ⟨OP_EDONKEYPROT, OP_STARTUPLOADREQ, []⟩

def sampleNested : EmuleTcpPacket := ⟨OP_EDONKEYPROT, OP_HELLO, encodePacket samplePacket⟩

/-- Nothing can be inflated. -/
def sampleInflate (_ : List UInt8) : Except String (List UInt8) := .error "corrupt deflate stream"

theorem onTheWire_sample : OnTheWire none [sampleNested] [] (encodePacket sampleNested) where
  fits := by
    intro packet hmem
    rw [List.mem_singleton.mp hmem]
    exact (by decide : (6 : Nat) + 1 < 2 ^ 32)
  bytes := (List.append_nil _).symm

/-- A timer comes before the packet, which then arrives in two pieces. -/
theorem packets_in_order_sample :
    ∃ r, run (Receiver.step rc4 (peerFraming sampleInflate))
        (.new none [] (encodePacket sampleNested))
        [.read 0, .cancel, .arrive 8, .read 1, .read 5, .read 2, .arrive 4, .read 4] = some r ∧
      r.returned = [sampleNested] ∧
      r.returned.map .ok <+: [sampleNested].map (peerDecode sampleInflate) := by
  obtain ⟨r, hrun, hreturned⟩ : ∃ r ∈ run (Receiver.step rc4 (peerFraming sampleInflate))
      (.new none [] (encodePacket sampleNested))
      [.read 0, .cancel, .arrive 8, .read 1, .read 5, .read 2, .arrive 4, .read 4],
      r.returned = [sampleNested] := by decide +kernel
  exact ⟨r, hrun, hreturned,
    (packets_in_order sampleInflate "" onTheWire_sample _).1 r (by decide +kernel) hrun⟩

/-- **A packet is lost.**  A timer comes while the payload of a packet is awaited.  The next read
takes the payload for a packet. -/
theorem lost_packet :
    ∃ r, run (Receiver.step rc4 (peerFraming sampleInflate))
        (.new none [] (encodePacket sampleNested))
        [.arrive 6, .read 1, .read 5, .cancel, .arrive 6, .read 1, .read 5] = some r ∧
      r.returned = [samplePacket] ∧
      ¬ r.returned.map .ok <+: [sampleNested].map (peerDecode sampleInflate) := by
  obtain ⟨r, hrun, hreturned⟩ : ∃ r ∈ run (Receiver.step rc4 (peerFraming sampleInflate))
      (.new none [] (encodePacket sampleNested))
      [.arrive 6, .read 1, .read 5, .cancel, .arrive 6, .read 1, .read 5],
      r.returned = [samplePacket] := by decide +kernel
  refine ⟨r, hrun, hreturned, fun h => ?_⟩
  rw [hreturned] at h
  have hsame := Except.ok.inj (List.cons_prefix_cons.mp h).1
  exact absurd hsame (by decide)

/-! ## Two agents -/

inductive Ed2kTransportMode where
  | plaintext
  | obfuscated
deriving DecidableEq, Repr

/-- `Ed2kTransport`, without the stream. -/
structure Ed2kTransport where
  prefetched : List UInt8
  receiveCipher : Option Rc4KeyStream
  sendCipher : Option Rc4KeyStream
  mode : Ed2kTransportMode
deriving DecidableEq

namespace Ed2kTransport

variable (md5 : List UInt8 → Vector UInt8 16)

/-- The transport of two keys. -/
def obfuscated (receiveCipher sendCipher : Rc4KeyStream) : Ed2kTransport :=
  ⟨[], some receiveCipher, some sendCipher, .obfuscated⟩

/-- `Ed2kTransport::accept`, and what it writes. -/
def accept (localUserHash : Vector UInt8 16) (responsePadding : List UInt8) :
    Get String (Ed2kTransport × List UInt8) := fun stream =>
  match stream with
  | [] => .ok ((⟨[], none, none, .plaintext⟩, []), [])
  | firstByte :: stream =>
    if isPlainEd2kProtocolMarker firstByte then
      .ok ((⟨[firstByte], none, none, .plaintext⟩, []), stream)
    else (do
      let accepted ← acceptIncomingObfuscationHandshake md5 localUserHash firstByte responsePadding
      return (obfuscated accepted.receiveCipher accepted.sendCipher, accepted.response) :
        Get String (Ed2kTransport × List UInt8)).run stream

/-- The end of `connect_outgoing` with obfuscation: read the answer. -/
def connect (peerUserHash : Vector UInt8 16) (randomKeyPart : Vector UInt8 4)
    (sendCipher : Rc4KeyStream) : Get String Ed2kTransport := do
  let receiveCipher ← negotiateResponse (serverKey md5 peerUserHash randomKeyPart)
  return obfuscated receiveCipher sendCipher

/-- Write with `write_all` some bytes after the other. -/
def writeAll (transport : Ed2kTransport) (chunks : List (List UInt8)) : List UInt8 :=
  (rc4.cryptAll transport.sendCipher chunks).1

/-- What one side writes, in any chunks, the other one reads: however the bytes arrive, what has
been read is what was written first, nothing is missing once all is read, and all can be read. -/
def ReadBack (inflate : List UInt8 → Except String (List UInt8)) (writer reader : Ed2kTransport) :
    Prop :=
  ∀ (packets : List EmuleTcpPacket) (chunks : List (List UInt8)),
    (∀ packet ∈ packets, packet.Fits) →
    chunks.flatten = (packets.map encodePacket).flatten →
    (∀ events r, Meets (Receiver.step rc4 (peerFraming inflate)) Receiver.CancelsClean
        (.new reader.receiveCipher reader.prefetched (writer.writeAll chunks)) events →
      run (Receiver.step rc4 (peerFraming inflate))
        (.new reader.receiveCipher reader.prefetched (writer.writeAll chunks)) events = some r →
      r.returned.map .ok <+: packets.map (peerDecode inflate) ∧
        (r.ended = false → r.prefetched = [] → r.incoming = [] → r.flight = [] →
          r.returned.map .ok = packets.map (peerDecode inflate))) ∧
    ((∀ packet ∈ packets, packet.protocol ≠ OP_PACKEDPROT) →
      ∃ events r, run (Receiver.step rc4 (peerFraming inflate))
        (.new reader.receiveCipher reader.prefetched (writer.writeAll chunks)) events = some r ∧
        r.returned = packets)

variable {md5}

theorem peerDecode_of_ne_packed {inflate : List UInt8 → Except String (List UInt8)}
    {packet : EmuleTcpPacket} (h : packet.protocol ≠ OP_PACKEDPROT) :
    peerDecode inflate packet = .ok packet := by
  rw [peerDecode, decodePeerPayload, if_pos h]
  rfl

/-- Two ends at the same place in a key. -/
theorem readBack_of_eq (inflate : List UInt8 → Except String (List UInt8))
    {writer reader : Ed2kTransport} (hsync : writer.sendCipher = reader.receiveCipher)
    (hprefetched : reader.prefetched = []) : ReadBack inflate writer reader := by
  intro packets chunks hfits hchunks
  have hwire : reader.prefetched ++
      (rc4.crypt reader.receiveCipher (writer.writeAll chunks)).1 =
        (packets.map encodePacket).flatten := by
    rw [hprefetched, List.nil_append, writeAll, KeyStream.cryptAll_eq, hsync,
      KeyStream.crypt_crypt, hchunks]
  refine ⟨fun events r hmeets hrun =>
    Receiver.returned_of_run (expects_peer hfits) hwire hmeets hrun, fun hplain => ?_⟩
  have hdecode : packets.map (peerDecode inflate) = packets.map .ok :=
    List.map_congr_left fun packet hmem => peerDecode_of_ne_packed (hplain packet hmem)
  have hexpects : Receiver.Expects (peerFraming inflate) packets encodePacket
      (peerDecode inflate) := expects_peer hfits
  obtain ⟨events, r, hrun, hall⟩ := Receiver.exists_run_returned hexpects (fun packet hmem =>
    ⟨packet, peerDecode_of_ne_packed (hplain packet hmem)⟩) hwire
  rw [hdecode] at hall
  exact ⟨events, r, hrun, List.map_injective_iff.mpr (fun _ _ h => Except.ok.inj h) hall⟩

/-- The called peer does not take the request for a packet. -/
theorem reads_accept_request (userHash : Vector UInt8 16) (randomKeyPart : Vector UInt8 4)
    {marker : UInt8} (hmarker : isPlainEd2kProtocolMarker marker = false) {padding : List UInt8}
    (hpadding : padding.length ≤ 15) (responsePadding : List UInt8) :
    Reads (accept md5 userHash responsePadding)
      (negotiateRequest md5 userHash randomKeyPart marker padding).1
      (obfuscated (negotiateRequest md5 userHash randomKeyPart marker padding).2
        (encodeIncomingObfuscationResponse (serverKey md5 userHash randomKeyPart)
          responsePadding).2,
        (encodeIncomingObfuscationResponse (serverKey md5 userHash randomKeyPart)
          responsePadding).1) := by
  intro rest
  have haccept := (reads_accept md5 userHash randomKeyPart hmarker hpadding
    responsePadding).bind_pure fun accepted : AcceptedHandshake =>
      (obfuscated accepted.receiveCipher accepted.sendCipher, accepted.response)
  have hrequest : (negotiateRequest md5 userHash randomKeyPart marker padding).1 =
      marker :: (randomKeyPart.toList ++
        (rc4.apply (requesterKey md5 userHash randomKeyPart) (requestTail padding)).1) := rfl
  have hneg : ¬ isPlainEd2kProtocolMarker marker = true := by simp [hmarker]
  rw [hrequest, List.cons_append, StateT.run, accept, if_neg hneg]
  exact haccept rest

/-- **Two agents.**  One agent calls another whose user hash it knows.  Whatever is drawn at random,
the handshake is completed by both, the called agent does not take it for a plain packet, both are
at the same place in both keys, and what either of them writes then the other one reads. -/
theorem handshake_then_packets (md5 : List UInt8 → Vector UInt8 16)
    (inflate : List UInt8 → Except String (List UInt8)) (userHash : Vector UInt8 16)
    (randomKeyPart : Vector UInt8 4) {draws : List UInt8} {marker : UInt8}
    (hmarker : randomNonProtocolMarker draws = some marker)
    {requestPadding responsePadding : List UInt8} (hrequest : requestPadding.length ≤ 15)
    (hresponse : responsePadding.length ≤ 15) :
    ∃ acceptor initiator response,
      Reads (accept md5 userHash responsePadding)
        (negotiateRequest md5 userHash randomKeyPart marker requestPadding).1
        (acceptor, response) ∧
      Reads (connect md5 userHash randomKeyPart
        (negotiateRequest md5 userHash randomKeyPart marker requestPadding).2) response
        initiator ∧
      acceptor.mode = .obfuscated ∧ initiator.mode = .obfuscated ∧
      initiator.sendCipher = acceptor.receiveCipher ∧
      acceptor.sendCipher = initiator.receiveCipher ∧
      ReadBack inflate initiator acceptor ∧ ReadBack inflate acceptor initiator := by
  have hplain : isPlainEd2kProtocolMarker marker = false := by
    simpa using List.find?_some hmarker
  refine ⟨_, _, _, reads_accept_request userHash randomKeyPart hplain hrequest responsePadding,
    (reads_negotiateResponse hresponse).bind_pure fun receiveCipher =>
      obfuscated receiveCipher
        (negotiateRequest md5 userHash randomKeyPart marker requestPadding).2,
    rfl, rfl, rfl, rfl, readBack_of_eq inflate rfl rfl, readBack_of_eq inflate rfl rfl⟩

/-- The first byte that is drawn is a marker. -/
theorem handshake_then_packets_sample :
    randomNonProtocolMarker [OP_EDONKEYPROT, 7] = some 7 ∧
      ∃ acceptor initiator response,
        Reads (accept (fun _ => Vector.replicate 16 1) (Vector.replicate 16 2) [3])
          (negotiateRequest (fun _ => Vector.replicate 16 1) (Vector.replicate 16 2)
            (Vector.replicate 4 5) 7 [8, 9]).1 (acceptor, response) ∧
        Reads (connect (fun _ => Vector.replicate 16 1) (Vector.replicate 16 2)
          (Vector.replicate 4 5) (negotiateRequest (fun _ => Vector.replicate 16 1)
            (Vector.replicate 16 2) (Vector.replicate 4 5) 7 [8, 9]).2) response initiator ∧
        acceptor.mode = .obfuscated ∧ initiator.mode = .obfuscated ∧
        initiator.sendCipher = acceptor.receiveCipher ∧
        acceptor.sendCipher = initiator.receiveCipher ∧
        ReadBack sampleInflate initiator acceptor ∧ ReadBack sampleInflate acceptor initiator :=
  ⟨by decide, handshake_then_packets _ sampleInflate _ _
    (show randomNonProtocolMarker [OP_EDONKEYPROT, 7] = some 7 by decide) (by decide) (by decide)⟩

end Ed2kTransport

end Overlord.Emule
