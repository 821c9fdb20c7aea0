import Overlord.Kad.Proto.Constants
import Overlord.Kad.Proto.Tag

/-!
# Kad packets

`packet.rs`, `packet/types.rs` and `packet/codec.rs` of the wire crate: the packet structs, one
reader and one writer for each of them, and the top-level `KadPacket::decode` and
`KadPacket::encode`.

A writer lists its fields in wire order and joins them, a reader reads them in the same order.
Counted lists carry their count in front (`readTags`, `writeTags` for the `u8` counts, the rest in
place).  Writing into memory cannot fail, so the only way a writer does not return is an `expect`
on a count or length, and `encode` returns either the bytes or the panic.

What is written is read back (`RoundTrip`), and what is read satisfies the bounds that writing it
again needs (`Decoded`).
-/

set_option autoImplicit false

namespace Overlord.Kad

open Wire

variable {σ τ : Type}

/-! ## Packet structs -/

structure ContactEntry where
  nodeId : NodeId
  ip : UInt32
  udpPort : UInt16
  tcpPort : UInt16
  version : UInt8
deriving DecidableEq, Repr

structure BootstrapRes where
  senderId : NodeId
  senderTcpPort : UInt16
  senderVersion : UInt8
  contacts : List ContactEntry
deriving DecidableEq, Repr

@[ext]
structure HelloReqOf (σ : Type) where
  nodeId : NodeId
  tcpPort : UInt16
  version : UInt8
  tags : List (TagOf σ)
deriving DecidableEq, Repr

@[ext]
structure HelloResOf (σ : Type) where
  nodeId : NodeId
  tcpPort : UInt16
  version : UInt8
  tags : List (TagOf σ)
deriving DecidableEq, Repr

@[ext]
structure HelloResAckOf (σ : Type) where
  nodeId : NodeId
  tags : List (TagOf σ)
deriving DecidableEq, Repr

structure Req where
  count : UInt8
  target : NodeId
  recipientId : NodeId
deriving DecidableEq, Repr

structure Res where
  target : NodeId
  contacts : List ContactEntry
deriving DecidableEq, Repr

structure SearchKeyReq where
  target : NodeId
  startPosition : UInt16
  restrictivePayload : Bytes
deriving DecidableEq, Repr

structure SearchSourceReq where
  target : NodeId
  startPosition : UInt16
  size : UInt64
deriving DecidableEq, Repr

structure SearchNotesReq where
  target : NodeId
  size : UInt64
deriving DecidableEq, Repr

@[ext]
structure SearchResultEntryOf (σ : Type) where
  entryId : Ed2kHash
  tags : List (TagOf σ)
deriving DecidableEq, Repr

@[ext]
structure SearchResOf (σ : Type) where
  senderId : NodeId
  target : NodeId
  results : List (SearchResultEntryOf σ)
deriving DecidableEq, Repr

@[ext]
structure PublishEntryOf (σ : Type) where
  hash : Ed2kHash
  tags : List (TagOf σ)
deriving DecidableEq, Repr

@[ext]
structure PublishKeyReqOf (σ : Type) where
  target : NodeId
  entries : List (PublishEntryOf σ)
deriving DecidableEq, Repr

@[ext]
structure PublishSourceReqOf (σ : Type) where
  target : NodeId
  publisherId : NodeId
  tags : List (TagOf σ)
deriving DecidableEq, Repr

@[ext]
structure PublishNotesReqOf (σ : Type) where
  target : NodeId
  publisherId : NodeId
  tags : List (TagOf σ)
deriving DecidableEq, Repr

structure PublishRes where
  target : NodeId
  load : UInt8
  options : Option UInt8
deriving DecidableEq, Repr

structure FirewalledReq where
  tcpPort : UInt16
deriving DecidableEq, Repr

structure Firewalled2Req where
  tcpPort : UInt16
  userHash : Ed2kHash
  connectOptions : UInt8
deriving DecidableEq, Repr

structure FirewalledRes where
  ip : UInt32
deriving DecidableEq, Repr

structure FirewallUdp where
  errorCode : UInt8
  udpPort : UInt16
deriving DecidableEq, Repr

structure FindBuddyReq where
  buddyId : NodeId
  clientHash : Ed2kHash
  tcpPort : UInt16
deriving DecidableEq, Repr

structure FindBuddyRes where
  buddyId : NodeId
  clientHash : Ed2kHash
  tcpPort : UInt16
  connectOptions : Option UInt8
deriving DecidableEq, Repr

structure CallbackReq where
  buddyId : NodeId
  fileHash : Ed2kHash
  tcpPort : UInt16
deriving DecidableEq, Repr

structure Pong where
  udpPort : UInt16
deriving DecidableEq, Repr

/-- The top-level packet. -/
inductive KadPacketOf (σ : Type) where
  | bootstrapReq
  | bootstrapRes (p : BootstrapRes)
  | helloReq (p : HelloReqOf σ)
  | helloRes (p : HelloResOf σ)
  | helloResAck (p : HelloResAckOf σ)
  | req (p : Req)
  | res (p : Res)
  | searchKeyReq (p : SearchKeyReq)
  | searchSourceReq (p : SearchSourceReq)
  | searchNotesReq (p : SearchNotesReq)
  | searchRes (p : SearchResOf σ)
  | publishKeyReq (p : PublishKeyReqOf σ)
  | publishSourceReq (p : PublishSourceReqOf σ)
  | publishNotesReq (p : PublishNotesReqOf σ)
  | publishRes (p : PublishRes)
  | publishResAck
  | firewalledReq (p : FirewalledReq)
  | firewalled2Req (p : Firewalled2Req)
  | firewalledRes (p : FirewalledRes)
  | firewalledAckRes
  | firewallUdp (p : FirewallUdp)
  | findBuddyReq (p : FindBuddyReq)
  | findBuddyRes (p : FindBuddyRes)
  | callbackReq (p : CallbackReq)
  | ping
  | pong (p : Pong)
  | unknown (opcode : UInt8) (payload : Bytes)
deriving DecidableEq, Repr

abbrev HelloReq := HelloReqOf String
abbrev HelloRes := HelloResOf String
abbrev HelloResAck := HelloResAckOf String
abbrev SearchResultEntry := SearchResultEntryOf String
abbrev SearchRes := SearchResOf String
abbrev PublishEntry := PublishEntryOf String
abbrev PublishKeyReq := PublishKeyReqOf String
abbrev PublishSourceReq := PublishSourceReqOf String
abbrev PublishNotesReq := PublishNotesReqOf String

/-- The program's packet. -/
abbrev KadPacket := KadPacketOf String

/-! ## Readers -/

/-- A list of tags with its `u8` count. -/
def readTags (dec : Bytes → σ) : Read (List (TagOf σ)) := do
  let tagCount ← getU8 .eof
  getMany tagCount.toNat (TagOf.readWith dec)

def ContactEntry.read : Read ContactEntry := do
  return ⟨← NodeId.read, ← getU32 .eof, ← getU16 .eof, ← getU16 .eof, ← getU8 .eof⟩

def BootstrapRes.read : Read BootstrapRes := do
  let senderId ← NodeId.read
  let senderTcpPort ← getU16 .eof
  let senderVersion ← getU8 .eof
  let count ← getU16 .eof
  let contacts ← getMany count.toNat ContactEntry.read
  return ⟨senderId, senderTcpPort, senderVersion, contacts⟩

def HelloReqOf.read (dec : Bytes → σ) : Read (HelloReqOf σ) := do
  return ⟨← NodeId.read, ← getU16 .eof, ← getU8 .eof, ← readTags dec⟩

def HelloResOf.read (dec : Bytes → σ) : Read (HelloResOf σ) := do
  return ⟨← NodeId.read, ← getU16 .eof, ← getU8 .eof, ← readTags dec⟩

def HelloResAckOf.read (dec : Bytes → σ) : Read (HelloResAckOf σ) := do
  return ⟨← NodeId.read, ← readTags dec⟩

def Req.read : Read Req := do
  return ⟨← getU8 .eof, ← NodeId.read, ← NodeId.read⟩

def Res.read : Read Res := do
  let target ← NodeId.read
  let count ← getU8 .eof
  let contacts ← getMany count.toNat ContactEntry.read
  return ⟨target, contacts⟩

/-- `read_search_key_req`: whatever follows the fixed part is the restrictive expression. -/
def SearchKeyReq.read : Read SearchKeyReq := do
  return ⟨← NodeId.read, ← getU16 .eof, ← getRest⟩

/-- `read_search_source_req`: the three wire shapes are told apart by the length of the rest. -/
def SearchSourceReq.read : Read SearchSourceReq := do
  let target ← NodeId.read
  match ← remaining with
  | 4 => do
    let size ← getU32 .eof
    return ⟨target, 0, UInt64.ofNat size.toNat⟩
  | 8 => do
    let size ← getU64 .eof
    return ⟨target, 0, size⟩
  | 10 => do
    let startPosition ← getU16 .eof
    let size ← getU64 .eof
    return ⟨target, startPosition &&& 0x7FFF, size⟩
  | _ => throw .bufferTooShort

def SearchNotesReq.read : Read SearchNotesReq := do
  return ⟨← NodeId.read, ← getU64 .eof⟩

/-- `read_kad_search_entry_id`: on the wire an entry id is a chunk-swapped hash. -/
def readKadSearchEntryId : Read Ed2kHash := do
  let entryId ← NodeId.read
  return ⟨entryId.toBeBytes⟩

def SearchResultEntryOf.read (dec : Bytes → σ) : Read (SearchResultEntryOf σ) := do
  return ⟨← readKadSearchEntryId, ← readTags dec⟩

/-- `read_search_res`. -/
def SearchResOf.read (dec : Bytes → σ) : Read (SearchResOf σ) := do
  let senderId ← NodeId.read
  let target ← NodeId.read
  let count ← getU16 .eof
  let results ← getMany count.toNat (SearchResultEntryOf.read dec)
  return ⟨senderId, target, results⟩

def PublishEntryOf.read (dec : Bytes → σ) : Read (PublishEntryOf σ) := do
  return ⟨← Ed2kHash.read, ← readTags dec⟩

def PublishKeyReqOf.read (dec : Bytes → σ) : Read (PublishKeyReqOf σ) := do
  let target ← NodeId.read
  let count ← getU16 .eof
  let entries ← getMany count.toNat (PublishEntryOf.read dec)
  return ⟨target, entries⟩

def PublishSourceReqOf.read (dec : Bytes → σ) : Read (PublishSourceReqOf σ) := do
  return ⟨← NodeId.read, ← NodeId.read, ← readTags dec⟩

def PublishNotesReqOf.read (dec : Bytes → σ) : Read (PublishNotesReqOf σ) := do
  return ⟨← NodeId.read, ← NodeId.read, ← readTags dec⟩

/-- An optional byte at the end of a body. -/
def readTrailingByte : Read (Option UInt8) := do
  if 0 < (← remaining) then return some (← getU8 .eof) else return none

/-- `read_publish_res`. -/
def PublishRes.read : Read PublishRes := do
  return ⟨← NodeId.read, ← getU8 .eof, ← readTrailingByte⟩

def FirewalledReq.read : Read FirewalledReq := do
  return ⟨← getU16 .eof⟩

def Firewalled2Req.read : Read Firewalled2Req := do
  return ⟨← getU16 .eof, ← Ed2kHash.read, ← getU8 .eof⟩

def FirewalledRes.read : Read FirewalledRes := do
  return ⟨← getU32 .eof⟩

def FirewallUdp.read : Read FirewallUdp := do
  return ⟨← getU8 .eof, ← getU16 .eof⟩

def FindBuddyReq.read : Read FindBuddyReq := do
  return ⟨← NodeId.read, ← Ed2kHash.read, ← getU16 .eof⟩

/-- `read_find_buddy_res`. -/
def FindBuddyRes.read : Read FindBuddyRes := do
  return ⟨← NodeId.read, ← Ed2kHash.read, ← getU16 .eof, ← readTrailingByte⟩

def CallbackReq.read : Read CallbackReq := do
  return ⟨← NodeId.read, ← Ed2kHash.read, ← getU16 .eof⟩

def Pong.read : Read Pong := do
  return ⟨← getU16 .eof⟩

/-! ## Decoding -/

/-- `require_body_len`. -/
def requireBodyLen (opcode : UInt8) (body : Bytes) (expected : Nat) : Except ProtoError Unit :=
  if body.length = expected then .ok ()
  else .error (.invalidPacketSize opcode expected body.length)

/-- `require_min_body_len`. -/
def requireMinBodyLen (opcode : UInt8) (body : Bytes) (expectedMin : Nat) :
    Except ProtoError Unit :=
  if expectedMin ≤ body.length then .ok ()
  else .error (.invalidPacketSize opcode expectedMin body.length)

/-- Read a record at the start of a body; what follows it is ignored. -/
def parse {α : Type} (g : Read α) (body : Bytes) : Except ProtoError α :=
  Prod.fst <$> g.run body

/-- The dispatch of `KadPacket::decode` on the opcode. -/
def KadPacketOf.decodeBody (dec : StringDecodeMode → Bytes → σ) (op : UInt8) (body : Bytes) :
    Except ProtoError (KadPacketOf σ) :=
  match op with
  | opcode.BOOTSTRAP_REQ => return .bootstrapReq
  | opcode.BOOTSTRAP_RES => return .bootstrapRes (← parse BootstrapRes.read body)
  | opcode.HELLO_REQ => return .helloReq (← parse (HelloReqOf.read (dec .lossyUtf8)) body)
  | opcode.HELLO_RES => return .helloRes (← parse (HelloResOf.read (dec .lossyUtf8)) body)
  | opcode.HELLO_RES_ACK => return .helloResAck (← parse (HelloResAckOf.read (dec .lossyUtf8)) body)
  | opcode.REQ => return .req (← parse Req.read body)
  | opcode.RES => return .res (← parse Res.read body)
  | opcode.SEARCH_KEY_REQ => return .searchKeyReq (← parse SearchKeyReq.read body)
  | opcode.SEARCH_SOURCE_REQ => return .searchSourceReq (← parse SearchSourceReq.read body)
  | opcode.SEARCH_NOTES_REQ => return .searchNotesReq (← parse SearchNotesReq.read body)
  | opcode.SEARCH_RES => return .searchRes (← parse (SearchResOf.read (dec .searchResult)) body)
  | opcode.PUBLISH_KEY_REQ =>
    return .publishKeyReq (← parse (PublishKeyReqOf.read (dec .lossyUtf8)) body)
  | opcode.PUBLISH_SOURCE_REQ =>
    return .publishSourceReq (← parse (PublishSourceReqOf.read (dec .lossyUtf8)) body)
  | opcode.PUBLISH_NOTES_REQ =>
    return .publishNotesReq (← parse (PublishNotesReqOf.read (dec .lossyUtf8)) body)
  | opcode.PUBLISH_RES => do
    requireMinBodyLen op body 17
    return .publishRes (← parse PublishRes.read body)
  | opcode.PUBLISH_RES_ACK => return .publishResAck
  | opcode.FIREWALLED_REQ => do
    requireBodyLen op body 2
    return .firewalledReq (← parse FirewalledReq.read body)
  | opcode.FIREWALLED2_REQ => return .firewalled2Req (← parse Firewalled2Req.read body)
  | opcode.FIREWALLED_RES => do
    requireBodyLen op body 4
    return .firewalledRes (← parse FirewalledRes.read body)
  | opcode.FIREWALLED_ACK_RES => do
    requireBodyLen op body 0
    return .firewalledAckRes
  | opcode.FIREWALLUDP => do
    requireMinBodyLen op body 3
    return .firewallUdp (← parse FirewallUdp.read body)
  | opcode.FINDBUDDY_REQ => do
    requireMinBodyLen op body 34
    return .findBuddyReq (← parse FindBuddyReq.read body)
  | opcode.FINDBUDDY_RES => do
    requireMinBodyLen op body 34
    return .findBuddyRes (← parse FindBuddyRes.read body)
  | opcode.CALLBACK_REQ => do
    requireMinBodyLen op body 34
    return .callbackReq (← parse CallbackReq.read body)
  | opcode.PING => return .ping
  | opcode.PONG => do
    requireMinBodyLen op body 2
    return .pong (← parse Pong.read body)
  | other => return .unknown other body

/-- `KadPacket::decode`, with the string decoder as an argument. -/
def KadPacketOf.decodeWith (inflate : Bytes → Option Bytes) (dec : StringDecodeMode → Bytes → σ)
    (buf : Bytes) : Except ProtoError (KadPacketOf σ) :=
  match buf with
  | protocol :: op :: rest =>
    if protocol = OP_KADEMLIAPACKEDPROT then
      match inflate rest with
      | none => .error .decompressError
      | some body => decodeBody dec op body
    else if protocol = OP_KADEMLIAHEADER then decodeBody dec op rest
    else .error (.invalidProtocol protocol)
  | _ => .error .bufferTooShort

/-- `KadPacket::decode`. -/
def KadPacket.decode (pf : Platform) (buf : Bytes) : Except ProtoError KadPacket :=
  KadPacketOf.decodeWith pf.inflate (decodeStringBytes pf) buf

/-! ## Writers -/

/-- A list of tags with its `u8` count. -/
def writeTags (tags : List Tag) : Except Panic Bytes := do
  let tagCount ← expectBelow (2 ^ 8) tags.length "tag count exceeds u8"
  return putU8 (UInt8.ofNat tagCount) ++ (← putMany Tag.write tags)

def ContactEntry.write (c : ContactEntry) : Bytes :=
  [c.nodeId.write, putU32 c.ip, putU16 c.udpPort, putU16 c.tcpPort, putU8 c.version].flatten

/-- Contacts are written without a count of their own. -/
def writeContacts (contacts : List ContactEntry) : Bytes := contacts.flatMap ContactEntry.write

def BootstrapRes.write (p : BootstrapRes) : Except Panic Bytes := do
  let count ← expectBelow (2 ^ 16) p.contacts.length "contact count exceeds u16"
  return [p.senderId.write, putU16 p.senderTcpPort, putU8 p.senderVersion,
    putU16 (UInt16.ofNat count), writeContacts p.contacts].flatten

def HelloReq.write (p : HelloReq) : Except Panic Bytes := do
  return [p.nodeId.write, putU16 p.tcpPort, putU8 p.version, ← writeTags p.tags].flatten

def HelloRes.write (p : HelloRes) : Except Panic Bytes := do
  return [p.nodeId.write, putU16 p.tcpPort, putU8 p.version, ← writeTags p.tags].flatten

def HelloResAck.write (p : HelloResAck) : Except Panic Bytes := do
  return [p.nodeId.write, ← writeTags p.tags].flatten

def Req.write (p : Req) : Bytes := [putU8 p.count, p.target.write, p.recipientId.write].flatten

def Res.write (p : Res) : Except Panic Bytes := do
  let count ← expectBelow (2 ^ 8) p.contacts.length "contact count exceeds u8"
  return [p.target.write, putU8 (UInt8.ofNat count), writeContacts p.contacts].flatten

/-- `write_search_key_req`. -/
def SearchKeyReq.write (p : SearchKeyReq) : Bytes :=
  [p.target.write, putU16 p.startPosition, p.restrictivePayload].flatten

/-- `write_search_source_req`: always the longest of the three shapes the reader knows. -/
def SearchSourceReq.write (p : SearchSourceReq) : Bytes :=
  [p.target.write, putU16 p.startPosition, putU64 p.size].flatten

def SearchNotesReq.write (p : SearchNotesReq) : Bytes := [p.target.write, putU64 p.size].flatten

/-- `write_kad_search_entry_id`. -/
def writeKadSearchEntryId (entryId : Ed2kHash) : Bytes := (NodeId.fromBeBytes entryId.bytes).write

def SearchResultEntry.write (r : SearchResultEntry) : Except Panic Bytes := do
  return [writeKadSearchEntryId r.entryId, ← writeTags r.tags].flatten

/-- `write_search_res`. -/
def SearchRes.write (p : SearchRes) : Except Panic Bytes := do
  let count ← expectBelow (2 ^ 16) p.results.length "search result count exceeds u16"
  return [p.senderId.write, p.target.write, putU16 (UInt16.ofNat count),
    ← putMany SearchResultEntry.write p.results].flatten

def PublishEntry.write (e : PublishEntry) : Except Panic Bytes := do
  return [e.hash.write, ← writeTags e.tags].flatten

def PublishKeyReq.write (p : PublishKeyReq) : Except Panic Bytes := do
  let count ← expectBelow (2 ^ 16) p.entries.length "entry count exceeds u16"
  return [p.target.write, putU16 (UInt16.ofNat count),
    ← putMany PublishEntry.write p.entries].flatten

def PublishSourceReq.write (p : PublishSourceReq) : Except Panic Bytes := do
  return [p.target.write, p.publisherId.write, ← writeTags p.tags].flatten

def PublishNotesReq.write (p : PublishNotesReq) : Except Panic Bytes := do
  return [p.target.write, p.publisherId.write, ← writeTags p.tags].flatten

/-- An optional byte at the end of a body. -/
def writeTrailingByte : Option UInt8 → Bytes
  | some b => putU8 b
  | none => []

/-- `write_publish_res`. -/
def PublishRes.write (p : PublishRes) : Bytes :=
  [p.target.write, putU8 p.load, writeTrailingByte p.options].flatten

def FirewalledReq.write (p : FirewalledReq) : Bytes := putU16 p.tcpPort

def Firewalled2Req.write (p : Firewalled2Req) : Bytes :=
  [putU16 p.tcpPort, p.userHash.write, putU8 p.connectOptions].flatten

def FirewalledRes.write (p : FirewalledRes) : Bytes := putU32 p.ip

def FirewallUdp.write (p : FirewallUdp) : Bytes := [putU8 p.errorCode, putU16 p.udpPort].flatten

def FindBuddyReq.write (p : FindBuddyReq) : Bytes :=
  [p.buddyId.write, p.clientHash.write, putU16 p.tcpPort].flatten

/-- `write_find_buddy_res`. -/
def FindBuddyRes.write (p : FindBuddyRes) : Bytes :=
  [p.buddyId.write, p.clientHash.write, putU16 p.tcpPort,
    writeTrailingByte p.connectOptions].flatten

def CallbackReq.write (p : CallbackReq) : Bytes :=
  [p.buddyId.write, p.fileHash.write, putU16 p.tcpPort].flatten

def Pong.write (p : Pong) : Bytes := putU16 p.udpPort

/-! ## Encoding -/

/-- The opcode byte of a packet. -/
def KadPacketOf.opcode : KadPacketOf σ → UInt8
  | .bootstrapReq => opcode.BOOTSTRAP_REQ
  | .bootstrapRes _ => opcode.BOOTSTRAP_RES
  | .helloReq _ => opcode.HELLO_REQ
  | .helloRes _ => opcode.HELLO_RES
  | .helloResAck _ => opcode.HELLO_RES_ACK
  | .req _ => opcode.REQ
  | .res _ => opcode.RES
  | .searchKeyReq _ => opcode.SEARCH_KEY_REQ
  | .searchSourceReq _ => opcode.SEARCH_SOURCE_REQ
  | .searchNotesReq _ => opcode.SEARCH_NOTES_REQ
  | .searchRes _ => opcode.SEARCH_RES
  | .publishKeyReq _ => opcode.PUBLISH_KEY_REQ
  | .publishSourceReq _ => opcode.PUBLISH_SOURCE_REQ
  | .publishNotesReq _ => opcode.PUBLISH_NOTES_REQ
  | .publishRes _ => opcode.PUBLISH_RES
  | .publishResAck => opcode.PUBLISH_RES_ACK
  | .firewalledReq _ => opcode.FIREWALLED_REQ
  | .firewalled2Req _ => opcode.FIREWALLED2_REQ
  | .firewalledRes _ => opcode.FIREWALLED_RES
  | .firewalledAckRes => opcode.FIREWALLED_ACK_RES
  | .firewallUdp _ => opcode.FIREWALLUDP
  | .findBuddyReq _ => opcode.FINDBUDDY_REQ
  | .findBuddyRes _ => opcode.FINDBUDDY_RES
  | .callbackReq _ => opcode.CALLBACK_REQ
  | .ping => opcode.PING
  | .pong _ => opcode.PONG
  | .unknown op _ => op

/-- The body of a packet, without the protocol byte and the opcode. -/
def KadPacket.encodeBody : KadPacket → Except Panic Bytes
  | .bootstrapRes p => p.write
  | .helloReq p => HelloReq.write p
  | .helloRes p => HelloRes.write p
  | .helloResAck p => HelloResAck.write p
  | .req p => return p.write
  | .res p => p.write
  | .searchKeyReq p => return p.write
  | .searchSourceReq p => return p.write
  | .searchNotesReq p => return p.write
  | .searchRes p => SearchRes.write p
  | .publishKeyReq p => PublishKeyReq.write p
  | .publishSourceReq p => PublishSourceReq.write p
  | .publishNotesReq p => PublishNotesReq.write p
  | .publishRes p => return p.write
  | .firewalledReq p => return p.write
  | .firewalled2Req p => return p.write
  | .firewalledRes p => return p.write
  | .firewallUdp p => return p.write
  | .findBuddyReq p => return p.write
  | .findBuddyRes p => return p.write
  | .callbackReq p => return p.write
  | .pong p => return p.write
  | .bootstrapReq | .publishResAck | .firewalledAckRes | .ping => return []
  | .unknown _ payload => return payload

/-- `KadPacket::encode`. -/
def KadPacket.encode (p : KadPacket) : Except Panic Bytes := do
  let body ← KadPacket.encodeBody p
  return OP_KADEMLIAHEADER :: p.opcode :: body

end Overlord.Kad
