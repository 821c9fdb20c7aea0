import Mathlib

/-!
# Protocol constants

`constants.rs` of the wire crate: protocol bytes, opcodes, tag identifiers and the Kademlia
parameters.  Opcodes are patterns, so that a dispatch on them reads as it does in the source.
-/

set_option autoImplicit false

namespace Overlord.Kad

/-- Protocol byte of a plain packet. -/
def OP_KADEMLIAHEADER : UInt8 := 0xE4

/-- Protocol byte of a zlib-compressed packet. -/
def OP_KADEMLIAPACKEDPROT : UInt8 := 0xE5

/-- Bucket size. -/
def K : Nat := 10

/-- Parallel lookup queries. -/
def ALPHA : Nat := 3

/-- Depth up to which every zone may split. -/
def KBASE : Nat := 4

/-- Zone index from which on a zone no longer splits below `KBASE`. -/
def KK : Nat := 5

/-- Contacts asked for in a value lookup. -/
def KADEMLIA_FIND_VALUE : UInt8 := 0x02

/-- Contacts asked for in a node lookup. -/
def KADEMLIA_FIND_NODE : UInt8 := 0x0B

/-- Contacts asked for in a store lookup. -/
def KADEMLIA_STORE : UInt8 := 0x04

namespace opcode

@[match_pattern] abbrev BOOTSTRAP_REQ : UInt8 := 0x01
@[match_pattern] abbrev BOOTSTRAP_RES : UInt8 := 0x09
@[match_pattern] abbrev HELLO_REQ : UInt8 := 0x11
@[match_pattern] abbrev HELLO_RES : UInt8 := 0x19
@[match_pattern] abbrev HELLO_RES_ACK : UInt8 := 0x22
@[match_pattern] abbrev REQ : UInt8 := 0x21
@[match_pattern] abbrev RES : UInt8 := 0x29
@[match_pattern] abbrev SEARCH_KEY_REQ : UInt8 := 0x33
@[match_pattern] abbrev SEARCH_SOURCE_REQ : UInt8 := 0x34
@[match_pattern] abbrev SEARCH_NOTES_REQ : UInt8 := 0x35
@[match_pattern] abbrev SEARCH_RES : UInt8 := 0x3B
@[match_pattern] abbrev PUBLISH_KEY_REQ : UInt8 := 0x43
@[match_pattern] abbrev PUBLISH_SOURCE_REQ : UInt8 := 0x44
@[match_pattern] abbrev PUBLISH_NOTES_REQ : UInt8 := 0x45
@[match_pattern] abbrev PUBLISH_RES : UInt8 := 0x4B
@[match_pattern] abbrev PUBLISH_RES_ACK : UInt8 := 0x4C
@[match_pattern] abbrev FIREWALLED_REQ : UInt8 := 0x50
@[match_pattern] abbrev FINDBUDDY_REQ : UInt8 := 0x51
@[match_pattern] abbrev CALLBACK_REQ : UInt8 := 0x52
@[match_pattern] abbrev FIREWALLED2_REQ : UInt8 := 0x53
@[match_pattern] abbrev FIREWALLED_RES : UInt8 := 0x58
@[match_pattern] abbrev FIREWALLED_ACK_RES : UInt8 := 0x59
@[match_pattern] abbrev FINDBUDDY_RES : UInt8 := 0x5A
@[match_pattern] abbrev PING : UInt8 := 0x60
@[match_pattern] abbrev PONG : UInt8 := 0x61
@[match_pattern] abbrev FIREWALLUDP : UInt8 := 0x62

/-- Every opcode that has a packet of its own. -/
def known : List UInt8 :=
  [BOOTSTRAP_REQ, BOOTSTRAP_RES, HELLO_REQ, HELLO_RES, HELLO_RES_ACK, REQ, RES, SEARCH_KEY_REQ,
    SEARCH_SOURCE_REQ, SEARCH_NOTES_REQ, SEARCH_RES, PUBLISH_KEY_REQ, PUBLISH_SOURCE_REQ,
    PUBLISH_NOTES_REQ, PUBLISH_RES, PUBLISH_RES_ACK, FIREWALLED_REQ, FINDBUDDY_REQ, CALLBACK_REQ,
    FIREWALLED2_REQ, FIREWALLED_RES, FIREWALLED_ACK_RES, FINDBUDDY_RES, PING, PONG, FIREWALLUDP]

end opcode

namespace tagName

def FILENAME : UInt8 := 0x01
def FILESIZE : UInt8 := 0x02
def FILEFORMAT : UInt8 := 0x04
def SOURCES : UInt8 := 0x15
def PUBLISHINFO : UInt8 := 0x33
def KADAICHHASHPUB : UInt8 := 0x36
def KADAICHHASHRESULT : UInt8 := 0x37
def FILESIZE_HI : UInt8 := 0x3A
def ENCRYPTION : UInt8 := 0xF3
def SERVERIP : UInt8 := 0xFB
def SOURCEUPORT : UInt8 := 0xFC
def SOURCEPORT : UInt8 := 0xFD
def SOURCEIP : UInt8 := 0xFE
def SOURCETYPE : UInt8 := 0xFF

end tagName

end Overlord.Kad
