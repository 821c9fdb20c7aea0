import Overlord.Data.Hex
import Overlord.Wire.Get

/-!
# Packets between peers

A packet on a TCP connection between two peers: a protocol marker, an opcode and a payload.  On the
wire there is a header of six bytes before the payload, with the length of what follows the length
field.  The markers and opcodes are those of `ed2k_tcp.rs`, as far as the hello, the transport and
the firewall checks look at them; an opcode means different things under different markers.
-/

set_option autoImplicit false

namespace Overlord.Emule

open Wire

def OP_EMULEPROT : UInt8 := 0xC5
def OP_EDONKEYPROT : UInt8 := 0xE3
def OP_PACKEDPROT : UInt8 := 0xD4

/-! ## Opcodes of `OP_EDONKEYPROT` -/

def OP_HELLO : UInt8 := 0x01
def OP_HELLOANSWER : UInt8 := 0x4C
def OP_STARTUPLOADREQ : UInt8 := 0x54

/-! ## Opcodes of `OP_EMULEPROT` -/

def OP_EMULEINFO : UInt8 := 0x01

def TCP_PACKET_HEADER_LEN : Nat := 6

/-! ## Packets -/

/-- `EmuleTcpPacket`. -/
structure EmuleTcpPacket where
  protocol : UInt8
  opcode : UInt8
  payload : List UInt8
deriving DecidableEq, Repr

/-- `encode_packet`.  A payload is less than 4 GiB long; the source panics otherwise. -/
def encodePacket (packet : EmuleTcpPacket) : List UInt8 :=
  packet.protocol :: toLe 4 (packet.payload.length + 1) ++ packet.opcode :: packet.payload

end Overlord.Emule
