import Mathlib

/-!
# Internet addresses

`std::net` as far as the agent uses it: an IPv4 address is four octets, a socket address is an IP
address with a port, and the two families never compare equal.
-/

set_option autoImplicit false

namespace Overlord

/-- An IPv4 address. -/
structure Ipv4Addr where
  /-- The octets, most significant first. -/
  octets : Vector UInt8 4
deriving DecidableEq, Repr

namespace Ipv4Addr

/-- `Ipv4Addr::new`. -/
def new (a b c d : UInt8) : Ipv4Addr := ⟨#v[a, b, c, d]⟩

/-- `0.0.0.0`. -/
def UNSPECIFIED : Ipv4Addr := new 0 0 0 0

/-- The first octet, `ip.octets()[0]`. -/
def a (ip : Ipv4Addr) : UInt8 := ip.octets[0]

/-- The second octet. -/
def b (ip : Ipv4Addr) : UInt8 := ip.octets[1]

/-- The third octet. -/
def c (ip : Ipv4Addr) : UInt8 := ip.octets[2]

/-- `u32::from_be_bytes(ip.octets())`. -/
def toBeU32 (ip : Ipv4Addr) : UInt32 :=
  UInt32.ofNat (ip.octets[0].toNat * 2 ^ 24 + ip.octets[1].toNat * 2 ^ 16
    + ip.octets[2].toNat * 2 ^ 8 + ip.octets[3].toNat)

/-- `Ipv4Addr::from(v.to_be_bytes())`. -/
def ofBeU32 (v : UInt32) : Ipv4Addr :=
  new (v >>> 24).toUInt8 (v >>> 16).toUInt8 (v >>> 8).toUInt8 v.toUInt8

theorem toBeU32_injective : Function.Injective toBeU32 := by
  rintro ⟨a⟩ ⟨b⟩ h
  have hlt : ∀ (v : Vector UInt8 4) (i : Nat) (hi : i < 4), v[i].toNat < 256 :=
    fun v i hi => v[i].toNat_lt
  have ha0 := hlt a 0 (by decide)
  have ha1 := hlt a 1 (by decide)
  have ha2 := hlt a 2 (by decide)
  have ha3 := hlt a 3 (by decide)
  have hb0 := hlt b 0 (by decide)
  have hb1 := hlt b 1 (by decide)
  have hb2 := hlt b 2 (by decide)
  have hb3 := hlt b 3 (by decide)
  have h' := congrArg UInt32.toNat h
  simp only [toBeU32, UInt32.toNat_ofNat'] at h'
  congr 1
  ext i hi
  show a[i].toNat = b[i].toNat
  obtain rfl | rfl | rfl | rfl : i = 0 ∨ i = 1 ∨ i = 2 ∨ i = 3 := by omega
  all_goals omega

/-- The number of the address with the octets of a number is that number. -/
theorem toBeU32_ofBeU32 (v : UInt32) : toBeU32 (ofBeU32 v) = v := by
  rw [← UInt32.toNat_inj]
  have hlt := v.toNat_lt
  have hoctet : ∀ k : UInt32, k.toNat < 32 →
      (v >>> k).toUInt8.toNat = v.toNat / 2 ^ k.toNat % 256 := by
    intro k hk
    rw [UInt32.toNat_toUInt8, UInt32.toNat_shiftRight, Nat.mod_eq_of_lt hk,
      Nat.shiftRight_eq_div_pow]
  have h24 : (v >>> 24).toUInt8.toNat = v.toNat / 2 ^ 24 % 256 := hoctet 24 (by decide)
  have h16 : (v >>> 16).toUInt8.toNat = v.toNat / 2 ^ 16 % 256 := hoctet 16 (by decide)
  have h8 : (v >>> 8).toUInt8.toNat = v.toNat / 2 ^ 8 % 256 := hoctet 8 (by decide)
  have h0 : v.toUInt8.toNat = v.toNat % 256 := UInt32.toNat_toUInt8 v
  simp only [toBeU32, ofBeU32, new, UInt32.toNat_ofNat']
  show ((v >>> 24).toUInt8.toNat * 2 ^ 24 + (v >>> 16).toUInt8.toNat * 2 ^ 16 +
    (v >>> 8).toUInt8.toNat * 2 ^ 8 + v.toUInt8.toNat) % 2 ^ 32 = v.toNat
  rw [h24, h16, h8, h0]
  omega

theorem ofBeU32_toBeU32 (ip : Ipv4Addr) : ofBeU32 (toBeU32 ip) = ip :=
  toBeU32_injective (toBeU32_ofBeU32 _)

theorem ofBeU32_eq_unspecified_iff (v : UInt32) : ofBeU32 v = UNSPECIFIED ↔ v = 0 := by
  rw [← toBeU32_injective.eq_iff, toBeU32_ofBeU32]
  rfl

/-- A list of distinct addresses is no longer than there are addresses. -/
theorem length_le_of_nodup {ips : List Ipv4Addr} (h : ips.Nodup) : ips.length ≤ 2 ^ 32 := by
  have hnodup : (ips.map fun ip => ip.toBeU32.toBitVec.toFin).Nodup := by
    refine h.map fun a b heq => toBeU32_injective ?_
    exact UInt32.toBitVec_inj.mp (BitVec.toFin_inj.mp heq)
  have hle := hnodup.length_le_card
  rwa [List.length_map, Fintype.card_fin] at hle

end Ipv4Addr

/-- An IP address of either family. -/
inductive IpAddr where
  | v4 (ip : Ipv4Addr)
  | v6 (octets : Vector UInt8 16)
deriving DecidableEq, Repr

/-- An IP address and a port.  An IPv6 one also carries a flow label and a scope. -/
inductive SocketAddr where
  | v4 (ip : Ipv4Addr) (port : UInt16)
  | v6 (octets : Vector UInt8 16) (port : UInt16) (flowinfo scopeId : UInt32)
deriving DecidableEq, Repr

/-- `SocketAddr::new`. -/
def SocketAddr.new : IpAddr → UInt16 → SocketAddr
  | .v4 ip, port => .v4 ip port
  | .v6 octets, port => .v6 octets port 0 0

/-- `SocketAddr::ip`. -/
def SocketAddr.ip : SocketAddr → IpAddr
  | .v4 ip _ => .v4 ip
  | .v6 octets _ _ _ => .v6 octets

/-- `SocketAddr::port`. -/
def SocketAddr.port : SocketAddr → UInt16
  | .v4 _ port => port
  | .v6 _ port _ _ => port

end Overlord
