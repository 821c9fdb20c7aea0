import Overlord.Net.Addr

/-!
# Addresses that are not routed

The ranges of IPv4 addresses that `std::net` tells apart: private networks, loopback and
link-local.
-/

set_option autoImplicit false

namespace Overlord

namespace Ipv4Addr

/-- `Ipv4Addr::is_private`. -/
def isPrivate (ip : Ipv4Addr) : Bool :=
  ip.a = 10 ∨ (ip.a = 172 ∧ 16 ≤ ip.b ∧ ip.b ≤ 31) ∨ (ip.a = 192 ∧ ip.b = 168)

/-- `Ipv4Addr::is_loopback`. -/
def isLoopback (ip : Ipv4Addr) : Bool := ip.a = 127

/-- `Ipv4Addr::is_link_local`. -/
def isLinkLocal (ip : Ipv4Addr) : Bool := ip.a = 169 ∧ ip.b = 254

end Ipv4Addr

end Overlord
