import Overlord.Emule.KadStore

/-!
# Firewall checks

`kad_firewall.rs` of the eMule agent.  One state object keeps three checks that run next to each
other: which external UDP port other nodes see, whether helpers can reach the UDP port, and which
external IP helpers see while the TCP port is believed to be closed.

Sets of addresses and ports are finite sets, and the outcomes of the helpers are a list of pairs
with distinct addresses.  Addresses that the source turns into text for its status are kept as
addresses.  `FirewallOp` are the operations on the state and `KadFirewallState.perform` is their
effect.

Rounds are values inside the state.  A round that ends is taken out, and its verdict is kept; a
helper that answers later finds no round and is ignored.  What the checks come to over whole runs is
in `FirewallRounds`.
-/

set_option autoImplicit false

namespace Overlord.Emule

/-! ## State -/

/-- A completed round of UDP checks. -/
structure UdpFirewallCheckSummary where
  open_ : Bool
  helpersSelected : Nat
  helpersRequested : Nat
  helpersSucceeded : Nat
  helpersFailed : Nat
  startedAt : Time
  completedAt : Time
deriving DecidableEq

inductive HelperOutcome where
  | pending
  | requestFailed
  | remoteError
  | wrongPort
  | succeeded
deriving DecidableEq

/-- `TCP_FIREWALL_RECHECK_LIMIT`. -/
def TCP_FIREWALL_RECHECK_LIMIT : Nat := 4
/-- `EXTERNAL_PORT_DISCOVERY_REPORTERS`. -/
def EXTERNAL_PORT_DISCOVERY_REPORTERS : Nat := 3

structure UdpFirewallCheckRound where
  startedAt : Time
  expectedPorts : Finset UInt16
  helperOutcomes : List (IpAddr × HelperOutcome)
deriving DecidableEq

structure TcpFirewallCheckRound where
  activeHelpers : Finset IpAddr
  completedChecks : Nat
deriving DecidableEq

structure ExternalPortDiscoveryRound where
  reporterIps : Finset IpAddr
  reportedPorts : List UInt16
deriving DecidableEq

structure KadFirewallState where
  udpOpen : Bool
  udpVerified : Bool
  lastUdpCheckStartedAt : Option Time
  lastUdpCheckSucceededAt : Option Time
  lastUdpCheckFailedAt : Option Time
  lastHelperIp : Option IpAddr
  lastReportedPort : Option UInt16
  lastError : Option String
  tcpRecheckActive : Bool
  lastTcpCheckStartedAt : Option Time
  lastTcpCheckCompletedAt : Option Time
  lastReportedExternalIp : Option IpAddr
  lastExternalPortProbeStartedAt : Option Time
  lastExternalPortProbeCompletedAt : Option Time
  lastReportedExternalUdpPort : Option UInt16
  activeRound : Option UdpFirewallCheckRound
  activeTcpRound : Option TcpFirewallCheckRound
  activeExternalPortDiscovery : Option ExternalPortDiscoveryRound
  discoveredExternalUdpPort : Option UInt16
deriving DecidableEq

/-- `FirewallUdpPacketOutcome`. -/
inductive FirewallUdpPacketOutcome where
  | open_ (summary : UdpFirewallCheckSummary)
  | recorded
  | ignored
deriving DecidableEq

/-- `FirewalledResponseOutcome`. -/
inductive FirewalledResponseOutcome where
  | recorded
  | completed
  | ignored
deriving DecidableEq

/-- `ExternalPortDiscoveryOutcome`. -/
inductive ExternalPortDiscoveryOutcome where
  | recorded
  | resolved (port : UInt16)
  | unreliable
  | ignored
deriving DecidableEq

namespace KadFirewallState

/-- `KadFirewallState::default`. -/
def default : KadFirewallState where
  udpOpen := false
  udpVerified := false
  lastUdpCheckStartedAt := none
  lastUdpCheckSucceededAt := none
  lastUdpCheckFailedAt := none
  lastHelperIp := none
  lastReportedPort := none
  lastError := none
  tcpRecheckActive := false
  lastTcpCheckStartedAt := none
  lastTcpCheckCompletedAt := none
  lastReportedExternalIp := none
  lastExternalPortProbeStartedAt := none
  lastExternalPortProbeCompletedAt := none
  lastReportedExternalUdpPort := none
  activeRound := none
  activeTcpRound := none
  activeExternalPortDiscovery := none
  discoveredExternalUdpPort := none

variable (s : KadFirewallState)

/-! ### The external port -/

/-- `begin_external_port_discovery`. -/
def beginExternalPortDiscovery (startedAt : Time) : KadFirewallState :=
  { s with
    lastExternalPortProbeStartedAt := some startedAt
    lastExternalPortProbeCompletedAt := none
    lastReportedExternalUdpPort := none
    discoveredExternalUdpPort := none
    activeExternalPortDiscovery := some ⟨∅, []⟩ }

/-- `record_external_port_candidate`. -/
def recordExternalPortCandidate (reporterIp : IpAddr) (reportedPort : UInt16) (observedAt : Time) :
    ExternalPortDiscoveryOutcome × KadFirewallState :=
  if reportedPort = 0 then (.ignored, s)
  else
    match s.activeExternalPortDiscovery with
    | none => (.ignored, s)
    | some round =>
      if reporterIp ∈ round.reporterIps then (.ignored, s)
      else
        let reporterIps := insert reporterIp round.reporterIps
        let s := { s with
          lastHelperIp := some reporterIp
          lastReportedExternalUdpPort := some reportedPort }
        if reportedPort ∈ round.reportedPorts then
          (.resolved reportedPort, { s with
            discoveredExternalUdpPort := some reportedPort
            lastExternalPortProbeCompletedAt := some observedAt
            lastError := none
            activeExternalPortDiscovery := none })
        else if EXTERNAL_PORT_DISCOVERY_REPORTERS ≤ reporterIps.card then
          (.unreliable, { s with
            discoveredExternalUdpPort := none
            lastExternalPortProbeCompletedAt := some observedAt
            lastError := some "external Kad UDP port discovery returned inconsistent ports"
            activeExternalPortDiscovery := none })
        else
          (.recorded, { s with
            activeExternalPortDiscovery :=
              some ⟨reporterIps, round.reportedPorts ++ [reportedPort]⟩ })

/-- `finish_external_port_discovery`. -/
def finishExternalPortDiscovery (completedAt : Time) : KadFirewallState :=
  if s.activeExternalPortDiscovery.isNone then s
  else
    { s with
      lastExternalPortProbeCompletedAt := some completedAt
      lastError :=
        if s.discoveredExternalUdpPort.isNone then
          some "external Kad UDP port discovery timed out"
        else s.lastError
      activeExternalPortDiscovery := none }

/-! ### The TCP check -/

/-- `refresh_tcp_recheck`. -/
def refreshTcpRecheck (tcpFirewalled : Bool) (startedAt : Time) : KadFirewallState :=
  if tcpFirewalled then
    if s.activeTcpRound.isNone then
      { s with
        tcpRecheckActive := true
        lastTcpCheckStartedAt := some startedAt
        activeTcpRound := some ⟨∅, 0⟩ }
    else s
  else { s with tcpRecheckActive := false, activeTcpRound := none }

/-- `try_begin_tcp_firewall_probe`. -/
def tryBeginTcpFirewallProbe (helperIp : IpAddr) (startedAt : Time) : Bool × KadFirewallState :=
  match s.activeTcpRound with
  | none => (false, s)
  | some round =>
    if TCP_FIREWALL_RECHECK_LIMIT ≤ round.completedChecks ∨
        TCP_FIREWALL_RECHECK_LIMIT ≤ round.activeHelpers.card ∨ helperIp ∈ round.activeHelpers then
      (false, s)
    else
      (true, { s with
        tcpRecheckActive := true
        lastTcpCheckStartedAt := some startedAt
        activeTcpRound := some { round with
          activeHelpers := insert helperIp round.activeHelpers } })

/-- `record_tcp_firewall_probe_failed`. -/
def recordTcpFirewallProbeFailed (helperIp : IpAddr) (error : String) : KadFirewallState :=
  { s with
    activeTcpRound := s.activeTcpRound.map fun round =>
      { round with activeHelpers := round.activeHelpers.erase helperIp }
    lastHelperIp := some helperIp
    lastError := some error }

/-- `record_firewalled_response`. -/
def recordFirewalledResponse (helperIp reportedIp : IpAddr) (observedAt : Time) :
    FirewalledResponseOutcome × KadFirewallState :=
  match s.activeTcpRound with
  | none => (.ignored, s)
  | some round =>
    if helperIp ∉ round.activeHelpers then (.ignored, s)
    else
      let completedChecks := round.completedChecks + 1
      let s := { s with
        tcpRecheckActive := completedChecks < TCP_FIREWALL_RECHECK_LIMIT
        lastHelperIp := some helperIp
        lastReportedExternalIp := some reportedIp
        lastTcpCheckCompletedAt := some observedAt
        lastError := none }
      if TCP_FIREWALL_RECHECK_LIMIT ≤ completedChecks then
        (.completed, { s with activeTcpRound := none })
      else
        (.recorded, { s with
          activeTcpRound := some ⟨round.activeHelpers.erase helperIp, completedChecks⟩ })

/-! ### The UDP check -/

/-- The outcomes of helpers that were just asked: an address that is listed twice is one helper. -/
def pendingHelpers (helperIps : List IpAddr) : List (IpAddr × HelperOutcome) :=
  helperIps.dedup.map fun ip => (ip, .pending)

/-- `begin_udp_check`. -/
def beginUdpCheck (helperIps : List IpAddr) (expectedPorts : List UInt16) (startedAt : Time) :
    Bool × KadFirewallState :=
  let helperOutcomes := pendingHelpers helperIps
  if helperOutcomes.isEmpty then
    (false, { s with lastError := some "no UDP firewall-check helpers available" })
  else
    let expectedPorts := (expectedPorts.filter (· ≠ 0)).toFinset
    if expectedPorts = ∅ then
      (false, { s with lastError := some "UDP firewall-check has no expected ports" })
    else
      (true, { s with
        lastUdpCheckStartedAt := some startedAt
        lastError := none
        activeRound := some ⟨startedAt, expectedPorts, helperOutcomes⟩ })

/-- Set the outcome of a helper. -/
def setOutcome (outcomes : List (IpAddr × HelperOutcome)) (helperIp : IpAddr)
    (outcome : HelperOutcome) : List (IpAddr × HelperOutcome) :=
  outcomes.map fun entry => if entry.1 = helperIp then (helperIp, outcome) else entry

/-- The address is one of a helper. -/
def isHelper (outcomes : List (IpAddr × HelperOutcome)) (helperIp : IpAddr) : Bool :=
  outcomes.any fun entry => entry.1 = helperIp

/-- `record_helper_request_failed`. -/
def recordHelperRequestFailed (helperIp : IpAddr) (error : String) : KadFirewallState :=
  match s.activeRound with
  | none => s
  | some round =>
    if isHelper round.helperOutcomes helperIp then
      { s with
        activeRound := some { round with
          helperOutcomes := setOutcome round.helperOutcomes helperIp .requestFailed }
        lastHelperIp := some helperIp
        lastError := some error }
    else s

/-- `finalize_round`, on the round that is taken out of the state. -/
def finalizeRound (round : UdpFirewallCheckRound) (open_ : Bool) (completedAt : Time) :
    UdpFirewallCheckSummary × KadFirewallState :=
  let outcomes := round.helperOutcomes.map (·.2)
  (⟨open_, outcomes.length, outcomes.countP (· ≠ .requestFailed), outcomes.countP (· = .succeeded),
    outcomes.countP fun o => o ≠ .pending ∧ o ≠ .succeeded, round.startedAt, completedAt⟩,
    { s with
      activeRound := none
      udpOpen := open_
      udpVerified := true
      lastUdpCheckSucceededAt := if open_ then some completedAt else s.lastUdpCheckSucceededAt
      lastUdpCheckFailedAt := if open_ then s.lastUdpCheckFailedAt else some completedAt })

/-- `record_firewall_udp_packet`. -/
def recordFirewallUdpPacket (helperIp : IpAddr) (errorCode : UInt8) (incomingPort : UInt16)
    (observedAt : Time) : FirewallUdpPacketOutcome × KadFirewallState :=
  match s.activeRound with
  | none => (.ignored, s)
  | some round =>
    if !isHelper round.helperOutcomes helperIp then (.ignored, s)
    else
      let s := { s with lastHelperIp := some helperIp, lastReportedPort := some incomingPort }
      if errorCode = 0 ∧ incomingPort ∈ round.expectedPorts then
        let (summary, s) := s.finalizeRound { round with
          helperOutcomes := setOutcome round.helperOutcomes helperIp .succeeded } true observedAt
        (.open_ summary, { s with lastError := none })
      else
        (.recorded, { s with
          activeRound := some { round with
            helperOutcomes := setOutcome round.helperOutcomes helperIp
              (if errorCode = 0 then .wrongPort else .remoteError) } })

/-- `finish_udp_check`. -/
def finishUdpCheck (completedAt : Time) : Option UdpFirewallCheckSummary × KadFirewallState :=
  match s.activeRound with
  | none => (none, s)
  | some round =>
    if round.helperOutcomes.all (·.2 = .succeeded) then (none, s)
    else if round.helperOutcomes.any (·.2 = .succeeded) then
      let (summary, s) := s.finalizeRound round true completedAt
      (some summary, s)
    else if round.helperOutcomes.all (·.2 = .requestFailed) then
      (none, { s with
        lastError := some "all UDP firewall-check TCP requests failed"
        activeRound := none })
    else
      let s := { s with
        lastError := some "UDP firewall-check timed out without a positive result" }
      let (summary, s) := s.finalizeRound round false completedAt
      (some summary, s)

end KadFirewallState

/-! ## Operations -/

/-- The operations on the state. -/
inductive FirewallOp where
  | beginExternalPortDiscovery (startedAt : Time)
  | recordExternalPortCandidate (reporterIp : IpAddr) (reportedPort : UInt16) (observedAt : Time)
  | finishExternalPortDiscovery (completedAt : Time)
  | refreshTcpRecheck (tcpFirewalled : Bool) (startedAt : Time)
  | tryBeginTcpFirewallProbe (helperIp : IpAddr) (startedAt : Time)
  | recordTcpFirewallProbeFailed (helperIp : IpAddr) (error : String)
  | recordFirewalledResponse (helperIp reportedIp : IpAddr) (observedAt : Time)
  | beginUdpCheck (helperIps : List IpAddr) (expectedPorts : List UInt16) (startedAt : Time)
  | recordHelperRequestFailed (helperIp : IpAddr) (error : String)
  | recordFirewallUdpPacket (helperIp : IpAddr) (errorCode : UInt8) (incomingPort : UInt16)
      (observedAt : Time)
  | finishUdpCheck (completedAt : Time)

/-- The state after an operation. -/
def KadFirewallState.perform (s : KadFirewallState) : FirewallOp → KadFirewallState
  | .beginExternalPortDiscovery startedAt => s.beginExternalPortDiscovery startedAt
  | .recordExternalPortCandidate reporterIp reportedPort observedAt =>
    (s.recordExternalPortCandidate reporterIp reportedPort observedAt).2
  | .finishExternalPortDiscovery completedAt => s.finishExternalPortDiscovery completedAt
  | .refreshTcpRecheck tcpFirewalled startedAt => s.refreshTcpRecheck tcpFirewalled startedAt
  | .tryBeginTcpFirewallProbe helperIp startedAt =>
    (s.tryBeginTcpFirewallProbe helperIp startedAt).2
  | .recordTcpFirewallProbeFailed helperIp error => s.recordTcpFirewallProbeFailed helperIp error
  | .recordFirewalledResponse helperIp reportedIp observedAt =>
    (s.recordFirewalledResponse helperIp reportedIp observedAt).2
  | .beginUdpCheck helperIps expectedPorts startedAt =>
    (s.beginUdpCheck helperIps expectedPorts startedAt).2
  | .recordHelperRequestFailed helperIp error => s.recordHelperRequestFailed helperIp error
  | .recordFirewallUdpPacket helperIp errorCode incomingPort observedAt =>
    (s.recordFirewallUdpPacket helperIp errorCode incomingPort observedAt).2
  | .finishUdpCheck completedAt => (s.finishUdpCheck completedAt).2

end Overlord.Emule
