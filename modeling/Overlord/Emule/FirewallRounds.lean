import Overlord.Emule.KadFirewall
import Overlord.Machine.Run

/-!
# Rounds of the firewall checks

What the three checks come to, over all runs of operations on the state.

* `udp_verdict` — a round of UDP checks is over as soon as a helper gets through, so a round that is
  still active has no success in it.  Everything about `finishUdpCheck` follows from that.
* `external_port_outcome` — the port discovery is a vote of the first three reporters, with an early
  end as soon as two of them agree.
* `tcp_budget_iff` — the TCP check limits the helpers that are active and the answers separately.
  `TcpRun` keeps a book of the answers of a round, which the state does not.

The state has eleven operations, and what is said of one check has to hold through all of them.  So
each check comes with the list of what can be done to it, and the inductions over runs look at these
cases only: `UdpMove` for the active round and the verdict, `TcpMove` for the reserved helpers and
the answers, and `recordReport_cases` for the reports of a port discovery.
-/

set_option autoImplicit false

namespace Overlord.Emule

open Machine KadFirewallState

/-! ## The UDP check -/

/-- The part of the state that the UDP check is about is the same. -/
structure SameUdp (s s' : KadFirewallState) : Prop where
  activeRound_eq : s'.activeRound = s.activeRound
  udpOpen_eq : s'.udpOpen = s.udpOpen

theorem SameUdp.refl (s : KadFirewallState) : SameUdp s s := ⟨rfl, rfl⟩

section Frame

variable (s : KadFirewallState)

theorem sameUdp_recordExternalPortCandidate (ip : IpAddr) (port : UInt16) (observedAt : Time) :
    SameUdp s (s.recordExternalPortCandidate ip port observedAt).2 := by
  rw [recordExternalPortCandidate]
  split
  · exact .refl s
  · split
    · exact .refl s
    · dsimp only
      split_ifs <;> exact ⟨rfl, rfl⟩

theorem sameUdp_finishExternalPortDiscovery (completedAt : Time) :
    SameUdp s (s.finishExternalPortDiscovery completedAt) := by
  rw [finishExternalPortDiscovery]
  split_ifs <;> exact ⟨rfl, rfl⟩

theorem sameUdp_refreshTcpRecheck (tcpFirewalled : Bool) (startedAt : Time) :
    SameUdp s (s.refreshTcpRecheck tcpFirewalled startedAt) := by
  rw [refreshTcpRecheck]
  split_ifs <;> exact ⟨rfl, rfl⟩

theorem sameUdp_tryBeginTcpFirewallProbe (ip : IpAddr) (startedAt : Time) :
    SameUdp s (s.tryBeginTcpFirewallProbe ip startedAt).2 := by
  rw [tryBeginTcpFirewallProbe]
  split
  · exact .refl s
  · split_ifs <;> exact ⟨rfl, rfl⟩

theorem sameUdp_recordFirewalledResponse (ip reportedIp : IpAddr) (observedAt : Time) :
    SameUdp s (s.recordFirewalledResponse ip reportedIp observedAt).2 := by
  rw [recordFirewalledResponse]
  split
  · exact .refl s
  · dsimp only
    split_ifs <;> exact ⟨rfl, rfl⟩

end Frame

/-- The round has helpers, and none of them got through. -/
structure UdpFirewallCheckRound.Undecided (round : UdpFirewallCheckRound) : Prop where
  helpers_ne_nil : round.helperOutcomes ≠ []
  not_succeeded : ∀ entry ∈ round.helperOutcomes, entry.2 ≠ .succeeded

/-- An active round is undecided. -/
def UdpSound (s : KadFirewallState) : Prop := ∀ round ∈ s.activeRound, round.Undecided

theorem undecided_pendingHelpers {startedAt : Time} {ports : Finset UInt16} {ips : List IpAddr}
    (h : (pendingHelpers ips).isEmpty = false) :
    UdpFirewallCheckRound.Undecided ⟨startedAt, ports, pendingHelpers ips⟩ where
  helpers_ne_nil := by
    rw [List.isEmpty_eq_false_iff] at h
    exact h
  not_succeeded := by
    intro entry hentry
    obtain ⟨ip, -, rfl⟩ := List.mem_map.mp hentry
    exact nofun

theorem UdpFirewallCheckRound.Undecided.setOutcome {round : UdpFirewallCheckRound}
    (h : round.Undecided) (ip : IpAddr) {outcome : HelperOutcome} (hne : outcome ≠ .succeeded) :
    Undecided { round with helperOutcomes := setOutcome round.helperOutcomes ip outcome } where
  helpers_ne_nil := by simpa [KadFirewallState.setOutcome] using h.helpers_ne_nil
  not_succeeded := by
    intro entry hentry
    obtain ⟨old, hold, rfl⟩ := List.mem_map.mp hentry
    split_ifs
    · exact hne
    · exact h.not_succeeded old hold

/-- The packet is the success of a helper of the active round. -/
def Succeeds (s : KadFirewallState) (op : FirewallOp) : Prop :=
  ∃ round helperIp port observedAt, s.activeRound = some round ∧
    isHelper round.helperOutcomes helperIp = true ∧ port ∈ round.expectedPorts ∧
    op = .recordFirewallUdpPacket helperIp 0 port observedAt

/-- **What an operation can do to the UDP check**: to the active round, and to `udpOpen`. -/
inductive UdpMove (s : KadFirewallState) (op : FirewallOp) :
    Option UdpFirewallCheckRound → Bool → Prop
  | kept : UdpMove s op s.activeRound s.udpOpen
  | goesOn {round : UdpFirewallCheckRound} (h : round.Undecided) :
      UdpMove s op (some round) s.udpOpen
  | succeeded (h : Succeeds s op) : UdpMove s op none true
  | firewalled : UdpMove s op none false
  | abandoned : UdpMove s op none s.udpOpen

/-- The move that the operation makes. -/
abbrev Moves (s : KadFirewallState) (op : FirewallOp) : Prop :=
  UdpMove s op (s.perform op).activeRound (s.perform op).udpOpen

section Steps

variable {s : KadFirewallState}

theorem SameUdp.moves {op : FirewallOp} (h : SameUdp s (s.perform op)) : Moves s op := by
  rw [Moves, h.activeRound_eq, h.udpOpen_eq]
  exact .kept

theorem moves_beginUdpCheck (ips : List IpAddr) (ports : List UInt16) (startedAt : Time) :
    Moves s (.beginUdpCheck ips ports startedAt) := by
  rw [Moves, perform, beginUdpCheck]
  dsimp only
  split_ifs with hempty
  · exact .kept
  · exact .kept
  · exact .goesOn (undecided_pendingHelpers (Bool.eq_false_iff.mpr hempty))

theorem UdpSound.moves_recordHelperRequestFailed (h : UdpSound s) (ip : IpAddr) (error : String) :
    Moves s (.recordHelperRequestFailed ip error) := by
  rw [Moves, perform, recordHelperRequestFailed]
  split
  · exact .kept
  · rename_i round hround
    split_ifs
    · exact .goesOn ((h round hround).setOutcome ip nofun)
    · exact .kept

theorem UdpSound.moves_recordFirewallUdpPacket (h : UdpSound s) (ip : IpAddr) (code : UInt8)
    (port : UInt16) (observedAt : Time) :
    Moves s (.recordFirewallUdpPacket ip code port observedAt) := by
  rw [Moves, perform, recordFirewallUdpPacket]
  split
  · exact .kept
  · rename_i round hround
    dsimp only
    split_ifs with hhelper hsuccess hcode
    · exact .kept
    · obtain ⟨rfl, hport⟩ := hsuccess
      exact .succeeded ⟨round, ip, port, observedAt, hround, by simpa using hhelper, hport, rfl⟩
    · exact .goesOn ((h round hround).setOutcome ip nofun)
    · exact .goesOn ((h round hround).setOutcome ip nofun)

/-- An undecided round has a helper that did not get through. -/
theorem UdpFirewallCheckRound.Undecided.not_all_succeeded {round : UdpFirewallCheckRound}
    (h : round.Undecided) : round.helperOutcomes.all (·.2 = .succeeded) = false := by
  obtain ⟨entry, hentry⟩ := List.exists_mem_of_ne_nil _ h.helpers_ne_nil
  rw [List.all_eq_false]
  exact ⟨entry, hentry, by simpa using h.not_succeeded entry hentry⟩

theorem UdpFirewallCheckRound.Undecided.not_any_succeeded {round : UdpFirewallCheckRound}
    (h : round.Undecided) : round.helperOutcomes.any (·.2 = .succeeded) = false := by
  rw [List.any_eq_false]
  exact fun entry hentry => by simpa using h.not_succeeded entry hentry

/-- **The end of an undecided round.**  It is dropped if every request failed, and closed as
firewalled otherwise. -/
theorem UdpFirewallCheckRound.Undecided.finishUdpCheck_eq {round : UdpFirewallCheckRound}
    (h : round.Undecided) (hround : s.activeRound = some round) (completedAt : Time) :
    s.finishUdpCheck completedAt =
      if round.helperOutcomes.all (·.2 = .requestFailed) then
        (none, { s with
          lastError := some "all UDP firewall-check TCP requests failed"
          activeRound := none })
      else
        let closed := finalizeRound { s with
          lastError := some "UDP firewall-check timed out without a positive result" } round false
          completedAt
        (some closed.1, closed.2) := by
  rw [finishUdpCheck, hround]
  simp only [h.not_all_succeeded, h.not_any_succeeded, Bool.false_eq_true, if_false]

theorem UdpSound.moves_finishUdpCheck (h : UdpSound s) (completedAt : Time) :
    Moves s (.finishUdpCheck completedAt) := by
  rw [Moves, perform]
  cases hround : s.activeRound with
  | none =>
    rw [finishUdpCheck, hround]
    exact .kept
  | some round =>
    rw [(h round hround).finishUdpCheck_eq hround]
    split_ifs
    · exact .abandoned
    · exact .firewalled

theorem UdpSound.moves (h : UdpSound s) (op : FirewallOp) : Moves s op := by
  cases op with
  | beginExternalPortDiscovery startedAt => exact .kept
  | recordExternalPortCandidate ip port observedAt =>
    exact (sameUdp_recordExternalPortCandidate s ip port observedAt).moves
  | finishExternalPortDiscovery completedAt =>
    exact (sameUdp_finishExternalPortDiscovery s completedAt).moves
  | refreshTcpRecheck tcpFirewalled startedAt =>
    exact (sameUdp_refreshTcpRecheck s tcpFirewalled startedAt).moves
  | tryBeginTcpFirewallProbe ip startedAt =>
    exact (sameUdp_tryBeginTcpFirewallProbe s ip startedAt).moves
  | recordTcpFirewallProbeFailed ip error => exact .kept
  | recordFirewalledResponse ip reportedIp observedAt =>
    exact (sameUdp_recordFirewalledResponse s ip reportedIp observedAt).moves
  | beginUdpCheck ips ports startedAt => exact moves_beginUdpCheck ips ports startedAt
  | recordHelperRequestFailed ip error => exact h.moves_recordHelperRequestFailed ip error
  | recordFirewallUdpPacket ip code port observedAt =>
    exact h.moves_recordFirewallUdpPacket ip code port observedAt
  | finishUdpCheck completedAt => exact h.moves_finishUdpCheck completedAt

theorem UdpSound.perform (h : UdpSound s) (op : FirewallOp) : UdpSound (s.perform op) := by
  intro round hround
  have hmove := h.moves op
  rw [Moves] at hmove
  generalize (s.perform op).activeRound = after at hmove hround
  generalize (s.perform op).udpOpen = opened at hmove
  cases hmove with
  | kept => exact h round hround
  | goesOn hundecided => exact Option.some.inj hround ▸ hundecided
  | succeeded | firewalled | abandoned => exact absurd hround nofun

theorem UdpSound.succeeds (h : UdpSound s) {op : FirewallOp} (hclosed : s.udpOpen = false)
    (hopen : (s.perform op).udpOpen = true) : Succeeds s op := by
  have hmove := h.moves op
  rw [Moves, hopen] at hmove
  generalize (s.perform op).activeRound = after at hmove
  generalize hb : true = opened at hmove
  cases hmove with
  | kept | goesOn | abandoned => exact absurd (hb.trans hclosed) nofun
  | succeeded hsucceeds => exact hsucceeds
  | firewalled => exact absurd hb nofun

end Steps

/-- The verdict of the UDP check in a state. -/
structure UdpVerdict (s : KadFirewallState) : Prop where
  /-- No helper of an active round has succeeded. -/
  active : ∀ round ∈ s.activeRound, ∀ entry ∈ round.helperOutcomes, entry.2 ≠ .succeeded
  /-- The port is found open by the packet of a helper only. -/
  opened : ∀ op, s.udpOpen = false → (s.perform op).udpOpen = true → Succeeds s op
  /-- Finishing a round reports nothing exactly when all its requests failed. -/
  silent_iff : ∀ round ∈ s.activeRound, ∀ completedAt, (s.finishUdpCheck completedAt).1 = none ↔
    ∀ entry ∈ round.helperOutcomes, entry.2 = .requestFailed
  /-- A round that reports nothing leaves the verdict as it was. -/
  silent : ∀ round ∈ s.activeRound, ∀ completedAt, (s.finishUdpCheck completedAt).1 = none →
    (s.finishUdpCheck completedAt).2.udpOpen = s.udpOpen ∧
      (s.finishUdpCheck completedAt).2.udpVerified = s.udpVerified
  /-- A round that reports something reports that the port is firewalled. -/
  reported : ∀ round ∈ s.activeRound, ∀ completedAt, ∀ summary ∈ (s.finishUdpCheck completedAt).1,
    summary.open_ = false ∧ (s.finishUdpCheck completedAt).2.udpOpen = false ∧
      (s.finishUdpCheck completedAt).2.udpVerified = true

theorem UdpSound.verdict {s : KadFirewallState} (h : UdpSound s) : UdpVerdict s where
  active round hround := (h round hround).not_succeeded
  opened _ := h.succeeds
  silent_iff round hround completedAt := by
    rw [(h round hround).finishUdpCheck_eq hround]
    split_ifs with hall
    · exact iff_of_true rfl (by simpa using hall)
    · exact iff_of_false nofun (by simpa using hall)
  silent round hround completedAt := by
    rw [(h round hround).finishUdpCheck_eq hround]
    split_ifs
    · exact fun _ => ⟨rfl, rfl⟩
    · exact nofun
  reported round hround completedAt summary hsummary := by
    rw [(h round hround).finishUdpCheck_eq hround] at hsummary ⊢
    split_ifs at hsummary ⊢
    · exact absurd hsummary nofun
    · obtain rfl := Option.some.inj hsummary
      exact ⟨rfl, rfl, rfl⟩

/-- One operation as a step of the state. -/
def KadFirewallState.step (s : KadFirewallState) (op : FirewallOp) : Option KadFirewallState :=
  some (s.perform op)

/-- **The verdict of the UDP check holds in every state of every run.** -/
theorem udp_verdict (ops : List FirewallOp) :
    Always KadFirewallState.step UdpVerdict KadFirewallState.default ops := by
  intro done s _ hrun
  have hstart : UdpSound KadFirewallState.default := fun round hround =>
    absurd (show none = some round from hround) nofun
  have hsound : UdpSound s := by
    refine run_invariant (fun s op s' hs hstep => ?_) hstart hrun
    obtain rfl := Option.some.inj hstep
    exact hs.perform op
  exact hsound.verdict

/-! ## The external port -/

/-- A report of a port by a node, at some time. -/
structure PortReport where
  reporterIp : IpAddr
  port : UInt16
  observedAt : Time

/-- The reports that count: the first one of each reporter with a port. -/
def countedReports (reports : List PortReport) : List PortReport :=
  reports.foldl (fun counted report =>
    if report.port = 0 ∨ report.reporterIp ∈ counted.map (·.reporterIp) then counted
    else counted ++ [report]) []

/-- The votes: the ports of at most three reporters. -/
def votes (reports : List PortReport) : List UInt16 :=
  ((countedReports reports).take EXTERNAL_PORT_DISCOVERY_REPORTERS).map (·.port)

namespace KadFirewallState

/-- Record a report. -/
def recordReport (s : KadFirewallState) (report : PortReport) :
    ExternalPortDiscoveryOutcome × KadFirewallState :=
  s.recordExternalPortCandidate report.reporterIp report.port report.observedAt

/-- Record reports one after the other. -/
def recordReports (s : KadFirewallState) (reports : List PortReport) : KadFirewallState :=
  reports.foldl (fun s report => (s.recordReport report).2) s

/-- The outcome of the discovery, if there is one. -/
def settledOutcome (s : KadFirewallState) : Option ExternalPortDiscoveryOutcome :=
  if s.activeExternalPortDiscovery.isSome then none
  else
    match s.discoveredExternalUdpPort with
    | some port => some (.resolved port)
    | none => some .unreliable

end KadFirewallState

theorem countedReports_snoc (reports : List PortReport) (report : PortReport) :
    countedReports (reports ++ [report]) =
      if report.port = 0 ∨ report.reporterIp ∈ (countedReports reports).map (·.reporterIp) then
        countedReports reports
      else countedReports reports ++ [report] := by
  rw [countedReports, List.foldl_append]
  rfl

theorem votes_prefix_snoc (reports : List PortReport) (report : PortReport) :
    votes reports <+: votes (reports ++ [report]) := by
  rw [votes, votes, countedReports_snoc]
  split_ifs
  · exact List.prefix_refl _
  · exact ((List.prefix_append _ _).take _).map _

/-- **The state of the discovery after some reports.**  While it is open, the round holds every
report that counted, fewer than three and all different; once it is settled, the outcome is that of
the votes. -/
inductive Discovery (reports : List PortReport) : KadFirewallState → Prop
  | pending {s : KadFirewallState}
      (hround : s.activeExternalPortDiscovery = some
        ⟨((countedReports reports).map (·.reporterIp)).toFinset,
          (countedReports reports).map (·.port)⟩)
      (hnodup : ((countedReports reports).map (·.port)).Nodup)
      (hips : ((countedReports reports).map (·.reporterIp)).Nodup)
      (hlen : (countedReports reports).length < EXTERNAL_PORT_DISCOVERY_REPORTERS) :
      Discovery reports s
  | resolved {s : KadFirewallState} (port : UInt16)
      (hround : s.activeExternalPortDiscovery = none)
      (hport : s.discoveredExternalUdpPort = some port) (hvotes : 2 ≤ (votes reports).count port) :
      Discovery reports s
  | unreliable {s : KadFirewallState} (hround : s.activeExternalPortDiscovery = none)
      (hport : s.discoveredExternalUdpPort = none)
      (hlen : (votes reports).length = EXTERNAL_PORT_DISCOVERY_REPORTERS)
      (hvotes : (votes reports).Nodup) : Discovery reports s

theorem recordReport_of_settled {s : KadFirewallState}
    (h : s.activeExternalPortDiscovery = none) (report : PortReport) :
    s.recordReport report = (.ignored, s) := by
  rw [recordReport, recordExternalPortCandidate, h]
  split_ifs <;> rfl

section Discovery

variable {reports : List PortReport} {s : KadFirewallState}

theorem length_votes_le (reports : List PortReport) :
    (votes reports).length ≤ EXTERNAL_PORT_DISCOVERY_REPORTERS := by
  rw [votes, List.length_map]
  exact List.length_take_le _ _

/-- Fewer reports than there are votes all count. -/
theorem votes_eq (h : (countedReports reports).length ≤ EXTERNAL_PORT_DISCOVERY_REPORTERS) :
    votes reports = (countedReports reports).map (·.port) := by
  rw [votes, List.take_of_length_le h]

theorem votes_eq_of_full (h : (votes reports).length = EXTERNAL_PORT_DISCOVERY_REPORTERS)
    (report : PortReport) : votes (reports ++ [report]) = votes reports :=
  ((votes_prefix_snoc reports report).eq_of_length_le
    (h ▸ length_votes_le (reports ++ [report]))).symm

theorem Discovery.of_settled (h : Discovery reports s)
    (hround : s.activeExternalPortDiscovery = none) (report : PortReport) :
    Discovery (reports ++ [report]) s := by
  cases h with
  | pending hround' => exact absurd (hround.symm.trans hround') nofun
  | resolved port _ hport hvotes =>
    exact .resolved port hround hport
      (hvotes.trans ((votes_prefix_snoc reports report).sublist.count_le _))
  | unreliable _ hport hlen hvotes =>
    exact .unreliable hround hport (votes_eq_of_full hlen report ▸ hlen)
      (votes_eq_of_full hlen report ▸ hvotes)

/-- **What a report does to an open round.** -/
theorem recordReport_cases {round : ExternalPortDiscoveryRound}
    (hround : s.activeExternalPortDiscovery = some round) (report : PortReport) :
    ((report.port = 0 ∨ report.reporterIp ∈ round.reporterIps) ∧
      s.recordReport report = (.ignored, s)) ∨
    ¬ (report.port = 0 ∨ report.reporterIp ∈ round.reporterIps) ∧
      ∃ s', (report.port ∈ round.reportedPorts ∧
          s.recordReport report = (.resolved report.port, s') ∧
          s'.activeExternalPortDiscovery = none ∧
          s'.discoveredExternalUdpPort = some report.port) ∨
        (report.port ∉ round.reportedPorts ∧
          EXTERNAL_PORT_DISCOVERY_REPORTERS ≤ (insert report.reporterIp round.reporterIps).card ∧
          s.recordReport report = (.unreliable, s') ∧ s'.activeExternalPortDiscovery = none ∧
          s'.discoveredExternalUdpPort = none) ∨
        (report.port ∉ round.reportedPorts ∧
          (insert report.reporterIp round.reporterIps).card < EXTERNAL_PORT_DISCOVERY_REPORTERS ∧
          s.recordReport report = (.recorded, s') ∧
          s'.activeExternalPortDiscovery = some ⟨insert report.reporterIp round.reporterIps,
            round.reportedPorts ++ [report.port]⟩) := by
  rw [KadFirewallState.recordReport, recordExternalPortCandidate, hround]
  dsimp only
  split_ifs with hzero hseen hagree hfull
  · exact .inl ⟨.inl hzero, rfl⟩
  · exact .inl ⟨.inr hseen, rfl⟩
  · exact .inr ⟨not_or.mpr ⟨hzero, hseen⟩, _, .inl ⟨hagree, rfl, rfl, rfl⟩⟩
  · exact .inr ⟨not_or.mpr ⟨hzero, hseen⟩, _, .inr (.inl ⟨hagree, hfull, rfl, rfl, rfl⟩)⟩
  · exact .inr ⟨not_or.mpr ⟨hzero, hseen⟩, _,
      .inr (.inr ⟨hagree, Nat.lt_of_not_le hfull, rfl, rfl⟩)⟩

/-- One more report in an open round. -/
theorem discovery_snoc_of_pending
    (hround : s.activeExternalPortDiscovery = some
      ⟨((countedReports reports).map (·.reporterIp)).toFinset,
        (countedReports reports).map (·.port)⟩)
    (hnodup : ((countedReports reports).map (·.port)).Nodup)
    (hips : ((countedReports reports).map (·.reporterIp)).Nodup)
    (hlen : (countedReports reports).length < EXTERNAL_PORT_DISCOVERY_REPORTERS)
    (report : PortReport) : Discovery (reports ++ [report]) (s.recordReport report).2 := by
  have hsnoc := countedReports_snoc reports report
  rcases recordReport_cases hround report with ⟨hpassed, hrecord⟩ | ⟨hcounts, s', hrecord⟩
  · rw [List.mem_toFinset] at hpassed
    rw [if_pos hpassed] at hsnoc
    rw [hrecord]
    exact .pending (by rwa [hsnoc]) (by rwa [hsnoc]) (by rwa [hsnoc]) (by rwa [hsnoc])
  · rw [List.mem_toFinset] at hcounts
    rw [if_neg hcounts] at hsnoc
    have hfresh := (not_or.mp hcounts).2
    have hports : (countedReports (reports ++ [report])).map (·.port) =
        (countedReports reports).map (·.port) ++ [report.port] := by
      rw [hsnoc, List.map_append, List.map_singleton]
    have hlength : (countedReports (reports ++ [report])).length =
        (countedReports reports).length + 1 := by
      rw [hsnoc, List.length_append, List.length_singleton]
    have hvotes : votes (reports ++ [report]) =
        (countedReports reports).map (·.port) ++ [report.port] := by
      rw [votes_eq (by omega), hports]
    have hcard : (insert report.reporterIp
        ((countedReports reports).map (·.reporterIp)).toFinset).card =
        (countedReports reports).length + 1 := by
      rw [Finset.card_insert_of_notMem (by simpa using hfresh),
        List.toFinset_card_of_nodup hips, List.length_map]
    have hnodup' : report.port ∉ (countedReports reports).map (·.port) →
        ((countedReports reports).map (·.port) ++ [report.port]).Nodup := fun hnew =>
      List.nodup_append.mpr ⟨hnodup, List.nodup_singleton _, fun a ha b hb heq =>
        hnew (List.mem_singleton.mp hb ▸ heq ▸ ha)⟩
    rcases hrecord with ⟨hagree, hrecord, hnone, hport⟩ |
      ⟨hnew, hfull, hrecord, hnone, hport⟩ | ⟨hnew, hfew, hrecord, hsome⟩
    · rw [hrecord]
      refine .resolved _ hnone hport ?_
      rw [hvotes, List.count_append, List.count_singleton_self]
      exact Nat.succ_le_succ (List.count_pos_iff.mpr hagree)
    · rw [hrecord]
      rw [hcard] at hfull
      refine .unreliable hnone hport ?_ (hvotes ▸ hnodup' hnew)
      rw [hvotes, List.length_append, List.length_map, List.length_singleton]
      omega
    · rw [hrecord]
      rw [hcard] at hfew
      refine .pending ?_ (hports ▸ hnodup' hnew) ?_ (hlength ▸ hfew)
      · rw [hsome, hsnoc]
        congr 2
        · ext ip
          simp
        · rw [List.map_append, List.map_singleton]
      · rw [hsnoc, List.map_append, List.map_singleton]
        exact List.nodup_append.mpr ⟨hips, List.nodup_singleton _, fun a ha b hb heq =>
          hfresh (List.mem_singleton.mp hb ▸ heq ▸ ha)⟩

/-- **One more report.** -/
theorem Discovery.recordReport (h : Discovery reports s) (report : PortReport) :
    Discovery (reports ++ [report]) (s.recordReport report).2 := by
  cases h with
  | resolved port hround hport hvotes =>
    rw [recordReport_of_settled hround]
    exact (Discovery.resolved port hround hport hvotes).of_settled hround report
  | unreliable hround hport hlen hvotes =>
    rw [recordReport_of_settled hround]
    exact (Discovery.unreliable hround hport hlen hvotes).of_settled hround report
  | pending hround hnodup hips hlen =>
    exact discovery_snoc_of_pending hround hnodup hips hlen report

theorem discovery_recordReports (s : KadFirewallState) (startedAt : Time)
    (reports : List PortReport) :
    Discovery reports ((s.beginExternalPortDiscovery startedAt).recordReports reports) := by
  induction reports using List.reverseRecOn with
  | nil => exact .pending rfl .nil .nil (by decide)
  | append_singleton reports report ih =>
    rw [recordReports, List.foldl_append]
    exact ih.recordReport report

/-- Two ports cannot both have two of three votes. -/
theorem port_unique {p q : UInt16} (hp : 2 ≤ (votes reports).count p)
    (hq : 2 ≤ (votes reports).count q) : p = q := by
  by_contra hne
  have hle : (votes reports).length ≤ 3 := length_votes_le reports
  rw [List.length_eq_countP_add_countP (· == p)] at hle
  have hother : (votes reports).count q ≤ (votes reports).countP fun a => ¬ (a == p) = true :=
    List.countP_mono_left fun a _ ha => by
      obtain rfl := eq_of_beq ha
      simpa using Ne.symm hne
  change (votes reports).count p + _ ≤ 3 at hle
  omega

theorem not_nodup_of_two_le_count {p : UInt16} (hp : 2 ≤ (votes reports).count p) :
    ¬ (votes reports).Nodup := fun h => by
  have := List.nodup_iff_count_le_one.mp h p
  omega

/-- The outcome of the discovery is that of the votes. -/
theorem Discovery.settledOutcome_eq (h : Discovery reports s) :
    (∀ port, s.settledOutcome = some (.resolved port) ↔ 2 ≤ (votes reports).count port) ∧
      (s.settledOutcome = some .unreliable ↔
        (votes reports).length = EXTERNAL_PORT_DISCOVERY_REPORTERS ∧ (votes reports).Nodup) := by
  cases h with
  | pending hround hnodup _ hlen =>
    have hnone : s.settledOutcome = none := by rw [settledOutcome, hround]; rfl
    rw [← votes_eq hlen.le] at hnodup
    rw [hnone]
    refine ⟨fun port => iff_of_false nofun fun hport =>
      not_nodup_of_two_le_count hport hnodup, iff_of_false nofun fun hfull => ?_⟩
    rw [votes_eq hlen.le, List.length_map] at hfull
    exact hlen.ne hfull.1
  | resolved port hround hport hvotes =>
    have hsome : s.settledOutcome = some (.resolved port) := by
      rw [settledOutcome, hround, hport]
      rfl
    rw [hsome]
    refine ⟨fun other => ⟨fun heq => ?_, fun hcount => ?_⟩,
      iff_of_false nofun fun hfull => not_nodup_of_two_le_count hvotes hfull.2⟩
    · cases heq
      exact hvotes
    · rw [port_unique hvotes hcount]
  | unreliable hround hport hlen hvotes =>
    have hsome : s.settledOutcome = some .unreliable := by
      rw [settledOutcome, hround, hport]
      rfl
    rw [hsome]
    exact ⟨fun port => iff_of_false nofun fun hcount => not_nodup_of_two_le_count hcount hvotes,
      iff_of_true rfl ⟨hlen, hvotes⟩⟩

/-- A report that settles the discovery is answered with its outcome. -/
theorem recordReport_answer {outcome : ExternalPortDiscoveryOutcome} (report : PortReport)
    (hopen : s.settledOutcome = none)
    (hsettled : (s.recordReport report).2.settledOutcome = some outcome) :
    (s.recordReport report).1 = outcome := by
  have hsome : s.activeExternalPortDiscovery.isSome = true := by
    rw [settledOutcome] at hopen
    split at hopen
    · assumption
    · split at hopen <;> exact absurd hopen nofun
  obtain ⟨round, hround⟩ := Option.isSome_iff_exists.mp hsome
  rcases recordReport_cases hround report with ⟨_, hrecord⟩ | ⟨_, s', hrecord⟩
  · rw [hrecord, hopen] at hsettled
    exact absurd hsettled nofun
  · rcases hrecord with ⟨_, hrecord, hnone, hport⟩ | ⟨_, _, hrecord, hnone, hport⟩ |
      ⟨_, _, hrecord, hround'⟩
    · rw [hrecord, settledOutcome, hnone, hport] at hsettled
      rw [hrecord]
      exact Option.some.inj hsettled
    · rw [hrecord, settledOutcome, hnone, hport] at hsettled
      rw [hrecord]
      exact Option.some.inj hsettled
    · rw [hrecord, settledOutcome, hround'] at hsettled
      exact absurd hsettled nofun

theorem activeExternalPortDiscovery_eq_none (h : s.settledOutcome ≠ none) :
    s.activeExternalPortDiscovery = none := by
  by_contra hne
  rw [settledOutcome, if_pos (Option.isSome_iff_ne_none.mpr hne)] at h
  exact h rfl

end Discovery

/-- **The outcome of external port discovery**, after any reports in a round. -/
theorem external_port_outcome (s : KadFirewallState) (startedAt : Time)
    (reports : List PortReport) :
    let after := (s.beginExternalPortDiscovery startedAt).recordReports reports
    (∀ port, after.settledOutcome = some (.resolved port) ↔ 2 ≤ (votes reports).count port) ∧
      (after.settledOutcome = some .unreliable ↔
        (votes reports).length = EXTERNAL_PORT_DISCOVERY_REPORTERS ∧ (votes reports).Nodup) ∧
      (after.settledOutcome = none ↔ (votes reports).Nodup ∧
        (votes reports).length < EXTERNAL_PORT_DISCOVERY_REPORTERS) ∧
      (after.settledOutcome ≠ none → ∀ more, after.recordReports more = after) ∧
      ∀ report outcome, after.settledOutcome = none →
        (after.recordReport report).2.settledOutcome = some outcome →
        (after.recordReport report).1 = outcome := by
  intro after
  have h : Discovery reports after := discovery_recordReports s startedAt reports
  obtain ⟨hresolved, hunreliable⟩ := h.settledOutcome_eq
  refine ⟨hresolved, hunreliable, ⟨fun hnone => ?_, fun ⟨hnodup, hlen⟩ => ?_⟩,
    fun hsettled more => ?_, fun report outcome => recordReport_answer report⟩
  · cases h with
    | pending _ hnodup _ hlen =>
      rw [votes_eq hlen.le]
      exact ⟨hnodup, by rwa [List.length_map]⟩
    | resolved _ _ _ hvotes => exact absurd ((hresolved _).mpr hvotes) (hnone ▸ nofun)
    | unreliable _ _ hlen hvotes =>
      exact absurd (hunreliable.mpr ⟨hlen, hvotes⟩) (hnone ▸ nofun)
  · cases h with
    | pending hround => rw [settledOutcome, hround]; rfl
    | resolved _ _ _ hvotes => exact absurd hnodup (not_nodup_of_two_le_count hvotes)
    | unreliable _ _ hfull _ => exact absurd hfull hlen.ne
  · have hnone := activeExternalPortDiscovery_eq_none hsettled
    induction more with
    | nil => rfl
    | cons report more ih =>
      rw [recordReports, List.foldl_cons, recordReport_of_settled hnone]
      exact ih

/-! ## The TCP check -/

/-- A run of the TCP check: the state, the helpers that answered in the active round, and the
answers that completed the rounds before it. -/
structure TcpRun where
  state : KadFirewallState
  answered : List IpAddr
  completed : List (List IpAddr)

/-- An operation, with the book of the answers. -/
def TcpRun.perform (r : TcpRun) : FirewallOp → TcpRun
  | .refreshTcpRecheck tcpFirewalled startedAt =>
    { r with
      state := r.state.refreshTcpRecheck tcpFirewalled startedAt
      answered := if tcpFirewalled then r.answered else [] }
  | .recordFirewalledResponse helperIp reportedIp observedAt =>
    match r.state.recordFirewalledResponse helperIp reportedIp observedAt with
    | (.ignored, state) => { r with state }
    | (.recorded, state) => { r with state, answered := r.answered ++ [helperIp] }
    | (.completed, state) =>
      { state, answered := [], completed := r.completed ++ [r.answered ++ [helperIp]] }
  | op => { r with state := r.state.perform op }

def TcpRun.step (r : TcpRun) (op : FirewallOp) : Option TcpRun := some (r.perform op)

/-- The start of every run. -/
def TcpRun.start : TcpRun := ⟨KadFirewallState.default, [], []⟩

/-- A reservation is fresh: the helper has not answered in this round, and with the helpers that
answered and the ones that are active there is one left in the budget. -/
def FreshProbe (r : TcpRun) : FirewallOp → Prop
  | .tryBeginTcpFirewallProbe helperIp startedAt =>
    (r.state.tryBeginTcpFirewallProbe helperIp startedAt).1 = true →
      ∀ round ∈ r.state.activeTcpRound, helperIp ∉ r.answered ∧
        round.activeHelpers.card + r.answered.length < TCP_FIREWALL_RECHECK_LIMIT
  | _ => True

/-- **The budget of the TCP check.** -/
structure TcpBudgeted (r : TcpRun) : Prop where
  /-- A round is completed by four different helpers. -/
  completed : ∀ answers ∈ r.completed,
    answers.length = TCP_FIREWALL_RECHECK_LIMIT ∧ answers.Nodup
  /-- No helper answers twice in a round. -/
  answered_nodup : r.answered.Nodup
  /-- No helper is asked again in the round in which it answered. -/
  asked_once : ∀ round ∈ r.state.activeTcpRound, ∀ ip ∈ r.answered, ip ∉ round.activeHelpers
  /-- The reservations of a round that were not given back are four at most. -/
  within : ∀ round ∈ r.state.activeTcpRound,
    round.activeHelpers.card + r.answered.length ≤ TCP_FIREWALL_RECHECK_LIMIT

/-- The round counts its answers, and it is over before there are four. -/
structure Booked (r : TcpRun) : Prop where
  of_none : r.state.activeTcpRound = none → r.answered = []
  of_some : ∀ round ∈ r.state.activeTcpRound, round.completedChecks = r.answered.length ∧
    r.answered.length < TCP_FIREWALL_RECHECK_LIMIT

/-- What an operation can do to the TCP check. -/
inductive TcpMove (r : TcpRun) : FirewallOp → TcpRun → Prop
  | idle {op : FirewallOp} {state : KadFirewallState} (hfresh : FreshProbe r op)
      (hround : state.activeTcpRound = r.state.activeTcpRound) :
      TcpMove r op { r with state }
  | start {op : FirewallOp} {state : KadFirewallState} (hfresh : FreshProbe r op)
      (hnone : r.state.activeTcpRound = none) (hround : state.activeTcpRound = some ⟨∅, 0⟩) :
      TcpMove r op { r with state }
  | drop {op : FirewallOp} {state : KadFirewallState} (hfresh : FreshProbe r op)
      (hround : state.activeTcpRound = none) : TcpMove r op { r with state, answered := [] }
  | reserve {helperIp : IpAddr} {startedAt : Time} {state : KadFirewallState}
      {round : TcpFirewallCheckRound} (hsome : r.state.activeTcpRound = some round)
      (hbegins : (r.state.tryBeginTcpFirewallProbe helperIp startedAt).1 = true)
      (hnew : helperIp ∉ round.activeHelpers)
      (hround : state.activeTcpRound =
        some { round with activeHelpers := insert helperIp round.activeHelpers }) :
      TcpMove r (.tryBeginTcpFirewallProbe helperIp startedAt) { r with state }
  | release {op : FirewallOp} {helperIp : IpAddr} {state : KadFirewallState}
      (hfresh : FreshProbe r op)
      (hround : state.activeTcpRound = r.state.activeTcpRound.map fun round =>
        { round with activeHelpers := round.activeHelpers.erase helperIp }) :
      TcpMove r op { r with state }
  | answer {op : FirewallOp} {helperIp : IpAddr} {state : KadFirewallState}
      {round : TcpFirewallCheckRound} (hfresh : FreshProbe r op)
      (hsome : r.state.activeTcpRound = some round) (hactive : helperIp ∈ round.activeHelpers)
      (hround : state.activeTcpRound =
        some ⟨round.activeHelpers.erase helperIp, round.completedChecks + 1⟩)
      (hfew : round.completedChecks + 1 < TCP_FIREWALL_RECHECK_LIMIT) :
      TcpMove r op { r with state, answered := r.answered ++ [helperIp] }
  | complete {op : FirewallOp} {helperIp : IpAddr} {state : KadFirewallState}
      {round : TcpFirewallCheckRound} (hfresh : FreshProbe r op)
      (hsome : r.state.activeTcpRound = some round) (hactive : helperIp ∈ round.activeHelpers)
      (hround : state.activeTcpRound = none)
      (hall : TCP_FIREWALL_RECHECK_LIMIT ≤ round.completedChecks + 1) :
      TcpMove r op
        { state, answered := [], completed := r.completed ++ [r.answered ++ [helperIp]] }

section TcpFrame

variable (s : KadFirewallState)

theorem activeTcpRound_recordExternalPortCandidate (ip : IpAddr) (port : UInt16)
    (observedAt : Time) :
    (s.recordExternalPortCandidate ip port observedAt).2.activeTcpRound = s.activeTcpRound := by
  rw [recordExternalPortCandidate]
  split
  · rfl
  · split
    · rfl
    · dsimp only
      split_ifs <;> rfl

theorem activeTcpRound_finishExternalPortDiscovery (completedAt : Time) :
    (s.finishExternalPortDiscovery completedAt).activeTcpRound = s.activeTcpRound := by
  rw [finishExternalPortDiscovery]
  split_ifs <;> rfl

theorem activeTcpRound_beginUdpCheck (ips : List IpAddr) (ports : List UInt16)
    (startedAt : Time) :
    (s.beginUdpCheck ips ports startedAt).2.activeTcpRound = s.activeTcpRound := by
  rw [beginUdpCheck]
  dsimp only
  split_ifs <;> rfl

theorem activeTcpRound_recordHelperRequestFailed (ip : IpAddr) (error : String) :
    (s.recordHelperRequestFailed ip error).activeTcpRound = s.activeTcpRound := by
  rw [recordHelperRequestFailed]
  split
  · rfl
  · split_ifs <;> rfl

theorem activeTcpRound_recordFirewallUdpPacket (ip : IpAddr) (errorCode : UInt8) (port : UInt16)
    (observedAt : Time) :
    (s.recordFirewallUdpPacket ip errorCode port observedAt).2.activeTcpRound =
      s.activeTcpRound := by
  rw [recordFirewallUdpPacket]
  split
  · rfl
  · dsimp only
    split
    · rfl
    · split <;> rfl

theorem activeTcpRound_finishUdpCheck (completedAt : Time) :
    (s.finishUdpCheck completedAt).2.activeTcpRound = s.activeTcpRound := by
  rw [finishUdpCheck]
  split
  · rfl
  · dsimp only
    split_ifs <;> rfl

/-- A reservation is refused, or the helper is one more that is active. -/
theorem tryBeginTcpFirewallProbe_cases (helperIp : IpAddr) (startedAt : Time) :
    s.tryBeginTcpFirewallProbe helperIp startedAt = (false, s) ∨
      ∃ round s', s.activeTcpRound = some round ∧ helperIp ∉ round.activeHelpers ∧
        s.tryBeginTcpFirewallProbe helperIp startedAt = (true, s') ∧
        s'.activeTcpRound =
          some { round with activeHelpers := insert helperIp round.activeHelpers } := by
  rw [tryBeginTcpFirewallProbe]
  split
  · exact .inl rfl
  · rename_i round hsome
    split_ifs with hrefused
    · exact .inl rfl
    · exact .inr ⟨round, _, hsome, fun h => hrefused (.inr (.inr h)), rfl, rfl⟩

/-- An answer is ignored, or it is that of a helper that is active. -/
theorem recordFirewalledResponse_cases (helperIp reportedIp : IpAddr) (observedAt : Time) :
    s.recordFirewalledResponse helperIp reportedIp observedAt = (.ignored, s) ∨
      ∃ round s', s.activeTcpRound = some round ∧ helperIp ∈ round.activeHelpers ∧
        ((TCP_FIREWALL_RECHECK_LIMIT ≤ round.completedChecks + 1 ∧
          s.recordFirewalledResponse helperIp reportedIp observedAt = (.completed, s') ∧
          s'.activeTcpRound = none) ∨
        (round.completedChecks + 1 < TCP_FIREWALL_RECHECK_LIMIT ∧
          s.recordFirewalledResponse helperIp reportedIp observedAt = (.recorded, s') ∧
          s'.activeTcpRound =
            some ⟨round.activeHelpers.erase helperIp, round.completedChecks + 1⟩)) := by
  rw [recordFirewalledResponse]
  split
  · exact .inl rfl
  · rename_i round hsome
    dsimp only
    split_ifs with hactive hall
    · exact .inr ⟨round, _, hsome, hactive, .inl ⟨hall, rfl, rfl⟩⟩
    · exact .inr ⟨round, _, hsome, hactive, .inr ⟨Nat.lt_of_not_le hall, rfl, rfl⟩⟩
    · exact .inl rfl

end TcpFrame

section TcpMove

variable (r : TcpRun)

theorem tcpMove_refreshTcpRecheck (tcpFirewalled : Bool) (startedAt : Time) :
    TcpMove r (.refreshTcpRecheck tcpFirewalled startedAt)
      (r.perform (.refreshTcpRecheck tcpFirewalled startedAt)) := by
  cases tcpFirewalled with
  | false => exact .drop trivial rfl
  | true =>
    rw [TcpRun.perform, refreshTcpRecheck, if_pos rfl, if_pos rfl]
    split_ifs with hnone
    · exact .start trivial (Option.isNone_iff_eq_none.mp hnone) rfl
    · exact .idle trivial rfl

theorem tcpMove_tryBeginTcpFirewallProbe (helperIp : IpAddr) (startedAt : Time) :
    TcpMove r (.tryBeginTcpFirewallProbe helperIp startedAt)
      { r with state := (r.state.tryBeginTcpFirewallProbe helperIp startedAt).2 } := by
  rcases tryBeginTcpFirewallProbe_cases r.state helperIp startedAt with
    hbegin | ⟨round, s', hsome, hnew, hbegin, hround⟩
  · rw [hbegin]
    exact .idle (fun h => absurd (congrArg Prod.fst hbegin ▸ h) nofun) rfl
  · rw [hbegin]
    exact .reserve hsome (congrArg Prod.fst hbegin) hnew hround

theorem tcpMove_recordFirewalledResponse (helperIp reportedIp : IpAddr) (observedAt : Time) :
    TcpMove r (.recordFirewalledResponse helperIp reportedIp observedAt)
      (r.perform (.recordFirewalledResponse helperIp reportedIp observedAt)) := by
  rw [TcpRun.perform]
  rcases recordFirewalledResponse_cases r.state helperIp reportedIp observedAt with
    hrecord | ⟨round, s', hsome, hactive, ⟨hall, hrecord, hround⟩ | ⟨hfew, hrecord, hround⟩⟩
  · rw [hrecord]
    exact .idle trivial rfl
  · rw [hrecord]
    exact .complete trivial hsome hactive hround hall
  · rw [hrecord]
    exact .answer trivial hsome hactive hround hfew

theorem tcpMove_perform (op : FirewallOp) : TcpMove r op (r.perform op) := by
  cases op with
  | refreshTcpRecheck tcpFirewalled startedAt =>
    exact tcpMove_refreshTcpRecheck r tcpFirewalled startedAt
  | tryBeginTcpFirewallProbe helperIp startedAt =>
    exact tcpMove_tryBeginTcpFirewallProbe r helperIp startedAt
  | recordTcpFirewallProbeFailed helperIp error => exact .release trivial rfl
  | recordFirewalledResponse helperIp reportedIp observedAt =>
    exact tcpMove_recordFirewalledResponse r helperIp reportedIp observedAt
  | beginExternalPortDiscovery => exact .idle trivial rfl
  | recordExternalPortCandidate reporterIp reportedPort observedAt =>
    exact .idle trivial (activeTcpRound_recordExternalPortCandidate ..)
  | finishExternalPortDiscovery completedAt =>
    exact .idle trivial (activeTcpRound_finishExternalPortDiscovery ..)
  | beginUdpCheck helperIps expectedPorts startedAt =>
    exact .idle trivial (activeTcpRound_beginUdpCheck ..)
  | recordHelperRequestFailed helperIp error =>
    exact .idle trivial (activeTcpRound_recordHelperRequestFailed ..)
  | recordFirewallUdpPacket helperIp errorCode incomingPort observedAt =>
    exact .idle trivial (activeTcpRound_recordFirewallUdpPacket ..)
  | finishUdpCheck completedAt => exact .idle trivial (activeTcpRound_finishUdpCheck ..)

end TcpMove

section Budget

variable {r r' : TcpRun} {op : FirewallOp}

theorem TcpMove.booked (hmove : TcpMove r op r') (h : Booked r) : Booked r' := by
  cases hmove with
  | idle _ hround => exact ⟨fun hnone => h.of_none (hround ▸ hnone), fun round hsome =>
      h.of_some round (hround ▸ hsome)⟩
  | start _ hnone hround =>
    refine ⟨fun _ => h.of_none hnone, fun round hsome => ?_⟩
    obtain rfl := Option.some.inj (hround.symm.trans hsome)
    rw [h.of_none hnone]
    exact ⟨rfl, by decide⟩
  | drop _ hround => exact ⟨fun _ => rfl, fun round hsome => absurd (hround.symm.trans hsome) nofun⟩
  | reserve hsome _ _ hround =>
    refine ⟨fun hnone => absurd (hround.symm.trans hnone) nofun, fun round hsome' => ?_⟩
    obtain rfl := Option.some.inj (hround.symm.trans hsome')
    exact (h.of_some _ hsome :)
  | release _ hround =>
    refine ⟨fun hnone => h.of_none (Option.map_eq_none_iff.mp (hround.symm.trans hnone)),
      fun round hsome => ?_⟩
    obtain ⟨old, hold, rfl⟩ := Option.map_eq_some_iff.mp (hround.symm.trans hsome)
    exact h.of_some old hold
  | answer _ hsome _ hround hfew =>
    refine ⟨fun hnone => absurd (hround.symm.trans hnone) nofun, fun round hsome' => ?_⟩
    obtain rfl := Option.some.inj (hround.symm.trans hsome')
    have hcount := (h.of_some _ hsome).1
    rw [List.length_append, List.length_singleton]
    exact ⟨by rw [hcount], by omega⟩
  | complete _ _ _ hround _ =>
    exact ⟨fun _ => rfl, fun round hsome => absurd (hround.symm.trans hsome) nofun⟩

theorem nodup_answers (h : TcpBudgeted r) {round : TcpFirewallCheckRound} {helperIp : IpAddr}
    (hsome : r.state.activeTcpRound = some round) (hactive : helperIp ∈ round.activeHelpers) :
    (r.answered ++ [helperIp]).Nodup := by
  refine List.nodup_append.mpr ⟨h.answered_nodup, List.nodup_singleton _, fun a ha b hb heq => ?_⟩
  obtain rfl := List.mem_singleton.mp hb
  exact h.asked_once round hsome a ha (heq ▸ hactive)

/-- **A step keeps the budget exactly when its reservation is fresh.** -/
theorem TcpMove.budgeted_iff (hmove : TcpMove r op r') (hbooked : Booked r) (h : TcpBudgeted r) :
    TcpBudgeted r' ↔ FreshProbe r op := by
  cases hmove with
  | idle hfresh hround =>
    exact iff_of_true ⟨h.completed, h.answered_nodup, fun round hsome =>
      h.asked_once round (hround ▸ hsome),
      fun round hsome => h.within round (hround ▸ hsome)⟩ hfresh
  | start hfresh hnone hround =>
    refine iff_of_true ⟨h.completed, h.answered_nodup, fun round hsome ip hip => ?_,
      fun round hsome => ?_⟩ hfresh
    · rw [hbooked.of_none hnone] at hip
      exact absurd hip List.not_mem_nil
    · obtain rfl := Option.some.inj (hround.symm.trans hsome)
      rw [hbooked.of_none hnone]
      exact Nat.zero_le _
  | drop hfresh hround =>
    exact iff_of_true ⟨h.completed, .nil, fun round hsome => absurd (hround.symm.trans hsome) nofun,
      fun round hsome => absurd (hround.symm.trans hsome) nofun⟩ hfresh
  | @reserve helperIp startedAt state round hsome hbegins hnew hround =>
    have hcard := Finset.card_insert_of_notMem hnew
    constructor
    · intro h' _ round' hsome'
      obtain rfl := Option.some.inj (hsome.symm.trans hsome')
      have hwithin := h'.within _ hround
      dsimp only at hwithin
      exact ⟨fun hip => h'.asked_once _ hround _ hip (Finset.mem_insert_self ..), by omega⟩
    · intro hfresh
      obtain ⟨hip, hleft⟩ := hfresh hbegins round hsome
      refine ⟨h.completed, h.answered_nodup, fun round' hsome' ip hip' => ?_,
        fun round' hsome' => ?_⟩
      · obtain rfl := Option.some.inj (hround.symm.trans hsome')
        rw [Finset.mem_insert, not_or]
        exact ⟨fun heq => hip (heq ▸ hip'), h.asked_once round hsome ip hip'⟩
      · obtain rfl := Option.some.inj (hround.symm.trans hsome')
        dsimp only
        omega
  | release hfresh hround =>
    refine iff_of_true ⟨h.completed, h.answered_nodup, fun round hsome ip hip => ?_,
      fun round hsome => ?_⟩ hfresh
    · obtain ⟨old, hold, rfl⟩ := Option.map_eq_some_iff.mp (hround.symm.trans hsome)
      exact fun hmem => h.asked_once old hold ip hip (Finset.mem_of_mem_erase hmem)
    · obtain ⟨old, hold, rfl⟩ := Option.map_eq_some_iff.mp (hround.symm.trans hsome)
      exact (Nat.add_le_add_right (Finset.card_erase_le) _).trans (h.within old hold)
  | @answer _ helperIp state round hfresh hsome hactive hround hfew =>
    have hsplit := nodup_answers h hsome hactive
    refine iff_of_true ⟨h.completed, hsplit, fun round' hsome' ip hip => ?_,
      fun round' hsome' => ?_⟩ hfresh
    · obtain rfl := Option.some.inj (hround.symm.trans hsome')
      rcases List.mem_append.mp hip with hold | hlast
      · exact fun hmem => h.asked_once round hsome ip hold (Finset.mem_of_mem_erase hmem)
      · rw [List.mem_singleton.mp hlast]
        exact Finset.notMem_erase _ _
    · obtain rfl := Option.some.inj (hround.symm.trans hsome')
      have hcard := Finset.card_erase_add_one hactive
      have hwithin := h.within round hsome
      rw [List.length_append, List.length_singleton]
      dsimp only
      omega
  | @complete _ helperIp state round hfresh hsome hactive hround hall =>
    refine iff_of_true ⟨fun answers hmem => ?_, .nil,
      fun round hsome => absurd (hround.symm.trans hsome) nofun,
      fun round hsome => absurd (hround.symm.trans hsome) nofun⟩ hfresh
    rcases List.mem_append.mp hmem with hold | hlast
    · exact h.completed answers hold
    · rw [List.mem_singleton.mp hlast]
      obtain ⟨hcount, hfew⟩ := hbooked.of_some round hsome
      refine ⟨?_, nodup_answers h hsome hactive⟩
      rw [List.length_append, List.length_singleton]
      omega

end Budget

/-- **The TCP check keeps its budget exactly in the runs whose reservations are all fresh.** -/
theorem tcp_budget_iff (ops : List FirewallOp) :
    Always TcpRun.step TcpBudgeted TcpRun.start ops ↔
      Meets TcpRun.step FreshProbe TcpRun.start ops := by
  refine always_iff_meets (J := Booked) (fun r op r' hbooked hstep => ?_)
    (fun r op r' hbooked hbudget hstep => ?_) ⟨fun _ => rfl, nofun⟩ ?_
  · obtain rfl := Option.some.inj hstep
    exact (tcpMove_perform r op).booked hbooked
  · obtain rfl := Option.some.inj hstep
    exact (tcpMove_perform r op).budgeted_iff hbooked hbudget
  · exact ⟨fun _ h => absurd h List.not_mem_nil, .nil, nofun, nofun⟩

/-- The helper `10.0.0.last`. -/
def tcpHelper (last : UInt8) : IpAddr := .v4 ⟨#v[10, 0, 0, last]⟩

/-- A helper is reserved and answers. -/
def probed (last : UInt8) : List FirewallOp :=
  [.tryBeginTcpFirewallProbe (tcpHelper last) 0,
    .recordFirewalledResponse (tcpHelper last) (tcpHelper 99) 0]

/-- **The budget is overdrawn.**  One helper completes a round alone; and a round in which three
helpers answered reserves four more. -/
theorem tcp_budget_overdrawn :
    (run TcpRun.step TcpRun.start (.refreshTcpRecheck true 0 ::
        (probed 1 ++ probed 1 ++ probed 1 ++ probed 1))).map (·.completed) =
      some [[tcpHelper 1, tcpHelper 1, tcpHelper 1, tcpHelper 1]] ∧
    (run TcpRun.step TcpRun.start (.refreshTcpRecheck true 0 ::
        (probed 1 ++ probed 2 ++ probed 3 ++
          [4, 5, 6, 7].map fun last => .tryBeginTcpFirewallProbe (tcpHelper last) 0))).map
        (fun r => (r.answered, r.state.activeTcpRound.map (·.activeHelpers))) =
      some ([1, 2, 3].map tcpHelper, some (([4, 5, 6, 7].map tcpHelper).toFinset)) := by
  decide +kernel

end Overlord.Emule
