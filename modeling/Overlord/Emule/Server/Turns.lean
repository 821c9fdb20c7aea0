import Overlord.Emule.Server.Datagrams

/-!
# What a turn of the background session can do

A turn of the loop is one of four things (`BackgroundSession.Turn`): it uses no reply of the server,
it sends a search, it adds a page to the results of the pending search, or it answers that search.
Everything else about who gets which reply follows from this, without another look at the handlers
(`BackgroundSession.step_turn`).

* `Turn` — the four cases, with what each does to the pending search, to the answers and to what is
  sent.
* `Sided` — handlers that only work on the side: probes, the identity of the server, its messages.
  They are composed with a turn by `Turn.after`.
* `turn_handleTcpPacket`, `turn_handleUdpSearchResult`, … — one lemma for each handler.
-/

set_option autoImplicit false

namespace Overlord.Emule

open Kad (Ed2kHash)

namespace PendingBackgroundServerSearch

def kind : PendingBackgroundServerSearch → SearchKind
  | keyword .. => .keyword
  | source .. => .source

def response : PendingBackgroundServerSearch → Nat
  | keyword _ _ _ _ response _ | source _ _ response => response

/-- The origins of the replies that it got so far. -/
def origins : PendingBackgroundServerSearch → List (Option Nat)
  | keyword _ _ _ _ _ origins => origins
  | source .. => []

/-- The search as the server sees it. -/
def query (search : PendingBackgroundServerSearch) : ServerQuery :=
  ⟨some search.response, search.kind⟩

end PendingBackgroundServerSearch

/-- The packet is a reply to a search, and the kind of it. -/
def tcpReplyKind (packet : Ed2kPacket) : Option SearchKind :=
  if packet.opcode = OP_SEARCHRESULT then some .keyword
  else if packet.opcode = OP_FOUNDSOURCES ∨ packet.opcode = OP_FOUNDSOURCES_OBFU then some .source
  else none

/-- The search that an event of the session claims to be a reply to. -/
def ServerEvent.reply? (env : ServerEnv) : ServerEvent → Option ServerQuery
  | .tcp packet origin _ _ => (tcpReplyKind packet).map (⟨origin, ·⟩)
  | .udp datagram sender origin _ => (udpReplyKind env datagram sender).map (⟨origin, ·⟩)
  | _ => none

/-- What goes out beside the searches of the requesters: the probe search while nothing is pending,
a request for more results that nobody waits for, a callback request. -/
def Transmission.Aside (pending : Option PendingBackgroundServerSearch) : Transmission → Prop
  | .search _ _ query => query.owner = none ∧ pending = none
  | .more => ∀ search ∈ pending, search.kind ≠ .keyword
  | .udpSearch _ => False
  | .callback _ => True

namespace BackgroundSession

/-- **What a turn can do.**  Only two of the cases let a reply through to a requester. -/
inductive Turn (env : ServerEnv) (event : ServerEvent) (s s' : BackgroundSession)
    (sent : List Transmission) : Prop
  /-- No reply is used.  A pending search may be given up. -/
  | quiet (new : List BackgroundAnswer) (hpending : s'.pending = none ∨ s'.pending = s.pending)
      (hanswers : s'.answers = s.answers ++ new) (hnew : ∀ answer ∈ new, answer.origins = [])
      (hsent : ∀ t ∈ sent, t.Aside s.pending)
  /-- A search is sent, perhaps also over UDP. -/
  | start (search : PendingBackgroundServerSearch) (before : List Transmission) (opcode : UInt8)
      (payload : List UInt8) (copies : Nat) (hnone : s.pending = none)
      (hpending : s'.pending = some search) (horigins : search.origins = [])
      (hanswers : s'.answers = s.answers) (hbefore : ∀ t ∈ before, t.Aside none)
      (hsent : sent = before ++ .search opcode payload search.query ::
        List.replicate copies (.udpSearch search.query))
  /-- A page is added to the results, and the next one is asked for. -/
  | page (search search' : PendingBackgroundServerSearch) (origin : Option Nat)
      (hreply : event.reply? env = some ⟨origin, .keyword⟩) (hkind : search.kind = .keyword)
      (hsearch : s.pending = some search) (hpending : s'.pending = some search')
      (hquery : search'.query = search.query)
      (horigins : search'.origins = search.origins ++ [origin])
      (hanswers : s'.answers = s.answers) (hsent : sent = [.more])
  /-- The search is answered. -/
  | deliver (search : PendingBackgroundServerSearch) (origin : Option Nat) (body : AnswerBody)
      (hsearch : s.pending = some search) (hreply : event.reply? env = some ⟨origin, search.kind⟩)
      (hpending : s'.pending = none)
      (hanswers : s'.answers = s.answers ++ [⟨search.response, body, search.origins ++ [origin]⟩])
      (hsent : sent = [])

variable {env : ServerEnv} {event : ServerEvent} {s s' : BackgroundSession}

/-- A turn that answers nobody and sends nothing. -/
theorem Turn.still (hpending : s'.pending = none ∨ s'.pending = s.pending)
    (hanswers : s'.answers = s.answers) : Turn env event s s' [] :=
  .quiet [] hpending (hanswers.trans (List.append_nil _).symm) nofun nofun

/-- A turn in which only an error, or nothing from the server, is answered. -/
theorem Turn.refuse (hpending : s'.pending = none ∨ s'.pending = s.pending)
    {answer : BackgroundAnswer} (hanswers : s'.answers = s.answers ++ [answer])
    (horigins : answer.origins = []) : Turn env event s s' [] :=
  .quiet [answer] hpending hanswers
    (fun _ h => (List.mem_singleton.mp h).symm ▸ horigins) nofun

/-- What the packets of a search over UDP are. -/
theorem udpSearches_eq (env : ServerEnv) (writes : Writes) (query : ServerQuery) :
    ∃ n, udpSearches env writes query = List.replicate n (.udpSearch query) := by
  rw [udpSearches]
  split
  · exact ⟨1, rfl⟩
  · exact ⟨0, rfl⟩

/-- A request is refused, or sent. -/
theorem turn_startBackgroundServerSearch (hnone : s.pending = none) (now : Nat) (writes : Writes)
    (request : BackgroundServerSearchRequest) :
    Turn env event s (startBackgroundServerSearch env s now writes request).1
      (startBackgroundServerSearch env s now writes request).2 := by
  cases request with
  | keyword query timeout response =>
    rw [startBackgroundServerSearch]
    split
    · exact .still (.inr rfl) rfl
    · exact .refuse (.inr rfl) rfl rfl
    · split
      · exact .still (.inr rfl) rfl
      · obtain ⟨n, hn⟩ := udpSearches_eq env writes ⟨some response, .keyword⟩
        rw [hn]
        exact .start (.keyword query (now + timeout) [] 0 response []) [] _ _ n hnone rfl rfl rfl
          nofun rfl
  | source fileHash fileSize timeout response =>
    rw [startBackgroundServerSearch]
    split
    · exact .still (.inr rfl) rfl
    · obtain ⟨n, hn⟩ := udpSearches_eq env writes ⟨some response, .source⟩
      rw [hn]
      exact .start (.source fileHash (now + timeout) response) [] _ _ n hnone rfl rfl rfl nofun rfl
  | callback clientId response =>
    rw [startBackgroundServerSearch]
    split
    · exact .still (.inr rfl) rfl
    · refine .quiet [_] (.inr rfl) rfl (fun answer h => ?_) (fun t h => ?_)
      · rw [List.mem_singleton.mp h]
      · rw [List.mem_singleton.mp h]
        trivial

/-- A handler that leaves the searches alone. -/
structure Sided (current : Option PendingBackgroundServerSearch) (given : List BackgroundAnswer)
    (handled : Handled) : Prop where
  pending : handled.session.pending = current
  answers : handled.session.answers = given
  sent : ∀ t ∈ handled.sent, t.Aside current

/-- A handler that sends nothing. -/
theorem Sided.silent (s : BackgroundSession) (result : Except String Unit) :
    Sided s.pending s.answers ⟨s, [], result⟩ :=
  ⟨rfl, rfl, nofun⟩

theorem sided_maybeSendProbeSearch (hnone : s.pending = none) (writes : Writes) :
    Sided s.pending s.answers (s.maybeSendProbeSearch env writes) := by
  rw [maybeSendProbeSearch]
  split
  · exact .silent s _
  split
  · exact .silent s _
  split
  · exact .silent s _
  · exact .silent s _
  split
  · exact .silent s _
  · refine ⟨rfl, rfl, fun t h => ?_⟩
    rw [List.mem_singleton.mp h]
    exact ⟨rfl, hnone⟩

theorem sided_probe (hpending : s'.pending = s.pending) (hanswers : s'.answers = s.answers)
    {allow : Bool} (hallow : allow = true → s.pending = none) (writes : Writes) :
    Sided s.pending s.answers (s'.probe env writes allow) := by
  rw [← hpending] at hallow ⊢
  rw [← hanswers, probe]
  split
  next h => exact sided_maybeSendProbeSearch (hallow h) writes
  · exact .silent s' _

theorem sided_handleIdChange {allow : Bool} (hallow : allow = true → s.pending = none)
    (writes : Writes) (payload : List UInt8) :
    Sided s.pending s.answers (s.handleIdChange env writes allow payload) := by
  rw [handleIdChange]
  split
  · exact .silent s _
  split
  · exact ⟨rfl, rfl, nofun⟩
  dsimp only
  split
  · exact ⟨rfl, rfl, nofun⟩
  · exact sided_probe (by rfl) (by rfl) hallow writes

theorem sided_handleProbeResult (hmore : Transmission.more.Aside s.pending) (writes : Writes)
    (payload : List UInt8) : Sided s.pending s.answers (s.handleProbeResult writes payload) := by
  rw [handleProbeResult]
  split
  · exact .silent s _
  split
  · split
    · exact .silent s _
    · refine ⟨rfl, rfl, fun t h => ?_⟩
      rw [List.mem_singleton.mp h]
      exact hmore
  · exact .silent s _

theorem sided_handleServerIdent {allow : Bool} (hallow : allow = true → s.pending = none)
    (writes : Writes) (payload : List UInt8) :
    Sided s.pending s.answers (s.handleServerIdent env writes allow payload) := by
  rw [handleServerIdent]
  split
  · exact .silent s _
  · exact sided_probe (by rfl) (by rfl) hallow writes

theorem sided_handleServerPacket {allow : Bool} (hallow : allow = true → s.pending = none)
    {packet : Ed2kPacket}
    (hmore : packet.opcode = OP_SEARCHRESULT → Transmission.more.Aside s.pending)
    (writes : Writes) :
    Sided s.pending s.answers (s.handleServerPacket env writes allow packet) := by
  rw [handleServerPacket]
  split
  · exact sided_handleIdChange hallow writes _
  split
  next h => exact sided_handleProbeResult (hmore h) writes _
  split
  · split
    · exact .silent s _
    · exact ⟨rfl, rfl, nofun⟩
  split
  · exact sided_handleServerIdent hallow writes _
  split
  · exact sided_probe (by rfl) (by rfl) hallow writes
  split
  · split
    · exact .silent s _
    · exact sided_probe (by rfl) (by rfl) hallow writes
  split
  · exact .silent s _
  · exact .silent s _

/-- A handler that leaves the searches alone, and a search that is started after it. -/
theorem Turn.after {s₀ : BackgroundSession} {sent before : List Transmission}
    (hturn : Turn env event s₀ s' sent) (hnone : s.pending = none) (hpending : s₀.pending = none)
    (hanswers : s₀.answers = s.answers) (hbefore : ∀ t ∈ before, t.Aside s.pending) :
    Turn env event s s' (before ++ sent) := by
  cases hturn with
  | quiet new hpending' hanswers' hnew hsent =>
    refine .quiet new (.inl (hpending'.elim id (·.trans hpending))) (hanswers ▸ hanswers') hnew ?_
    intro t ht
    rcases List.mem_append.mp ht with h | h
    · exact hbefore t h
    · exact hnone ▸ hpending ▸ hsent t h
  | start search before' opcode payload copies _ hpending' horigins hanswers' hbefore' hsent =>
    refine .start search (before ++ before') opcode payload copies hnone hpending' horigins
      (hanswers'.trans hanswers) ?_ (by rw [hsent, List.append_assoc])
    intro t ht
    rcases List.mem_append.mp ht with h | h
    · exact hnone ▸ hbefore t h
    · exact hbefore' t h
  | page search search' origin hreply hkind hsearch =>
    exact absurd (hpending.symm.trans hsearch) nofun
  | deliver search origin body hsearch =>
    exact absurd (hpending.symm.trans hsearch) nofun

/-- A handler that leaves the searches alone; if it fails, the session ends. -/
theorem Sided.turn {handled : Handled} (h : Sided s.pending s.answers handled) :
    Turn env event s (handled.session.orFail handled.result) handled.sent := by
  cases handled.result with
  | ok => exact .quiet [] (.inr h.pending) (h.answers.trans (List.append_nil _).symm) nofun h.sent
  | error => exact .quiet [] (.inl rfl) (h.answers.trans (List.append_nil _).symm) nofun h.sent

theorem turn_handleOther {packet : Ed2kPacket}
    (hmore : packet.opcode = OP_SEARCHRESULT → Transmission.more.Aside s.pending) (now : Nat)
    (writes : Writes) :
    Turn env event s ((s.handleOther env packet now writes).session.orFail
      (s.handleOther env packet now writes).result) (s.handleOther env packet now writes).sent := by
  have hallow : (s.queued.isNone && s.pending.isNone) = true → s.pending = none :=
    fun h => Option.isNone_iff_eq_none.mp (Bool.and_eq_true_iff.mp h).2
  have hsided : Sided s.pending s.answers (s.handleServerPacket env writes _ packet) :=
    sided_handleServerPacket hallow hmore writes
  rw [handleOther]
  dsimp only
  split
  · exact hsided.turn
  split
  · split
    next h =>
      have hpending := Option.isNone_iff_eq_none.mp (Bool.and_eq_true_iff.mp h).2
      dsimp only [orFail]
      refine Turn.after (turn_startBackgroundServerSearch ?_ now writes _)
        (hsided.pending.symm.trans hpending) ?_ hsided.answers hsided.sent
      · exact hpending
      · exact hpending
    · exact hsided.turn
  · exact hsided.turn

theorem turn_handleKeywordPage {packet : Ed2kPacket} {origin : Option Nat} {now : Nat}
    {writes : Writes} {query : String} {deadline : Nat} {results : List Ed2kSearchFile}
    {pageCount response : Nat} {origins : List (Option Nat)}
    (hopcode : packet.opcode = OP_SEARCHRESULT)
    (hpending : s.pending = some (.keyword query deadline results pageCount response origins)) :
    let handled := handleKeywordPage writes { s with pending := none } packet.payload origin query
      deadline results pageCount response origins
    Turn env (.tcp packet origin now writes) s (handled.session.orFail handled.result)
      handled.sent := by
  have hreply : (ServerEvent.tcp packet origin now writes).reply? env =
    some ⟨origin, .keyword⟩ := by
    simp [ServerEvent.reply?, tcpReplyKind, hopcode]
  rw [handleKeywordPage]
  split
  · exact .still (.inl rfl) rfl
  dsimp only
  split
  · split
    · exact .still (.inl rfl) rfl
    · exact .page _
        (.keyword query deadline _ (pageCount + 1) response (origins ++ [origin])) origin
        hreply rfl hpending rfl rfl rfl rfl rfl
  · exact .deliver _ origin _ hpending hreply rfl rfl rfl

theorem turn_handleFoundSources {packet : Ed2kPacket} {origin : Option Nat} {now : Nat}
    {writes : Writes} {fileHash : Ed2kHash} {deadline response : Nat}
    (hopcode : packet.opcode = OP_FOUNDSOURCES ∨ packet.opcode = OP_FOUNDSOURCES_OBFU)
    (hpending : s.pending = some (.source fileHash deadline response)) :
    let handled := handleFoundSources env { s with pending := none } packet origin fileHash response
    Turn env (.tcp packet origin now writes) s (handled.session.orFail handled.result)
      handled.sent := by
  have hne : packet.opcode ≠ OP_SEARCHRESULT := by
    rcases hopcode with h | h <;> rw [h] <;> decide
  have hreply : (ServerEvent.tcp packet origin now writes).reply? env = some ⟨origin, .source⟩ := by
    simp [ServerEvent.reply?, tcpReplyKind, hne, hopcode]
  rw [handleFoundSources]
  split
  · exact .still (.inl rfl) rfl
  dsimp only
  split
  · exact .still (.inl rfl) rfl
  · exact .deliver _ origin _ hpending hreply rfl rfl rfl

theorem turn_handleTcpPacket (packet : Ed2kPacket) (origin : Option Nat) (now : Nat)
    (writes : Writes) :
    let handled := s.handleTcpPacket env packet origin now writes
    Turn env (.tcp packet origin now writes) s (handled.session.orFail handled.result)
      handled.sent := by
  rw [handleTcpPacket]
  dsimp only
  split
  next hpending =>
    split
    next hopcode => exact turn_handleKeywordPage hopcode hpending
    next hopcode => exact turn_handleOther (fun h => absurd h hopcode) now writes
  next hpending =>
    split
    next hopcode => exact turn_handleFoundSources hopcode hpending
    · refine turn_handleOther (fun _ search h => ?_) now writes
      rw [Option.mem_unique h hpending]
      exact nofun
  next hpending =>
    exact turn_handleOther (fun _ search h => absurd (hpending.symm.trans h) nofun) now writes

theorem turn_handleUdpSearchResult {datagram payload : List UInt8} {sender : SocketAddr}
    (hkind : udpReplyKind env datagram sender = some .keyword) (origin : Option Nat)
    (stateFree : Bool) :
    let handled := s.handleUdpSearchResult payload origin
    Turn env (.udp datagram sender origin stateFree) s (handled.1.orFail handled.2) [] := by
  have hreply : (ServerEvent.udp datagram sender origin stateFree).reply? env =
      some ⟨origin, .keyword⟩ := by
    rw [ServerEvent.reply?, hkind]
    rfl
  rw [handleUdpSearchResult]
  dsimp only
  split
  next hpending =>
    split
    · exact .still (.inl rfl) rfl
    · exact .deliver _ origin _ hpending hreply rfl rfl rfl
  · exact .still (.inl rfl) rfl

theorem turn_handleUdpFoundSources {datagram payload : List UInt8} {sender : SocketAddr}
    (hkind : udpReplyKind env datagram sender = some .source) (origin : Option Nat)
    (stateFree : Bool) :
    let handled := s.handleUdpFoundSources env payload origin
    Turn env (.udp datagram sender origin stateFree) s (handled.1.orFail handled.2) [] := by
  have hreply : (ServerEvent.udp datagram sender origin stateFree).reply? env =
      some ⟨origin, .source⟩ := by
    rw [ServerEvent.reply?, hkind]
    rfl
  rw [handleUdpFoundSources]
  dsimp only
  split
  next hpending =>
    split
    · exact .still (.inl rfl) rfl
    split
    · exact .still (.inl rfl) rfl
    · exact .deliver _ origin _ hpending hreply rfl rfl rfl
  · exact .still (.inl rfl) rfl

/-- Errors are no results. -/
theorem failQueued_answers (s : BackgroundSession) (error : String) :
    ∃ new, (s.failQueued error).answers = s.answers ++ new ∧ ∀ a ∈ new, a.origins = [] := by
  rw [failQueued]
  split
  · exact ⟨[], (List.append_nil _).symm, nofun⟩
  all_goals exact ⟨[_], rfl, fun a h => List.mem_singleton.mp h ▸ rfl⟩

theorem failPending_answers (s : BackgroundSession) (error : String) :
    ∃ new, (s.failPending error).answers = s.answers ++ new ∧ ∀ a ∈ new, a.origins = [] := by
  rw [failPending]
  split
  · exact ⟨[], (List.append_nil _).symm, nofun⟩
  all_goals exact ⟨[_], rfl, fun a h => List.mem_singleton.mp h ▸ rfl⟩

/-- The searches are given up, and the session ends. -/
theorem turn_finish {result : Except String Unit} {new : List BackgroundAnswer}
    (hanswers : s'.answers = s.answers ++ new) (hnew : ∀ answer ∈ new, answer.origins = []) :
    Turn env event s (s'.finish result) [] :=
  .quiet new (.inl rfl) hanswers hnew nofun

/-- Both searches fail. -/
theorem fail_answers (s : BackgroundSession) (error error' : String) :
    ∃ new, ((s.failQueued error).failPending error').answers = s.answers ++ new ∧
      ∀ answer ∈ new, answer.origins = [] := by
  obtain ⟨new, hnew, hempty⟩ := failQueued_answers s error
  obtain ⟨new', hnew', hempty'⟩ := failPending_answers (s.failQueued error) error'
  refine ⟨new ++ new', by rw [hnew', hnew, List.append_assoc], fun answer h => ?_⟩
  exact (List.mem_append.mp h).elim (hempty answer) (hempty' answer)

/-- **Every turn of the loop is one of these.** -/
theorem step_turn {sent : List Transmission} (hstep : s.step env event = some (s', sent)) :
    Turn env event s s' sent := by
  rw [step.eq_def] at hstep
  split at hstep
  · cases hstep
  next hrunning =>
  cases event with
  | shutdown =>
    obtain ⟨new, hanswers, hnew⟩ := fail_answers s
      "ED2K background session is shutting down before search dispatch"
      "ED2K background session is shutting down before search completion"
    cases hstep
    exact turn_finish hanswers hnew
  | rotate =>
    simp only at hstep
    split at hstep
    · cases hstep
      exact .still (.inl rfl) rfl
    · cases hstep
  | request request now writes =>
    simp only at hstep
    split at hstep
    · cases hstep
    next hidle =>
      have hnone : s.pending = none := by
        simp only [isIdle, Bool.not_eq_true', Bool.not_eq_false, Bool.and_eq_true,
          Option.isNone_iff_eq_none] at hidle
        exact hidle.2
      split at hstep
      · have hturn : Turn env (.request request now writes) s _ _ :=
          turn_startBackgroundServerSearch hnone now writes request
        rw [Option.some.inj hstep] at hturn
        exact hturn
      · cases hstep
        exact .still (.inr rfl) rfl
  | timeout =>
    simp only at hstep
    split at hstep
    · cases hstep
    next hsome =>
      cases hstep
      obtain ⟨new, hanswers, hnew⟩ := failPending_answers s (timeoutError s.pending)
      refine .quiet new (.inl ?_) hanswers hnew nofun
      rw [failPending]
      split
      next h => exact h
      all_goals rfl
  | tcp packet origin now writes =>
    cases hstep
    exact turn_handleTcpPacket packet origin now writes
  | closed =>
    cases hstep
    obtain ⟨new, hanswers, hnew⟩ := fail_answers s _ _
    exact turn_finish hanswers hnew
  | readError message =>
    cases hstep
    exact .still (.inl rfl) rfl
  | udp datagram sender origin stateFree =>
    simp only at hstep
    split at hstep
    · cases hstep
    split at hstep
    · cases hstep
      exact .still (.inr rfl) rfl
    next packet hread =>
      cases hstep
      have hrunning : s.ended = none := by simpa using hrunning
      cases hkind : packet.replyKind env with
      | none =>
        obtain ⟨s₁, hs₁, huntouched⟩ :=
          handleBackgroundUdpPacket_none hrunning hkind origin stateFree
        rw [hs₁]
        exact .still (.inr huntouched.pending) huntouched.answers
      | some kind =>
        have hreply : udpReplyKind env datagram sender = some kind := by
          rw [udpReplyKind, hread]
          exact hkind
        cases kind with
        | keyword =>
          rw [handleBackgroundUdpPacket_keyword hkind]
          exact turn_handleUdpSearchResult hreply origin stateFree
        | source =>
          rw [handleBackgroundUdpPacket_source hkind]
          exact turn_handleUdpFoundSources hreply origin stateFree
  | keepalive written =>
    cases hstep
    cases written with
    | ok => exact .still (.inr rfl) rfl
    | error => exact .still (.inl rfl) rfl

end BackgroundSession

end Overlord.Emule
