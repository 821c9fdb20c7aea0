import Overlord.Emule.Server.Turns
import Overlord.Machine.Run

/-!
# Who gets the replies of a server

The replies of a server do not say which search they answer.  The session and the server are put
together into one machine: the server owes a reply to each search it was sent, over TCP in the order
of the searches, over UDP in any order and perhaps never, and an event of the session that brings a
reply pays one of these debts.

An answer is made of replies to the requester's own search as long as no search is sent while the
server owes a reply of the same kind to someone else (`answers_own_replies`).  The session does not
wait for that: a search that was answered over UDP, or that timed out, leaves a reply over TCP
behind, which the next requester gets (`late_reply_to_next`).

* `Attributed` is the invariant, and its step is one case for each of the four kinds of turns.
* The condition (what the server owes when a search is sent) is one on the state of the machine and
  the event, so that a run can be checked for it.
-/

set_option autoImplicit false

namespace Overlord.Emule

open Machine
open Wire

/-! ## The server -/

/-- A session and its server. -/
structure ServerWorld where
  session : BackgroundSession
  /-- How many requests were made; the next one has this number as its channel. -/
  requests : Nat
  /-- The searches over TCP that the server has not answered, the first one first. -/
  owed : List ServerQuery
  /-- The searches over UDP that it may still answer. -/
  udpOwed : List ServerQuery
  /-- Whose search it was sent last: `OP_QUERY_MORE_RESULT` asks for more results of that one. -/
  lastSearch : Option Nat

namespace ServerWorld

/-- A session that was just opened. -/
def opened (state : Ed2kServerState) : ServerWorld := ⟨.opened state, 0, [], [], none⟩

/-- What the server is sent, it owes a reply to. -/
def send (w : ServerWorld) : Transmission → ServerWorld
  | .search _ _ query => { w with owed := w.owed ++ [query], lastSearch := query.owner }
  | .more => { w with owed := w.owed ++ [⟨w.lastSearch, .keyword⟩] }
  | .udpSearch query => { w with udpOwed := w.udpOwed ++ [query] }
  | .callback _ => w

def sendAll (w : ServerWorld) (sent : List Transmission) : ServerWorld := sent.foldl send w

/-- The server's part in an event: a reply over TCP answers the search that it owes first, a reply
over UDP one of those that it was sent over UDP.  Every request has a channel of its own. -/
def serve (env : ServerEnv) (w : ServerWorld) : ServerEvent → Option ServerWorld
  | .request request _ _ =>
    if request.response = w.requests then some { w with requests := w.requests + 1 } else none
  | .tcp packet origin _ _ =>
    match tcpReplyKind packet with
    | none => some w
    | some kind =>
      if w.owed.head? = some ⟨origin, kind⟩ then some { w with owed := w.owed.tail } else none
  | .udp datagram sender origin _ =>
    match udpReplyKind env datagram sender with
    | none => some w
    | some kind =>
      if ⟨origin, kind⟩ ∈ w.udpOwed then
        some { w with udpOwed := w.udpOwed.erase ⟨origin, kind⟩ }
      else none
  | _ => some w

/-- An event of the session, or a search or reply over UDP that is lost. -/
inductive Event where
  | session (event : ServerEvent)
  | lost (query : ServerQuery)

def step (env : ServerEnv) (w : ServerWorld) : Event → Option ServerWorld
  | .session event => do
    let served ← w.serve env event
    let (session, sent) ← w.session.step env event
    return { served with session := session }.sendAll sent
  | .lost query =>
    if query ∈ w.udpOwed then some { w with udpOwed := w.udpOwed.erase query } else none

/-! ## The condition -/

/-- All that the server owes to searches of a kind, it owes to one requester. -/
def OwesOnly (w : ServerWorld) (query : ServerQuery) : Prop :=
  ∀ other ∈ w.owed ++ w.udpOwed, other.kind = query.kind → other.owner = query.owner

instance (w : ServerWorld) (query : ServerQuery) : Decidable (w.OwesOnly query) :=
  inferInstanceAs (Decidable (∀ other ∈ w.owed ++ w.udpOwed, _))

/-- A requester's search is sent while the server owes no reply of its kind to anyone else. -/
def Clear (w : ServerWorld) : Transmission → Prop
  | .search _ _ query => query.owner = none ∨ w.OwesOnly query
  | _ => True

instance (w : ServerWorld) : (t : Transmission) → Decidable (w.Clear t)
  | .search _ _ query => inferInstanceAs (Decidable (query.owner = none ∨ w.OwesOnly query))
  | .more | .udpSearch _ | .callback _ => .isTrue trivial

def AllClear : ServerWorld → List Transmission → Prop
  | _, [] => True
  | w, t :: sent => w.Clear t ∧ AllClear (w.send t) sent

instance AllClear.decidable : (sent : List Transmission) → (w : ServerWorld) →
    Decidable (w.AllClear sent)
  | [], _ => .isTrue trivial
  | t :: sent, w =>
    have := AllClear.decidable sent (w.send t)
    inferInstanceAs (Decidable (w.Clear t ∧ AllClear (w.send t) sent))

/-- The searches of the turn are sent when the server is clear. -/
def Waits (env : ServerEnv) (w : ServerWorld) : Event → Prop
  | .session event => ∀ served ∈ w.serve env event, ∀ out ∈ w.session.step env event,
      { served with session := out.1 }.AllClear out.2
  | .lost _ => True

instance (env : ServerEnv) (w : ServerWorld) : (event : Event) → Decidable (w.Waits env event)
  | .session event => inferInstanceAs (Decidable (∀ served ∈ w.serve env event,
      ∀ out ∈ w.session.step env event, { served with session := out.1 }.AllClear out.2))
  | .lost _ => .isTrue trivial

end ServerWorld

/-! ## Runs -/

namespace ServerWorld

variable {env : ServerEnv} {w w' : ServerWorld} {query : ServerQuery}

/-- What is owed does not grow. -/
structure Serves (w w' : ServerWorld) : Prop where
  owed : ∀ query ∈ w'.owed ++ w'.udpOwed, query ∈ w.owed ++ w.udpOwed
  lastSearch : w'.lastSearch = w.lastSearch

/-- A reply pays a debt. -/
theorem serves_of_serve {event : ServerEvent} (h : w.serve env event = some w') :
    w.Serves w' ∧ ∀ reply ∈ event.reply? env, reply ∈ w.owed ++ w.udpOwed := by
  cases event with
  | request request now writes =>
    simp only [serve, Option.ite_none_right_eq_some, Option.some.injEq] at h
    obtain ⟨-, rfl⟩ := h
    exact ⟨⟨fun _ => id, rfl⟩, fun _ h => by cases h⟩
  | tcp packet origin now writes =>
    rw [serve] at h
    split at h
    next hkind =>
      cases h
      refine ⟨⟨fun _ => id, rfl⟩, ?_⟩
      rw [ServerEvent.reply?, hkind]
      exact fun _ h => by cases h
    next kind hkind =>
      simp only [Option.ite_none_right_eq_some, Option.some.injEq] at h
      obtain ⟨hhead, rfl⟩ := h
      refine ⟨⟨fun query hquery => ?_, rfl⟩, ?_⟩
      · exact (List.mem_append.mp hquery).elim
          (fun hq => List.mem_append_left _ (List.mem_of_mem_tail hq)) (List.mem_append_right _)
      · rw [ServerEvent.reply?, hkind]
        rintro reply ⟨⟩
        exact List.mem_append_left _ (List.mem_of_mem_head? hhead)
  | udp datagram sender origin =>
    rw [serve] at h
    split at h
    next hkind =>
      cases h
      refine ⟨⟨fun _ => id, rfl⟩, ?_⟩
      rw [ServerEvent.reply?, hkind]
      exact fun _ h => by cases h
    next kind hkind =>
      simp only [Option.ite_none_right_eq_some, Option.some.injEq] at h
      obtain ⟨hmem, rfl⟩ := h
      refine ⟨⟨fun query hquery => ?_, rfl⟩, ?_⟩
      · exact (List.mem_append.mp hquery).elim (List.mem_append_left _)
          (fun hq => List.mem_append_right _ (List.mem_of_mem_erase hq))
      · rw [ServerEvent.reply?, hkind]
        rintro reply ⟨⟩
        exact List.mem_append_right _ hmem
  | _ =>
    cases h
    exact ⟨⟨fun _ => id, rfl⟩, fun _ h => by cases h⟩

/-- What is owed after a packet was sent. -/
theorem mem_owed_send {t : Transmission} {other : ServerQuery}
    (h : other ∈ (w.send t).owed ++ (w.send t).udpOwed) :
    other ∈ w.owed ++ w.udpOwed ∨
      (t = .more ∧ other = ⟨w.lastSearch, .keyword⟩) ∨ t = .udpSearch other ∨
      ∃ opcode payload, t = .search opcode payload other := by
  cases t with
  | search opcode payload query =>
    simp only [send, List.append_assoc, List.mem_append, List.mem_singleton] at h ⊢
    rcases h with h | rfl | h
    · exact .inl (.inl h)
    · exact .inr (.inr (.inr ⟨opcode, payload, rfl⟩))
    · exact .inl (.inr h)
  | more =>
    simp only [send, List.append_assoc, List.mem_append, List.mem_singleton] at h ⊢
    rcases h with h | h | h
    · exact .inl (.inl h)
    · exact .inr (.inl ⟨trivial, h⟩)
    · exact .inl (.inr h)
  | udpSearch query =>
    simp only [send, ← List.append_assoc, List.mem_append, List.mem_singleton] at h ⊢
    rcases h with h | rfl
    · exact .inl h
    · exact .inr (.inr (.inl rfl))
  | callback clientId => exact .inl h

/-- The debts that matter to a pending search: all are its own, and so is what
`OP_QUERY_MORE_RESULT` would ask for. -/
structure Awaits (w : ServerWorld) (search : PendingBackgroundServerSearch) : Prop where
  owes : w.OwesOnly search.query
  more : search.kind = .keyword → w.lastSearch = some search.response

variable {search : PendingBackgroundServerSearch}

theorem Awaits.serves (h : w.Awaits search) (hserves : w.Serves w') : w'.Awaits search :=
  ⟨fun other hother => h.owes other (hserves.owed other hother),
    fun hkind => hserves.lastSearch.trans (h.more hkind)⟩

theorem Awaits.aside (h : w.Awaits search) {t : Transmission} (ht : t.Aside (some search)) :
    (w.send t).Awaits search := by
  cases t with
  | search opcode payload query => exact absurd ht.2 (Option.some_ne_none _)
  | more =>
    have hkind : search.kind ≠ .keyword := ht search rfl
    refine ⟨fun other hother hother' => ?_, fun h => absurd h hkind⟩
    rcases mem_owed_send hother with hmem | ⟨-, rfl⟩ | h | ⟨_, _, h⟩
    · exact h.owes other hmem hother'
    · exact absurd hother'.symm hkind
    · cases h
    · cases h
  | udpSearch query => exact ht.elim
  | callback clientId => exact h

theorem Awaits.asides {sent : List Transmission} (h : w.Awaits search)
    (hsent : ∀ t ∈ sent, t.Aside (some search)) : (w.sendAll sent).Awaits search := by
  induction sent generalizing w with
  | nil => exact h
  | cons t sent ih =>
    exact ih (h.aside (hsent t List.mem_cons_self)) fun t' ht' =>
      hsent t' (List.mem_cons_of_mem t ht')

/-- The pending keyword search asks for more. -/
theorem Awaits.sendMore (h : w.Awaits search) (hkind : search.kind = .keyword) :
    (w.send .more).Awaits search := by
  refine ⟨fun other hother hother' => ?_, h.more⟩
  rcases mem_owed_send hother with hmem | ⟨-, rfl⟩ | h' | ⟨_, _, h'⟩
  · exact h.owes other hmem hother'
  · exact h.more hkind
  · cases h'
  · cases h'

theorem Awaits.sendUdp (h : w.Awaits search) (copies : Nat) :
    (w.sendAll (List.replicate copies (.udpSearch search.query))).Awaits search := by
  induction copies generalizing w with
  | zero => exact h
  | succ copies ih =>
    refine ih (w := w.send (.udpSearch search.query)) ⟨fun other hother hother' => ?_, h.more⟩
    rcases mem_owed_send hother with hmem | ⟨h', -⟩ | h' | ⟨_, _, h'⟩
    · exact h.owes other hmem hother'
    · cases h'
    · cases h'
      rfl
    · cases h'

/-- A search that is sent when the server is clear. -/
theorem Awaits.of_clear {opcode : UInt8} {payload : List UInt8}
    (hclear : w.Clear (.search opcode payload search.query)) :
    (w.send (.search opcode payload search.query)).Awaits search := by
  have howes : w.OwesOnly search.query := hclear.resolve_left (Option.some_ne_none _)
  refine ⟨fun other hother hother' => ?_, fun _ => rfl⟩
  rcases mem_owed_send hother with hmem | ⟨h', -⟩ | h' | ⟨_, _, h'⟩
  · exact howes other hmem hother'
  · cases h'
  · cases h'
  · cases h'
    rfl

theorem sendAll_append (sent sent' : List Transmission) :
    w.sendAll (sent ++ sent') = (w.sendAll sent).sendAll sent' :=
  List.foldl_append

theorem AllClear.of_append {sent sent' : List Transmission} (h : w.AllClear (sent ++ sent')) :
    (w.sendAll sent).AllClear sent' := by
  induction sent generalizing w with
  | nil => exact h
  | cons t sent ih => exact ih h.2

/-- What is sent changes nothing of the session. -/
@[simp] theorem session_sendAll (sent : List Transmission) :
    (w.sendAll sent).session = w.session := by
  induction sent generalizing w with
  | nil => rfl
  | cons t sent ih =>
    refine (ih (w := w.send t)).trans ?_
    cases t <;> rfl

/-- **The invariant.**  Answers, and what was collected for the pending search, are replies to the
requester's own search, and so will be the next reply. -/
structure Attributed (w : ServerWorld) : Prop where
  answers : ∀ answer ∈ w.session.answers, ∀ origin ∈ answer.origins, origin = some answer.response
  origins : ∀ search ∈ w.session.pending, ∀ origin ∈ search.origins, origin = some search.response
  awaits : ∀ search ∈ w.session.pending, w.Awaits search

theorem attributed_opened (state : Ed2kServerState) : (opened state).Attributed :=
  ⟨nofun, nofun, nofun⟩

/-- A reply that the pending search takes is its own. -/
theorem Attributed.origin_eq (h : w.Attributed) (hsearch : w.session.pending = some search)
    {origin : Option Nat} (hreply : ⟨origin, search.kind⟩ ∈ w.owed ++ w.udpOwed) :
    origin = some search.response :=
  (h.awaits search hsearch).owes ⟨origin, search.kind⟩ hreply rfl

/-- The invariant is kept by a turn of the session, the server having done its part. -/
theorem Attributed.turn (h : w.Attributed) {served : ServerWorld} {event : ServerEvent}
    (hserves : w.Serves served)
    (hreply : ∀ reply ∈ event.reply? env, reply ∈ w.owed ++ w.udpOwed)
    {s' : BackgroundSession} {sent : List Transmission}
    (hturn : w.session.Turn env event s' sent)
    (hclear : { served with session := s' }.AllClear sent) :
    ({ served with session := s' }.sendAll sent).Attributed := by
  have hawaits : ∀ search ∈ w.session.pending, { served with session := s' }.Awaits search :=
    fun search hsearch => (h.awaits search hsearch).serves ⟨hserves.owed, hserves.lastSearch⟩
  cases hturn with
  | quiet new hpending hanswers hnew hsent =>
    have hsub : ∀ search ∈ s'.pending, search ∈ w.session.pending := by
      intro search hsearch
      rcases hpending with hnone | hsame
      · exact absurd (hnone.symm.trans hsearch) nofun
      · exact hsame ▸ hsearch
    refine ⟨?_, ?_, ?_⟩ <;> rw [session_sendAll]
    · intro answer hanswer origin horigin
      rw [hanswers] at hanswer
      rcases List.mem_append.mp hanswer with hold | hnew'
      · exact h.answers answer hold origin horigin
      · rw [hnew answer hnew'] at horigin
        exact absurd horigin List.not_mem_nil
    · exact fun search hsearch => h.origins search (hsub search hsearch)
    · intro search hsearch
      have hsearch' := hsub search hsearch
      refine (hawaits search hsearch').asides ?_
      rw [← Option.mem_def.mp hsearch']
      exact hsent
  | start search before opcode payload copies hnone hpending horigins hanswers hbefore hsent =>
    subst hsent
    refine ⟨?_, ?_, ?_⟩ <;> rw [session_sendAll]
    · show ∀ answer ∈ s'.answers, _
      rw [hanswers]
      exact h.answers
    · intro search' hsearch'
      obtain rfl := Option.mem_unique hpending hsearch'
      rw [horigins]
      exact nofun
    · intro search' hsearch'
      obtain rfl := Option.mem_unique hpending hsearch'
      rw [sendAll_append]
      exact (Awaits.of_clear hclear.of_append.1).sendUdp copies
  | page search search' origin hreply' hkind hsearch hpending hquery horigins hanswers hsent =>
    subst hsent
    have horigin : origin = some search.response :=
      h.origin_eq hsearch (hkind ▸ hreply _ hreply')
    obtain ⟨hresponse, hkind'⟩ :
        search'.response = search.response ∧ search'.kind = search.kind := by
      injection hquery with hresponse hkind'
      exact ⟨Option.some.inj hresponse, hkind'⟩
    refine ⟨?_, ?_, ?_⟩ <;> rw [session_sendAll]
    · show ∀ answer ∈ s'.answers, _
      rw [hanswers]
      exact h.answers
    · intro search'' hsearch''
      obtain rfl := Option.mem_unique hpending hsearch''
      rw [horigins, hresponse]
      intro o ho
      rcases List.mem_append.mp ho with hold | hnew
      · exact h.origins search hsearch o hold
      · exact (List.mem_singleton.mp hnew).trans horigin
    · intro search'' hsearch''
      obtain rfl := Option.mem_unique hpending hsearch''
      have hmore := (hawaits search hsearch).sendMore hkind
      exact ⟨hquery ▸ hmore.owes, fun _ => hresponse ▸ hmore.more hkind⟩
  | deliver search origin body hsearch hreply' hpending hanswers hsent =>
    subst hsent
    have horigin := h.origin_eq hsearch (hreply _ hreply')
    refine ⟨?_, ?_, ?_⟩ <;> rw [session_sendAll]
    · intro answer hanswer o ho
      rw [hanswers] at hanswer
      rcases List.mem_append.mp hanswer with hold | hnew
      · exact h.answers answer hold o ho
      · rw [List.mem_singleton.mp hnew] at ho ⊢
        rcases List.mem_append.mp ho with hold | hlast
        · exact h.origins search hsearch o hold
        · exact (List.mem_singleton.mp hlast).trans horigin
    · exact fun search' hsearch' => absurd (hpending.symm.trans hsearch') nofun
    · exact fun search' hsearch' => absurd (hpending.symm.trans hsearch') nofun

theorem attributed_step {event : Event} (h : w.Attributed) (hstep : w.step env event = some w')
    (hwaits : w.Waits env event) : w'.Attributed := by
  cases event with
  | session event =>
    simp only [step, Option.bind_eq_bind, Option.bind_eq_some_iff, Option.pure_def] at hstep
    obtain ⟨served, hserved, ⟨s', sent⟩, hout, hw'⟩ := hstep
    obtain rfl := Option.some.inj hw'
    obtain ⟨hserves, hreply⟩ := serves_of_serve hserved
    exact h.turn hserves hreply (BackgroundSession.step_turn hout)
      (hwaits served hserved (s', sent) hout)
  | lost query =>
    simp only [step, Option.ite_none_right_eq_some, Option.some.injEq] at hstep
    obtain ⟨-, rfl⟩ := hstep
    refine ⟨h.answers, h.origins, fun search hsearch => (h.awaits search hsearch).serves ⟨?_, rfl⟩⟩
    exact fun other hother => (List.mem_append.mp hother).elim (List.mem_append_left _)
      fun hq => List.mem_append_right _ (List.mem_of_mem_erase hq)

/-- **Every answer is made of replies to the requester's own search**, in a run in which searches
are sent only while the server owes no reply of the same kind to anyone else. -/
theorem answers_own_replies (env : ServerEnv) (state : Ed2kServerState) {events : List Event}
    (hwaits : Meets (step env) (Waits env) (opened state) events)
    (hrun : run (step env) (opened state) events = some w') :
    ∀ answer ∈ w'.session.answers, ∀ origin ∈ answer.origins, origin = some answer.response :=
  (run_of_meets (H := fun _ _ => True) (fun _ => trivial) (fun _ _ _ _ _ => trivial)
    (fun _ _ _ h hwaits hstep => ⟨attributed_step h hstep hwaits, trivial⟩)
    (attributed_opened state) hwaits hrun).1.answers

end ServerWorld

/-! ### A sample -/

/-- Everything is sent. -/
def allWritten : Writes := ⟨.ok (), .ok (), true⟩

/-- The server accepts the login. -/
def loginEvent : ServerWorld.Event :=
  .session (.tcp ⟨OP_IDCHANGE, [1, 0, 0, 1]⟩ none 0 allWritten)

def keywordRequest (query : String) (response : Nat) : ServerWorld.Event :=
  .session (.request (.keyword query 60 response) 0 allWritten)

/-- A page with one file. -/
def onePage : List UInt8 :=
  toLe 4 1 ++ List.replicate 16 2 ++ toLe 4 0 ++ toLe 2 0 ++ toLe 4 0

def tcpPage (origin : Nat) : ServerWorld.Event :=
  .session (.tcp ⟨OP_SEARCHRESULT, onePage⟩ (some origin) 1 allWritten)

def udpPage (origin : Nat) : ServerWorld.Event :=
  .session (.udp (OP_EDONKEYPROT :: OP_GLOBSEARCHRES :: onePage) sampleSender (some origin) true)

/-- The second search is sent after both replies to the first one. -/
def patientRun : List ServerWorld.Event :=
  [loginEvent, keywordRequest "first" 0, udpPage 0, tcpPage 0, keywordRequest "second" 1, tcpPage 1]

/-- The second search is sent before the reply over TCP to the first one. -/
def hastyRun : List ServerWorld.Event :=
  [loginEvent, keywordRequest "first" 0, udpPage 0, keywordRequest "second" 1, tcpPage 0]

theorem patientRun_answers_own : ∃ w' ∈ run (ServerWorld.step sampleServer)
      (.opened unknownServerState) patientRun, w'.session.answers.length = 2 ∧
      ∀ answer ∈ w'.session.answers, ∀ origin ∈ answer.origins, origin = some answer.response := by
  obtain ⟨w', hrun, hlength⟩ : ∃ w' ∈ run (ServerWorld.step sampleServer)
      (.opened unknownServerState) patientRun, w'.session.answers.length = 2 := by decide +kernel
  exact ⟨w', hrun, hlength, ServerWorld.answers_own_replies sampleServer unknownServerState
    (by decide +kernel) hrun⟩

/-- The second requester gets the results of the first search. -/
theorem late_reply_to_next : ∃ w' ∈ run (ServerWorld.step sampleServer)
      (.opened unknownServerState) hastyRun, ∃ answer ∈ w'.session.answers,
      answer.response = 1 ∧ answer.origins = [some 0] := by
  decide +kernel

end Overlord.Emule
