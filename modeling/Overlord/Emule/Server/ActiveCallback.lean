import Overlord.Emule.Server.Background
import Overlord.Machine.Run

/-!
# Asking a server for a callback

`request_callback_on_server` of `ed2k_server/active_callback.rs`, from the login on.  It waits for
`OP_IDCHANGE`, sends its startup packets and `OP_CALLBACKREQUEST`, and then listens until a deadline
for a sign that the request has failed.  No answer is meant to be a success: when the deadline has
passed at the head of the loop, the session is completed "without explicit failure".

But the read inside the loop has the rest of the same window as its own timeout, and that running
out is an error.  So silence is a success only if the deadline passes while the function is not
reading, which takes a packet at the right moment.

`callback_result_iff` — a call fails exactly when the server has refused or gone, unless a read has
timed out.  `silence_is_an_error` is the call that nobody answers.
-/

set_option autoImplicit false

namespace Overlord.Emule.ActiveCallback

open Machine

/-- What the call was given, with the endpoint as it is printed; times are in milliseconds. -/
structure CallbackOptions where
  endpoint : String
  clientId : UInt32
  timeout : Nat
deriving DecidableEq, Repr

/-- Where the call is. -/
inductive Phase where
  /-- At the head of the loop that waits for the login. -/
  | login
  /-- Reading, until the time given. -/
  | readingLogin (limit : Nat)
  /-- Logged in; the startup packets and the request are to be sent. -/
  | accepted
  /-- At the head of the loop that waits for a failure. -/
  | head (deadline : Nat)
  | reading (deadline : Nat)
  | returned (result : Except String Unit)
deriving DecidableEq, Repr

structure State where
  clock : Nat
  phase : Phase
deriving DecidableEq, Repr

inductive Event where
  /-- The head of a loop looks at the cancel token and the clock. -/
  | check (cancelled : Bool)
  | packet (opcode : UInt8) (payload : List UInt8)
  /-- The server has closed the connection. -/
  | closed
  | readFailed (cause : String)
  /-- The timer of the read has gone off. -/
  | elapsed
  /-- The packets have been written, or a write has failed. -/
  | sent (result : Except String Unit)
deriving DecidableEq, Repr

def CALLBACK_RESPONSE_WINDOW : Nat := 5000

/-- What a packet does to a call that waits for its login. -/
def onLoginPacket (options : CallbackOptions) (opcode : UInt8) (payload : List UInt8) : Phase :=
  if opcode = OP_IDCHANGE then
    match decodeIdChangePayload payload with
    | .error _ => .returned (.error s!"invalid OP_IDCHANGE from {options.endpoint}")
    | .ok idChange =>
      if idChange.clientId = 0 then
        .returned (.error
          s!"ED2K server {options.endpoint} returned zero client_id in OP_IDCHANGE")
      else .accepted
  else if opcode = OP_REJECT then
    .returned (.error s!"ED2K server {options.endpoint} rejected the callback request")
  else .login

/-- What a packet does to a call that has sent its request. -/
def onResponsePacket (options : CallbackOptions) (deadline : Nat) (opcode : UInt8) : Phase :=
  if opcode = OP_CALLBACK_FAIL then
    .returned (.error (s!"ED2K server {options.endpoint} reported callback failure for " ++
      s!"client_id={options.clientId}"))
  else if opcode = OP_REJECT then
    .returned (.error s!"ED2K server {options.endpoint} rejected the callback request")
  else .head deadline

/-- The call after an event at the time `now`. -/
def next (options : CallbackOptions) (now : Nat) : Phase → Event → Option Phase
  | .login, .check cancelled =>
    some (if cancelled then .returned (.ok ()) else .readingLogin (now + options.timeout))
  | .readingLogin limit, .elapsed =>
    if limit ≤ now then
      some (.returned (.error
        s!"timed out waiting for ED2K callback-ready login on {options.endpoint}"))
    else none
  | .readingLogin _, .readFailed cause => some (.returned (.error cause))
  | .readingLogin _, .closed =>
    some (.returned (.error s!"ED2K server {options.endpoint} closed before callback dispatch"))
  | .readingLogin _, .packet opcode payload => some (onLoginPacket options opcode payload)
  | .accepted, .sent (.error cause) => some (.returned (.error cause))
  | .accepted, .sent (.ok _) =>
    some (.head (now + min options.timeout CALLBACK_RESPONSE_WINDOW))
  | .head deadline, .check cancelled =>
    some (if cancelled then .returned (.ok ())
      -- no time remains, and nothing has been heard of a failure
      else if deadline ≤ now then .returned (.ok ())
      else .reading deadline)
  | .reading deadline, .elapsed =>
    -- the timer was set to what remained of the window
    if deadline ≤ now then
      some (.returned (.error
        s!"timed out waiting for ED2K callback response from {options.endpoint}"))
    else none
  | .reading _, .readFailed cause => some (.returned (.error cause))
  | .reading _, .closed =>
    some (.returned (.error s!"ED2K server {options.endpoint} closed after callback dispatch"))
  | .reading deadline, .packet opcode _ => some (onResponsePacket options deadline opcode)
  | _, _ => none

/-- One event, at a time that is not in the past. -/
def step (options : CallbackOptions) (s : State) (event : Nat × Event) : Option State :=
  if s.clock ≤ event.1 then (next options event.1 s.phase event.2).map (State.mk event.1) else none

/-- The server has refused the request, or the connection is gone. -/
def Event.refuses : Event → Bool
  | .packet opcode _ => opcode = OP_CALLBACK_FAIL ∨ opcode = OP_REJECT
  | .closed => true
  | .readFailed _ => true
  | _ => false

def Event.timesOut : Event → Bool
  | .elapsed => true
  | _ => false

/-! ## The window -/

/-- The call waits for a failure until this time. -/
def State.Waits (s : State) (deadline : Nat) : Prop :=
  s.phase = .head deadline ∨ s.phase = .reading deadline

/-- The call goes on: a read has ended, or one is started before the deadline. -/
def Continues (s s' : State) (deadline : Nat) : Prop :=
  (s.phase = .reading deadline ∧ s'.phase = .head deadline) ∨
    (s.phase = .head deadline ∧ s'.phase = .reading deadline ∧ s'.clock < deadline)

theorem Continues.waits {s s' : State} {deadline : Nat} (h : Continues s s' deadline) :
    s'.Waits deadline :=
  h.elim (fun hhead => .inl hhead.2) fun hreading => .inr hreading.2.1

section

variable {options : CallbackOptions} {s s' : State} {deadline now : Nat} {event : Event}

/-- **One event of the window.**  The call goes on or succeeds when nothing is wrong, and fails when
it is refused or a read times out. -/
theorem step_of_waits (hs : s.Waits deadline) (h : step options s (now, event) = some s') :
    (event.refuses = false ∧ event.timesOut = false ∧
        (Continues s s' deadline ∨ s'.phase = .returned (.ok ()))) ∨
      ((event.refuses = true ∨ event.timesOut = true) ∧
        (event.refuses = true → event.timesOut = false) ∧
        ∃ cause, s'.phase = .returned (.error cause)) := by
  rw [step] at h
  split at h
  case isFalse => cases h
  case isTrue =>
    obtain ⟨phase, hnext, rfl⟩ := Option.map_eq_some_iff.mp h
    rcases hs with hphase | hphase
    · rw [hphase] at hnext
      cases event with
      | check cancelled =>
        refine .inl ⟨rfl, rfl, ?_⟩
        obtain rfl := Option.some.inj hnext
        dsimp only
        split
        · exact .inr rfl
        · split
          case isTrue => exact .inr rfl
          case isFalse hleft => exact .inl (.inr ⟨hphase, rfl, not_le.mp hleft⟩)
      | _ => cases hnext
    · rw [hphase] at hnext
      cases event with
      | packet opcode payload =>
        obtain rfl := Option.some.inj hnext
        dsimp only [onResponsePacket]
        split
        case isTrue hfail =>
          exact .inr ⟨.inl (decide_eq_true (.inl hfail)), fun _ => rfl, _, rfl⟩
        case isFalse hfail =>
          split
          case isTrue hreject =>
            exact .inr ⟨.inl (decide_eq_true (.inr hreject)), fun _ => rfl, _, rfl⟩
          case isFalse hreject =>
            refine .inl ⟨decide_eq_false (not_or.mpr ⟨hfail, hreject⟩), rfl, .inl (.inl ?_)⟩
            exact ⟨hphase, rfl⟩
      | closed => exact .inr ⟨.inl rfl, fun _ => rfl, _, (Option.some.inj hnext).symm⟩
      | readFailed cause => exact .inr ⟨.inl rfl, fun _ => rfl, _, (Option.some.inj hnext).symm⟩
      | elapsed =>
        replace hnext : (if _ then _ else _) = some phase := hnext
        split at hnext
        · exact .inr ⟨.inr rfl, nofun, _, (Option.some.inj hnext).symm⟩
        · cases hnext
      | check cancelled => cases hnext
      | sent result => cases hnext

theorem step_returned {result : Except String Unit} {event : Nat × Event}
    (hs : s.phase = .returned result) : step options s event = none := by
  rw [step]
  split
  · rw [hs]
    rfl
  · rfl

/-- A call that has returned takes no further events. -/
theorem run_returned {result : Except String Unit} {events : List (Nat × Event)}
    (hs : s.phase = .returned result) (h : run (step options) s events = some s') :
    events = [] ∧ s' = s := by
  cases events with
  | nil => exact ⟨rfl, (Option.some.inj h).symm⟩
  | cons event events =>
    obtain ⟨s₁, hstep, -⟩ := run_cons_eq_some h
    rw [step_returned hs] at hstep
    cases hstep

def refused (events : List (Nat × Event)) : Bool := events.any fun event => event.2.refuses

def timedOut (events : List (Nat × Event)) : Bool := events.any fun event => event.2.timesOut

/-- **The whole window.**  By induction on the events; all but the last one leave the call
waiting. -/
theorem result_of_run {result : Except String Unit} {events : List (Nat × Event)}
    (hs : s.Waits deadline) (hrun : run (step options) s events = some s')
    (hresult : s'.phase = .returned result) :
    (result = .ok () ∧ refused events = false ∧ timedOut events = false) ∨
      ((∃ cause, result = .error cause) ∧ refused events = !timedOut events) := by
  induction events generalizing s with
  | nil =>
    obtain rfl := Option.some.inj hrun
    rcases hs with hs | hs <;> cases hs.symm.trans hresult
  | cons event events ih =>
    obtain ⟨s₁, hstep, hrest⟩ := run_cons_eq_some hrun
    rw [refused, timedOut, List.any_cons, List.any_cons]
    rcases step_of_waits hs hstep with ⟨hrefuses, htimes, hwaits | hok⟩ |
      ⟨hbad, hone, cause, herror⟩
    · rw [hrefuses, htimes, Bool.false_or, Bool.false_or]
      exact ih hwaits.waits hrest
    · obtain ⟨rfl, rfl⟩ := run_returned hok hrest
      rw [hok] at hresult
      obtain rfl := Phase.returned.inj hresult
      exact .inl ⟨rfl, by rw [hrefuses]; rfl, by rw [htimes]; rfl⟩
    · obtain ⟨rfl, rfl⟩ := run_returned herror hrest
      rw [herror] at hresult
      obtain rfl := Phase.returned.inj hresult
      refine .inr ⟨⟨cause, rfl⟩, ?_⟩
      rw [List.any_nil, List.any_nil, Bool.or_false, Bool.or_false]
      cases hrefuses : event.2.refuses with
      | true => rw [hone hrefuses]; rfl
      | false => rw [hbad.resolve_left (by rw [hrefuses]; exact Bool.false_ne_true)]; rfl

/-- An event leaves the call waiting, or it is the last one. -/
theorem continues_or_last {events : List (Nat × Event)} {event : Nat × Event}
    (hs : s.Waits deadline) (hrun : run (step options) s (event :: events) = some s') :
    events = [] ∨ ∃ s₁, s.clock ≤ s₁.clock ∧ Continues s s₁ deadline ∧
      run (step options) s₁ events = some s' := by
  obtain ⟨s₁, hstep, hrest⟩ := run_cons_eq_some hrun
  have hclock : s.clock ≤ s₁.clock := by
    rw [step] at hstep
    split at hstep
    case isTrue hle =>
      obtain ⟨phase, -, rfl⟩ := Option.map_eq_some_iff.mp hstep
      exact hle
    case isFalse => cases hstep
  rcases step_of_waits hs hstep with ⟨-, -, hcontinues | hok⟩ | ⟨-, -, cause, herror⟩
  · exact .inr ⟨s₁, hclock, hcontinues, hrest⟩
  · exact .inl (run_returned hok hrest).1
  · exact .inl (run_returned herror hrest).1

/-- **The call does come to its end.**  Once the deadline has passed there are at most two more
events: one that ends a read, and the look at the clock. -/
theorem length_le_two_of_deadline {events : List (Nat × Event)} (hs : s.Waits deadline)
    (hdeadline : deadline ≤ s.clock) (hrun : run (step options) s events = some s') :
    events.length ≤ 2 := by
  match events with
  | [] => exact Nat.zero_le 2
  | [_] => exact Nat.le_succ 1
  | e₁ :: e₂ :: events =>
    -- two events that leave it waiting would start a read after the deadline
    obtain hnil | ⟨s₁, hclock₁, hcont₁, hrun₁⟩ := continues_or_last hs hrun
    · cases hnil
    obtain rfl | ⟨s₂, hclock₂, hcont₂, -⟩ := continues_or_last hcont₁.waits hrun₁
    · exact le_rfl
    exfalso
    rcases hcont₁ with ⟨-, hhead⟩ | ⟨-, -, hearly⟩
    · rcases hcont₂ with ⟨hreading, -⟩ | ⟨-, -, hearly⟩
      · cases hhead.symm.trans hreading
      · omega
    · omega

theorem waits_of_sent (h : step options s (now, .sent (.ok ())) = some s') :
    ∃ deadline, s'.phase = .head deadline := by
  rw [step] at h
  split at h
  case isFalse => cases h
  case isTrue =>
    obtain ⟨phase, hnext, rfl⟩ := Option.map_eq_some_iff.mp h
    cases hphase : s.phase with
    | accepted =>
      rw [hphase] at hnext
      exact ⟨_, (Option.some.inj hnext).symm⟩
    | _ =>
      rw [hphase] at hnext
      cases hnext

/-- **When a callback request fails.**  Whatever comes after `OP_CALLBACKREQUEST` and whenever it
comes, a call that returns has failed exactly when the server refused, closed or could not be read,
if and only if no read ran into the end of the window. -/
theorem callback_result_iff (options : CallbackOptions) (start now : Nat)
    (before after : List (Nat × Event)) (s' : State) (result : Except String Unit)
    (hrun : run (step options) ⟨start, .login⟩ (before ++ (now, .sent (.ok ())) :: after) = some s')
    (hresult : s'.phase = .returned result) :
    ((∃ cause, result = .error cause) ↔ refused after = true) ↔ timedOut after = false := by
  obtain ⟨s₁, -, hrest⟩ := run_append hrun
  obtain ⟨s₂, hsent, hafter⟩ := run_cons_eq_some hrest
  obtain ⟨deadline, hwaits⟩ := waits_of_sent hsent
  rcases result_of_run (.inl hwaits) hafter hresult with ⟨rfl, hrefused, htimed⟩ | ⟨herror, hone⟩
  · rw [hrefused, htimed]
    simp
  · rw [hone]
    cases timedOut after <;> simp [herror]

end

def sampleOptions : CallbackOptions := ⟨"203.0.113.5:4661", 7, 15000⟩

/-- A message of the server arrives as the window ends. -/
theorem late_message_succeeds :
    run (step sampleOptions) ⟨0, .login⟩
        ([(0, .check false), (10, .packet OP_IDCHANGE [1, 2, 3, 4])] ++ (20, .sent (.ok ())) ::
          [(20, .check false), (5020, .packet OP_SERVERMESSAGE []), (5020, .check false)]) =
      some ⟨5020, .returned (.ok ())⟩ ∧
    (((∃ cause, (.ok () : Except String Unit) = .error cause) ↔
      refused [(20, .check false), (5020, .packet OP_SERVERMESSAGE []), (5020, .check false)] =
        true) ↔
      timedOut [(20, .check false), (5020, .packet OP_SERVERMESSAGE []), (5020, .check false)] =
        false) :=
  ⟨by decide +kernel, callback_result_iff sampleOptions 0 20
    [(0, .check false), (10, .packet OP_IDCHANGE [1, 2, 3, 4])] _
    ⟨5020, .returned (.ok ())⟩ _ (by decide +kernel) rfl⟩

/-- **Silence is an error.**  The server takes the request and says nothing more. -/
theorem silence_is_an_error :
    run (step sampleOptions) ⟨0, .login⟩
        ([(0, .check false), (10, .packet OP_IDCHANGE [1, 2, 3, 4])] ++ (20, .sent (.ok ())) ::
          [(20, .check false), (5020, .elapsed)]) =
      some ⟨5020, .returned
        (.error "timed out waiting for ED2K callback response from 203.0.113.5:4661")⟩ ∧
    refused [(20, .check false), (5020, .elapsed)] = false := by
  decide +kernel

end Overlord.Emule.ActiveCallback
