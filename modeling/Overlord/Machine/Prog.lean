import Overlord.Machine.Run

/-!
# Programs that issue commands

A program is a tree of commands: it ends with a result, or issues a command and goes on with the
reply.  What a command does is left to a *handler*, a partial step function on some state, so that
one program can be read over several stores, and a crash can hit it between any two commands.  As
for machines, nondeterminism sits in an argument: `h s c e` is the reply and the state after the
command `c` when the environment chooses `e`.

* `Prog.exec` runs a program to its end over a list of choices, and `Prog.interp` over a handler
  that leaves no choice.
* `Prog.Safe h G Q p s` — every command the program issues takes the state from one to another that
  `G` relates, and when it ends, `Q` holds.  `G` is what the program guarantees step by step, also
  to whoever looks at the state before the program has ended.
* `Prog.Issues P p` — every command the program may issue satisfies `P`, whatever the replies are,
  and `Prog.Ends P p` the same for the results it may end with.
* `Process` is a machine that runs one program at a time, a command at each tick.
* `Safe.bind`, `Safe.of_exec` and `Process.safe_run` are the rules for composing programs, for a
  program that is run in one go, and for a whole run of a process.
-/

set_option autoImplicit false

namespace Machine

/-- A program over the commands `C`, where the reply to `c` is an `R c`. -/
inductive Prog (C : Type) (R : C → Type) (ε α : Type) : Type where
  | done (result : Except ε α)
  | issue (c : C) (k : R c → Prog C R ε α)

/-- What the commands do. -/
abbrev Handler (C : Type) (R : C → Type) (S E : Type) : Type :=
  S → (c : C) → E → Option (R c × S)

namespace Prog

variable {C : Type} {R : C → Type} {ε ε' α β S E : Type}

/-- One command. -/
def command (c : C) : Prog C R ε (R c) := .issue c fun reply => .done (.ok reply)

/-- Sequential composition; an error ends the whole. -/
def bind : Prog C R ε α → (α → Prog C R ε β) → Prog C R ε β
  | .done (.ok a), f => f a
  | .done (.error e), _ => .done (.error e)
  | .issue c k, f => .issue c fun reply => (k reply).bind f

instance : Monad (Prog C R ε) where
  pure a := .done (.ok a)
  bind := bind

/-- End with an error. -/
def fail (e : ε) : Prog C R ε α := .done (.error e)

/-- Run a program and go on with its result, also if that is an error. -/
def attempt : Prog C R ε α → Prog C R ε' (Except ε α)
  | .done result => .done (.ok result)
  | .issue c k => .issue c fun reply => (k reply).attempt

/-- The result of a program that has ended. -/
def result? : Prog C R ε α → Option (Except ε α)
  | .done result => some result
  | .issue _ _ => none

variable (h : Handler C R S E)

/-- The result and the state after a program has been run with these choices, if they are as many
as it issues commands and the handler accepts them. -/
def exec : Prog C R ε α → S → List E → Option (Except ε α × S)
  | .done result, s, [] => some (result, s)
  | .done _, _, _ :: _ => none
  | .issue _ _, _, [] => none
  | .issue c k, s, e :: es => (h s c e).bind fun reply => (k reply.1).exec reply.2 es

/-- The result and the state after a program has been run over a handler that leaves no choice. -/
def interp (h : S → (c : C) → R c × S) : Prog C R ε α → S → Except ε α × S
  | .done result, s => (result, s)
  | .issue c k, s => (k (h s c).1).interp h (h s c).2

/-- Every command the program issues does what `G` allows, and `Q` holds when it ends. -/
def Safe (G : S → S → Prop) (Q : Except ε α → S → Prop) : Prog C R ε α → S → Prop
  | .done result, s => Q result s
  | .issue c k, s => ∀ e reply s', h s c e = some (reply, s') → G s s' ∧ Safe G Q (k reply) s'

variable {h} {G G' : S → S → Prop} {Q Q' : Except ε α → S → Prop} {s : S}

theorem eq_done_of_result? {p : Prog C R ε α} {r : Except ε α} (hp : p.result? = some r) :
    p = .done r := by
  cases p with
  | done r' => rw [Option.some.inj hp]
  | issue c k => exact absurd hp nofun

theorem interp_bind {h : S → (c : C) → R c × S} {p : Prog C R ε α} {f : α → Prog C R ε β} {s : S} :
    (p >>= f).interp h s = match p.interp h s with
      | (.ok a, s') => (f a).interp h s'
      | (.error e, s') => (.error e, s') := by
  induction p generalizing s with
  | done r => cases r <;> rfl
  | issue c k ih => exact ih (h s c).1

theorem Safe.mono {p : Prog C R ε α} (hp : Safe h G Q p s) (hG : ∀ s s', G s s' → G' s s')
    (hQ : ∀ r s, Q r s → Q' r s) : Safe h G' Q' p s := by
  induction p generalizing s with
  | done r => exact hQ r s hp
  | issue c k ih =>
    intro e reply s' hstep
    obtain ⟨hstep', hrest⟩ := hp e reply s' hstep
    exact ⟨hG s s' hstep', ih reply hrest⟩

/-- Strengthen what holds across the commands by an invariant. -/
theorem Safe.strengthen {I : S → Prop} {p : Prog C R ε α} (hp : Safe h G Q p s) (hs : I s)
    (hI : ∀ s s', I s → G s s' → I s' ∧ G' s s') : Safe h G' Q p s := by
  induction p generalizing s with
  | done r => exact hp
  | issue c k ih =>
    intro e reply s' hstep
    obtain ⟨hfirst, hrest⟩ := hp e reply s' hstep
    obtain ⟨hs', hfirst'⟩ := hI s s' hs hfirst
    exact ⟨hfirst', ih reply hrest hs'⟩

/-- Weaken the postcondition. -/
theorem Safe.post {p : Prog C R ε α} (hp : Safe h G Q p s) (hQ : ∀ r s, Q r s → Q' r s) :
    Safe h G Q' p s :=
  hp.mono (fun _ _ hG => hG) hQ

/-- **Sequential composition.**  The second program starts where the first has ended. -/
theorem Safe.bind {P : Except ε β → S → Prop} {p : Prog C R ε β} {f : β → Prog C R ε α}
    (hp : Safe h G P p s) (hok : ∀ b s', P (.ok b) s' → Safe h G Q (f b) s')
    (herror : ∀ e s', P (.error e) s' → Q (.error e) s') : Safe h G Q (p >>= f) s := by
  induction p generalizing s with
  | done r =>
    cases r with
    | ok b => exact hok b s hp
    | error e => exact herror e s hp
  | issue c k ih =>
    intro e reply s' hstep
    obtain ⟨hG, hrest⟩ := hp e reply s' hstep
    exact ⟨hG, ih reply hrest⟩

theorem Safe.attempt {Q : Except ε' (Except ε α) → S → Prop} {p : Prog C R ε α}
    (hp : Safe h G (fun r s => Q (.ok r) s) p s) : Safe h G Q p.attempt s := by
  induction p generalizing s with
  | done r => exact hp
  | issue c k ih =>
    intro e reply s' hstep
    obtain ⟨hG, hrest⟩ := hp e reply s' hstep
    exact ⟨hG, ih reply hrest⟩

/-- Two specifications of one program. -/
theorem Safe.and {p : Prog C R ε α} (hp : Safe h G Q p s) (hp' : Safe h G' Q' p s) :
    Safe h (fun s s' => G s s' ∧ G' s s') (fun r s => Q r s ∧ Q' r s) p s := by
  induction p generalizing s with
  | done r => exact ⟨hp, hp'⟩
  | issue c k ih =>
    intro e reply s' hstep
    obtain ⟨hG, hrest⟩ := hp e reply s' hstep
    obtain ⟨hG', hrest'⟩ := hp' e reply s' hstep
    exact ⟨⟨hG, hG'⟩, ih reply hrest hrest'⟩

/-- A program is safe over a handler that does less. -/
theorem Safe.of_handler {E' : Type} {h' : Handler C R S E'} {p : Prog C R ε α}
    (hp : Safe h G Q p s)
    (hle : ∀ s c e reply s', h' s c e = some (reply, s') → ∃ e', h s c e' = some (reply, s')) :
    Safe h' G Q p s := by
  induction p generalizing s with
  | done r => exact hp
  | issue c k ih =>
    intro e reply s' hstep
    obtain ⟨e', hstep'⟩ := hle s c e reply s' hstep
    obtain ⟨hG, hrest⟩ := hp e' reply s' hstep'
    exact ⟨hG, ih reply hrest⟩

/-- **A program run in one go.** -/
theorem Safe.of_exec {p : Prog C R ε α} {es : List E} {r : Except ε α} {s' : S}
    (hp : Safe h G Q p s) (hexec : p.exec h s es = some (r, s')) : Q r s' := by
  induction p generalizing s es with
  | done r₁ =>
    cases es with
    | nil =>
      obtain ⟨rfl, rfl⟩ := Prod.mk.inj (Option.some.inj hexec)
      exact hp
    | cons e es => exact absurd hexec nofun
  | issue c k ih =>
    cases es with
    | nil => exact absurd hexec nofun
    | cons e es =>
      obtain ⟨⟨reply, s₁⟩, hstep, hrest⟩ := Option.bind_eq_some_iff.mp hexec
      exact ih reply (hp e reply s₁ hstep).2 hrest

/-! ## The commands of a program -/

/-- Every command the program may issue satisfies the predicate. -/
def Issues (P : C → Prop) : Prog C R ε α → Prop
  | .done _ => True
  | .issue c k => P c ∧ ∀ reply, Issues P (k reply)

section

variable {P : C → Prop}

theorem issues_pure (a : α) : Issues P (pure a : Prog C R ε α) := trivial

theorem issues_fail (e : ε) : Issues P (fail e : Prog C R ε α) := trivial

theorem issues_command {c : C} (hc : P c) : Issues P (command c : Prog C R ε (R c)) :=
  ⟨hc, fun _ => trivial⟩

theorem Issues.bind {p : Prog C R ε β} {f : β → Prog C R ε α} (hp : Issues P p)
    (hf : ∀ b, Issues P (f b)) : Issues P (p >>= f) := by
  induction p with
  | done r =>
    cases r with
    | ok b => exact hf b
    | error e => trivial
  | issue c k ih => exact ⟨hp.1, fun reply => ih reply (hp.2 reply)⟩

theorem Issues.mono {P' : C → Prop} {p : Prog C R ε α} (hp : Issues P p) (hP : ∀ c, P c → P' c) :
    Issues P' p := by
  induction p with
  | done r => trivial
  | issue c k ih => exact ⟨hP c hp.1, fun reply => ih reply (hp.2 reply)⟩

/-- **A program whose commands all keep an invariant.** -/
theorem Issues.safe {I : S → Prop} {p : Prog C R ε α} (hp : Issues P p) (hs : I s)
    (hI : ∀ s c e reply s', P c → I s → h s c e = some (reply, s') → I s' ∧ G s s') :
    Safe h G (fun _ => I) p s := by
  induction p generalizing s with
  | done r => exact hs
  | issue c k ih =>
    intro e reply s' hstep
    obtain ⟨hs', hG⟩ := hI s c e reply s' hp.1 hs hstep
    exact ⟨hG, ih reply (hp.2 reply) hs'⟩

end

/-! ## The results of a program -/

/-- Every result the program may end with satisfies the predicate, whatever the replies are. -/
def Ends (P : Except ε α → Prop) : Prog C R ε α → Prop
  | .done r => P r
  | .issue _ k => ∀ reply, Ends P (k reply)

section

variable {P : Except ε α → Prop}

theorem ends_trivial (p : Prog C R ε α) : Ends (fun _ => True) p := by
  induction p with
  | done r => trivial
  | issue c k ih => exact ih

/-- The second program may rely on what the first one ends with. -/
theorem Ends.bind {P' : Except ε β → Prop} {p : Prog C R ε β} {f : β → Prog C R ε α}
    (hp : Ends P' p) (hf : ∀ b, P' (.ok b) → Ends P (f b)) (herror : ∀ e, P (.error e)) :
    Ends P (p >>= f) := by
  induction p with
  | done r =>
    cases r with
    | ok b => exact hf b hp
    | error e => exact herror e
  | issue c k ih => exact fun reply => ih reply (hp reply)

end

end Prog

/-! ## Processes -/

/-- A state and the rest of the program that is running on it; between two calls that program has
ended. -/
structure Process (C : Type) (R : C → Type) (ε α S : Type) where
  state : S
  task : Prog C R ε α

namespace Process

variable {C : Type} {R : C → Type} {ε α S E Call : Type}

/-- What can happen to a process. -/
inductive Event (Call E : Type) where
  /-- A call starts, if none is running. -/
  | call (call : Call)
  /-- The running program issues its next command. -/
  | tick (e : E)
deriving DecidableEq, Repr

/-- A process that runs nothing. -/
def idle (s : S) (result : Except ε α) : Process C R ε α S := ⟨s, .done result⟩

variable (h : Handler C R S E) (body : Call → Prog C R ε α)

/-- One step of a process. -/
def step (p : Process C R ε α S) : Event Call E → Option (Process C R ε α S)
  | .call call =>
    match p.task with
    | .done _ => some ⟨p.state, body call⟩
    | .issue _ _ => none
  | .tick e =>
    match p.task with
    | .done _ => none
    | .issue c k => (h p.state c e).map fun reply => ⟨reply.2, k reply.1⟩

variable {h body} {G : S → S → Prop} {J : S → Prop} {p p' : Process C R ε α S}

/-- The program that runs is safe and will leave the state in `J`. -/
def Safe (h : Handler C R S E) (G : S → S → Prop) (J : S → Prop) (p : Process C R ε α S) : Prop :=
  Prog.Safe h G (fun _ => J) p.task p.state

theorem safe_idle {s : S} {result : Except ε α} (hs : J s) :
    Safe h G J (idle s result : Process C R ε α S) :=
  hs

/-- A step of a safe process is one that `G` allows, or the start of a call. -/
theorem Safe.step {event : Event Call E}
    (hbody : ∀ call, event = .call call → J p.state →
      Prog.Safe h G (fun _ => J) (body call) p.state)
    (hp : Safe h G J p) (hstep : Process.step h body p event = some p') :
    (p'.state = p.state ∨ G p.state p'.state) ∧ Safe h G J p' := by
  obtain ⟨s, task⟩ := p
  cases event with
  | call call =>
    cases task with
    | done r =>
      obtain rfl := Option.some.inj hstep
      exact ⟨.inl rfl, hbody call rfl hp⟩
    | issue c k => exact absurd hstep nofun
  | tick e =>
    cases task with
    | done r => exact absurd hstep nofun
    | issue c k =>
      obtain ⟨⟨reply, s'⟩, hreply, rfl⟩ := Option.map_eq_some_iff.mp hstep
      exact (hp e reply s' hreply).imp_left .inr

/-- **A whole run of a process.**  If every call is safe where the one before left the state, the
process is safe at every point of a run, and a preorder that holds across the commands holds across
the run. -/
theorem safe_run {H : S → S → Prop}
    (hbody : ∀ call s, J s → Prog.Safe h G (fun _ => J) (body call) s)
    (hG : ∀ s s', G s s' → H s s') (hrefl : ∀ s, H s s)
    (htrans : ∀ s s' s'', H s s' → H s' s'' → H s s'') {events : List (Event Call E)}
    (hp : Safe h G J p) (hrun : run (Process.step h body) p events = some p') :
    H p.state p'.state ∧ Safe h G J p' := by
  induction events generalizing p with
  | nil => exact Option.some.inj hrun ▸ ⟨hrefl _, hp⟩
  | cons event events ih =>
    obtain ⟨p₁, hstep, hrest⟩ := run_cons_eq_some hrun
    obtain ⟨hfirst, hp₁⟩ := hp.step (fun call _ => hbody call p.state) hstep
    obtain ⟨hlater, hp'⟩ := ih hp₁ hrest
    refine ⟨?_, hp'⟩
    rcases hfirst with hsame | hfirst
    · exact hsame ▸ hlater
    · exact htrans _ _ _ (hG _ _ hfirst) hlater

end Process

end Machine
