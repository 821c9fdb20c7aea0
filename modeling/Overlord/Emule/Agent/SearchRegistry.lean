import Overlord.Data.Keyed
import Overlord.Machine.Run

/-!
# The searches that are running

`search`, `cancel_search` and `cancel_active_searches` of the agent.  A search is a spawned task
with a cancel token of its own, and the registry `active_searches` has the token under the id of the
job.  The registry is written by three parties: `search` puts an entry in, `cancel_active_searches`
takes all of them out, and a task that ends removes the entry of its job id, whoever that entry
belongs to by then.

The agent runs on several threads, so a step here is what happens under one lock of the registry.
The check of `search` and its entry are one step; the task that is spawned after the release counts
as running from then on.  `cancel_search` and `cancel_active_searches` only take tokens under the
lock, and cancel them after its release, one by one; until then the tokens are `found` or `drained`,
and anything else can happen in between.

The registry is meant to know the searches that run and have not been cancelled (`Sound`): at most
one for each id, with its token under its id unless it is about to be cancelled.  There are two ways
in which it does not, and `orphaned_search` has a run for each.

* A new search is accepted after the entry of another one of its id has been drained, and before the
  token has been cancelled.  Then two of them run.
* A task ends that has been cancelled, while a new search of its id is running.  It removes the
  entry of the new one, which nobody can cancel any more.

`registered_always_iff` says that there is no third way.
-/

set_option autoImplicit false

namespace Overlord.Emule.SearchRegistry

open Machine

/-- The text of a `Uuid`. -/
abbrev JobId := String

/-- `ActiveSearchHandle` with its key; a token is known by its number. -/
structure ActiveSearchHandle where
  jobId : JobId
  cancel : Nat
deriving DecidableEq, Repr

/-- A task that has been spawned and has not ended. -/
structure SearchTask where
  jobId : JobId
  cancel : Nat
deriving DecidableEq, Repr

structure Registry where
  active : List ActiveSearchHandle := []
  tasks : List SearchTask := []
  /-- The tokens that calls of `cancel_search` have found and not cancelled yet. -/
  found : List Nat := []
  /-- The tokens that `cancel_active_searches` has taken out and not cancelled yet. -/
  drained : List Nat := []
  /-- The tokens that have been cancelled. -/
  cancelled : List Nat := []
  /-- The next new token. -/
  tokens : Nat := 0
deriving DecidableEq, Repr

namespace Registry

def handle? (s : Registry) (jobId : JobId) : Option ActiveSearchHandle :=
  Keyed.get ActiveSearchHandle.jobId jobId s.active

/-- `search`.  What comes before the registry (the reconciliation of the runtime, the runtime itself
and the callback URL) may fail, which is given. -/
def search (s : Registry) (jobId : JobId) (ready : Except String Unit) :
    Except String Unit × Registry :=
  match ready with
  | .error cause => (.error cause, s)
  | .ok () =>
    if (s.handle? jobId).isSome then (.error s!"search {jobId} is already active", s)
    else
      (.ok (), { s with
        active := Keyed.insert ActiveSearchHandle.jobId ⟨jobId, s.tokens⟩ s.active
        tasks := s.tasks ++ [⟨jobId, s.tokens⟩]
        tokens := s.tokens + 1 })

/-- `cancel_search`, up to the release of the lock. -/
def cancelSearch (s : Registry) (jobId : JobId) : Except String Unit × Registry :=
  match s.handle? jobId with
  | none => (.error s!"search {jobId} is not active", s)
  | some handle => (.ok (), { s with found := handle.cancel :: s.found })

/-- `cancel_active_searches`, up to the release of the lock. -/
def cancelActiveSearches (s : Registry) : Registry :=
  { s with active := [], drained := s.active.map ActiveSearchHandle.cancel ++ s.drained }

/-- A call of `cancel_search` cancels the token it has found. -/
def cancelFound (s : Registry) (token : Nat) : Option Registry :=
  if token ∈ s.found then
    some { s with found := s.found.erase token, cancelled := token :: s.cancelled }
  else none

/-- `cancel_active_searches` cancels the next of its tokens. -/
def cancelDrained (s : Registry) (token : Nat) : Option Registry :=
  if token ∈ s.drained then
    some { s with drained := s.drained.erase token, cancelled := token :: s.cancelled }
  else none

/-- The last thing a task does. -/
def finish (s : Registry) (task : SearchTask) : Option Registry :=
  if task ∈ s.tasks then
    some { s with
      active := Keyed.remove ActiveSearchHandle.jobId task.jobId s.active
      tasks := s.tasks.filter (· ≠ task) }
  else none

/-- A search that is running and has not been cancelled. -/
def Live (s : Registry) (task : SearchTask) : Prop :=
  task ∈ s.tasks ∧ task.cancel ∉ s.cancelled

/-- The registry knows the searches that are running. -/
structure Sound (s : Registry) : Prop where
  unique : ∀ t t', s.Live t → s.Live t' → t.jobId = t'.jobId → t = t'
  registered : ∀ t, s.Live t → t.cancel ∈ s.drained ∨ s.handle? t.jobId = some ⟨t.jobId, t.cancel⟩
  /-- Cancelling the search of an id finds the token of this one and no other. -/
  cancels : ∀ t, s.Live t → t.cancel ∉ s.drained →
    s.cancelSearch t.jobId = (.ok (), { s with found := t.cancel :: s.found })

/-- Background: tokens that were not drawn yet are nowhere. -/
structure Fresh (s : Registry) : Prop where
  tasks : ∀ t ∈ s.tasks, t.cancel < s.tokens
  active : ∀ handle ∈ s.active, handle.cancel < s.tokens
  found : ∀ token ∈ s.found, token < s.tokens
  drained : ∀ token ∈ s.drained, token < s.tokens
  cancelled : ∀ token ∈ s.cancelled, token < s.tokens

end Registry

inductive Op where
  | search (jobId : JobId) (ready : Except String Unit)
  | cancelSearch (jobId : JobId)
  | cancelFound (token : Nat)
  | cancelActiveSearches
  | cancelDrained (token : Nat)
  | finish (task : SearchTask)
deriving DecidableEq, Repr

def step (s : Registry) : Op → Option Registry
  | .search jobId ready => some (s.search jobId ready).2
  | .cancelSearch jobId => some (s.cancelSearch jobId).2
  | .cancelFound token => s.cancelFound token
  | .cancelActiveSearches => some s.cancelActiveSearches
  | .cancelDrained token => s.cancelDrained token
  | .finish task => s.finish task

namespace Registry

variable {s s' : Registry}

/-- What is found under the id of a search that is registered. -/
theorem Sound.of_registered (hunique : ∀ t t', s.Live t → s.Live t' → t.jobId = t'.jobId → t = t')
    (h : ∀ t, s.Live t → t.cancel ∈ s.drained ∨ s.handle? t.jobId = some ⟨t.jobId, t.cancel⟩) :
    s.Sound where
  unique := hunique
  registered := h
  cancels t ht hdrained := by rw [cancelSearch, (h t ht).resolve_left hdrained]

/-- A step that only adds to what is cancelled or in hand keeps the registry sound. -/
theorem Sound.mono (h : s.Sound) (hlive : ∀ t, s'.Live t → s.Live t)
    (hactive : s'.active = s.active)
    (hdrained : ∀ t, s'.Live t → t.cancel ∈ s.drained → t.cancel ∈ s'.drained) : s'.Sound := by
  refine .of_registered (fun t t' ht ht' => h.unique t t' (hlive t ht) (hlive t' ht'))
    fun t ht => (h.registered t (hlive t ht)).imp (hdrained t ht) fun hreg => ?_
  rw [handle?, hactive]
  exact hreg

theorem Sound.cancelSearch (h : s.Sound) (jobId : JobId) : (s.cancelSearch jobId).2.Sound := by
  rw [Registry.cancelSearch]
  split
  · exact h
  · exact h.mono (fun _ ht => ht) rfl fun _ _ hmem => hmem

theorem Sound.cancelFound (h : s.Sound) {token : Nat} (hcancel : s.cancelFound token = some s') :
    s'.Sound := by
  rw [Registry.cancelFound, Option.ite_none_right_eq_some] at hcancel
  obtain rfl := Option.some.inj hcancel.2
  exact h.mono (fun t ht => ⟨ht.1, fun hold => ht.2 (List.mem_cons_of_mem _ hold)⟩) rfl
    fun _ _ hmem => hmem

theorem Sound.cancelDrained (h : s.Sound) {token : Nat}
    (hcancel : s.cancelDrained token = some s') : s'.Sound := by
  rw [Registry.cancelDrained, Option.ite_none_right_eq_some] at hcancel
  obtain rfl := Option.some.inj hcancel.2
  refine h.mono (fun t ht => ⟨ht.1, fun hold => ht.2 (List.mem_cons_of_mem _ hold)⟩) rfl
    fun t ht hmem => ?_
  have hne : t.cancel ≠ token := fun heq => ht.2 (heq ▸ List.mem_cons_self)
  exact (List.mem_erase_of_ne hne).mpr hmem

/-- What was registered has been drained. -/
theorem Sound.cancelActiveSearches (h : s.Sound) : s.cancelActiveSearches.Sound := by
  refine .of_registered h.unique fun t ht => .inl ?_
  rcases h.registered t ht with hdrained | hreg
  · exact List.mem_append_right _ hdrained
  · have hentry := Keyed.mem_of_get hreg
    exact List.mem_append_left _ (List.mem_map_of_mem (f := ActiveSearchHandle.cancel) hentry)

/-- Only `search` draws a token, and it is the next one. -/
theorem Fresh.search (h : s.Fresh) (jobId : JobId) (ready : Except String Unit) :
    (s.search jobId ready).2.Fresh := by
  cases ready with
  | error cause => exact h
  | ok =>
    rw [Registry.search]
    split_ifs
    · exact h
    · have hlater : ∀ {n}, n < s.tokens → n < s.tokens + 1 := Nat.lt_succ_of_lt
      refine ⟨fun t ht => ?_, fun handle hmem => ?_, fun _ hmem => hlater (h.found _ hmem),
        fun _ hmem => hlater (h.drained _ hmem), fun _ hmem => hlater (h.cancelled _ hmem)⟩
      · rcases List.mem_append.mp ht with ht | ht
        · exact hlater (h.tasks t ht)
        · rw [List.mem_singleton.mp ht]
          exact Nat.lt_succ_self _
      · rcases List.mem_cons.mp hmem with rfl | hmem
        · exact Nat.lt_succ_self _
        · exact hlater (h.active handle (List.mem_of_mem_filter hmem))

theorem Fresh.cancelSearch (h : s.Fresh) (jobId : JobId) : (s.cancelSearch jobId).2.Fresh := by
  rw [Registry.cancelSearch]
  split
  · exact h
  next handle hhandle =>
    refine { h with found := fun token hmem => ?_ }
    rcases List.mem_cons.mp hmem with rfl | hmem
    · exact h.active handle (Keyed.mem_of_get hhandle)
    · exact h.found token hmem

theorem Fresh.cancelActiveSearches (h : s.Fresh) : s.cancelActiveSearches.Fresh := by
  refine { h with active := fun _ hmem => ?_, drained := fun token hmem => ?_ }
  · cases hmem
  · rcases List.mem_append.mp hmem with hmem | hmem
    · obtain ⟨handle, hhandle, rfl⟩ := List.mem_map.mp hmem
      exact h.active handle hhandle
    · exact h.drained token hmem

theorem Fresh.step (h : s.Fresh) {op : Op} (hstep : step s op = some s') : s'.Fresh := by
  cases op with
  | search jobId ready => exact Option.some.inj hstep ▸ h.search jobId ready
  | cancelSearch jobId => exact Option.some.inj hstep ▸ h.cancelSearch jobId
  | cancelFound token =>
    rw [SearchRegistry.step, Registry.cancelFound, Option.ite_none_right_eq_some] at hstep
    obtain ⟨hfound, hs'⟩ := hstep
    obtain rfl := Option.some.inj hs'
    exact { h with
      found := fun n hmem => h.found n (List.mem_of_mem_erase hmem)
      cancelled := List.forall_mem_cons.mpr ⟨h.found token hfound, h.cancelled⟩ }
  | cancelActiveSearches => exact Option.some.inj hstep ▸ h.cancelActiveSearches
  | cancelDrained token =>
    rw [SearchRegistry.step, Registry.cancelDrained, Option.ite_none_right_eq_some] at hstep
    obtain ⟨hdrained, hs'⟩ := hstep
    obtain rfl := Option.some.inj hs'
    exact { h with
      drained := fun n hmem => h.drained n (List.mem_of_mem_erase hmem)
      cancelled := List.forall_mem_cons.mpr ⟨h.drained token hdrained, h.cancelled⟩ }
  | finish task =>
    rw [SearchRegistry.step, finish, Option.ite_none_right_eq_some] at hstep
    obtain rfl := Option.some.inj hstep.2
    exact { h with
      tasks := fun t ht => h.tasks t (List.mem_of_mem_filter ht)
      active := fun handle hmem => h.active handle (List.mem_of_mem_filter hmem) }

end Registry

end Overlord.Emule.SearchRegistry
