import Overlord.Emule.Agent.NetworkingConfig
import Overlord.Machine.Calls
import Overlord.Machine.Run

/-!
# The slot of the P2P runtime

`reconcile_runtime` and `stop_runtime` of `agent/p2p_runtime.rs`.  A reconciliation reads the
configuration, stops the runtime in the slot, builds a new one, starts its tasks and stores it.
Handlers and background tasks may make these calls at any time, and nothing is held from one
`await` to the next but the lock of the slot while a runtime is taken out and its NAT manager
stopped: the guard lives as long as the `if let`.

Every call is at one of its `await`s (`Call`).  A runtime is in the slot only after its tasks are
spawned, and nobody else uses the list of its tasks, so a call that has taken it out aborts them
without waiting.  `NatManager::start` and `stop` do not fail.  `running`, the numbers of the
runtimes and `quiet` are bookkeeping.

* `owned_iff` — every runtime that runs is in the slot or belongs to a reconciliation in progress,
  along a run in which each runtime is stored into an empty slot, and only then;
* `at_most_one_runtime` — nothing runs after a stop has returned, until the next reconciliation, if
  moreover no stop returns while a reconciliation is in progress.

Two reconciliations that overlap both build and store a runtime, and the first one is never stopped;
one that overlaps with a stop stores its runtime after it (`overlapping_calls_leak`).
-/

set_option autoImplicit false

namespace Overlord.Emule.P2pRuntime

open Machine Networking

/-- `AgentNetworkRuntime`, by what it was built from. -/
structure AgentNetworkRuntime where
  id : Nat
  config : EmuleAgentConfig
  bindIp : String
deriving DecidableEq, Repr

/-- Where `stop_runtime` is. -/
inductive StopPhase where
  /-- Waiting for the slot. -/
  | waiting
  /-- The runtime is taken out and its tasks are aborted; waiting for the NAT manager. -/
  | releasing
deriving DecidableEq, Repr

/-- Where a call is. -/
inductive Call where
  /-- `stop_runtime`, called by `stop`. -/
  | stop (phase : StopPhase)
  /-- `reconcile_runtime`: waiting for the configuration. -/
  | reading
  /-- Waiting to write the selection. -/
  | selecting (config : EmuleAgentConfig) (binding : ResolvedInterfaceBindingReport)
  /-- In `stop_runtime`, with what is to be built afterwards. -/
  | stopping (phase : StopPhase) (next : Option (EmuleAgentConfig × String))
  /-- In `build_runtime`. -/
  | building (config : EmuleAgentConfig) (bindIp : String)
  /-- The DHT task runs; waiting for the NAT manager and spawning the other tasks. -/
  | starting (runtime : AgentNetworkRuntime)
  /-- Waiting for the slot. -/
  | storing (runtime : AgentNetworkRuntime)
  /-- Waiting to write how it went. -/
  | noting (error : Option String)
  | returned
deriving DecidableEq, Repr

/-- The runtime that a call has started and not yet stored. -/
def Call.runtime? : Call → Option AgentNetworkRuntime
  | .starting runtime => some runtime
  | .storing runtime => some runtime
  | _ => none

/-- A reconciliation in progress. -/
def Call.reconciling : Call → Bool
  | .stop _ => false
  | .returned => false
  | _ => true

structure Agent where
  selection : ResolvedInterfaceBindingReport
  slot : Option AgentNetworkRuntime := none
  /-- The call that holds the lock of the slot. -/
  locked : Option Nat := none
  calls : List Call := []
  /-- The runtimes whose tasks were started and not aborted. -/
  running : List Nat := []
  built : Nat := 0
  /-- A stop has returned and no reconciliation was called since. -/
  quiet : Bool := false
deriving DecidableEq

inductive Op where
  /-- `reconcile_runtime` is called. -/
  | reconcile
  /-- `stop` calls `stop_runtime`. -/
  | stop
  /-- The configuration is read and the interfaces are detected. -/
  | configured (call : Nat) (config : EmuleAgentConfig) (interfaces : List AgentInterface)
  | selected (call : Nat)
  /-- A call gets the slot and takes the runtime out. -/
  | take (call : Nat)
  | natStopped (call : Nat)
  | built (call : Nat) (result : Except String Unit)
  /-- The NAT manager is started and the background tasks are spawned. -/
  | started (call : Nat)
  /-- A call gets the slot and stores its runtime. -/
  | store (call : Nat)
  | noted (call : Nat)

def Agent.setCall (s : Agent) (i : Nat) (call : Call) : Agent :=
  { s with calls := s.calls.set i call }

/-- What is to be built for a binding. -/
def target (config : EmuleAgentConfig) (binding : ResolvedInterfaceBindingReport) :
    Option (EmuleAgentConfig × String) :=
  if binding.selectionConfirmed then binding.bindIp.map (config, ·) else none

/-- A reconciliation after `stop_runtime`. -/
def afterStop : Option (EmuleAgentConfig × String) → Call
  | some (config, bindIp) => .building config bindIp
  | none => .returned

/-- `stop_runtime` with the slot; `empty` is the agent if there is nothing to stop. -/
def Agent.takeRuntime (s : Agent) (i : Nat) (releasing : Call) (empty : Agent) : Option Agent :=
  if s.locked.isSome then none
  else
    match s.slot with
    | none => some empty
    | some runtime =>
      some { s.setCall i releasing with
        slot := none, locked := some i, running := s.running.filter (· ≠ runtime.id) }

def step (s : Agent) : Op → Option Agent
  | .reconcile => some { s with calls := s.calls ++ [.reading], quiet := false }
  | .stop => some { s with calls := s.calls ++ [.stop .waiting] }
  | .configured i config interfaces =>
    match s.calls[i]? with
    | some .reading =>
      some (s.setCall i
        (.selecting config (resolveP2pSelectionState config interfaces none false false)))
    | _ => none
  | .selected i =>
    match s.calls[i]? with
    | some (.selecting config binding) =>
      some { s.setCall i (.stopping .waiting (target config binding)) with selection := binding }
    | _ => none
  | .take i =>
    match s.calls[i]? with
    | some (.stop .waiting) =>
      s.takeRuntime i (.stop .releasing) { s.setCall i .returned with quiet := true }
    | some (.stopping .waiting next) =>
      s.takeRuntime i (.stopping .releasing next) (s.setCall i (afterStop next))
    | _ => none
  | .natStopped i =>
    match s.calls[i]? with
    | some (.stop .releasing) =>
      some { s.setCall i .returned with locked := none, quiet := true }
    | some (.stopping .releasing next) =>
      some { s.setCall i (afterStop next) with locked := none }
    | _ => none
  | .built i result =>
    match s.calls[i]?, result with
    | some (.building config bindIp), .ok () =>
      some { s.setCall i (.starting ⟨s.built, config, bindIp⟩) with
        running := s.running ++ [s.built], built := s.built + 1 }
    | some (.building _ _), .error error => some (s.setCall i (.noting (some error)))
    | _, _ => none
  | .started i =>
    match s.calls[i]? with
    | some (.starting runtime) => some (s.setCall i (.storing runtime))
    | _ => none
  | .store i =>
    match s.calls[i]? with
    | some (.storing runtime) =>
      -- whatever is in the slot is dropped, and its tasks go on
      if s.locked.isSome then none
      else some { s.setCall i (.noting none) with slot := some runtime }
    | _ => none
  | .noted i =>
    match s.calls[i]? with
    | some (.noting none) =>
      some { s.setCall i .returned with
        selection.state := .applied, selection.ready := true, selection.lastError := none }
    | some (.noting (some error)) =>
      some { s.setCall i .returned with
        selection.state := .error, selection.lastError := some error }
    | _ => none

/-- Every runtime that runs is in the slot or belongs to a reconciliation in progress. -/
def Owned (s : Agent) : Prop :=
  ∀ id ∈ s.running, (∃ runtime, s.slot = some runtime ∧ runtime.id = id) ∨
    ∃ call ∈ s.calls, ∃ runtime, call.runtime? = some runtime ∧ runtime.id = id

/-- Nothing runs after a stop has returned, until a reconciliation is called. -/
def Quiet (s : Agent) : Prop := s.quiet = true → s.running = []

/-- A runtime is stored into an empty slot. -/
def StoresIntoEmpty (s : Agent) : Op → Prop
  | .store _ => s.slot = none
  | _ => True

/-- No reconciliation is in progress. -/
def Agent.Idle (s : Agent) : Prop := ∀ call ∈ s.calls, call.reconciling = false

/-- A stop returns only while no reconciliation is in progress. -/
def StopsAlone (s : Agent) : Op → Prop
  | .take i => s.calls[i]? = some (.stop .waiting) → s.slot = none → s.Idle
  | .natStopped i => s.calls[i]? = some (.stop .releasing) → s.Idle
  | _ => True

instance (s : Agent) : Decidable s.Idle := inferInstanceAs (Decidable (∀ call ∈ s.calls, _))

instance (s : Agent) : ∀ op, Decidable (StoresIntoEmpty s op ∧ StopsAlone s op)
  | .store _ => inferInstanceAs (Decidable (s.slot = none ∧ True))
  | .take i => inferInstanceAs (Decidable (True ∧
      (s.calls[i]? = some (.stop .waiting) → s.slot = none → s.Idle)))
  | .natStopped i => inferInstanceAs (Decidable (True ∧
      (s.calls[i]? = some (.stop .releasing) → s.Idle)))
  | .reconcile | .stop | .configured _ _ _ | .selected _ | .built _ _ | .started _ | .noted _ =>
    .isTrue ⟨trivial, trivial⟩

/-! ## What a step does to the runtimes -/

/-- The number of the runtime that a call has started and not yet stored. -/
def Call.owns? (call : Call) : Option Nat := call.runtime?.map (·.id)

/-- The runtimes that are in the slot or belong to a call. -/
def Agent.owners (s : Agent) : List Nat :=
  (s.slot.map (·.id)).toList ++ s.calls.filterMap Call.owns?

theorem owned_iff_subset {s : Agent} : Owned s ↔ ∀ id ∈ s.running, id ∈ s.owners := by
  refine forall₂_congr fun id _ => ?_
  simp [Agent.owners, Call.owns?]

/-- What a step can do to the runtimes. -/
inductive Effect (s s' : Agent) : Op → Prop
  | same {op : Op} (hop : StoresIntoEmpty s op) (howners : s'.owners = s.owners)
      (hrunning : s'.running = s.running) (hbuilt : s'.built = s.built) : Effect s s' op
  | started {i : Nat} (howners : s'.owners.Perm (s.built :: s.owners))
      (hrunning : s'.running = s.running ++ [s.built]) (hbuilt : s'.built = s.built + 1) :
      Effect s s' (.built i (.ok ()))
  | taken {i : Nat} (id : Nat) (howners : s.owners = id :: s'.owners)
      (hrunning : s'.running = s.running.filter (· ≠ id)) (hbuilt : s'.built = s.built) :
      Effect s s' (.take i)
  | stored {i : Nat} (howners : s.owners.Perm ((s.slot.map (·.id)).toList ++ s'.owners))
      (hrunning : s'.running = s.running) (hbuilt : s'.built = s.built) : Effect s s' (.store i)

section

variable {s s' : Agent} {i : Nat} {call call' : Call}

theorem owners_set_of_eq (h : s.calls[i]? = some call) (heq : call'.owns? = call.owns?) :
    (s.setCall i call').owners = s.owners :=
  congrArg (_ ++ ·) (filterMap_set_call_of_eq Call.owns? h heq)

theorem owns?_afterStop (next : Option (EmuleAgentConfig × String)) :
    (afterStop next).owns? = none := by
  cases next <;> rfl

/-- A call that goes on and leaves the runtimes alone. -/
theorem Effect.of_set {op : Op} (hop : StoresIntoEmpty s op) (h : s.calls[i]? = some call)
    (hcalls : s'.calls = s.calls.set i call') (heq : call'.owns? = call.owns?)
    (hslot : s'.slot = s.slot) (hrunning : s'.running = s.running) (hbuilt : s'.built = s.built) :
    Effect s s' op := by
  refine .same hop ?_ hrunning hbuilt
  rw [Agent.owners, hslot, hcalls]
  exact owners_set_of_eq h heq

theorem Effect.take {releasing : Call} {empty : Agent} (h : s.calls[i]? = some call)
    (hcall : call.owns? = none) (hreleasing : releasing.owns? = none)
    (hempty : Effect s empty (.take i)) (htake : s.takeRuntime i releasing empty = some s') :
    Effect s s' (.take i) := by
  rw [Agent.takeRuntime] at htake
  split at htake
  · cases htake
  · split at htake
    next => exact Option.some.inj htake ▸ hempty
    next runtime hslot =>
      obtain rfl := Option.some.inj htake
      refine .taken runtime.id ?_ rfl rfl
      have hcalls : (s.calls.set i releasing).filterMap Call.owns? = s.calls.filterMap Call.owns? :=
        filterMap_set_call_of_eq Call.owns? h (hreleasing.trans hcall.symm)
      show (s.slot.map (·.id)).toList ++ _ = runtime.id :: (s.calls.set i releasing).filterMap _
      rw [hslot, hcalls]
      rfl

theorem effect_of_step {op : Op} (hstep : step s op = some s') : Effect s s' op := by
  cases op with
  | reconcile =>
    obtain rfl := Option.some.inj hstep
    refine .same trivial ?_ rfl rfl
    exact congrArg (_ ++ ·) ((filterMap_add_call _ _ _).trans (List.append_nil _))
  | stop =>
    obtain rfl := Option.some.inj hstep
    refine .same trivial ?_ rfl rfl
    exact congrArg (_ ++ ·) ((filterMap_add_call _ _ _).trans (List.append_nil _))
  | configured i config interfaces =>
    simp only [step] at hstep
    split at hstep
    next h => exact Option.some.inj hstep ▸ .of_set trivial h rfl rfl rfl rfl rfl
    · cases hstep
  | selected i =>
    simp only [step] at hstep
    split at hstep
    next h => exact Option.some.inj hstep ▸ .of_set trivial h rfl rfl rfl rfl rfl
    · cases hstep
  | take i =>
    simp only [step] at hstep
    split at hstep
    next h =>
      refine .take h rfl rfl ?_ hstep
      exact .of_set trivial h rfl rfl rfl rfl rfl
    next next h =>
      refine .take h rfl rfl ?_ hstep
      exact .of_set trivial h rfl (owns?_afterStop next) rfl rfl rfl
    · cases hstep
  | natStopped i =>
    simp only [step] at hstep
    split at hstep
    next h => exact Option.some.inj hstep ▸ .of_set trivial h rfl rfl rfl rfl rfl
    next next h =>
      exact Option.some.inj hstep ▸ .of_set trivial h rfl (owns?_afterStop next) rfl rfl rfl
    · cases hstep
  | built i result =>
    simp only [step] at hstep
    split at hstep
    next config bindIp h =>
      obtain rfl := Option.some.inj hstep
      refine .started ?_ rfl rfl
      obtain ⟨front, back, hbefore, hafter⟩ := filterMap_set_call Call.owns? h
      show (_ ++ (s.calls.set i _).filterMap _).Perm (_ :: (_ ++ s.calls.filterMap _))
      rw [hbefore, hafter]
      simp only [Call.owns?, Call.runtime?, Option.map_some, Option.map_none, Option.toList_some,
        Option.toList_none, List.append_nil, ← List.append_assoc]
      rw [List.append_assoc _ [s.built]]
      exact List.perm_middle
    next h => exact Option.some.inj hstep ▸ .of_set trivial h rfl rfl rfl rfl rfl
    · cases hstep
  | started i =>
    simp only [step] at hstep
    split at hstep
    next h => exact Option.some.inj hstep ▸ .of_set trivial h rfl rfl rfl rfl rfl
    · cases hstep
  | store i =>
    simp only [step] at hstep
    split at hstep
    next runtime h =>
      split at hstep
      · cases hstep
      · obtain rfl := Option.some.inj hstep
        refine .stored ?_ rfl rfl
        obtain ⟨front, back, hbefore, hafter⟩ := filterMap_set_call Call.owns? h
        show (_ ++ s.calls.filterMap _).Perm (_ ++ (_ ++ (s.calls.set i _).filterMap _))
        rw [hbefore, hafter]
        refine List.Perm.append_left _ ?_
        simp only [Call.owns?, Call.runtime?, Option.map_some, Option.map_none, Option.toList_some,
          Option.toList_none, List.append_nil]
        rw [List.append_assoc]
        exact List.perm_middle
    · cases hstep
  | noted i =>
    simp only [step] at hstep
    split at hstep
    next h => exact Option.some.inj hstep ▸ .of_set trivial h rfl rfl rfl rfl rfl
    next h => exact Option.some.inj hstep ▸ .of_set trivial h rfl rfl rfl rfl rfl
    · cases hstep

end

/-! ## Who owns what runs -/

/-- What is owned runs, and belongs to one owner. -/
structure Sound (s : Agent) : Prop where
  nodup : s.owners.Nodup
  running : ∀ id ∈ s.owners, id ∈ s.running
  bound : ∀ id ∈ s.running, id < s.built

theorem Sound.step {s s' : Agent} {op : Op} (h : Sound s) (hstep : step s op = some s') :
    Sound s' := by
  cases effect_of_step hstep with
  | same hop howners hrunning hbuilt =>
    exact ⟨howners ▸ h.nodup, howners ▸ hrunning ▸ h.running, hrunning ▸ hbuilt ▸ h.bound⟩
  | started howners hrunning hbuilt =>
    have hfresh : s.built ∉ s.owners := fun hmem =>
      Nat.lt_irrefl _ (h.bound _ (h.running _ hmem))
    refine ⟨howners.nodup_iff.mpr (List.nodup_cons.mpr ⟨hfresh, h.nodup⟩), ?_, ?_⟩
    · intro id hid
      rw [hrunning, List.mem_append, List.mem_singleton]
      rcases List.mem_cons.mp (howners.subset hid) with rfl | hid
      · exact .inr rfl
      · exact .inl (h.running id hid)
    · intro id hid
      rw [hrunning, List.mem_append, List.mem_singleton] at hid
      rw [hbuilt]
      rcases hid with hid | rfl
      · exact Nat.lt_succ_of_lt (h.bound id hid)
      · exact Nat.lt_succ_self _
  | taken id howners hrunning hbuilt =>
    have hnodup := h.nodup
    rw [howners, List.nodup_cons] at hnodup
    refine ⟨hnodup.2, ?_, ?_⟩
    · intro id' hid'
      rw [hrunning, List.mem_filter, decide_eq_true_eq]
      exact ⟨h.running id' (howners ▸ List.mem_cons_of_mem _ hid'),
        fun heq => hnodup.1 (heq ▸ hid')⟩
    · intro id' hid'
      rw [hrunning, List.mem_filter] at hid'
      exact hbuilt ▸ h.bound id' hid'.1
  | stored howners hrunning hbuilt =>
    refine ⟨(List.nodup_append.mp (howners.nodup_iff.mp h.nodup)).2.1, ?_, ?_⟩
    · intro id hid
      exact hrunning ▸ h.running id (howners.symm.subset (List.mem_append_right _ hid))
    · exact hrunning ▸ hbuilt ▸ h.bound

/-- A step keeps the runtimes owned exactly if it does not store over one. -/
theorem Sound.owned_step_iff {s s' : Agent} {op : Op} (h : Sound s) (howned : Owned s)
    (hstep : P2pRuntime.step s op = some s') : Owned s' ↔ StoresIntoEmpty s op := by
  rw [owned_iff_subset] at howned ⊢
  cases effect_of_step hstep with
  | same hop howners hrunning _ =>
    refine iff_of_true ?_ hop
    rw [howners, hrunning]
    exact howned
  | started howners hrunning _ =>
    refine iff_of_true ?_ trivial
    intro id hid
    rw [hrunning, List.mem_append, List.mem_singleton] at hid
    refine howners.symm.subset ?_
    rcases hid with hid | rfl
    · exact List.mem_cons_of_mem _ (howned id hid)
    · exact List.mem_cons_self
  | taken id howners hrunning _ =>
    refine iff_of_true ?_ trivial
    intro id' hid'
    rw [hrunning, List.mem_filter, decide_eq_true_eq] at hid'
    have hmem := howned id' hid'.1
    rw [howners, List.mem_cons] at hmem
    exact hmem.resolve_left hid'.2
  | stored howners hrunning _ =>
    show _ ↔ s.slot = none
    rw [hrunning]
    constructor
    · intro howned'
      refine Option.eq_none_iff_forall_ne_some.mpr fun runtime hslot => ?_
      -- the runtime that was in the slot runs, and has lost its owner
      rw [hslot] at howners
      have hnodup := howners.nodup_iff.mp h.nodup
      have hmem := h.running runtime.id (howners.symm.subset List.mem_cons_self)
      exact (List.nodup_cons.mp hnodup).1 (howned' _ hmem)
    · intro hslot id hid
      rw [hslot] at howners
      exact howners.subset (howned id hid)

theorem sound_start (selection : ResolvedInterfaceBindingReport) : Sound { selection } :=
  ⟨List.nodup_nil, nofun, nofun⟩

/-- **No runtime is lost.**  Along a run every runtime that runs is in the slot or belongs to a
reconciliation in progress exactly if no runtime is stored over another one. -/
theorem owned_iff (selection : ResolvedInterfaceBindingReport) (ops : List Op) :
    Always step Owned { selection } ops ↔ Meets step StoresIntoEmpty { selection } ops :=
  always_iff_meets (J := Sound) (fun _ _ _ h hstep => h.step hstep)
    (fun _ _ _ h howned hstep => h.owned_step_iff howned hstep) (sound_start selection) nofun

/-! ## After a stop -/

/-- Where a call is that holds the lock of the slot. -/
def Call.releases : Call → Bool
  | .stop .releasing => true
  | .stopping .releasing _ => true
  | _ => false

/-- A call that holds the lock of the slot has emptied it, and after a stop has returned there is
nothing in the slot and no reconciliation in progress. -/
structure Still (s : Agent) : Prop where
  holder : ∀ i call, s.calls[i]? = some call → call.releases = true → s.locked = some i
  empty : s.locked ≠ none → s.slot = none
  quiet : s.quiet = true → s.slot = none ∧ s.Idle

theorem Call.runtime?_of_not_reconciling {call : Call} (h : call.reconciling = false) :
    call.runtime? = none := by
  cases call <;> first | rfl | cases h

theorem Still.running {s : Agent} (h : Still s) (howned : Owned s) : Quiet s := by
  intro hquiet
  obtain ⟨hslot, hidle⟩ := h.quiet hquiet
  refine List.eq_nil_iff_forall_not_mem.mpr fun id hid => ?_
  rcases howned id hid with ⟨runtime, hruntime, -⟩ | ⟨call, hcall, runtime, hruntime, -⟩
  · rw [hslot] at hruntime
    cases hruntime
  · rw [Call.runtime?_of_not_reconciling (hidle call hcall)] at hruntime
    cases hruntime

section

variable {s s' : Agent} {i : Nat} {call call' : Call}

theorem holder_set (hholder : ∀ j c, s.calls[j]? = some c → c.releases = true → s.locked = some j)
    (hcall : call'.releases = false) :
    ∀ j c, (s.calls.set i call')[j]? = some c → c.releases = true → s.locked = some j := by
  intro j c hj hc
  rw [List.getElem?_set] at hj
  split at hj
  · split at hj
    · rw [← Option.some.inj hj, hcall] at hc
      cases hc
    · cases hj
  · exact hholder j c hj hc

theorem Agent.Idle.set (h : s.Idle) (hcall : call'.reconciling = false) :
    (s.setCall i call').Idle := by
  intro c hc
  rcases List.mem_or_eq_of_mem_set hc with hc | rfl
  · exact h c hc
  · exact hcall

/-- A reconciliation in progress goes on, so no stop has returned since it was called. -/
theorem Still.not_quiet (h : Still s) (hi : s.calls[i]? = some call)
    (hcall : call.reconciling = true) : s.quiet = false := by
  by_contra hquiet
  have hidle := (h.quiet (by simpa using hquiet)).2 call (List.mem_of_getElem? hi)
  rw [hcall] at hidle
  cases hidle

theorem releases_afterStop (next : Option (EmuleAgentConfig × String)) :
    (afterStop next).releases = false := by
  cases next <;> rfl

/-- A reconciliation goes on, and neither takes the lock of the slot nor gives it back. -/
theorem Still.of_set (h : Still s) (hi : s.calls[i]? = some call) (hcall : call.reconciling = true)
    (hcalls : s'.calls = s.calls.set i call') (hcall' : call'.releases = false)
    (hlocked : s'.locked = s.locked) (hquiet : s'.quiet = s.quiet)
    (hempty : s'.locked ≠ none → s'.slot = none) : Still s' where
  holder := by
    rw [hcalls, hlocked]
    exact holder_set h.holder hcall'
  empty := hempty
  quiet hq := by
    rw [hquiet, h.not_quiet hi hcall] at hq
    cases hq

/-- A call gets the slot in `stop_runtime`. -/
theorem Still.take {releasing : Call} {empty : Agent} (h : Still s)
    (hempty : s.slot = none → Still empty)
    (htake : s.takeRuntime i releasing empty = some s') : Still s' := by
  rw [Agent.takeRuntime] at htake
  split at htake
  · cases htake
  next hlocked =>
    have hfree : s.locked = none := by simpa using hlocked
    split at htake
    next hslot => exact Option.some.inj htake ▸ hempty hslot
    next runtime hslot =>
      obtain rfl := Option.some.inj htake
      refine ⟨?_, fun _ => rfl, fun hquiet => ?_⟩
      · intro j c hj hc
        by_cases hij : i = j
        · exact congrArg some hij
        · have hj' : s.calls[j]? = some c := (List.getElem?_set_ne hij).symm.trans hj
          rw [h.holder j c hj' hc] at hfree
          cases hfree
      · rw [(h.quiet hquiet).1] at hslot
        cases hslot

/-- The NAT manager is stopped, and the call that waited for it gives the lock back. -/
theorem Still.release (h : Still s) (hi : s.calls[i]? = some call) (hcall : call.releases = true)
    (hcalls : s'.calls = s.calls.set i call') (hcall' : call'.releases = false)
    (hlocked : s'.locked = none) (hquiet : s'.quiet = true → s'.slot = none ∧ s'.Idle) :
    Still s' where
  holder := by
    rw [hcalls]
    intro j c hj hc
    have hother := holder_set h.holder hcall' j c hj hc
    rw [h.holder i call hi hcall] at hother
    obtain rfl := Option.some.inj hother
    rw [List.getElem?_set_self (List.getElem?_eq_some_iff.mp hi).1] at hj
    rw [← Option.some.inj hj, hcall'] at hc
    cases hc
  empty hne := absurd hlocked hne
  quiet := hquiet

theorem Still.step {op : Op} (h : Still s) (halone : StopsAlone s op)
    (hstep : step s op = some s') : Still s' := by
  cases op with
  | reconcile =>
    obtain rfl := Option.some.inj hstep
    refine ⟨?_, h.empty, nofun⟩
    intro j c hj hc
    rcases getElem?_add_call hj with hj | rfl
    · exact h.holder j c hj hc
    · cases hc
  | stop =>
    obtain rfl := Option.some.inj hstep
    refine ⟨?_, h.empty, fun hquiet => ⟨(h.quiet hquiet).1, ?_⟩⟩
    · intro j c hj hc
      rcases getElem?_add_call hj with hj | rfl
      · exact h.holder j c hj hc
      · cases hc
    · intro c hc
      rcases List.mem_append.mp hc with hc | hc
      · exact (h.quiet hquiet).2 c hc
      · exact List.mem_singleton.mp hc ▸ rfl
  | configured i config interfaces =>
    simp only [P2pRuntime.step] at hstep
    split at hstep
    next hi => exact Option.some.inj hstep ▸ h.of_set hi rfl rfl rfl rfl rfl h.empty
    · cases hstep
  | selected i =>
    simp only [P2pRuntime.step] at hstep
    split at hstep
    next hi => exact Option.some.inj hstep ▸ h.of_set hi rfl rfl rfl rfl rfl h.empty
    · cases hstep
  | take i =>
    simp only [P2pRuntime.step] at hstep
    split at hstep
    next hi =>
      refine h.take ?_ hstep
      intro hslot
      exact ⟨holder_set h.holder rfl, h.empty, fun _ => ⟨hslot, (halone hi hslot).set rfl⟩⟩
    next next hi =>
      refine h.take ?_ hstep
      intro _
      exact h.of_set hi rfl rfl (releases_afterStop next) rfl rfl h.empty
    · cases hstep
  | natStopped i =>
    simp only [P2pRuntime.step] at hstep
    split at hstep
    next hi =>
      obtain rfl := Option.some.inj hstep
      have hslot : s.slot = none := h.empty (by rw [h.holder i _ hi rfl]; nofun)
      exact h.release hi rfl rfl rfl rfl fun _ => ⟨hslot, (halone hi).set rfl⟩
    next next hi =>
      obtain rfl := Option.some.inj hstep
      refine h.release hi rfl rfl (releases_afterStop next) rfl fun hquiet => ?_
      have hagain : s.quiet = true := hquiet
      rw [h.not_quiet hi rfl] at hagain
      cases hagain
    · cases hstep
  | built i result =>
    simp only [P2pRuntime.step] at hstep
    split at hstep
    next hi => exact Option.some.inj hstep ▸ h.of_set hi rfl rfl rfl rfl rfl h.empty
    next hi => exact Option.some.inj hstep ▸ h.of_set hi rfl rfl rfl rfl rfl h.empty
    · cases hstep
  | started i =>
    simp only [P2pRuntime.step] at hstep
    split at hstep
    next hi => exact Option.some.inj hstep ▸ h.of_set hi rfl rfl rfl rfl rfl h.empty
    · cases hstep
  | store i =>
    simp only [P2pRuntime.step] at hstep
    split at hstep
    next hi =>
      split at hstep
      · cases hstep
      next hlocked =>
        have hfree : s.locked = none := by simpa using hlocked
        exact Option.some.inj hstep ▸
          h.of_set hi rfl rfl rfl rfl rfl fun hne => absurd hfree hne
    · cases hstep
  | noted i =>
    simp only [P2pRuntime.step] at hstep
    split at hstep
    next hi => exact Option.some.inj hstep ▸ h.of_set hi rfl rfl rfl rfl rfl h.empty
    next hi => exact Option.some.inj hstep ▸ h.of_set hi rfl rfl rfl rfl rfl h.empty
    · cases hstep

end

theorem still_start (selection : ResolvedInterfaceBindingReport) : Still { selection } where
  holder _ _ hi _ := absurd (List.mem_of_getElem? hi) List.not_mem_nil
  empty _ := rfl
  quiet hquiet := absurd hquiet Bool.false_ne_true

theorem owned_and_still_step {s s' : Agent} {op : Op} (h : Sound s ∧ Owned s ∧ Still s)
    (hop : StoresIntoEmpty s op ∧ StopsAlone s op) (hstep : step s op = some s') :
    Sound s' ∧ Owned s' ∧ Still s' := by
  obtain ⟨hsound, howned, hstill⟩ := h
  exact ⟨hsound.step hstep, (hsound.owned_step_iff howned hstep).mpr hop.1,
    hstill.step hop.2 hstep⟩

/-- **At most one runtime.**  The runtimes are owned exactly along the runs that store no runtime
over another one; if moreover no stop returns while a reconciliation is in progress, nothing runs
after a stop has returned until a reconciliation is called. -/
theorem at_most_one_runtime (selection : ResolvedInterfaceBindingReport) (ops : List Op) :
    (Always step Owned { selection } ops ↔ Meets step StoresIntoEmpty { selection } ops) ∧
      (Meets step (fun s op => StoresIntoEmpty s op ∧ StopsAlone s op) { selection } ops →
        Always step (fun s => Owned s ∧ Quiet s) { selection } ops) := by
  refine ⟨owned_iff selection ops, fun hmeets done s hdone hrun => ?_⟩
  obtain ⟨-, howned, hstill⟩ := (run_of_meets (H := fun _ _ => True) (fun _ => trivial)
    (fun _ _ _ _ _ => trivial)
    (fun _ _ _ h hop hstep => ⟨owned_and_still_step h hop hstep, trivial⟩)
    ⟨sound_start selection, nofun, still_start selection⟩ (hmeets.of_prefix hdone) hrun).1
  exact ⟨howned, hstill.running howned⟩

/-- A configuration that is bound to an address, on a Kad port. -/
def boundConfig (port : UInt16) : EmuleAgentConfig :=
  { p2p.bindIp := some "10.0.0.2", p2p.selectionConfirmed := true, p2p.kad.listenPort := port }

/-- The selection of an agent that has not reconciled yet. -/
def noSelection : ResolvedInterfaceBindingReport :=
  resolveP2pSelectionState {} [] none false false

theorem reconciled_twice_and_stopped :
    let ops : List Op := [.reconcile, .configured 0 (boundConfig 41000) [], .selected 0, .take 0,
      .built 0 (.ok ()), .started 0, .store 0, .noted 0, .reconcile,
      .configured 1 (boundConfig 41010) [], .selected 1, .take 1, .natStopped 1, .built 1 (.ok ()),
      .started 1, .store 1, .noted 1, .stop, .take 2, .natStopped 2]
    Meets step (fun s op => StoresIntoEmpty s op ∧ StopsAlone s op) { selection := noSelection }
        ops ∧
      Always step (fun s => Owned s ∧ Quiet s) { selection := noSelection } ops ∧
      (run step { selection := noSelection } ops).map (fun s => (s.running, s.quiet)) =
        some ([], true) := by
  intro ops
  have hmeets : Meets step (fun s op => StoresIntoEmpty s op ∧ StopsAlone s op)
      { selection := noSelection } ops := by decide +kernel
  exact ⟨hmeets, (at_most_one_runtime noSelection ops).2 hmeets, by decide +kernel⟩

/-- **Overlapping calls.**  Two reconciliations find the slot empty, and both store a runtime; a
stop then takes only the second one.  A reconciliation that is building while a stop finds the slot
empty stores its runtime when the stop has returned. -/
theorem overlapping_calls_leak :
    (run step { selection := noSelection } [.reconcile, .reconcile,
        .configured 0 (boundConfig 41000) [], .configured 1 (boundConfig 41010) [],
        .selected 0, .selected 1, .take 0, .take 1, .built 0 (.ok ()), .built 1 (.ok ()),
        .started 0, .started 1, .store 0, .store 1, .noted 0, .noted 1, .stop, .take 2,
        .natStopped 2]).map (fun s => (s.slot, s.calls, s.running)) =
      some (none, [.returned, .returned, .returned], [0]) ∧
    (run step { selection := noSelection } [.reconcile, .configured 0 (boundConfig 41000) [],
        .selected 0, .take 0, .stop, .take 1, .built 0 (.ok ()), .started 0, .store 0,
        .noted 0]).map (fun s => (s.quiet, s.calls, s.running)) =
      some (true, [.returned, .returned], [0]) := by
  decide +kernel

end Overlord.Emule.P2pRuntime
