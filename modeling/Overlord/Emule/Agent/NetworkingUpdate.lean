import Overlord.Emule.Agent.NetworkingConfig
import Overlord.Machine.Run

/-!
# Applying an update of the networking configuration

`apply_networking_config_update` of `agent/control_runtime.rs`, with `persist_networking_config` and
`reconcile_runtime`.  The update is compared with the configuration in memory, which is changed
first; then it is persisted, and the runtime is stopped and built again unless the control server
has moved, which takes a restart.

What the update meets outside (the interfaces, the disk, the sockets) is `Outside`.  An update runs
to its end before the next one starts.

* `apply_twice_iff` — a second application changes nothing, and a reload gives the same
  configuration, unless the coordinator decides the NAT section and sends an empty backend order.
  The default then stands in the configuration and never equals what is sent (`empty_order_again`).
* `unchanged_of_succeeds` — if nothing fails, `Unchanged` is returned only for a configuration that
  was persisted and that the runtime was reconciled for.  After a failure the configuration in
  memory is ahead of the disk and of the runtime, and the retry is `Unchanged` all the same
  (`failed_update_unchanged`).
-/

set_option autoImplicit false

namespace Overlord.Emule.Networking

open Machine

inductive NetworkingConfigApplyOutcome where
  | unchanged
  | reconciledInPlace
  | restartRequired
deriving DecidableEq, Repr

/-- What becomes of writing the state file.  A write that fails may leave anything. -/
inductive Persist where
  | written
  | failed (error : String) (left : StateFile)
deriving DecidableEq, Repr

/-- What one update meets. -/
structure Outside where
  /-- The interfaces at the three times that they are detected. -/
  oldInterfaces : List AgentInterface := []
  newInterfaces : List AgentInterface := []
  interfaces : List AgentInterface := []
  persist : Persist := .written
  stop : Except String Unit := .ok ()
  build : Except String Unit := .ok ()
  start : Except String Unit := .ok ()
deriving DecidableEq

/-- Persisting, stopping, building and starting all work. -/
def Outside.Succeeds (outside : Outside) : Prop :=
  outside.persist = .written ∧ outside.stop = .ok () ∧ outside.build = .ok () ∧
    outside.start = .ok ()

instance (outside : Outside) : Decidable outside.Succeeds :=
  inferInstanceAs (Decidable (_ ∧ _ ∧ _ ∧ _))

/-- A runtime, by what it was built from. -/
structure Runtime where
  config : EmuleAgentConfig
  bindIp : String
deriving DecidableEq, Repr

structure Agent where
  config : EmuleAgentConfig
  state : StateFile
  selection : ResolvedInterfaceBindingReport
  runtime : Option Runtime := none
  /-- The configuration that the runtime was last reconciled for, if that succeeded. -/
  reconciled : Option AgentNetworkingConfig := none
  /-- The configuration that a restart was last requested for. -/
  restart : Option AgentNetworkingConfig := none
deriving DecidableEq

/-- `stop_runtime`. -/
def stopRuntime (outside : Outside) (a : Agent) : Except String Unit × Agent :=
  match a.runtime with
  | some _ => (outside.stop, { a with runtime := none })
  | none => (.ok (), a)

/-- `reconcile_runtime`.  It stops the runtime on every path. -/
def reconcileRuntime (outside : Outside) (a : Agent) : Except String Unit × Agent :=
  let binding := resolveP2pSelectionState a.config outside.interfaces none false false
  match stopRuntime outside { a with selection := binding, reconciled := none } with
  | (.error error, a) => (.error error, a)
  | (.ok (), a) =>
    match if binding.selectionConfirmed then binding.bindIp else none with
    | none => (.ok (), { a with reconciled := some (networkingConfig a.config) })
    | some bindIp =>
      match outside.build with
      | .error error =>
        -- a runtime that cannot be built is noted, and not an error of the call
        (.ok (), { a with selection.state := .error, selection.lastError := some error })
      | .ok () =>
        match outside.start with
        | .error error => (.error error, a)
        | .ok () =>
          (.ok (), { a with
            runtime := some ⟨a.config, bindIp⟩
            selection.state := .applied
            selection.ready := true
            selection.lastError := none
            reconciled := some (networkingConfig a.config) })

section

variable (parseIp : String → Option IpAddr)

/-- The end of `apply_networking_config_update`, once the new configuration is persisted. -/
def restartOrReconcile (outside : Outside) (a : Agent)
    (oldNetworking newNetworking : AgentNetworkingConfig) :
    Except String NetworkingConfigApplyOutcome × Agent :=
  if restartRequiredForNetworkingChange parseIp outside.oldInterfaces outside.newInterfaces
      oldNetworking newNetworking then
    (.ok .restartRequired, { a with restart := some newNetworking })
  else
    match reconcileRuntime outside a with
    | (.error error, a) => (.error error, a)
    | (.ok (), a) => (.ok .reconciledInPlace, a)

/-- `apply_networking_config_update`. -/
def applyNetworkingConfigUpdate (outside : Outside) (a : Agent) (desired : AgentNetworkingConfig) :
    Except String NetworkingConfigApplyOutcome × Agent :=
  let effectiveDesired := effectiveCoordinatorNetworking a.config desired
  let oldNetworking := networkingConfig a.config
  if oldNetworking = effectiveDesired then (.ok .unchanged, a)
  else
    let config := applyNetworkingConfig a.config effectiveDesired
    let newNetworking := networkingConfig config
    match outside.persist with
    | .failed error left => (.error error, { a with config, state := left })
    | .written =>
      restartOrReconcile parseIp outside { a with config, state := .stored newNetworking }
        oldNetworking newNetworking

/-! ## What the calls do -/

theorem stopRuntime_spec (outside : Outside) (a : Agent) :
    ((stopRuntime outside a).1 = .ok () ∨ (stopRuntime outside a).1 = outside.stop) ∧
      (stopRuntime outside a).2 = { a with runtime := none } := by
  obtain ⟨config, state, selection, runtime, reconciled, restart⟩ := a
  cases runtime with
  | none => exact ⟨.inl rfl, rfl⟩
  | some runtime => exact ⟨.inr rfl, rfl⟩

theorem reconcileRuntime_spec (outside : Outside) (a : Agent) :
    (reconcileRuntime outside a).2.config = a.config ∧
      (reconcileRuntime outside a).2.state = a.state := by
  obtain ⟨-, hstop⟩ := stopRuntime_spec outside { a with
    selection := resolveP2pSelectionState a.config outside.interfaces none false false
    reconciled := none }
  rw [reconcileRuntime]
  split
  next heq =>
    rw [heq] at hstop
    exact hstop ▸ ⟨rfl, rfl⟩
  next heq =>
    rw [heq] at hstop
    subst hstop
    split
    · exact ⟨rfl, rfl⟩
    · split
      · exact ⟨rfl, rfl⟩
      · split <;> exact ⟨rfl, rfl⟩

/-- A reconciliation that meets no failure. -/
theorem reconcileRuntime_of_succeeds {outside : Outside} (h : outside.Succeeds) (a : Agent) :
    (reconcileRuntime outside a).1 = .ok () ∧
      (reconcileRuntime outside a).2.reconciled = some (networkingConfig a.config) := by
  obtain ⟨-, hstop, hbuild, hstart⟩ := h
  obtain ⟨hresult, hstopped⟩ := stopRuntime_spec outside { a with
    selection := resolveP2pSelectionState a.config outside.interfaces none false false
    reconciled := none }
  rw [hstop, or_self] at hresult
  rw [reconcileRuntime]
  split
  next heq =>
    rw [heq] at hresult
    cases hresult
  next heq =>
    rw [heq] at hstopped
    subst hstopped
    split
    · exact ⟨rfl, rfl⟩
    · rw [hbuild, hstart]
      exact ⟨rfl, rfl⟩

theorem restartOrReconcile_spec (outside : Outside) (a : Agent) (old new : AgentNetworkingConfig) :
    (restartOrReconcile parseIp outside a old new).1 ≠ .ok .unchanged ∧
      (restartOrReconcile parseIp outside a old new).2.config = a.config ∧
      (restartOrReconcile parseIp outside a old new).2.state = a.state := by
  rw [restartOrReconcile]
  split
  · exact ⟨nofun, rfl, rfl⟩
  · obtain ⟨hconfig, hstate⟩ := reconcileRuntime_spec outside a
    split
    next heq =>
      rw [heq] at hconfig hstate
      exact ⟨nofun, hconfig, hstate⟩
    next heq =>
      rw [heq] at hconfig hstate
      exact ⟨nofun, hconfig, hstate⟩

theorem restartOrReconcile_of_succeeds {outside : Outside} (h : outside.Succeeds) (a : Agent)
    (old : AgentNetworkingConfig) :
    let s := (restartOrReconcile parseIp outside a old (networkingConfig a.config)).2
    s.reconciled = some (networkingConfig a.config) ∨
      s.restart = some (networkingConfig a.config) := by
  rw [restartOrReconcile]
  split
  · exact .inr rfl
  · obtain ⟨hresult, hreconciled⟩ := reconcileRuntime_of_succeeds h a
    split
    next heq =>
      rw [heq] at hresult
      cases hresult
    next heq =>
      rw [heq] at hreconciled
      exact .inl hreconciled

variable {parseIp} {outside : Outside} {a a' : Agent} {desired : AgentNetworkingConfig}

/-- The configuration that an update leaves in memory, if it changes it. -/
abbrev updated (a : Agent) (desired : AgentNetworkingConfig) : EmuleAgentConfig :=
  applyNetworkingConfig a.config (effectiveCoordinatorNetworking a.config desired)

theorem apply_of_eq
    (h : networkingConfig a.config = effectiveCoordinatorNetworking a.config desired) :
    applyNetworkingConfigUpdate parseIp outside a desired = (.ok .unchanged, a) :=
  if_pos h

/-- **When nothing is changed.** -/
theorem apply_unchanged_iff :
    (applyNetworkingConfigUpdate parseIp outside a desired).1 = .ok .unchanged ↔
      networkingConfig a.config = effectiveCoordinatorNetworking a.config desired := by
  rw [applyNetworkingConfigUpdate]
  split
  next h => exact iff_of_true rfl h
  next h =>
    refine iff_of_false ?_ h
    split
    · nofun
    · exact (restartOrReconcile_spec parseIp outside _ _ _).1

/-- An update that returns has changed nothing, or it has persisted what is now in memory. -/
theorem apply_ok {outcome : NetworkingConfigApplyOutcome}
    (h : applyNetworkingConfigUpdate parseIp outside a desired = (.ok outcome, a')) :
    (networkingConfig a.config = effectiveCoordinatorNetworking a.config desired ∧ a' = a) ∨
      (a'.config = updated a desired ∧
        a'.state = .stored (networkingConfig (updated a desired))) := by
  rw [applyNetworkingConfigUpdate] at h
  split at h
  next heq => exact .inl ⟨heq, (Prod.ext_iff.mp h).2.symm⟩
  · split at h
    · cases h
    · obtain rfl : _ = a' := (Prod.ext_iff.mp h).2
      exact .inr (restartOrReconcile_spec parseIp outside _ _ _).2

end

/-! ## Applying twice -/

section

variable {parseIp : String → Option IpAddr} {outside : Outside} {a a' : Agent}
  {desired : AgentNetworkingConfig} {file : Option LocalFile}
  {outcome : NetworkingConfigApplyOutcome}

/-- **Reloading** after an update gives what is in memory. -/
theorem loadedFrom_of_ok (hloaded : LoadedFrom file a.state a.config)
    (hok : applyNetworkingConfigUpdate parseIp outside a desired = (.ok outcome, a')) :
    LoadedFrom file a'.state a'.config := by
  rcases apply_ok hok with ⟨-, rfl⟩ | ⟨hconfig, hstate⟩
  · exact hloaded
  · rw [hconfig, hstate]
    exact hloaded.apply desired

/-- What is in effect does not change with the update. -/
theorem effective_updated (a : Agent) (desired : AgentNetworkingConfig) :
    effectiveCoordinatorNetworking (updated a desired) desired =
      effectiveCoordinatorNetworking a.config desired := by
  have hown : networkingConfig (updated a desired) =
      overlay a.config.networkingAuthority (networkingConfig a.config) desired.defaulted := by
    rw [networkingConfig_apply, effectiveCoordinatorNetworking_eq, defaulted_overlay,
      defaulted_networkingConfig]
  calc effectiveCoordinatorNetworking (updated a desired) desired
      = overlay a.config.networkingAuthority (networkingConfig (updated a desired)) desired := rfl
    _ = effectiveCoordinatorNetworking a.config desired := by
        rw [hown, overlay_overlay_left, effectiveCoordinatorNetworking_eq]

theorem effective_backendOrder_ne_nil_iff (config : EmuleAgentConfig) :
    (effectiveCoordinatorNetworking config desired).nat.p2p.backendOrder ≠ [] ↔
      config.networkingAuthority.nat = true ∨ desired.nat.p2p.backendOrder ≠ [] := by
  show (if config.networkingAuthority.nat then _ else desired.nat).p2p.backendOrder ≠ [] ↔ _
  split
  next h => exact iff_of_true (orDefault_ne_nil _) (.inl h)
  next h => exact ⟨.inr, fun hor => hor.resolve_left h⟩

/-- The second application finds what it would apply, unless that has an empty backend order. -/
theorem view_eq_effective_iff
    (hok : applyNetworkingConfigUpdate parseIp outside a desired = (.ok outcome, a')) :
    networkingConfig a'.config = effectiveCoordinatorNetworking a'.config desired ↔
      a.config.networkingAuthority.nat = true ∨ desired.nat.p2p.backendOrder ≠ [] := by
  rw [← effective_backendOrder_ne_nil_iff a.config,
    ← AgentNetworkingConfig.defaulted_eq_self_iff]
  rcases apply_ok hok with ⟨hview, rfl⟩ | ⟨hconfig, -⟩
  · exact iff_of_true hview (hview ▸ defaulted_networkingConfig _)
  · rw [hconfig, effective_updated, networkingConfig_apply]

/-- **Applying twice.**  After an update has returned, applying it again changes nothing, and a
reload gives the same configuration, exactly if the local file decides the NAT section or the
coordinator sends a backend order. -/
theorem apply_twice_iff (hloaded : LoadedFrom file a.state a.config)
    (hok : applyNetworkingConfigUpdate parseIp outside a desired = (.ok outcome, a')) :
    ((∀ outside', applyNetworkingConfigUpdate parseIp outside' a' desired = (.ok .unchanged, a')) ∧
      (load file a'.state).map networkingConfig = .ok (networkingConfig a'.config)) ↔
      a.config.networkingAuthority.nat = true ∨ desired.nat.p2p.backendOrder ≠ [] := by
  rw [← view_eq_effective_iff hok]
  constructor
  · rintro ⟨hagain, -⟩
    exact apply_unchanged_iff.mp (congrArg Prod.fst (hagain outside))
  · intro hview
    exact ⟨fun _ => apply_of_eq hview, (loadedFrom_of_ok hloaded hok).1⟩

end

/-- What the coordinator sends in the examples below. -/
def sampleUpdate (backendOrder : List String) : AgentNetworkingConfig where
  control := ⟨none, none, false, 13301⟩
  p2p := ⟨none, some "10.0.0.2", true, ⟨41100⟩, ⟨41101⟩⟩
  nat := ⟨⟨true, backendOrder, none, none, none, 5, 3600, 300, none⟩⟩

/-- An agent without files. -/
def freshAgent : Agent where
  config := {}
  state := .missing
  selection := resolveP2pSelectionState {} [] none false false

theorem sampleUpdate_twice :
    LoadedFrom none freshAgent.state freshAgent.config ∧
      ∃ a', applyNetworkingConfigUpdate (fun _ => none) {} freshAgent
          (sampleUpdate ["upnp_rupnp"]) = (.ok .reconciledInPlace, a') ∧
        (∀ outside', applyNetworkingConfigUpdate (fun _ => none) outside' a'
          (sampleUpdate ["upnp_rupnp"]) = (.ok .unchanged, a')) ∧
        (load none a'.state).map networkingConfig = .ok (networkingConfig a'.config) := by
  have hloaded : LoadedFrom none freshAgent.state freshAgent.config := .of_load rfl
  have hok : applyNetworkingConfigUpdate (fun _ => none) {} freshAgent
      (sampleUpdate ["upnp_rupnp"]) = (.ok .reconciledInPlace,
        (applyNetworkingConfigUpdate (fun _ => none) {} freshAgent
          (sampleUpdate ["upnp_rupnp"])).2) := by decide +kernel
  exact ⟨hloaded, _, hok, (apply_twice_iff hloaded hok).mpr (.inr (by decide))⟩

/-- **An empty backend order.**  The same update tears the runtime down again and again. -/
theorem empty_order_again :
    let first := applyNetworkingConfigUpdate (fun _ => none) {} freshAgent (sampleUpdate [])
    let second := applyNetworkingConfigUpdate (fun _ => none) {} first.2 (sampleUpdate [])
    first.1 = .ok .reconciledInPlace ∧ second.1 = .ok .reconciledInPlace ∧
      second.2.config = first.2.config := by
  decide +kernel

/-! ## Runs of updates -/

/-- An update and what it meets. -/
structure Update where
  desired : AgentNetworkingConfig
  outside : Outside

/-- The agent, and what the last update has returned. -/
structure Session where
  agent : Agent
  last : Option (Except String NetworkingConfigApplyOutcome) := none

section

variable (parseIp : String → Option IpAddr)

/-- One update. -/
def step (s : Session) (update : Update) : Option Session :=
  let result := applyNetworkingConfigUpdate parseIp update.outside s.agent update.desired
  some { agent := result.2, last := some result.1 }

/-- The agent after `load` and `start`. -/
def started (state : StateFile) (config : EmuleAgentConfig)
    (selection : ResolvedInterfaceBindingReport) (outside : Outside) : Session where
  agent := (reconcileRuntime outside { config, state, selection }).2

/-- The configuration in memory is the one on disk, and the one that the runtime was last
reconciled for or that a restart was requested for. -/
def Settled (file : Option LocalFile) (a : Agent) : Prop :=
  LoadedFrom file a.state a.config ∧ (a.reconciled = some (networkingConfig a.config) ∨
    a.restart = some (networkingConfig a.config))

/-- `Unchanged` was returned only for a configuration that is settled. -/
def Faithful (file : Option LocalFile) (s : Session) : Prop :=
  s.last = some (.ok .unchanged) → Settled file s.agent

instance (file : Option LocalFile) (s : Session) : Decidable (Faithful file s) :=
  inferInstanceAs (Decidable (_ → (_ ∧ _) ∧ (_ ∨ _)))

variable {parseIp} {file : Option LocalFile}

theorem Settled.apply {outside : Outside} {a : Agent} (h : Settled file a)
    (hsucceeds : outside.Succeeds) (desired : AgentNetworkingConfig) :
    Settled file (applyNetworkingConfigUpdate parseIp outside a desired).2 := by
  rw [applyNetworkingConfigUpdate]
  split
  · exact h
  · rw [hsucceeds.1]
    obtain ⟨-, hconfig, hstate⟩ := restartOrReconcile_spec parseIp outside
      { a with
        config := updated a desired, state := .stored (networkingConfig (updated a desired)) }
      (networkingConfig a.config) (networkingConfig (updated a desired))
    constructor
    · exact hstate.symm ▸ hconfig.symm ▸ h.1.apply desired
    · exact hconfig.symm ▸ restartOrReconcile_of_succeeds parseIp hsucceeds _ _

theorem settled_started {state : StateFile} {config : EmuleAgentConfig}
    (hload : load file state = .ok config) (selection : ResolvedInterfaceBindingReport)
    {outside : Outside} (hsucceeds : outside.Succeeds) :
    Settled file (started state config selection outside).agent := by
  obtain ⟨hconfig, hstate⟩ := reconcileRuntime_spec outside { config, state, selection }
  obtain ⟨-, hreconciled⟩ := reconcileRuntime_of_succeeds hsucceeds { config, state, selection }
  exact ⟨hstate.symm ▸ hconfig.symm ▸ .of_load hload, .inl (hconfig.symm ▸ hreconciled)⟩

/-- **`Unchanged` is to be trusted if nothing fails.**  In every run of updates that all succeed,
from an agent that has started, it is returned only for a configuration that the files give back
and that the runtime was last reconciled for, or that a restart was requested for. -/
theorem unchanged_of_succeeds {state : StateFile} {config : EmuleAgentConfig}
    (hload : load file state = .ok config) (selection : ResolvedInterfaceBindingReport)
    {outside : Outside} (hsucceeds : outside.Succeeds) {updates : List Update}
    (hmeets : Meets (step parseIp) (fun _ update => update.outside.Succeeds)
      (started state config selection outside) updates) :
    Always (step parseIp) (Faithful file) (started state config selection outside) updates := by
  intro done s hdone hrun _
  refine (run_of_meets (I := fun s => Settled file s.agent) (H := fun _ _ => True)
    (fun _ => trivial) (fun _ _ _ _ _ => trivial) (fun s update s' h hupdate hstep => ⟨?_, trivial⟩)
    (settled_started hload selection hsucceeds) (hmeets.of_prefix hdone) hrun).1
  exact Option.some.inj hstep ▸ h.apply hupdate update.desired

end

theorem sampleUpdate_settled :
    let start := started .missing {} freshAgent.selection {}
    let updates : List Update :=
      [⟨sampleUpdate ["upnp_rupnp"], {}⟩, ⟨sampleUpdate ["upnp_rupnp"], {}⟩]
    load none .missing = .ok {} ∧ ({} : Outside).Succeeds ∧
      Meets (step fun _ => none) (fun _ update => update.outside.Succeeds) start updates ∧
      Always (step fun _ => none) (Faithful none) start updates ∧
      (run (step fun _ => none) start updates).map (·.last) = some (some (.ok .unchanged)) := by
  intro start updates
  have hmeets : Meets (step fun _ => none) (fun _ update => update.outside.Succeeds) start
      updates := by decide +kernel
  exact ⟨rfl, by decide, hmeets, unchanged_of_succeeds rfl _ (by decide) hmeets,
    by decide +kernel⟩

/-- **A failure and a retry.**  After the write of the state file has failed, the retry is
`Unchanged`, and the files still give the old configuration; after the runtime could not be built,
it is `Unchanged`, and there is no runtime. -/
theorem failed_update_unchanged :
    let start := started .missing {} freshAgent.selection {}
    let update := sampleUpdate ["upnp_rupnp"]
    ¬ Always (step fun _ => none) (Faithful none) start
        [⟨update, { persist := .failed "no space left on device" .missing }⟩, ⟨update, {}⟩] ∧
      ¬ Always (step fun _ => none) (Faithful none) start
        [⟨update, { build := .error "address in use" }⟩, ⟨update, {}⟩] := by
  intro start update
  constructor
  · intro h
    have hlast := h _ _ (List.prefix_refl _) rfl
    revert hlast
    decide +kernel
  · intro h
    have hlast := h _ _ (List.prefix_refl _) rfl
    revert hlast
    decide +kernel

end Overlord.Emule.Networking
