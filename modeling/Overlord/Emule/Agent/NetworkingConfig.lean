import Overlord.Data.Text
import Overlord.Net.Addr

/-!
# The networking configuration

The part of the agent's configuration that the coordinator may change (`config.rs`,
`agent/networking.rs` and `agent/control_runtime.rs`): the addresses of the control server and of
the P2P listeners, and the NAT settings.  A section that stands in the local file is authoritative;
the others are taken from the coordinator, and after a restart from the networking state that the
agent has persisted.

`networking_config`, `effective_coordinator_networking`, `apply_networking_config` and
`merge_persisted_networking_fallback` copy the same fields one by one.  They are translated as they
stand, and related to each other:

* `effectiveCoordinatorNetworking_eq` — what is in effect is an overlay of the own view over what is
  desired;
* `networkingConfig_apply` — the view after an application is what was applied, with the default in
  place of an empty backend order;
* `networkingConfig_merge` — and so is the view after a restart.

The TOML file is taken as parsed, and the JSON of the persisted state as the value it stands for.
-/

set_option autoImplicit false

namespace Overlord.Emule.Networking

/-! ## The configuration of the agent -/

/-- `default_upnp_backend_order`. -/
def defaultUpnpBackendOrder : List String := ["upnp_miniupnpc"]

/-- The order of the backends, or the default if there is none. -/
def orDefault (backendOrder : List String) : List String :=
  if backendOrder.isEmpty then defaultUpnpBackendOrder else backendOrder

structure ControlConfig where
  bindIface : Option String := none
  bindIp : Option String := none
  selectionConfirmed : Bool := false
  listenPort : UInt16 := 13301
deriving DecidableEq, Repr

/-- `KadConfig`, as far as the coordinator may change it. -/
structure KadConfig where
  listenPort : UInt16 := 41000
deriving DecidableEq, Repr

/-- `Ed2kConfig`, as far as the coordinator may change it. -/
structure Ed2kConfig where
  listenPort : UInt16 := 41001
deriving DecidableEq, Repr

structure P2pConfig where
  bindIface : Option String := none
  bindIp : Option String := none
  selectionConfirmed : Bool := false
  kad : KadConfig := {}
  ed2k : Ed2kConfig := {}
deriving DecidableEq, Repr

structure NatP2pConfig where
  enabled : Bool := false
  backendOrder : List String := defaultUpnpBackendOrder
  igdIp : Option String := none
  minissdpdSocket : Option String := none
  ssdpLocalPort : Option UInt16 := none
  discoveryTimeoutSecs : UInt64 := 5
  leaseDurationSecs : UInt32 := 3600
  renewMarginSecs : UInt64 := 300
  externalIpOverride : Option String := none
deriving DecidableEq, Repr

structure NatConfig where
  p2p : NatP2pConfig := {}
deriving DecidableEq, Repr

/-- `LogConfig`, as far as it is normalized. -/
structure LogConfig where
  dir : Option String := none
  maxFiles : Nat := 7
deriving DecidableEq, Repr

/-- The sections that the local file decides. -/
structure NetworkingSectionAuthority where
  control : Bool := false
  p2p : Bool := false
  nat : Bool := false
deriving DecidableEq, Repr

structure EmuleAgentConfig where
  control : ControlConfig := {}
  p2p : P2pConfig := {}
  nat : NatConfig := {}
  log : LogConfig := {}
  networkingAuthority : NetworkingSectionAuthority := {}
deriving DecidableEq, Repr

/-! ## What the coordinator sees -/

structure AgentControlConfig where
  bindIface : Option String
  bindIp : Option String
  selectionConfirmed : Bool
  listenPort : UInt16
deriving DecidableEq, Repr

structure AgentKadConfig where
  listenPort : UInt16
deriving DecidableEq, Repr

structure AgentEd2kConfig where
  listenPort : UInt16
deriving DecidableEq, Repr

structure AgentP2pConfig where
  bindIface : Option String
  bindIp : Option String
  selectionConfirmed : Bool
  kad : AgentKadConfig
  ed2k : AgentEd2kConfig
deriving DecidableEq, Repr

structure AgentNatP2pConfig where
  enabled : Bool
  backendOrder : List String
  igdIp : Option String
  minissdpdSocket : Option String
  ssdpLocalPort : Option UInt16
  discoveryTimeoutSecs : UInt64
  leaseDurationSecs : UInt32
  renewMarginSecs : UInt64
  externalIpOverride : Option String
deriving DecidableEq, Repr

structure AgentNatConfig where
  p2p : AgentNatP2pConfig
deriving DecidableEq, Repr

structure AgentNetworkingConfig where
  control : AgentControlConfig
  p2p : AgentP2pConfig
  nat : AgentNatConfig
deriving DecidableEq, Repr

section Views

variable (config : EmuleAgentConfig)

/-- `control_config`. -/
def controlConfig : AgentControlConfig where
  bindIface := config.control.bindIface
  bindIp := config.control.bindIp
  selectionConfirmed := config.control.selectionConfirmed
  listenPort := config.control.listenPort

/-- `p2p_config`. -/
def p2pConfig : AgentP2pConfig where
  bindIface := config.p2p.bindIface
  bindIp := config.p2p.bindIp
  selectionConfirmed := config.p2p.selectionConfirmed
  kad := ⟨config.p2p.kad.listenPort⟩
  ed2k := ⟨config.p2p.ed2k.listenPort⟩

/-- `desired_nat_config`. -/
def desiredNatConfig : AgentNatConfig where
  p2p := {
    enabled := config.nat.p2p.enabled
    backendOrder := orDefault config.nat.p2p.backendOrder
    igdIp := config.nat.p2p.igdIp
    minissdpdSocket := config.nat.p2p.minissdpdSocket
    ssdpLocalPort := config.nat.p2p.ssdpLocalPort
    discoveryTimeoutSecs := config.nat.p2p.discoveryTimeoutSecs
    leaseDurationSecs := config.nat.p2p.leaseDurationSecs
    renewMarginSecs := config.nat.p2p.renewMarginSecs
    externalIpOverride := config.nat.p2p.externalIpOverride }

/-- `networking_config`. -/
def networkingConfig : AgentNetworkingConfig where
  control := controlConfig config
  p2p := p2pConfig config
  nat := desiredNatConfig config

/-- `effective_coordinator_networking`. -/
def effectiveCoordinatorNetworking (desired : AgentNetworkingConfig) : AgentNetworkingConfig where
  control :=
    if config.networkingAuthority.control then {
      bindIface := config.control.bindIface
      bindIp := config.control.bindIp
      selectionConfirmed := config.control.selectionConfirmed
      listenPort := config.control.listenPort }
    else desired.control
  p2p :=
    if config.networkingAuthority.p2p then {
      bindIface := config.p2p.bindIface
      bindIp := config.p2p.bindIp
      selectionConfirmed := config.p2p.selectionConfirmed
      kad := ⟨config.p2p.kad.listenPort⟩
      ed2k := ⟨config.p2p.ed2k.listenPort⟩ }
    else desired.p2p
  nat :=
    if config.networkingAuthority.nat then {
      p2p := {
        enabled := config.nat.p2p.enabled
        backendOrder := orDefault config.nat.p2p.backendOrder
        igdIp := config.nat.p2p.igdIp
        minissdpdSocket := config.nat.p2p.minissdpdSocket
        ssdpLocalPort := config.nat.p2p.ssdpLocalPort
        discoveryTimeoutSecs := config.nat.p2p.discoveryTimeoutSecs
        leaseDurationSecs := config.nat.p2p.leaseDurationSecs
        renewMarginSecs := config.nat.p2p.renewMarginSecs
        externalIpOverride := config.nat.p2p.externalIpOverride } }
    else desired.nat

/-- `apply_control_networking_fallback`. -/
def applyControlNetworkingFallback (desired : AgentControlConfig) : EmuleAgentConfig :=
  { config with
    control.bindIface := desired.bindIface
    control.bindIp := desired.bindIp
    control.selectionConfirmed := desired.selectionConfirmed
    control.listenPort := desired.listenPort }

/-- `apply_p2p_networking_fallback`. -/
def applyP2pNetworkingFallback (desired : AgentP2pConfig) : EmuleAgentConfig :=
  { config with
    p2p.bindIface := desired.bindIface
    p2p.bindIp := desired.bindIp
    p2p.selectionConfirmed := desired.selectionConfirmed
    p2p.kad.listenPort := desired.kad.listenPort
    p2p.ed2k.listenPort := desired.ed2k.listenPort }

/-- `apply_nat_networking_fallback`. -/
def applyNatNetworkingFallback (desired : AgentNatConfig) : EmuleAgentConfig :=
  { config with
    nat.p2p.enabled := desired.p2p.enabled
    nat.p2p.backendOrder := orDefault desired.p2p.backendOrder
    nat.p2p.igdIp := desired.p2p.igdIp
    nat.p2p.minissdpdSocket := desired.p2p.minissdpdSocket
    nat.p2p.ssdpLocalPort := desired.p2p.ssdpLocalPort
    nat.p2p.discoveryTimeoutSecs := desired.p2p.discoveryTimeoutSecs
    nat.p2p.leaseDurationSecs := desired.p2p.leaseDurationSecs
    nat.p2p.renewMarginSecs := desired.p2p.renewMarginSecs
    nat.p2p.externalIpOverride := desired.p2p.externalIpOverride }

/-- `apply_networking_config`. -/
def applyNetworkingConfig (desired : AgentNetworkingConfig) : EmuleAgentConfig :=
  { config with
    control.bindIface := desired.control.bindIface
    control.bindIp := desired.control.bindIp
    control.selectionConfirmed := desired.control.selectionConfirmed
    control.listenPort := desired.control.listenPort
    p2p.bindIface := desired.p2p.bindIface
    p2p.bindIp := desired.p2p.bindIp
    p2p.selectionConfirmed := desired.p2p.selectionConfirmed
    p2p.kad.listenPort := desired.p2p.kad.listenPort
    p2p.ed2k.listenPort := desired.p2p.ed2k.listenPort
    nat.p2p.enabled := desired.nat.p2p.enabled
    nat.p2p.backendOrder := orDefault desired.nat.p2p.backendOrder
    nat.p2p.igdIp := desired.nat.p2p.igdIp
    nat.p2p.minissdpdSocket := desired.nat.p2p.minissdpdSocket
    nat.p2p.ssdpLocalPort := desired.nat.p2p.ssdpLocalPort
    nat.p2p.discoveryTimeoutSecs := desired.nat.p2p.discoveryTimeoutSecs
    nat.p2p.leaseDurationSecs := desired.nat.p2p.leaseDurationSecs
    nat.p2p.renewMarginSecs := desired.nat.p2p.renewMarginSecs
    nat.p2p.externalIpOverride := desired.nat.p2p.externalIpOverride }

end Views

/-! ## Loading -/

/-- A blank text counts as none. -/
def dropBlank (value : Option String) : Option String :=
  if value.any fun inner => Text.trim inner = "" then none else value

/-- `normalize_control_config`. -/
def normalizeControlConfig (config : ControlConfig) : ControlConfig :=
  { config with bindIface := dropBlank config.bindIface, bindIp := dropBlank config.bindIp }

/-- `normalize_p2p_config`. -/
def normalizeP2pConfig (config : P2pConfig) : P2pConfig :=
  { config with bindIface := dropBlank config.bindIface, bindIp := dropBlank config.bindIp }

/-- `normalize_nat_config`. -/
def normalizeNatConfig (config : NatConfig) : NatConfig :=
  { config with
    p2p.igdIp := dropBlank config.p2p.igdIp
    p2p.minissdpdSocket := dropBlank config.p2p.minissdpdSocket
    p2p.externalIpOverride := dropBlank config.p2p.externalIpOverride
    p2p.ssdpLocalPort :=
      if config.p2p.ssdpLocalPort = some 0 then none else config.p2p.ssdpLocalPort }

/-- `normalize_log_config`. -/
def normalizeLogConfig (config : LogConfig) : LogConfig where
  dir := dropBlank config.dir
  maxFiles := if config.maxFiles = 0 then ({} : LogConfig).maxFiles else config.maxFiles

/-- A TOML file that has been read: the values, and which of the three tables it has. -/
structure LocalFile where
  values : EmuleAgentConfig
  tables : NetworkingSectionAuthority
deriving DecidableEq, Repr

/-- The file of the persisted networking state. -/
inductive StateFile where
  | missing
  | unreadable (error : String)
  | stored (config : AgentNetworkingConfig)
deriving DecidableEq, Repr

/-- What `load` makes of the TOML file, if there is one. -/
def localConfig : Option LocalFile → EmuleAgentConfig
  | none => {}
  | some file =>
    { networkingAuthority := file.tables
      control := normalizeControlConfig file.values.control
      p2p := normalizeP2pConfig file.values.p2p
      nat := normalizeNatConfig file.values.nat
      log := normalizeLogConfig file.values.log }

/-- `merge_persisted_networking_fallback`, once the state file is read. -/
def mergePersisted (config : EmuleAgentConfig) (desired : AgentNetworkingConfig) :
    EmuleAgentConfig :=
  let authority := config.networkingAuthority
  let config :=
    if authority.control then config else applyControlNetworkingFallback config desired.control
  let config := if authority.p2p then config else applyP2pNetworkingFallback config desired.p2p
  if authority.nat then config else applyNatNetworkingFallback config desired.nat

/-- `EmuleAgentConfig::load`. -/
def load (file : Option LocalFile) : StateFile → Except String EmuleAgentConfig
  | .missing => .ok (localConfig file)
  | .unreadable error => .error error
  | .stored desired => .ok (mergePersisted (localConfig file) desired)

/-! ## The interface that is bound -/

inductive InterfaceAddressFamily where
  | ipv4
  | ipv6
deriving DecidableEq, Repr

structure AgentInterfaceAddress where
  family : InterfaceAddressFamily
  address : String
deriving DecidableEq, Repr

/-- `AgentInterface`, without the description. -/
structure AgentInterface where
  name : String
  addresses : List AgentInterfaceAddress
  isLoopback : Bool
  isVpnCandidate : Bool
  hasDefaultRoute : Bool
deriving DecidableEq, Repr

/-- It has an IPv4 address. -/
def AgentInterface.hasIpv4 (iface : AgentInterface) : Bool :=
  iface.addresses.any (·.family = .ipv4)

/-- `recommend_interface`. -/
def recommendInterface (interfaces : List AgentInterface) : Option String :=
  (interfaces.find? (fun iface => iface.isVpnCandidate && iface.hasIpv4)
    <|> interfaces.find? (fun iface =>
      iface.hasDefaultRoute && !iface.isLoopback && iface.hasIpv4)
    <|> interfaces.find? (fun iface => !iface.isLoopback && iface.hasIpv4)).map (·.name)

/-- `resolve_bind_ip`. -/
def resolveBindIp (interfaces : List AgentInterface) (bindIface bindIpOverride : Option String) :
    Option String :=
  match dropBlank bindIpOverride with
  | some bindIp => some bindIp
  | none => do
    let selectedName ← bindIface
    let iface ← interfaces.find? (·.name = selectedName)
    let address ← iface.addresses.find? (·.family = .ipv4)
    return address.address

inductive InterfaceSelectionState where
  | pending
  | confirmed
  | applied
  | error
deriving DecidableEq, Repr

structure InterfaceBindingSelection where
  bindIface : Option String
  bindIp : Option String
  selectionConfirmed : Bool
deriving DecidableEq, Repr

structure ResolvedInterfaceBindingReport where
  bindIface : Option String
  bindIp : Option String
  recommendedInterfaceName : Option String
  selectionConfirmed : Bool
  ready : Bool
  state : InterfaceSelectionState
  lastError : Option String
deriving DecidableEq, Repr

/-- `resolve_binding_state`. -/
def resolveBindingState (interfaces : List AgentInterface) (selection : InterfaceBindingSelection)
    (runtimeError : Option String) (ready applied : Bool) : ResolvedInterfaceBindingReport :=
  let resolvedBindIp := resolveBindIp interfaces selection.bindIface selection.bindIp
  let outcome : InterfaceSelectionState × Option String :=
    match runtimeError with
    | some error => (.error, some error)
    | none =>
      if applied then (.applied, none)
      else if !selection.selectionConfirmed then (.pending, none)
      else if resolvedBindIp.isSome then (.confirmed, none)
      else (.error,
        some "selected interface does not currently resolve to an IPv4 bind address")
  { bindIface := selection.bindIface
    bindIp := resolvedBindIp
    recommendedInterfaceName := recommendInterface interfaces
    selectionConfirmed := selection.selectionConfirmed
    ready
    state := outcome.1
    lastError := outcome.2 }

/-- `control_selection`. -/
def controlSelection (config : EmuleAgentConfig) : InterfaceBindingSelection :=
  ⟨config.control.bindIface, config.control.bindIp, config.control.selectionConfirmed⟩

/-- `p2p_selection`. -/
def p2pSelection (config : EmuleAgentConfig) : InterfaceBindingSelection :=
  ⟨config.p2p.bindIface, config.p2p.bindIp, config.p2p.selectionConfirmed⟩

/-- `resolve_p2p_selection_state`. -/
def resolveP2pSelectionState (config : EmuleAgentConfig) (interfaces : List AgentInterface)
    (runtimeError : Option String) (ready applied : Bool) : ResolvedInterfaceBindingReport :=
  resolveBindingState interfaces (p2pSelection config) runtimeError ready applied

section Restart

/-! ## When the agent has to restart -/

variable (parseIp : String → Option IpAddr)

/-- `resolved_socket_addr`. -/
def resolvedSocketAddr (listenPort : UInt16) : Option String → Except String SocketAddr
  | some bindIp =>
    match parseIp bindIp with
    | some ip => .ok (.new ip listenPort)
    | none => .error ("invalid bind ip " ++ bindIp)
  | none => .ok (.v4 ⟨#v[0, 0, 0, 0]⟩ listenPort)

/-- `startup_control_bind_addr`, on the interfaces that are detected. -/
def startupControlBindAddr (interfaces : List AgentInterface) (config : EmuleAgentConfig) :
    Except String SocketAddr :=
  let selection := controlSelection config
  if selection.selectionConfirmed then
    match resolveBindIp interfaces selection.bindIface selection.bindIp with
    | some bindIp => resolvedSocketAddr parseIp config.control.listenPort (some bindIp)
    | none => resolvedSocketAddr parseIp config.control.listenPort none
  else resolvedSocketAddr parseIp config.control.listenPort none

/-- `config_for_restart_decision`. -/
def configForRestartDecision (networking : AgentNetworkingConfig) : EmuleAgentConfig :=
  applyNetworkingConfig {} networking

/-- `restart_required_for_networking_change`; the interfaces are detected for either address. -/
def restartRequiredForNetworkingChange (oldInterfaces newInterfaces : List AgentInterface)
    (old new : AgentNetworkingConfig) : Bool :=
  (startupControlBindAddr parseIp oldInterfaces (configForRestartDecision old)).toOption !=
    (startupControlBindAddr parseIp newInterfaces (configForRestartDecision new)).toOption

end Restart

/-! ## How the copies fit together -/

theorem orDefault_ne_nil (backendOrder : List String) : orDefault backendOrder ≠ [] := by
  cases backendOrder <;> exact List.cons_ne_nil _ _

theorem orDefault_of_ne_nil {backendOrder : List String} (h : backendOrder ≠ []) :
    orDefault backendOrder = backendOrder :=
  if_neg fun hempty => h (List.isEmpty_iff.mp hempty)

theorem orDefault_eq_self_iff {backendOrder : List String} :
    orDefault backendOrder = backendOrder ↔ backendOrder ≠ [] :=
  ⟨fun h => h ▸ orDefault_ne_nil backendOrder, orDefault_of_ne_nil⟩

theorem orDefault_orDefault (backendOrder : List String) :
    orDefault (orDefault backendOrder) = orDefault backendOrder :=
  orDefault_of_ne_nil (orDefault_ne_nil backendOrder)

/-- The default in place of an empty backend order. -/
def AgentNetworkingConfig.defaulted (config : AgentNetworkingConfig) : AgentNetworkingConfig :=
  { config with nat.p2p.backendOrder := orDefault config.nat.p2p.backendOrder }

theorem AgentNetworkingConfig.defaulted_defaulted (config : AgentNetworkingConfig) :
    config.defaulted.defaulted = config.defaulted := by
  simp only [defaulted, orDefault_orDefault]

theorem AgentNetworkingConfig.defaulted_eq_self_iff {config : AgentNetworkingConfig} :
    config.defaulted = config ↔ config.nat.p2p.backendOrder ≠ [] := by
  obtain ⟨control, p2p, ⟨nat⟩⟩ := config
  refine Iff.trans ?_ orDefault_eq_self_iff
  constructor
  · intro h
    exact congrArg (fun c : AgentNetworkingConfig => c.nat.p2p.backendOrder) h
  · intro h
    simp only [defaulted, h]

/-- The own sections where the local file decides, the other ones elsewhere. -/
def overlay (authority : NetworkingSectionAuthority) (own other : AgentNetworkingConfig) :
    AgentNetworkingConfig where
  control := if authority.control then own.control else other.control
  p2p := if authority.p2p then own.p2p else other.p2p
  nat := if authority.nat then own.nat else other.nat

section Overlay

variable (authority : NetworkingSectionAuthority) (own other : AgentNetworkingConfig)

theorem overlay_overlay_left :
    overlay authority (overlay authority own other) = overlay authority own := by
  funext other'
  obtain ⟨control, p2p, nat⟩ := authority
  cases control <;> cases p2p <;> cases nat <;> rfl

theorem overlay_overlay_right :
    overlay authority own (overlay authority own other) = overlay authority own other := by
  obtain ⟨control, p2p, nat⟩ := authority
  cases control <;> cases p2p <;> cases nat <;> rfl

theorem defaulted_overlay :
    (overlay authority own other).defaulted =
      overlay authority own.defaulted other.defaulted := by
  obtain ⟨control, p2p, nat⟩ := authority
  cases control <;> cases p2p <;> cases nat <;> rfl

end Overlay

theorem defaulted_networkingConfig (config : EmuleAgentConfig) :
    (networkingConfig config).defaulted = networkingConfig config :=
  AgentNetworkingConfig.defaulted_eq_self_iff.mpr (orDefault_ne_nil _)

/-- **What is in effect** is the own view over what is desired. -/
theorem effectiveCoordinatorNetworking_eq (config : EmuleAgentConfig)
    (desired : AgentNetworkingConfig) :
    effectiveCoordinatorNetworking config desired =
      overlay config.networkingAuthority (networkingConfig config) desired :=
  rfl

/-- **The view after an application.** -/
theorem networkingConfig_apply (config : EmuleAgentConfig) (desired : AgentNetworkingConfig) :
    networkingConfig (applyNetworkingConfig config desired) = desired.defaulted :=
  desired.defaulted_defaulted

/-- **The view after the persisted state was merged.** -/
theorem networkingConfig_merge (config : EmuleAgentConfig) (desired : AgentNetworkingConfig) :
    networkingConfig (mergePersisted config desired) =
      (overlay config.networkingAuthority (networkingConfig config) desired).defaulted := by
  rw [defaulted_overlay, defaulted_networkingConfig]
  obtain ⟨control, p2p, nat, log, ⟨acontrol, ap2p, anat⟩⟩ := config
  cases anat with
  | false =>
    refine Eq.trans ?_ (congrArg (overlay _ _) desired.defaulted_defaulted)
    cases acontrol <;> cases ap2p <;> rfl
  | true => cases acontrol <;> cases ap2p <;> rfl

theorem networkingAuthority_merge (config : EmuleAgentConfig) (desired : AgentNetworkingConfig) :
    (mergePersisted config desired).networkingAuthority = config.networkingAuthority := by
  obtain ⟨control, p2p, nat, log, ⟨acontrol, ap2p, anat⟩⟩ := config
  cases acontrol <;> cases ap2p <;> cases anat <;> rfl

/-! ## A configuration and its files -/

/-- The files of the agent give its configuration back, as far as the coordinator sees it. -/
def LoadedFrom (file : Option LocalFile) (state : StateFile) (config : EmuleAgentConfig) : Prop :=
  (load file state).map networkingConfig = .ok (networkingConfig config) ∧
    (localConfig file).networkingAuthority = config.networkingAuthority

theorem LoadedFrom.of_load {file : Option LocalFile} {state : StateFile} {config : EmuleAgentConfig}
    (h : load file state = .ok config) : LoadedFrom file state config := by
  refine ⟨by rw [h]; rfl, ?_⟩
  cases state with
  | missing => exact Except.ok.inj h ▸ rfl
  | unreadable error => cases h
  | stored desired => exact Except.ok.inj h ▸ (networkingAuthority_merge _ _).symm

/-- The sections that the file decides are still as it has them. -/
theorem LoadedFrom.overlay_eq {file : Option LocalFile} {state : StateFile}
    {config : EmuleAgentConfig} (h : LoadedFrom file state config) :
    overlay config.networkingAuthority (networkingConfig (localConfig file)) =
      overlay config.networkingAuthority (networkingConfig config) := by
  obtain ⟨hload, hauthority⟩ := h
  cases state with
  | missing => rw [Except.ok.inj hload]
  | unreadable error => cases hload
  | stored desired =>
    have hview := Except.ok.inj hload
    rw [networkingConfig_merge, hauthority, defaulted_overlay, defaulted_networkingConfig] at hview
    rw [← hview, overlay_overlay_left]

/-- **Applying and persisting** keeps the configuration and its files together. -/
theorem LoadedFrom.apply {file : Option LocalFile} {state : StateFile} {config : EmuleAgentConfig}
    (h : LoadedFrom file state config) (desired : AgentNetworkingConfig) :
    let config' := applyNetworkingConfig config (effectiveCoordinatorNetworking config desired)
    LoadedFrom file (.stored (networkingConfig config')) config' := by
  intro config'
  refine ⟨congrArg Except.ok ?_, h.2⟩
  have hview : networkingConfig config' =
      overlay config.networkingAuthority (networkingConfig config) desired.defaulted := by
    rw [networkingConfig_apply, effectiveCoordinatorNetworking_eq, defaulted_overlay,
      defaulted_networkingConfig]
  calc networkingConfig (mergePersisted (localConfig file) (networkingConfig config'))
      = (overlay config.networkingAuthority (networkingConfig config)
          (networkingConfig config')).defaulted := by
        rw [networkingConfig_merge, h.2, h.overlay_eq]
    _ = (networkingConfig config').defaulted := by rw [hview, overlay_overlay_right]
    _ = networkingConfig config' := defaulted_networkingConfig config'

end Overlord.Emule.Networking
