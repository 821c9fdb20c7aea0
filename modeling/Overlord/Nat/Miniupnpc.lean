import Overlord.Machine.Prog
import Overlord.Net.Addr

/-!
# Port mappings through `miniupnpc`

`provider/miniupnpc.rs` of the NAT crate.  `reconcile_blocking` finds the gateway and asks it for
one mapping after the other; `release_blocking` asks it to delete them.  Both run on a thread of
their own and talk to nothing but the gateway, so they are programs over its calls
(`GatewayCall`), and what the gateway answers is left open.  Reading an IP address from a text is
a parameter, `parseIp`.

A failed `reconcile_blocking` is to leave nothing behind: when an `AddPortMapping` is refused, the
mappings that the call has added are deleted again.  It has two more ways to fail after an addition,
and neither undoes anything: the refused mapping cannot be looked up, and the external address is
not an address.

## What is here

* `reconcileBlocking`, `releaseBlocking` and what they call.
* `logged` — the gateway answers what it likes, and the conversation is kept.  What it has added
  (`addedKeys`), what of that nobody has asked it to delete (`outstanding`) and the external address
  it stands for (`externalText`) are read off the conversation.
* `safe_addMapping` — one round of the loop: the mappings that have been added are the ones that a
  rollback deletes (`Pending`), and a failure leaves them or not (`Settled`).
* `reconcileBlocking_rolledBack_iff` — a failed call leaves nothing behind exactly if the
  configuration and the answers give an external address that can be read, and no look-up has failed
  after an addition.
-/

set_option autoImplicit false

namespace Overlord.Nat

open Machine Machine.Prog

/-! ## Types -/

inductive TransportProtocol where
  | tcp
  | udp
deriving DecidableEq, Repr

/-- `MappingSpec`, without the exposure, which no function reads. -/
structure MappingSpec where
  name : String
  localAddr : SocketAddr
  protocol : TransportProtocol
  preferredExternalPort : Option UInt16
deriving DecidableEq, Repr

/-- `NatConfig`. -/
structure NatConfig where
  enabled : Bool := false
  backendOrder : List String := ["upnp_miniupnpc"]
  bindIp : Option String := none
  igdIp : Option String := none
  minissdpdSocket : Option String := none
  ssdpLocalPort : Option UInt16 := none
  discoveryTimeoutSecs : UInt64 := 5
  leaseDurationSecs : UInt32 := 3600
  renewMarginSecs : UInt64 := 300
  externalIpOverride : Option String := none
deriving DecidableEq, Repr

/-- `MappedEndpoint`. -/
structure MappedEndpoint where
  name : String
  protocol : TransportProtocol
  localAddr : SocketAddr
  externalAddr : SocketAddr
  leaseExpiresInSecs : UInt32
  backend : String
deriving DecidableEq, Repr

/-- `SelectedGateway`. -/
structure SelectedGateway where
  backend : String
  controlUrl : String
  localIp : Option String
  gatewayIp : Option String
  externalIp : Option String
deriving DecidableEq, Repr

/-- What `miniupnpc` knows of a gateway it has found. -/
structure Gateway where
  controlUrl : String
  localIp : Option String
  gatewayIp : Option String
  externalIp : Option String
deriving DecidableEq, Repr

/-- The fields of `PortMappingEntry` that are compared. -/
structure PortMappingEntry where
  internalClient : String
  internalPort : UInt16
deriving DecidableEq, Repr

/-- The options of a discovery that are not the defaults. -/
structure DiscoveryOptions where
  timeoutSecs : UInt64
  multicastInterface : Option String
  minissdpdSocket : Option String
  localPort : Option UInt16
deriving DecidableEq, Repr

/-- `ReconcileOutcome`. -/
structure ReconcileOutcome where
  gateway : SelectedGateway
  observedExternalAddresses : List String
  mappings : List MappedEndpoint
deriving DecidableEq, Repr

/-- What a gateway tells mappings apart by. -/
abbrev MappingKey := TransportProtocol × UInt16

/-- The port a mapping is asked for. -/
def MappingSpec.externalPort (spec : MappingSpec) : UInt16 :=
  spec.preferredExternalPort.getD spec.localAddr.port

def MappingSpec.key (spec : MappingSpec) : MappingKey := (spec.protocol, spec.externalPort)

def MappedEndpoint.key (mapping : MappedEndpoint) : MappingKey :=
  (mapping.protocol, mapping.externalAddr.port)

/-- The ways to fail, each by the context that is put around it. -/
inductive NatError where
  | discovery (cause : String)
  | noLocalIp (controlUrl : String)
  | addFailed (controlUrl name : String)
  | inspectFailed (controlUrl name : String)
  | invalidExternalIp (name : String)
deriving DecidableEq, Repr

/-- The text of an error, which is that of the outermost context. -/
def NatError.text : NatError → String
  | .discovery _ => "gateway discovery failed"
  | .noLocalIp controlUrl => s!"gateway {controlUrl} did not provide a usable LAN IPv4"
  | .addFailed controlUrl name => s!"gateway {controlUrl} failed to add {name} mapping"
  | .inspectFailed controlUrl name =>
    s!"gateway {controlUrl} failed to inspect existing {name} mapping"
  | .invalidExternalIp name => s!"invalid external ip for {name}"

/-! ## The calls -/

/-- What is asked of the network and of the gateway that was found. -/
inductive GatewayCall where
  | gatewayFromUrl (rootDescriptionUrl : String)
  | discover (options : DiscoveryOptions)
  | fetchExternalIp
  | addPortMapping (externalPort internalPort : UInt16) (internalIp name : String)
      (protocol : TransportProtocol) (leaseDurationSecs : UInt32)
  | getSpecificPortMapping (externalPort : UInt16) (protocol : TransportProtocol)
  | deletePortMapping (externalPort : UInt16) (protocol : TransportProtocol)
deriving DecidableEq, Repr

/-- What is answered; an error is its text. -/
abbrev GatewayReply : GatewayCall → Type
  | .gatewayFromUrl _ => Except String (Option Gateway)
  | .discover _ => Except String (Option Gateway)
  | .fetchExternalIp => Except String (Option String)
  | .addPortMapping _ _ _ _ _ _ => Except String Unit
  | .getSpecificPortMapping _ _ => Except String (Option PortMappingEntry)
  | .deletePortMapping _ _ => Except String Unit

instance : (c : GatewayCall) → DecidableEq (GatewayReply c)
  | .gatewayFromUrl _ => inferInstanceAs (DecidableEq (Except String (Option Gateway)))
  | .discover _ => inferInstanceAs (DecidableEq (Except String (Option Gateway)))
  | .fetchExternalIp => inferInstanceAs (DecidableEq (Except String (Option String)))
  | .addPortMapping _ _ _ _ _ _ => inferInstanceAs (DecidableEq (Except String Unit))
  | .getSpecificPortMapping _ _ =>
    inferInstanceAs (DecidableEq (Except String (Option PortMappingEntry)))
  | .deletePortMapping _ _ => inferInstanceAs (DecidableEq (Except String Unit))

/-- A program that talks to the gateway. -/
abbrev NatOp (α : Type) := Prog GatewayCall GatewayReply NatError α

/-- One call. -/
abbrev call (c : GatewayCall) : NatOp (GatewayReply c) := command c

/-! ## Addresses -/

/-- `Display` of an IPv4 address. -/
def displayIpv4 (ip : Ipv4Addr) : String :=
  ".".intercalate (ip.octets.toList.map fun octet => toString octet.toNat)

/-- `IpAddr::is_unspecified`. -/
def isUnspecified : IpAddr → Bool
  | .v4 ip => ip = .UNSPECIFIED
  | .v6 octets => octets = Vector.replicate 16 0

variable (parseIp : String → Option IpAddr)

/-- An IPv4 address from a text that may be missing. -/
def parseIpv4? (text : Option String) : Option Ipv4Addr :=
  match text.bind parseIp with
  | some (.v4 ip) => some ip
  | _ => none

/-- `gateway_local_ip`. -/
def gatewayLocalIp (config : NatConfig) (gateway : Gateway) : Option Ipv4Addr :=
  parseIpv4? parseIp config.bindIp <|> parseIpv4? parseIp gateway.localIp

/-- `mapping_internal_ip`. -/
def mappingInternalIp (config : NatConfig) (spec : MappingSpec) (localIp : Ipv4Addr) : Ipv4Addr :=
  if !isUnspecified spec.localAddr.ip then
    match spec.localAddr.ip with
    | .v4 ip => ip
    | .v6 _ => .new 127 0 0 1
  else (parseIpv4? parseIp config.bindIp).getD localIp

/-! ## Discovery -/

/-- `candidate_root_description_urls`. -/
def candidateRootDescriptionUrls (igdIp : String) : List String :=
  [s!"http://{igdIp}:1900/gateDesc.xml", s!"http://{igdIp}:1900/rootDesc.xml",
    s!"http://{igdIp}:5000/rootDesc.xml", s!"http://{igdIp}:49152/rootDesc.xml"]

/-- The loop over the addresses of a configured gateway. -/
def probeUrls : List String → NatOp Gateway
  | [] => fail (.discovery "no matching IGD found for configured nat.igd_ip")
  | url :: urls => do
    let found : Except String (Option Gateway) ← call (.gatewayFromUrl url)
    match found with
    | .error cause => fail (.discovery cause)
    | .ok (some gateway) => return gateway
    | .ok none => probeUrls urls

/-- `discover_gateway`. -/
def discoverGateway (config : NatConfig) : NatOp Gateway :=
  match config.igdIp with
  | some igdIp => probeUrls (candidateRootDescriptionUrls igdIp)
  | none => do
    let found : Except String (Option Gateway) ←
      call (.discover ⟨max config.discoveryTimeoutSecs 1, config.bindIp, config.minissdpdSocket,
        config.ssdpLocalPort⟩)
    match found with
    | .error cause => fail (.discovery cause)
    | .ok (some gateway) => return gateway
    | .ok none =>
      match config.bindIp with
      | some bindIp =>
        fail (.discovery (s!"no UPnP IGD service discovered for nat.bind_ip {bindIp}; on " ++
          "point-to-point VPNs you may need to set nat.igd_ip explicitly"))
      | none => fail (.discovery "no UPnP IGD service discovered")

/-! ## Reconciliation and release -/

/-- Delete mappings one by one; whether the gateway accepts that is not looked at. -/
def deleteAll : List MappingKey → NatOp Unit
  | [] => return
  | (protocol, port) :: keys => do
    let _ ← call (.deletePortMapping port protocol)
    deleteAll keys

/-- `mapping_matches_existing_entry`, after the look-up. -/
def existingMappingMatches (entry : Option PortMappingEntry) (internalIp : String)
    (internalPort : UInt16) : Bool :=
  match entry with
  | some entry => entry.internalClient = internalIp ∧ entry.internalPort = internalPort
  | none => false

/-- Ask for the mapping of a spec: the list of what has been added, with it if it is new.  A refused
mapping is taken for granted if the gateway has it already. -/
def addMapping (config : NatConfig) (gateway : Gateway) (localIp : Ipv4Addr)
    (applied : List MappingKey) (spec : MappingSpec) : NatOp (List MappingKey) := do
  let internalIp := displayIpv4 (mappingInternalIp parseIp config spec localIp)
  let added : Except String Unit ←
    call (.addPortMapping spec.externalPort spec.localAddr.port internalIp spec.name
      spec.protocol config.leaseDurationSecs)
  match added with
  | .ok () => return applied ++ [spec.key]
  | .error _ =>
    let found : Except String (Option PortMappingEntry) ←
      call (.getSpecificPortMapping spec.externalPort spec.protocol)
    match found with
    | .error _ => fail (.inspectFailed gateway.controlUrl spec.name)
    | .ok entry =>
      if existingMappingMatches entry internalIp spec.localAddr.port then return applied
      else
        deleteAll applied.reverse
        fail (.addFailed gateway.controlUrl spec.name)

/-- The loop over the specs. -/
def applyMappings (backendName : String) (config : NatConfig) (gateway : Gateway)
    (localIp : Ipv4Addr) (externalIpText : Option String) :
    List MappingKey → List MappedEndpoint → List MappingSpec → NatOp (List MappedEndpoint)
  | _, mapped, [] => return mapped
  | applied, mapped, spec :: specs => do
    let applied ← addMapping parseIp config gateway localIp applied spec
    match parseIp (externalIpText.getD (displayIpv4 localIp)) with
    | none => fail (.invalidExternalIp spec.name)
    | some externalIp =>
      applyMappings backendName config gateway localIp externalIpText applied
        (mapped ++ [{ name := spec.name, protocol := spec.protocol, localAddr := spec.localAddr,
                      externalAddr := .new externalIp spec.externalPort,
                      leaseExpiresInSecs := config.leaseDurationSecs, backend := backendName }])
        specs

/-- The external address to report, if there is one. -/
def externalIpText (config : NatConfig) (gateway : Gateway) : NatOp (Option String) :=
  match config.externalIpOverride with
  | some text => return some text
  | none => do
    let fetched : Except String (Option String) ← call .fetchExternalIp
    match fetched with
    | .ok (some text) => return some text
    | _ => return gateway.externalIp

/-- `reconcile_blocking`. -/
def reconcileBlocking (backendName : String) (config : NatConfig) (mappings : List MappingSpec) :
    NatOp ReconcileOutcome := do
  let gateway ← discoverGateway config
  match gatewayLocalIp parseIp config gateway with
  | none => fail (.noLocalIp gateway.controlUrl)
  | some localIp =>
    let externalIp ← externalIpText config gateway
    let mapped ← applyMappings parseIp backendName config gateway localIp externalIp [] [] mappings
    return { gateway := ⟨backendName, gateway.controlUrl, gateway.localIp, gateway.gatewayIp,
               externalIp⟩,
             observedExternalAddresses := externalIp.toList,
             mappings := mapped }

/-- `release_blocking`. -/
def releaseBlocking (config : NatConfig) (mappings : List MappedEndpoint) : NatOp Unit := do
  let _ ← discoverGateway config
  deleteAll (mappings.map MappedEndpoint.key)

/-! ## What a failed call leaves behind -/

/-- What was asked, and what was answered. -/
abbrev Exchange := (c : GatewayCall) × GatewayReply c

/-- The gateway answers what it likes, and the conversation is written down. -/
def logged : Handler GatewayCall GatewayReply (List Exchange)
    ((c : GatewayCall) → GatewayReply c) :=
  fun talk c answer => some (answer c, talk ++ [⟨c, answer c⟩])

namespace Exchange

/-- The mapping that the gateway has added. -/
def added? : Exchange → Option MappingKey
  | ⟨.addPortMapping port _ _ _ protocol _, .ok ()⟩ => some (protocol, port)
  | _ => none

/-- The gateway was asked for a mapping it has, and did not tell. -/
def lookupFailed : Exchange → Bool
  | ⟨.getSpecificPortMapping _ _, .error _⟩ => true
  | _ => false

/-- The gateway that was found. -/
def gateway? : Exchange → Option Gateway
  | ⟨.gatewayFromUrl _, .ok found⟩ => found
  | ⟨.discover _, .ok found⟩ => found
  | _ => none

/-- The external address that the gateway told. -/
def externalIp? : Exchange → Option String
  | ⟨.fetchExternalIp, .ok text⟩ => text
  | _ => none

end Exchange

/-- A mapping counts when the gateway has added it, and its deletion as soon as it is asked for. -/
def settle (keys : List MappingKey) : Exchange → List MappingKey
  | ⟨.addPortMapping port _ _ _ protocol _, .ok ()⟩ => keys ++ [(protocol, port)]
  | ⟨.deletePortMapping port protocol, _⟩ => keys.erase (protocol, port)
  | _ => keys

/-- The mappings that were added and for which no delete has been issued since. -/
def outstanding (talk : List Exchange) : List MappingKey := talk.foldl settle []

/-- The mappings that the gateway has added. -/
def addedKeys (talk : List Exchange) : List MappingKey := talk.filterMap Exchange.added?

/-- The external address as a text: the one that is configured, or else what the gateway told when
it was asked, or when it was found, or else the address on the LAN. -/
def externalText (config : NatConfig) (talk : List Exchange) : Option String :=
  config.externalIpOverride <|> talk.findSome? Exchange.externalIp? <|>
    ((talk.findSome? Exchange.gateway?).bind fun gateway =>
      gateway.externalIp <|> (gatewayLocalIp parseIp config gateway).map displayIpv4)

/-- The external address is one. -/
def ExternalIpReads (config : NatConfig) (talk : List Exchange) : Prop :=
  ((externalText parseIp config talk).bind parseIp).isSome = true

/-- No look-up of a mapping has failed after the gateway had added one. -/
def LookupsAnswered (talk : List Exchange) : Prop :=
  talk.Pairwise fun earlier later => earlier.added?.isSome = true → later.lookupFailed = false

/-- The verdict on a failed call. -/
def Settled (config : NatConfig) (talk : List Exchange) : Prop :=
  outstanding talk = [] ↔
    (addedKeys talk = [] ∨ ExternalIpReads parseIp config talk) ∧ LookupsAnswered talk

/-- What has been added so far is what `applied` lists, none of it has been deleted, and `text` is
the external address. -/
structure Pending (config : NatConfig) (text : String) (applied : List MappingKey)
    (talk : List Exchange) : Prop where
  outstanding_eq : outstanding talk = applied
  added_eq : addedKeys talk = applied
  answered : LookupsAnswered talk
  text_eq : externalText parseIp config talk = some text

/-- A call that neither adds nor deletes. -/
def GatewayCall.Quiet : GatewayCall → Prop
  | .addPortMapping _ _ _ _ _ _ => False
  | .deletePortMapping _ _ => False
  | _ => True

section

variable {parseIp} {config : NatConfig} {talk : List Exchange}

theorem outstanding_snoc (talk : List Exchange) (x : Exchange) :
    outstanding (talk ++ [x]) = settle (outstanding talk) x :=
  List.foldl_append

theorem addedKeys_snoc (talk : List Exchange) (x : Exchange) :
    addedKeys (talk ++ [x]) = addedKeys talk ++ x.added?.toList := by
  rw [addedKeys, List.filterMap_append]
  cases hx : x.added? <;> simp [addedKeys, hx]

/-- Only a look-up that has failed makes a difference. -/
theorem lookupsAnswered_snoc {x : Exchange} (h : LookupsAnswered talk) :
    LookupsAnswered (talk ++ [x]) ↔ addedKeys talk = [] ∨ x.lookupFailed = false := by
  rw [LookupsAnswered, List.pairwise_append, addedKeys, List.filterMap_eq_nil_iff]
  constructor
  · rintro ⟨-, -, hx⟩
    by_cases hfailed : x.lookupFailed = false
    · exact .inr hfailed
    · refine .inl fun y hy => ?_
      by_contra hne
      exact hfailed (hx y hy x (List.mem_singleton.mpr rfl) (Option.isSome_iff_ne_none.mpr hne))
  · intro hx
    refine ⟨h, List.pairwise_singleton _ _, fun y hy z hz hadded => ?_⟩
    obtain rfl := List.mem_singleton.mp hz
    refine hx.resolve_left fun hnone => ?_
    rw [hnone y hy] at hadded
    cases hadded

/-- An exchange that says nothing of the gateway leaves the external address as it is. -/
theorem externalText_snoc {x : Exchange} (hgateway : x.gateway? = none)
    (hip : x.externalIp? = none) :
    externalText parseIp config (talk ++ [x]) = externalText parseIp config talk := by
  simp [externalText, List.findSome?_append, hgateway, hip]

/-! ### Before the mappings -/

/-- Nothing has been added or deleted, and the gateway has not told its external address. -/
structure Blank (talk : List Exchange) : Prop where
  quiet : ∀ x ∈ talk, x.1.Quiet
  untold : talk.findSome? Exchange.externalIp? = none

theorem settle_quiet {x : Exchange} (hx : x.1.Quiet) (keys : List MappingKey) :
    settle keys x = keys ∧ x.added? = none := by
  obtain ⟨c, reply⟩ := x
  cases c with
  | addPortMapping => exact hx.elim
  | deletePortMapping => exact hx.elim
  | gatewayFromUrl url => exact ⟨rfl, rfl⟩
  | discover options => exact ⟨rfl, rfl⟩
  | fetchExternalIp => exact ⟨rfl, rfl⟩
  | getSpecificPortMapping port protocol => exact ⟨rfl, rfl⟩

theorem addedKeys_of_quiet (h : ∀ x ∈ talk, x.1.Quiet) : addedKeys talk = [] :=
  List.filterMap_eq_nil_iff.mpr fun x hx => (settle_quiet (h x hx) []).2

theorem outstanding_of_quiet (h : ∀ x ∈ talk, x.1.Quiet) : outstanding talk = [] := by
  rw [outstanding]
  refine List.foldlRecOn (motive := fun keys => keys = []) talk settle rfl ?_
  rintro keys rfl x hx
  exact (settle_quiet (h x hx) []).1

theorem lookupsAnswered_of_quiet (h : ∀ x ∈ talk, x.1.Quiet) : LookupsAnswered talk := by
  refine List.pairwise_of_forall_mem_list fun x hx y _ hadded => ?_
  rw [(settle_quiet (h x hx) []).2] at hadded
  cases hadded

/-- Before anything has been added every failure is in order. -/
theorem settled_of_quiet (h : ∀ x ∈ talk, x.1.Quiet) : Settled parseIp config talk :=
  iff_of_true (outstanding_of_quiet h) ⟨.inl (addedKeys_of_quiet h), lookupsAnswered_of_quiet h⟩

theorem quiet_snoc {x : Exchange} (h : ∀ y ∈ talk, y.1.Quiet) (hx : x.1.Quiet) :
    ∀ y ∈ talk ++ [x], y.1.Quiet := by
  intro y hy
  rcases List.mem_append.mp hy with hy | hy
  · exact h y hy
  · exact List.mem_singleton.mp hy ▸ hx

theorem Blank.snoc {x : Exchange} (h : Blank talk) (hx : x.1.Quiet) (hip : x.externalIp? = none) :
    Blank (talk ++ [x]) :=
  ⟨quiet_snoc h.quiet hx, by simp [List.findSome?_append, h.untold, hip]⟩

theorem quiet_probeUrls (urls : List String) : Issues GatewayCall.Quiet (probeUrls urls) := by
  induction urls with
  | nil => exact issues_fail _
  | cons url urls ih =>
    refine (issues_command trivial).bind fun found => ?_
    match found with
    | .error cause => exact issues_fail _
    | .ok (some gateway) => exact issues_pure _
    | .ok none => exact ih

theorem quiet_discoverGateway (config : NatConfig) :
    Issues GatewayCall.Quiet (discoverGateway config) := by
  rw [discoverGateway]
  split
  · exact quiet_probeUrls _
  · refine (issues_command trivial).bind fun found => ?_
    match found with
    | .error cause => exact issues_fail _
    | .ok (some gateway) => exact issues_pure _
    | .ok none =>
      dsimp only
      split <;> exact issues_fail _

theorem quiet_externalIpText (config : NatConfig) (gateway : Gateway) :
    Issues GatewayCall.Quiet (externalIpText config gateway) := by
  rw [externalIpText]
  split
  · exact issues_pure _
  · refine (issues_command trivial).bind fun fetched => ?_
    match fetched with
    | .ok (some text) => exact issues_pure _
    | .ok none => exact issues_pure _
    | .error cause => exact issues_pure _

/-- A call: whatever the answer is, the program goes on with it. -/
theorem safe_call {α : Type} {c : GatewayCall} {k : GatewayReply c → NatOp α}
    {Q : Except NatError α → List Exchange → Prop}
    (h : ∀ reply, Safe logged (fun _ _ => True) Q (k reply) (talk ++ [⟨c, reply⟩])) :
    Safe logged (fun _ _ => True) Q (call c >>= k) talk := by
  intro answer reply talk' hstep
  obtain ⟨rfl, rfl⟩ := Prod.mk.inj (Option.some.inj hstep)
  exact ⟨trivial, h (answer c)⟩

/-- What is known after the discovery: the gateway is the one that the answers have named. -/
def Discovered (result : Except NatError Gateway) (talk : List Exchange) : Prop :=
  Blank talk ∧ ∀ gateway, result = .ok gateway → talk.findSome? Exchange.gateway? = some gateway

theorem Blank.failed (h : Blank talk) (e : NatError) : Discovered (.error e) talk :=
  ⟨h, fun _ heq => by cases heq⟩

theorem Blank.named {x : Exchange} {gateway : Gateway} (h : Blank (talk ++ [x]))
    (hnone : talk.findSome? Exchange.gateway? = none) (hx : x.gateway? = some gateway) :
    Discovered (.ok gateway) (talk ++ [x]) := by
  refine ⟨h, fun gateway' heq => ?_⟩
  obtain rfl := Except.ok.inj heq
  simp [List.findSome?_append, hnone, hx]

theorem safe_probeUrls (urls : List String) (h : Blank talk)
    (hnone : talk.findSome? Exchange.gateway? = none) :
    Safe logged (fun _ _ => True) Discovered (probeUrls urls) talk := by
  induction urls generalizing talk with
  | nil => exact h.failed _
  | cons url urls ih =>
    refine safe_call fun found => ?_
    have hblank : Blank (talk ++ [⟨.gatewayFromUrl url, found⟩]) := h.snoc trivial rfl
    rcases found with cause | _ | gateway
    · exact hblank.failed _
    · exact ih hblank (by simp [List.findSome?_append, hnone, Exchange.gateway?])
    · exact hblank.named hnone rfl

theorem safe_discoverGateway (config : NatConfig) :
    Safe logged (fun _ _ => True) Discovered (discoverGateway config) [] := by
  have hstart : Blank [] := ⟨fun _ hx => absurd hx List.not_mem_nil, rfl⟩
  rw [discoverGateway]
  split
  · exact safe_probeUrls _ hstart rfl
  · refine safe_call fun found => ?_
    have hblank : Blank ([] ++ [⟨.discover _, found⟩]) := hstart.snoc trivial rfl
    rcases found with cause | _ | gateway
    · exact hblank.failed _
    · dsimp only
      split <;> exact hblank.failed _
    · exact hblank.named rfl rfl

/-- Asking for the external address settles what it is. -/
theorem safe_externalIpText {gateway : Gateway} {localIp : Ipv4Addr} (h : Blank talk)
    (hgateway : talk.findSome? Exchange.gateway? = some gateway)
    (hlocal : gatewayLocalIp parseIp config gateway = some localIp) :
    Safe logged (fun _ _ => True)
      (fun r talk' => (∀ x ∈ talk', x.1.Quiet) ∧ ∀ externalIp, r = .ok externalIp →
        externalText parseIp config talk' = some (externalIp.getD (displayIpv4 localIp)))
      (externalIpText config gateway) talk := by
  rw [externalIpText]
  split
  next text htext =>
    refine ⟨h.quiet, fun externalIp heq => ?_⟩
    obtain rfl := Except.ok.inj heq
    simp [externalText, htext]
  next htext =>
    refine safe_call fun fetched => ?_
    have hquiet : ∀ x ∈ talk ++ [(⟨.fetchExternalIp, fetched⟩ : Exchange)], x.1.Quiet :=
      quiet_snoc h.quiet trivial
    rcases fetched with cause | _ | text
    -- unless the gateway tells another one now, it is the one it told when it was found
    iterate 2
      refine ⟨hquiet, fun externalIp heq => ?_⟩
      obtain rfl := Except.ok.inj heq
      simp only [externalText, htext, List.findSome?_append, h.untold, hgateway]
      cases hown : gateway.externalIp <;> simp [Exchange.externalIp?, hown, hlocal]
    · refine ⟨hquiet, fun externalIp heq => ?_⟩
      obtain rfl := Except.ok.inj heq
      simp [externalText, htext, List.findSome?_append, h.untold, Exchange.externalIp?]

/-! ### The mappings -/

section

variable {text : String} {applied : List MappingKey} {x : Exchange}

theorem Pending.added {key : MappingKey} (h : Pending parseIp config text applied talk)
    (hsettle : ∀ keys, settle keys x = keys ++ [key]) (hadded : x.added? = some key)
    (hfailed : x.lookupFailed = false) (hgateway : x.gateway? = none)
    (hip : x.externalIp? = none) :
    Pending parseIp config text (applied ++ [key]) (talk ++ [x]) where
  outstanding_eq := by rw [outstanding_snoc, h.outstanding_eq, hsettle]
  added_eq := by rw [addedKeys_snoc, h.added_eq, hadded, Option.toList_some]
  answered := (lookupsAnswered_snoc h.answered).mpr (.inr hfailed)
  text_eq := (externalText_snoc hgateway hip).trans h.text_eq

theorem Pending.quiet (h : Pending parseIp config text applied talk)
    (hsettle : ∀ keys, settle keys x = keys) (hadded : x.added? = none)
    (hfailed : x.lookupFailed = false) (hgateway : x.gateway? = none)
    (hip : x.externalIp? = none) : Pending parseIp config text applied (talk ++ [x]) where
  outstanding_eq := by rw [outstanding_snoc, h.outstanding_eq, hsettle]
  added_eq := by rw [addedKeys_snoc, h.added_eq, hadded, Option.toList_none, List.append_nil]
  answered := (lookupsAnswered_snoc h.answered).mpr (.inr hfailed)
  text_eq := (externalText_snoc hgateway hip).trans h.text_eq

/-- The look-up of a mapping fails: that is in order only if there was nothing to undo. -/
theorem Pending.settled_lookup (h : Pending parseIp config text applied talk)
    (hsettle : ∀ keys, settle keys x = keys) (hadded : x.added? = none)
    (hfailed : x.lookupFailed = true) : Settled parseIp config (talk ++ [x]) := by
  have hkeys : addedKeys (talk ++ [x]) = applied := by
    rw [addedKeys_snoc, h.added_eq, hadded, Option.toList_none, List.append_nil]
  have hlookups : LookupsAnswered (talk ++ [x]) ↔ applied = [] := by
    rw [lookupsAnswered_snoc h.answered, h.added_eq, hfailed]
    simp
  rw [Settled, hkeys, hlookups, outstanding_snoc, h.outstanding_eq, hsettle]
  exact ⟨fun hnil => ⟨.inl hnil, hnil⟩, And.right⟩

/-- So does the reading of the external address. -/
theorem Pending.settled_text (h : Pending parseIp config text applied talk)
    (htext : parseIp text = none) : Settled parseIp config talk := by
  have hreads : ¬ ExternalIpReads parseIp config talk := by
    rw [ExternalIpReads, h.text_eq, Option.bind_some, htext]
    exact Bool.false_ne_true
  rw [Settled, h.outstanding_eq, h.added_eq]
  exact ⟨fun hnil => ⟨.inl hnil, h.answered⟩, fun hcond => hcond.1.resolve_right hreads⟩

/-- Deletions undo, and leave everything else as it is. -/
theorem safe_deleteAll (keys : List MappingKey) (talk : List Exchange) :
    Safe logged (fun _ _ => True)
      (fun r talk' => r = .ok () ∧ outstanding talk' = (outstanding talk).diff keys ∧
        addedKeys talk' = addedKeys talk ∧ (LookupsAnswered talk → LookupsAnswered talk') ∧
        externalText parseIp config talk' = externalText parseIp config talk)
      (deleteAll keys) talk := by
  induction keys generalizing talk with
  | nil => exact ⟨rfl, (List.diff_nil _).symm, rfl, id, rfl⟩
  | cons key keys ih =>
    refine safe_call fun reply => (ih _).post fun r talk' h => ?_
    obtain ⟨hr, hout, hadded, hanswered, htext⟩ := h
    refine ⟨hr, ?_, ?_, fun h => hanswered ((lookupsAnswered_snoc h).mpr (.inr rfl)), ?_⟩
    · rw [hout, outstanding_snoc, List.diff_cons]
      rfl
    · rw [hadded, addedKeys_snoc]
      exact List.append_nil _
    · rw [htext]
      exact externalText_snoc rfl rfl

theorem diff_reverse_self (keys : List MappingKey) : keys.diff keys.reverse = [] := by
  refine List.eq_nil_iff_forall_not_mem.mpr fun key hkey => ?_
  have hcount := List.count_pos_iff.mpr hkey
  rw [List.count_diff, List.count_reverse] at hcount
  omega

/-- One round of the loop.  From the second one on the external address has been read. -/
theorem safe_addMapping {gateway : Gateway} {localIp : Ipv4Addr} {spec : MappingSpec}
    (h : Pending parseIp config text applied talk)
    (hread : applied = [] ∨ (parseIp text).isSome = true) :
    Safe logged (fun _ _ => True)
      (fun r talk' => match r with
        | .ok applied' => Pending parseIp config text applied' talk'
        | .error _ => Settled parseIp config talk')
      (addMapping parseIp config gateway localIp applied spec) talk := by
  refine safe_call fun added => ?_
  rcases added with cause | _
  · have hrefused : Pending parseIp config text applied (talk ++
        [⟨.addPortMapping spec.externalPort spec.localAddr.port
            (displayIpv4 (mappingInternalIp parseIp config spec localIp)) spec.name spec.protocol
            config.leaseDurationSecs, .error cause⟩]) :=
      h.quiet (fun _ => rfl) rfl rfl rfl rfl
    refine safe_call fun found => ?_
    rcases found with cause' | entry
    · exact hrefused.settled_lookup (fun _ => rfl) rfl rfl
    · have hfound := hrefused.quiet
        (x := ⟨.getSpecificPortMapping spec.externalPort spec.protocol, .ok entry⟩)
        (fun _ => rfl) rfl rfl rfl rfl
      dsimp only
      split
      · exact hfound
      · refine (@safe_deleteAll parseIp config applied.reverse _).bind
          (fun _ talk' hdeleted => ?_) fun e talk' hdeleted => ?_
        · obtain ⟨-, hout, hadded, hanswered, htext⟩ := hdeleted
          refine iff_of_true ?_ ⟨?_, hanswered hfound.answered⟩
          · rw [hout, hfound.outstanding_eq, diff_reverse_self]
          · rw [hadded, hfound.added_eq, ExternalIpReads, htext, hfound.text_eq]
            exact hread
        · cases hdeleted.1
  · exact h.added (fun _ => rfl) rfl rfl rfl rfl

theorem safe_applyMappings {backendName : String} {gateway : Gateway} {localIp : Ipv4Addr}
    {externalIp : Option String} {specs : List MappingSpec} {mapped : List MappedEndpoint}
    (h : Pending parseIp config (externalIp.getD (displayIpv4 localIp)) applied talk)
    (hread : applied = [] ∨ (parseIp (externalIp.getD (displayIpv4 localIp))).isSome = true) :
    Safe logged (fun _ _ => True) (fun r talk' => ∀ e, r = .error e → Settled parseIp config talk')
      (applyMappings parseIp backendName config gateway localIp externalIp applied mapped specs)
      talk := by
  induction specs generalizing applied mapped talk with
  | nil =>
    intro e he
    cases he
  | cons spec specs ih =>
    refine (safe_addMapping h hread).bind (fun applied₁ talk₁ htalk₁ => ?_) ?_
    · dsimp only at htalk₁
      split
      next hnone =>
        intro e _
        exact htalk₁.settled_text hnone
      next ip hip => exact ih htalk₁ (.inr (Option.isSome_iff_exists.mpr ⟨ip, hip⟩))
    · intro e talk₁ htalk₁ e' _
      exact htalk₁

theorem safe_reconcileBlocking (backendName : String) (config : NatConfig)
    (mappings : List MappingSpec) :
    Safe logged (fun _ _ => True) (fun r talk => ∀ e, r = .error e → Settled parseIp config talk)
      (reconcileBlocking parseIp backendName config mappings) [] := by
  refine (safe_discoverGateway config).bind (fun gateway talk htalk => ?_) ?_
  · split
    next => exact fun _ _ => settled_of_quiet htalk.1.quiet
    next localIp hlocal =>
      refine (safe_externalIpText htalk.1 (htalk.2 gateway rfl) hlocal).bind
        (fun externalIp talk₁ htalk₁ => ?_) fun _ _ htalk₁ _ _ => settled_of_quiet htalk₁.1
      have hpending : Pending parseIp config (externalIp.getD (displayIpv4 localIp)) [] talk₁ :=
        ⟨outstanding_of_quiet htalk₁.1, addedKeys_of_quiet htalk₁.1,
          lookupsAnswered_of_quiet htalk₁.1, htalk₁.2 externalIp rfl⟩
      refine (safe_applyMappings hpending (.inl rfl)).bind (fun mapped talk₂ _ e he => ?_) ?_
      · cases he
      · intro e talk₂ htalk₂ _ _
        exact htalk₂ e rfl
  · exact fun _ _ htalk _ _ => settled_of_quiet htalk.1.quiet

end

/-- **Which failures leave nothing behind.**  Whatever the gateway answers, a failed call has issued
a delete for every mapping it added exactly if the external address can be read, or the gateway has
not added anything, and no look-up of a mapping has failed after it had. -/
theorem reconcileBlocking_rolledBack_iff (backendName : String) (config : NatConfig)
    (mappings : List MappingSpec) (answers : List ((c : GatewayCall) → GatewayReply c))
    (e : NatError) (talk : List Exchange)
    (h : (reconcileBlocking parseIp backendName config mappings).exec logged [] answers =
      some (.error e, talk)) :
    outstanding talk = [] ↔
      (addedKeys talk = [] ∨ ExternalIpReads parseIp config talk) ∧ LookupsAnswered talk :=
  (safe_reconcileBlocking backendName config mappings).of_exec h e rfl

end

/-! ### Two calls -/

/-- A decimal octet as the standard library reads it. -/
def octet? (digits : List Char) : Option UInt8 :=
  let value := digits.foldl (fun n d => 10 * n + (d.toNat - '0'.toNat)) 0
  if digits.all Char.isDigit ∧ 0 < digits.length ∧ digits.length ≤ 3 ∧
      (digits.head? = some '0' → digits.length = 1) ∧ value < 256 then
    some (UInt8.ofNat value)
  else none

/-- The IPv4 half of `str::parse::<IpAddr>`. -/
def parseDottedQuad (text : String) : Option IpAddr :=
  match (text.toList.splitOn '.').map octet? with
  | [some a, some b, some c, some d] => some (.v4 (.new a b c d))
  | _ => none

def sampleGateway : Gateway := ⟨"http://192.168.1.1/ctl", some "192.168.1.2", none, none⟩

/-- A gateway that is found and does everything it is asked to. -/
def agreeable : (c : GatewayCall) → GatewayReply c
  | .gatewayFromUrl _ => .ok (some sampleGateway)
  | .discover _ => .ok (some sampleGateway)
  | .fetchExternalIp => .ok none
  | .addPortMapping _ _ _ _ _ _ => .ok ()
  | .getSpecificPortMapping _ _ => .ok none
  | .deletePortMapping _ _ => .ok ()

/-- One that refuses a mapping. -/
def refusing : (c : GatewayCall) → GatewayReply c
  | .addPortMapping _ _ _ _ _ _ => .error "ConflictInMappingEntry"
  | c => agreeable c

def kadSpec : MappingSpec := ⟨"kad", .v4 .UNSPECIFIED 41000, .udp, none⟩

def ed2kSpec : MappingSpec := ⟨"ed2k", .v4 .UNSPECIFIED 41001, .tcp, none⟩

/-- The conversation in which the second mapping is refused. -/
def refusedTalk : List Exchange :=
  [⟨.discover ⟨5, none, none, none⟩, .ok (some sampleGateway)⟩, ⟨.fetchExternalIp, .ok none⟩,
    ⟨.addPortMapping 41000 41000 "192.168.1.2" "kad" .udp 3600, .ok ()⟩,
    ⟨.addPortMapping 41001 41001 "192.168.1.2" "ed2k" .tcp 3600, .error "ConflictInMappingEntry"⟩,
    ⟨.getSpecificPortMapping 41001 .tcp, .ok none⟩, ⟨.deletePortMapping 41000 .udp, .ok ()⟩]

/-- The second mapping is refused and the first one deleted. -/
theorem refused_mapping_rolledBack :
    (reconcileBlocking parseDottedQuad "upnp_miniupnpc" {} [kadSpec, ed2kSpec]).exec logged []
        [agreeable, agreeable, agreeable, refusing, agreeable, agreeable] =
      some (.error (.addFailed "http://192.168.1.1/ctl" "ed2k"), refusedTalk) ∧
    addedKeys refusedTalk = [(.udp, 41000)] ∧
    (outstanding refusedTalk = [] ↔
      (addedKeys refusedTalk = [] ∨ ExternalIpReads parseDottedQuad {} refusedTalk) ∧
        LookupsAnswered refusedTalk) :=
  ⟨by decide +kernel, by decide +kernel, @reconcileBlocking_rolledBack_iff parseDottedQuad
    "upnp_miniupnpc" {} [kadSpec, ed2kSpec]
    [agreeable, agreeable, agreeable, refusing, agreeable, agreeable]
    (.addFailed "http://192.168.1.1/ctl" "ed2k") refusedTalk (by decide +kernel)⟩

/-- **A mapping is left behind.**  The gateway does everything it is asked to, but the configured
external address is a host name. -/
theorem override_leaves_mapping :
    ((reconcileBlocking parseDottedQuad "upnp_miniupnpc"
        { externalIpOverride := some "nat.example" } [kadSpec, ed2kSpec]).exec logged []
        [agreeable, agreeable]).map (fun outcome => (outcome.1, outstanding outcome.2)) =
      some (.error (.invalidExternalIp "kad"), [(.udp, 41000)]) := by
  decide +kernel

end Overlord.Nat
