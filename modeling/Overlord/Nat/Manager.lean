import Overlord.Nat.Miniupnpc

/-!
# The NAT manager

`manager.rs` of the NAT crate with the `miniupnpc` provider.  `start` spawns a task that reconciles
the mappings with the gateway, sleeps and starts over; `stop` sets a flag, aborts that task and has
the mappings deleted.  The calls to the gateway are made on blocking threads, which an abort does
not reach: a reconciliation that is under way when its task is aborted goes on to its end.

A manager is a machine whose events are the next stretch of the task, of `stop`, or of one of the
two threads.  A stretch of the task that is already being polled when the abort comes is still run
to its next `await`.

`mappings_gone_after_stop` — if no reconciliation is under way when `stop` aborts the task, and the
gateway is found again, then once `stop` has returned and the gateway has accepted its deletions
there is no mapping left, then or later.  `late_mapping_survives` is what happens otherwise.
-/

set_option autoImplicit false

namespace Overlord.Nat

open Machine Machine.Prog

/-! ## The gateway -/

/-- The mappings of this manager on the gateway. -/
structure Table where
  present : List MappingKey := []
  /-- The gateway has refused to delete one when it was asked by a release. -/
  refused : Bool := false
deriving DecidableEq, Repr

/-- What a call does to the table; the answers are the environment's. -/
def Table.after (t : Table) : (c : GatewayCall) → GatewayReply c → Table
  | .addPortMapping port _ _ _ protocol _, .ok () =>
    { t with present := t.present ++ [(protocol, port)] }
  | .deletePortMapping port protocol, .ok () =>
    { t with present := t.present.filter (· ≠ (protocol, port)) }
  | .deletePortMapping _ _, .error _ => { t with refused := true }
  | _, _ => t

def onGateway : Handler GatewayCall GatewayReply Table ((c : GatewayCall) → GatewayReply c) :=
  fun t c answer => some (answer c, t.after c (answer c))

/-- A thread makes its next call. -/
def advance {α : Type} (t : Table) (answer : (c : GatewayCall) → GatewayReply c) :
    NatOp α → Option (NatOp α × Table)
  | .done _ => none
  | .issue c k => some (k (answer c), t.after c (answer c))

/-! ## The manager -/

def UPNP_MINIUPNPC_BACKEND : String := "upnp_miniupnpc"

/-- Where the task is. -/
inductive LoopPhase where
  /-- Spawned, or asleep. -/
  | idle
  /-- A reconciliation is on its thread; the backends still to be tried follow. -/
  | waiting (rest : List String)
  /-- It has succeeded and its outcome is to be written into the status. -/
  | writing (outcome : ReconcileOutcome)
  /-- No backend has succeeded, which is to be written into the status. -/
  | failed
  | ended
deriving DecidableEq, Repr

/-- Where `stop` is. -/
inductive StopPhase where
  | idle
  /-- The flag is set. -/
  | flagged
  /-- The task is aborted. -/
  | aborted
  /-- These mappings are to be released through these backends. -/
  | releasing (mappings : List MappedEndpoint) (order : List String)
  /-- A release is on its thread. -/
  | waiting (task : NatOp Unit) (mappings : List MappedEndpoint) (order : List String)
  /-- It has succeeded and the status is to be cleared. -/
  | clearing (mappings : List MappedEndpoint) (order : List String)
  | returned

def StopPhase.isReturned : StopPhase → Bool
  | .returned => true
  | _ => false

/-- The manager, with the fields of its status that it reads. -/
structure Manager where
  shutdown : Bool := false
  loop : LoopPhase
  /-- The task is being polled. -/
  woken : Bool := false
  /-- An abort of the task has been asked for. -/
  cancelled : Bool := false
  thread : Option (NatOp ReconcileOutcome) := none
  stop : StopPhase := .idle
  backend : Option String := none
  mappings : List MappedEndpoint := []
  table : Table := {}

/-- `release_targets_from_specs`. -/
def releaseTargetsFromSpecs (specs : List MappingSpec) (leaseDurationSecs : UInt32) :
    List MappedEndpoint :=
  specs.map fun spec =>
    { name := spec.name, protocol := spec.protocol, localAddr := spec.localAddr,
      externalAddr := .new spec.localAddr.ip spec.externalPort,
      leaseExpiresInSecs := leaseDurationSecs, backend := "" }

/-- `release_backend_order`. -/
def releaseBackendOrder (selected : Option String) (backendOrder : List String) : List String :=
  backendOrder.foldl (fun ordered name => if name ∈ ordered then ordered else ordered ++ [name])
    selected.toList

section

variable (parseIp : String → Option IpAddr) (config : NatConfig) (specs : List MappingSpec)

/-- A manager that has been started.  Without mappings, or if it is disabled, there is no task. -/
def started : Manager :=
  { loop := if config.enabled ∧ specs ≠ [] then .idle else .ended }

/-- The loop of `reconcile_once` over the backends, up to the next reconciliation.  A backend that
is not available is passed over. -/
def tryBackends (s : Manager) : List String → Manager
  | [] => { s with loop := .failed }
  | name :: order =>
    if name = UPNP_MINIUPNPC_BACKEND then
      { s with
        thread := some (reconcileBlocking parseIp UPNP_MINIUPNPC_BACKEND config specs)
        loop := .waiting order }
    else tryBackends s order

/-- The task, from one `await` to the next. -/
def poll (s : Manager) : Option Manager :=
  match s.loop with
  | .idle =>
    if s.shutdown then some { s with loop := .ended }
    else some (tryBackends parseIp config specs s config.backendOrder)
  | .waiting rest =>
    match s.thread with
    | some (.done (.ok outcome)) => some { s with thread := none, loop := .writing outcome }
    | some (.done (.error _)) =>
      some (tryBackends parseIp config specs { s with thread := none } rest)
    | _ => some s
  | .writing outcome =>
    some { s with backend := some UPNP_MINIUPNPC_BACKEND, mappings := outcome.mappings
                  loop := .idle }
  | .failed => some { s with loop := .idle }
  | .ended => none

/-- What `stop` has to release: what the status lists, or else whatever may have been mapped. -/
def releaseTargets (s : Manager) : List MappedEndpoint :=
  if s.mappings = [] then releaseTargetsFromSpecs specs config.leaseDurationSecs else s.mappings

/-- `stop`, from one `await` to the next. -/
def stopStep (s : Manager) : Option Manager :=
  match s.stop with
  | .idle => some { s with shutdown := true, stop := .flagged }
  | .flagged => some { s with cancelled := true, stop := .aborted }
  | .aborted =>
    if releaseTargets config specs s = [] then some { s with stop := .returned }
    else some { s with
      stop := .releasing (releaseTargets config specs s)
        (releaseBackendOrder s.backend config.backendOrder) }
  | .releasing _ [] => some { s with stop := .returned }
  | .releasing mappings (name :: order) =>
    if name = UPNP_MINIUPNPC_BACKEND then
      some { s with stop := .waiting (releaseBlocking config mappings) mappings order }
    else some { s with stop := .releasing mappings order }
  | .waiting (.done (.ok _)) mappings order => some { s with stop := .clearing mappings order }
  | .waiting (.done (.error _)) mappings order => some { s with stop := .releasing mappings order }
  | .waiting (.issue _ _) _ _ => none
  | .clearing mappings order => some { s with mappings := [], stop := .releasing mappings order }
  | .returned => none

/-- What happens next. -/
inductive Event where
  /-- The task is picked up to be polled. -/
  | wake
  /-- It is polled. -/
  | poll
  /-- The thread of the reconciliation makes a call. -/
  | reconcileCall (answer : (c : GatewayCall) → GatewayReply c)
  | stop
  /-- The thread of the release makes a call. -/
  | releaseCall (answer : (c : GatewayCall) → GatewayReply c)

/-- One step.  An aborted task is not picked up again, but a poll that has begun is finished.  A
deletion that is refused counts only if a release has asked for it, and not a rollback. -/
def step (s : Manager) : Event → Option Manager
  | .wake => if s.cancelled then none else some { s with woken := true }
  | .poll => if s.woken then poll parseIp config specs { s with woken := false } else none
  | .reconcileCall answer => do
    let task ← s.thread
    let (task, table) ← advance s.table answer task
    return { s with thread := some task, table := { table with refused := s.table.refused } }
  | .stop => stopStep config specs s
  | .releaseCall answer =>
    match s.stop with
    | .waiting task mappings order => do
      let (task, table) ← advance s.table answer task
      return { s with stop := .waiting task mappings order, table }
    | _ => none

end

/-- Once `stop` has returned and the gateway has accepted the deletions of the release, no mapping
is there. -/
def Released (s : Manager) : Prop :=
  s.stop.isReturned = true → s.table.refused = false → s.table.present = []

/-- No reconciliation is under way. -/
def Manager.resting (s : Manager) : Bool :=
  !s.woken && match s.thread with
    | some (.issue _ _) => false
    | _ => true

/-- The task is aborted only while no reconciliation is under way, and the release does not fail to
find the gateway. -/
def Calm (s : Manager) : Event → Prop
  | .stop => match s.stop with
    | .flagged => s.resting = true
    | .waiting (.done (.error _)) _ _ => False
    | _ => True
  | _ => True

/-! ## What the threads do -/

section

variable {parseIp : String → Option IpAddr} {config : NatConfig} {specs : List MappingSpec}

/-- The call adds no other mapping than one of these. -/
def AddsOnly (keys : List MappingKey) : GatewayCall → Prop
  | .addPortMapping port _ _ _ protocol _ => (protocol, port) ∈ keys
  | _ => True

/-- The mappings that the specs ask for. -/
def specKeys (specs : List MappingSpec) : List MappingKey := specs.map MappingSpec.key

theorem AddsOnly.of_quiet {keys : List MappingKey} {c : GatewayCall} (h : c.Quiet) :
    AddsOnly keys c := by
  cases c with
  | addPortMapping => exact h.elim
  | _ => trivial

theorem Table.after_of_quiet {c : GatewayCall} (h : c.Quiet) (t : Table) (reply : GatewayReply c) :
    t.after c reply = t := by
  cases c with
  | addPortMapping => exact h.elim
  | deletePortMapping => exact h.elim
  | gatewayFromUrl url => rfl
  | discover options => rfl
  | fetchExternalIp => rfl
  | getSpecificPortMapping port protocol => rfl

/-- A mapping that is there after a call was there before, or was added by it. -/
theorem Table.mem_after {t : Table} {c : GatewayCall} {reply : GatewayReply c}
    {keys : List MappingKey} (hc : AddsOnly keys c) {key : MappingKey}
    (hkey : key ∈ (t.after c reply).present) : key ∈ t.present ∨ key ∈ keys := by
  cases c with
  | addPortMapping port internalPort internalIp name protocol lease =>
    cases reply with
    | error cause => exact .inl hkey
    | ok =>
      refine (List.mem_append.mp hkey).imp_right fun hnew => ?_
      rw [List.mem_singleton.mp hnew]
      exact hc
  | deletePortMapping port protocol =>
    cases reply with
    | error cause => exact .inl hkey
    | ok => exact .inl (List.mem_of_mem_filter hkey)
  | gatewayFromUrl url => exact .inl hkey
  | discover options => exact .inl hkey
  | fetchExternalIp => exact .inl hkey
  | getSpecificPortMapping port protocol => exact .inl hkey

theorem addsOnly_deleteAll (keys deleted : List MappingKey) :
    Issues (AddsOnly keys) (deleteAll deleted) := by
  induction deleted with
  | nil => exact issues_pure _
  | cons key deleted ih => exact (issues_command trivial).bind fun _ => ih

theorem addsOnly_addMapping {gateway : Gateway} {localIp : Ipv4Addr}
    {applied keys : List MappingKey}
    {spec : MappingSpec} (hspec : spec.key ∈ keys) :
    Issues (AddsOnly keys) (addMapping parseIp config gateway localIp applied spec) := by
  refine ⟨hspec, fun added => ?_⟩
  match added with
  | .ok () => exact issues_pure _
  | .error cause =>
    refine ⟨trivial, fun found => ?_⟩
    match found with
    | .error cause => exact issues_fail _
    | .ok entry =>
      show Issues _ (if _ then _ else _)
      split
      · exact issues_pure _
      · exact (addsOnly_deleteAll keys _).bind fun _ => issues_fail _

theorem addsOnly_applyMappings {backendName : String} {gateway : Gateway} {localIp : Ipv4Addr}
    {externalIp : Option String} {applied keys : List MappingKey} {mapped : List MappedEndpoint}
    {specs : List MappingSpec} (hspecs : ∀ spec ∈ specs, spec.key ∈ keys) :
    Issues (AddsOnly keys)
      (applyMappings parseIp backendName config gateway localIp externalIp applied mapped
        specs) := by
  induction specs generalizing applied mapped with
  | nil => exact issues_pure _
  | cons spec specs ih =>
    refine (addsOnly_addMapping (hspecs spec (List.mem_cons_self))).bind fun applied' => ?_
    split
    · exact issues_fail _
    · exact ih fun spec' hspec' => hspecs spec' (List.mem_cons_of_mem _ hspec')

/-- **A reconciliation adds no other mappings than the specs ask for.** -/
theorem addsOnly_reconcileBlocking (backendName : String) :
    Issues (AddsOnly (specKeys specs)) (reconcileBlocking parseIp backendName config specs) := by
  refine ((quiet_discoverGateway config).mono fun _ => AddsOnly.of_quiet).bind fun gateway => ?_
  split
  · exact issues_fail _
  · refine ((quiet_externalIpText config gateway).mono fun _ => AddsOnly.of_quiet).bind
      fun externalIp => ?_
    refine (addsOnly_applyMappings fun spec hspec => ?_).bind fun mapped => issues_pure _
    exact List.mem_map_of_mem hspec

theorem port_new (ip : IpAddr) (port : UInt16) : (SocketAddr.new ip port).port = port := by
  cases ip <;> rfl

theorem ends_applyMappings {backendName : String} {gateway : Gateway} {localIp : Ipv4Addr}
    {externalIp : Option String} {applied : List MappingKey} {mapped : List MappedEndpoint}
    {specs : List MappingSpec} :
    Ends (fun r => ∀ mapped', r = .ok mapped' →
        mapped'.map MappedEndpoint.key = mapped.map MappedEndpoint.key ++ specKeys specs)
      (applyMappings parseIp backendName config gateway localIp externalIp applied mapped
        specs) := by
  induction specs generalizing applied mapped with
  | nil =>
    rintro mapped' ⟨⟩
    exact (List.append_nil _).symm
  | cons spec specs ih =>
    refine (ends_trivial _).bind (fun applied' _ => ?_) nofun
    split
    · exact nofun
    · next ip _ =>
      have hkeys : ∀ endpoint : MappedEndpoint, endpoint.key = spec.key →
          mapped.map MappedEndpoint.key ++ specKeys (spec :: specs) =
            (mapped ++ [endpoint]).map MappedEndpoint.key ++ specKeys specs := by
        intro endpoint h
        simp [specKeys, h]
      rw [hkeys ⟨spec.name, spec.protocol, spec.localAddr, .new ip spec.externalPort,
        config.leaseDurationSecs, backendName⟩ (congrArg _ (port_new ip spec.externalPort))]
      exact ih

/-- A reconciliation that succeeds reports the mappings that the specs ask for. -/
theorem ends_reconcileBlocking (backendName : String) :
    Ends (fun r => ∀ outcome, r = .ok outcome →
        outcome.mappings.map MappedEndpoint.key = specKeys specs)
      (reconcileBlocking parseIp backendName config specs) := by
  refine (ends_trivial _).bind (fun gateway _ => ?_) nofun
  split
  · exact nofun
  · refine (ends_trivial _).bind (fun externalIp _ => ?_) nofun
    refine ends_applyMappings.bind (fun mapped hmapped => ?_) nofun
    rintro outcome ⟨⟩
    exact hmapped mapped rfl

/-! ### The release -/

/-- Nothing is left of the mappings, unless the gateway has refused a release to delete one. -/
def Table.Cleared (t : Table) : Prop := t.refused = true ∨ t.present = []

theorem safe_deleteAll_cleared (keys : List MappingKey) {t : Table}
    (h : t.refused = true ∨ ∀ key ∈ t.present, key ∈ keys) :
    Safe onGateway (fun _ _ => True) (fun _ t' => t'.Cleared) (deleteAll keys) t := by
  induction keys generalizing t with
  | nil =>
    refine h.imp_right fun hpresent => List.eq_nil_iff_forall_not_mem.mpr fun key hkey => ?_
    exact List.not_mem_nil (hpresent key hkey)
  | cons key keys ih =>
    intro answer reply t' hstep
    obtain ⟨-, rfl⟩ := Prod.mk.inj (Option.some.inj hstep)
    refine ⟨trivial, ih ?_⟩
    generalize answer (.deletePortMapping key.2 key.1) = deleted
    match deleted with
    | .error cause => exact .inl rfl
    | .ok () =>
      refine h.imp_right fun hpresent other hother => ?_
      obtain ⟨hmem, hne⟩ := List.mem_filter.mp hother
      exact (List.mem_cons.mp (hpresent other hmem)).resolve_left (of_decide_eq_true hne)

/-- **A release that succeeds leaves nothing**, if it is given every mapping that is there. -/
theorem safe_releaseBlocking {mappings : List MappedEndpoint} {t : Table}
    (h : ∀ key ∈ t.present, key ∈ mappings.map MappedEndpoint.key) :
    Safe onGateway (fun _ _ => True) (fun r t' => ∀ u, r = .ok u → t'.Cleared)
      (releaseBlocking config mappings) t := by
  have hquiet :
      Safe onGateway (fun _ _ => True) (fun _ t' => t' = t) (discoverGateway config) t := by
    refine (quiet_discoverGateway config).safe rfl fun t₁ c answer reply t₂ hc ht hstep => ?_
    obtain ⟨-, rfl⟩ := Prod.mk.inj (Option.some.inj hstep)
    exact ⟨(Table.after_of_quiet hc t₁ _).trans ht, trivial⟩
  refine hquiet.bind (fun gateway t₁ ht₁ => ?_) nofun
  subst ht₁
  exact (safe_deleteAll_cleared _ (.inr h)).post fun _ _ hcleared _ _ => hcleared

theorem addsOnly_releaseBlocking (mappings : List MappedEndpoint) :
    Issues (AddsOnly []) (releaseBlocking config mappings) :=
  ((quiet_discoverGateway config).mono fun _ => AddsOnly.of_quiet).bind
    fun _ => addsOnly_deleteAll [] _

/-! ## The invariant -/

/-- What holds of a manager at any time. -/
structure Tracked (config : NatConfig) (specs : List MappingSpec) (s : Manager) : Prop where
  /-- The mappings on the gateway are among those of the specs. -/
  present : ∀ key ∈ s.table.present, key ∈ specKeys specs
  /-- The thread of the reconciliation adds no others and reports them all. -/
  thread : ∀ task, s.thread = some task → Issues (AddsOnly (specKeys specs)) task ∧
    Ends (fun r => ∀ outcome, r = .ok outcome →
      outcome.mappings.map MappedEndpoint.key = specKeys specs) task
  writing : ∀ outcome, s.loop = .writing outcome →
    outcome.mappings.map MappedEndpoint.key = specKeys specs
  mappings : s.mappings = [] ∨ s.mappings.map MappedEndpoint.key = specKeys specs
  /-- Without the backend nothing ever happens. -/
  backend : s.thread ≠ none ∨ s.table.present ≠ [] → UPNP_MINIUPNPC_BACKEND ∈ config.backendOrder
  rest : ∀ rest, s.loop = .waiting rest → ∀ name ∈ rest, name ∈ config.backendOrder
  release : ∀ task mappings order, s.stop = .waiting task mappings order → Issues (AddsOnly []) task

theorem Tracked.started : Tracked config specs (started config specs) where
  present := nofun
  thread := nofun
  writing := by
    intro outcome h
    simp only [Nat.started] at h
    split at h <;> cases h
  mappings := .inl rfl
  backend h := (h.elim (fun hthread => hthread rfl) fun hpresent => hpresent rfl).elim
  rest := by
    intro rest h
    simp only [Nat.started] at h
    split at h <;> cases h
  release := nofun

theorem Tracked.tryBackends {s : Manager} (h : Tracked config specs s) {order : List String}
    (horder : ∀ name ∈ order, name ∈ config.backendOrder) :
    Tracked config specs (tryBackends parseIp config specs s order) := by
  induction order with
  | nil => exact { h with writing := nofun, rest := nofun }
  | cons name order ih =>
    rw [Nat.tryBackends]
    split
    case isTrue hname =>
      refine { h with
        thread := ?_
        writing := nofun
        backend := fun _ => hname ▸ horder name List.mem_cons_self
        rest := ?_ }
      · rintro task ⟨⟩
        exact ⟨addsOnly_reconcileBlocking _, ends_reconcileBlocking _⟩
      · rintro rest ⟨⟩
        exact fun name' hname' => horder name' (List.mem_cons_of_mem _ hname')
    case isFalse => exact ih fun name' hname' => horder name' (List.mem_cons_of_mem _ hname')

theorem Tracked.poll {s s' : Manager} (h : Tracked config specs s)
    (hpoll : poll parseIp config specs s = some s') : Tracked config specs s' := by
  rw [Nat.poll] at hpoll
  split at hpoll
  case h_1 =>
    split at hpoll
    · obtain rfl := Option.some.inj hpoll
      exact { h with writing := nofun, rest := nofun }
    · obtain rfl := Option.some.inj hpoll
      exact h.tryBackends fun name hname => hname
  case h_2 rest hloop =>
    split at hpoll
    case h_1 outcome hthread =>
      obtain rfl := Option.some.inj hpoll
      refine { h with thread := nofun, writing := ?_, backend := ?_, rest := nofun }
      · rintro outcome' ⟨⟩
        exact (h.thread _ hthread).2 outcome rfl
      · exact fun hpresent => h.backend (.inr (hpresent.resolve_left fun hnone => hnone rfl))
    case h_2 cause hthread =>
      obtain rfl := Option.some.inj hpoll
      refine Tracked.tryBackends ?_ (h.rest rest hloop)
      refine { h with thread := nofun, backend := ?_ }
      exact fun hpresent => h.backend (.inr (hpresent.resolve_left fun hnone => hnone rfl))
    case h_3 => exact Option.some.inj hpoll ▸ h
  case h_3 outcome hloop =>
    obtain rfl := Option.some.inj hpoll
    exact { h with writing := nofun, mappings := .inr (h.writing outcome hloop), rest := nofun }
  case h_4 =>
    obtain rfl := Option.some.inj hpoll
    exact { h with writing := nofun, rest := nofun }
  case h_5 => cases hpoll

/-- What a call of a thread does. -/
theorem advance_cases {α : Type} {t t' : Table} {answer : (c : GatewayCall) → GatewayReply c}
    {task task' : NatOp α} (h : advance t answer task = some (task', t')) :
    ∃ c k, task = .issue c k ∧ task' = k (answer c) ∧ t' = t.after c (answer c) := by
  cases task with
  | done r => cases h
  | issue c k =>
    obtain ⟨rfl, rfl⟩ := Prod.mk.inj (Option.some.inj h)
    exact ⟨c, k, rfl, rfl, rfl⟩

/-- The task is gone and no reconciliation is under way. -/
def Manager.Dead (s : Manager) : Prop := s.cancelled = true ∧ s.resting = true

/-- What holds while `stop` winds the manager down. -/
def Winding (specs : List MappingSpec) (s : Manager) : Prop :=
  match s.stop with
  | .idle => True
  | .flagged => True
  | .aborted => s.Dead
  | .releasing mappings order => s.Dead ∧ mappings.map MappedEndpoint.key = specKeys specs ∧
      (s.table.Cleared ∨ UPNP_MINIUPNPC_BACKEND ∈ order)
  | .waiting task mappings _ => s.Dead ∧ mappings.map MappedEndpoint.key = specKeys specs ∧
      Safe onGateway (fun _ _ => True) (fun r t => ∀ u, r = .ok u → t.Cleared) task s.table
  | .clearing mappings _ => s.Dead ∧ mappings.map MappedEndpoint.key = specKeys specs ∧
      s.table.Cleared
  | .returned => s.Dead ∧ s.table.Cleared

theorem mem_releaseBackendOrder {selected : Option String} {backendOrder : List String}
    {name : String} (h : name ∈ backendOrder) :
      name ∈ releaseBackendOrder selected backendOrder := by
  rw [releaseBackendOrder]
  suffices hfold : ∀ (order ordered : List String), name ∈ order ∨ name ∈ ordered →
      name ∈ order.foldl
        (fun ordered name => if name ∈ ordered then ordered else ordered ++ [name]) ordered from
    hfold backendOrder _ (.inl h)
  intro order
  induction order with
  | nil => exact fun ordered hname => hname.resolve_left List.not_mem_nil
  | cons first order ih =>
    intro ordered hname
    refine ih _ ?_
    dsimp only
    split
    case isTrue hfirst =>
      rcases hname with hname | hname
      · exact (List.mem_cons.mp hname).elim (fun heq => .inr (heq ▸ hfirst)) .inl
      · exact .inr hname
    case isFalse =>
      rcases hname with hname | hname
      · exact (List.mem_cons.mp hname).elim
          (fun heq => .inr (List.mem_append_right _ (List.mem_singleton.mpr heq))) .inl
      · exact .inr (List.mem_append_left _ hname)

theorem key_releaseTargetsFromSpecs (specs : List MappingSpec) (lease : UInt32) :
    (releaseTargetsFromSpecs specs lease).map MappedEndpoint.key = specKeys specs := by
  rw [releaseTargetsFromSpecs, specKeys, List.map_map]
  exact List.map_congr_left fun spec _ => congrArg _ (port_new _ _)

theorem Tracked.key_releaseTargets {s : Manager} (h : Tracked config specs s) :
    (releaseTargets config specs s).map MappedEndpoint.key = specKeys specs := by
  rw [releaseTargets]
  split
  case isTrue => exact key_releaseTargetsFromSpecs specs _
  case isFalse hne => exact h.mappings.resolve_left hne

theorem Tracked.stopStep {s s' : Manager} (h : Tracked config specs s) (hw : Winding specs s)
    (hcalm : Calm s .stop) (hstop : stopStep config specs s = some s') :
    Tracked config specs s' ∧ Winding specs s' := by
  obtain ⟨shutdown, loop, woken, cancelled, thread, phase, backend, mappings, table⟩ := s
  cases phase with
  | idle =>
    obtain rfl := Option.some.inj hstop
    exact ⟨{ h with release := nofun }, trivial⟩
  | flagged =>
    obtain rfl := Option.some.inj hstop
    exact ⟨{ h with release := nofun }, rfl, hcalm⟩
  | aborted =>
    have hkeys := h.key_releaseTargets
    replace hstop : (if _ then _ else _) = some s' := hstop
    split at hstop
    case isTrue hnone =>
      -- nothing to release: there are no specs, so nothing was ever added
      obtain rfl := Option.some.inj hstop
      refine ⟨{ h with release := nofun }, hw, .inr (List.eq_nil_iff_forall_not_mem.mpr ?_)⟩
      intro key hkey
      have hmem := h.present key hkey
      rw [← hkeys, hnone] at hmem
      exact List.not_mem_nil hmem
    case isFalse =>
      obtain rfl := Option.some.inj hstop
      refine ⟨{ h with release := nofun }, hw, hkeys, ?_⟩
      by_cases hpresent : table.present = []
      · exact .inl (.inr hpresent)
      · exact .inr (mem_releaseBackendOrder (h.backend (.inr hpresent)))
  | releasing targets order =>
    obtain ⟨hdead, hkeys, horder⟩ := hw
    cases order with
    | nil =>
      obtain rfl := Option.some.inj hstop
      exact ⟨{ h with release := nofun }, hdead, horder.resolve_right List.not_mem_nil⟩
    | cons name order =>
      replace hstop : (if _ then _ else _) = some s' := hstop
      split at hstop
      case isTrue =>
        obtain rfl := Option.some.inj hstop
        refine ⟨{ h with release := ?_ }, hdead, hkeys, safe_releaseBlocking ?_⟩
        · rintro task targets order ⟨⟩
          exact addsOnly_releaseBlocking _
        · rw [hkeys]
          exact h.present
      case isFalse hname =>
        obtain rfl := Option.some.inj hstop
        refine ⟨{ h with release := nofun }, hdead, hkeys, horder.imp_right fun hmem => ?_⟩
        exact (List.mem_cons.mp hmem).resolve_left fun heq => hname heq.symm
  | waiting task targets order =>
    obtain ⟨hdead, hkeys, hsafe⟩ := hw
    cases task with
    | issue c k => cases hstop
    | done r =>
      cases r with
      | error e => exact hcalm.elim
      | ok u =>
        obtain rfl := Option.some.inj hstop
        exact ⟨{ h with release := nofun }, hdead, hkeys, hsafe u rfl⟩
  | clearing targets order =>
    obtain ⟨hdead, hkeys, hcleared⟩ := hw
    obtain rfl := Option.some.inj hstop
    exact ⟨{ h with mappings := .inl rfl, release := nofun }, hdead, hkeys, .inl hcleared⟩
  | returned => cases hstop

theorem stop_tryBackends (s : Manager) (order : List String) :
    (tryBackends parseIp config specs s order).stop = s.stop := by
  induction order with
  | nil => rfl
  | cons name order ih =>
    rw [tryBackends]
    split
    · rfl
    · exact ih

theorem stop_poll {s s' : Manager} (hpoll : poll parseIp config specs s = some s') :
    s'.stop = s.stop := by
  rw [Nat.poll] at hpoll
  split at hpoll
  · split at hpoll
    · exact Option.some.inj hpoll ▸ rfl
    · exact Option.some.inj hpoll ▸ stop_tryBackends s _
  · split at hpoll
    · exact Option.some.inj hpoll ▸ rfl
    · exact Option.some.inj hpoll ▸ stop_tryBackends _ _
    · exact Option.some.inj hpoll ▸ rfl
  · exact Option.some.inj hpoll ▸ rfl
  · exact Option.some.inj hpoll ▸ rfl
  · cases hpoll

/-- Up to the abort nothing is asked of the manager, and whatever can still go on has not been
aborted. -/
theorem Winding.of_alive {s s' : Manager} (hw : Winding specs s) (halive : ¬ s.Dead)
    (hstop : s'.stop = s.stop) : Winding specs s' := by
  have hearly : s.stop = .idle ∨ s.stop = .flagged := by
    rw [Winding] at hw
    split at hw
    case h_1 hphase => exact .inl hphase
    case h_2 hphase => exact .inr hphase
    case h_3 => exact absurd hw halive
    all_goals exact absurd hw.1 halive
  rw [Winding, hstop]
  rcases hearly with hphase | hphase
  · rw [hphase]
    trivial
  · rw [hphase]
    trivial

/-- A call of the thread of the reconciliation. -/
theorem Tracked.reconcileCall {s : Manager} (h : Tracked config specs s) {c : GatewayCall}
    {k : GatewayReply c → NatOp ReconcileOutcome} (hthread : s.thread = some (.issue c k))
    (reply : GatewayReply c) :
    Tracked config specs { s with
      thread := some (k reply)
      table := { s.table.after c reply with refused := s.table.refused } } := by
  obtain ⟨hissues, hends⟩ := h.thread _ hthread
  refine { h with
    present := fun key hkey => (Table.mem_after hissues.1 hkey).elim (h.present key) id
    thread := ?_
    backend := fun _ => h.backend (.inl (by rw [hthread]; exact Option.some_ne_none _)) }
  rintro task ⟨⟩
  exact ⟨hissues.2 reply, hends reply⟩

/-- A call of the thread of the release. -/
theorem Tracked.releaseCall {s : Manager} (h : Tracked config specs s) {c : GatewayCall}
    {k : GatewayReply c → NatOp Unit} {targets : List MappedEndpoint} {order : List String}
    (hphase : s.stop = .waiting (.issue c k) targets order) (reply : GatewayReply c) :
    Tracked config specs
      { s with stop := .waiting (k reply) targets order, table := s.table.after c reply } := by
  have hissues := h.release _ _ _ hphase
  have hpresent : ∀ key ∈ (s.table.after c reply).present, key ∈ s.table.present :=
    fun key hkey => (Table.mem_after hissues.1 hkey).resolve_right List.not_mem_nil
  refine { h with
    present := fun key hkey => h.present key (hpresent key hkey)
    backend := ?_
    release := ?_ }
  · refine fun hsome => h.backend (hsome.imp_right fun hleft hnone => hleft ?_)
    refine List.eq_nil_iff_forall_not_mem.mpr fun key hkey => ?_
    exact List.not_mem_nil (hnone ▸ hpresent key hkey)
  · rintro task targets' order' ⟨⟩
    exact hissues.2 reply

theorem Tracked.step {s s' : Manager} {event : Event} (h : Tracked config specs s)
    (hw : Winding specs s) (hcalm : Calm s event)
    (hstep : step parseIp config specs s event = some s') :
    Tracked config specs s' ∧ Winding specs s' := by
  cases event with
  | wake =>
    replace hstep : (if _ then _ else _) = some s' := hstep
    split at hstep
    case isTrue => cases hstep
    case isFalse halive =>
      obtain rfl := Option.some.inj hstep
      exact ⟨{ h with }, hw.of_alive (fun hdead => halive hdead.1) rfl⟩
  | poll =>
    replace hstep : (if _ then _ else _) = some s' := hstep
    split at hstep
    case isFalse => cases hstep
    case isTrue hwoken =>
      have halive : ¬ s.Dead := by
        rintro ⟨-, hresting⟩
        simp [Manager.resting, hwoken] at hresting
      have hpolled : Tracked config specs { s with woken := false } := { h with }
      have hstop := stop_poll hstep
      exact ⟨hpolled.poll hstep, hw.of_alive halive hstop⟩
  | reconcileCall answer =>
    obtain ⟨task, hthread, hstep⟩ := Option.bind_eq_some_iff.mp hstep
    obtain ⟨⟨task', table⟩, hadvance, hstep⟩ := Option.bind_eq_some_iff.mp hstep
    obtain ⟨c, k, rfl, rfl, rfl⟩ := advance_cases hadvance
    obtain rfl := Option.some.inj hstep
    have halive : ¬ s.Dead := by
      rintro ⟨-, hresting⟩
      simp [Manager.resting, hthread] at hresting
    exact ⟨h.reconcileCall hthread (answer c), hw.of_alive halive rfl⟩
  | stop => exact h.stopStep hw hcalm hstep
  | releaseCall answer =>
    rw [Nat.step] at hstep
    split at hstep
    case h_2 => cases hstep
    case h_1 task targets order hphase =>
      obtain ⟨⟨task', table⟩, hadvance, hstep⟩ := Option.bind_eq_some_iff.mp hstep
      obtain ⟨c, k, rfl, rfl, rfl⟩ := advance_cases hadvance
      obtain rfl := Option.some.inj hstep
      rw [Winding, hphase] at hw
      obtain ⟨hdead, hkeys, hsafe⟩ := hw
      exact ⟨h.releaseCall hphase (answer c), hdead, hkeys, (hsafe answer _ _ rfl).2⟩

theorem Winding.released {s : Manager} (hw : Winding specs s) : Released s := by
  intro hreturned hrefused
  rw [Winding] at hw
  cases hphase : s.stop with
  | returned =>
    rw [hphase] at hw
    exact hw.2.resolve_left (by rw [hrefused]; exact Bool.false_ne_true)
  | _ =>
    rw [hphase] at hreturned
    cases hreturned

/-- **No mapping outlives the manager**, in every run in which no reconciliation is under way when
`stop` aborts the task and the release finds the gateway. -/
theorem mappings_gone_after_stop (parseIp : String → Option IpAddr) (config : NatConfig)
    (specs : List MappingSpec) (events : List Event)
    (h : Meets (step parseIp config specs) Calm (started config specs) events) :
    Always (step parseIp config specs) Released (started config specs) events := by
  intro done s' hdone hrun
  have hinv := run_of_meets
    (I := fun s => Tracked config specs s ∧ Winding specs s) (H := fun _ _ => True)
    (fun _ => trivial) (fun _ _ _ _ _ => trivial)
    (fun s event s' hs hcalm hstep => ⟨hs.1.step hs.2 hcalm hstep, trivial⟩)
    ⟨Tracked.started, trivial⟩ (h.of_prefix hdone) hrun
  exact hinv.1.2.released

end

/-! ### Two runs -/

instance (s : Manager) : (event : Event) → Decidable (Calm s event)
  | .wake => .isTrue trivial
  | .poll => .isTrue trivial
  | .reconcileCall _ => .isTrue trivial
  | .releaseCall _ => .isTrue trivial
  | .stop =>
    match h : s.stop with
    | .flagged => decidable_of_iff (s.resting = true) (by rw [Calm, h])
    | .waiting (.done (.error _)) _ _ => .isFalse (by rw [Calm, h]; exact id)
    | .waiting (.done (.ok _)) _ _ => .isTrue (by rw [Calm, h]; trivial)
    | .waiting (.issue _ _) _ _ => .isTrue (by rw [Calm, h]; trivial)
    | .idle => .isTrue (by rw [Calm, h]; trivial)
    | .aborted => .isTrue (by rw [Calm, h]; trivial)
    | .releasing _ _ => .isTrue (by rw [Calm, h]; trivial)
    | .clearing _ _ => .isTrue (by rw [Calm, h]; trivial)
    | .returned => .isTrue (by rw [Calm, h]; trivial)

/-- The task is picked up and asks the gateway for both mappings, which agrees to everything. -/
def reconciled : List Event :=
  [.wake, .poll, .reconcileCall agreeable, .reconcileCall agreeable, .reconcileCall agreeable,
    .reconcileCall agreeable]

/-- `stop`, with a gateway that agrees to everything. -/
def stopped : List Event :=
  [.stop, .stop, .stop, .stop, .releaseCall agreeable, .releaseCall agreeable,
    .releaseCall agreeable, .stop, .stop, .stop]

/-- A manager that is stopped while its task is asleep. -/
theorem stopped_asleep_gone :
    (run (step parseDottedQuad { enabled := true } [kadSpec, ed2kSpec])
        (started { enabled := true } [kadSpec, ed2kSpec])
        (reconciled ++ [.wake, .poll, .wake, .poll] ++ stopped)).map
      (fun s => (s.stop.isReturned, s.table)) = some (true, ⟨[], false⟩) ∧
    Always (step parseDottedQuad { enabled := true } [kadSpec, ed2kSpec]) Released
      (started { enabled := true } [kadSpec, ed2kSpec])
      (reconciled ++ [.wake, .poll, .wake, .poll] ++ stopped) :=
  ⟨by decide +kernel, mappings_gone_after_stop _ _ _ _ (by decide +kernel)⟩

/-- **A mapping appears after `stop` has returned.**  The task is aborted while its thread is about
to ask for the mappings, and the thread goes on. -/
theorem late_mapping_survives :
    (run (step parseDottedQuad { enabled := true } [kadSpec, ed2kSpec])
        (started { enabled := true } [kadSpec, ed2kSpec])
        ([.wake, .poll, .reconcileCall agreeable, .reconcileCall agreeable] ++ stopped ++
          [.reconcileCall agreeable])).map
      (fun s => (s.stop.isReturned, s.table)) = some (true, ⟨[(.udp, 41000)], false⟩) := by
  decide +kernel

end Overlord.Nat
