import Overlord.Kad.Dht.WalkInvariant

/-!
# Does a walk stop once its goal is met

A walk is done when the nearest candidates it cares about, its window, have all answered or failed.
The loop tests for this after each query that ended, but only stops when in addition nothing is in
flight, and it refills the free slots before it tests again.  So a walk whose window is done while
a farther query is still in flight goes on to query candidates outside the window.

* `Walk.GoalDone` and `Walk.window` are the goal and the window of `run_traversal`.
* `StopsWidening` — along a run, once the goal is met nobody outside the window is queried, unless a
  new candidate enters the window first.
* `AtRest` is the condition on a round under which this holds, and `stopsWidening_iff` says that it
  is exact.
-/

set_option autoImplicit false

namespace Overlord.Kad.Dht

open Machine

/-- The entry of a candidate that answered or failed. -/
def Settled (s : Option CandidateState) : Prop := s = some .responded ∨ s = some .failed

theorem Move.settled {s s' : Option CandidateState} (h : Move s s')
    (hs : Settled s) : Settled s' := by
  cases h with
  | stay => exact hs
  | learned => rcases hs with hs | hs <;> cases hs
  | launched => rcases hs with hs | hs <;> cases hs
  | answered => exact .inl rfl
  | failed => exact .inr rfl

namespace Walk

variable {cfg : TraversalConfig} {w : Walk}

/-- The identifiers of the nearest candidates, those the walk cares about. -/
def window (cfg : TraversalConfig) (w : Walk) : List NodeId :=
  (w.candidates.take cfg.closestLimit).map (·.contact.id)

/-- `closest_goal_done`. -/
def GoalDone (cfg : TraversalConfig) (w : Walk) : Prop :=
  ∀ c ∈ w.candidates.take cfg.closestLimit, c.state = .responded ∨ c.state = .failed

/-- **The walk stops widening.**  From a state in which the goal is met, and for as long as nobody
new enters the window, no query is launched to a candidate outside the window. -/
def StopsWidening (cfg : TraversalConfig) (w : Walk) (events : List Event) : Prop :=
  ∀ before after w₁ w₂, before ++ after <+: events →
    run (step cfg) w before = some w₁ → GoalDone cfg w₁ → run (step cfg) w₁ after = some w₂ →
    (∀ done v, done <+: after → run (step cfg) w₁ done = some v → v.window cfg ⊆ w₁.window cfg) →
    ∀ q ∈ w₂.queries, q.request.recipientId ∉ w₁.window cfg → q ∈ w₁.queries

/-- A round that starts with the goal met has nobody left to query, or no free slot. -/
def AtRest (cfg : TraversalConfig) (w : Walk) (event : Event) : Prop :=
  event = .launch → GoalDone cfg w →
    (∀ c ∈ w.candidates, c.state ≠ .pending) ∨ ALPHA ≤ w.candidates.countP (·.state = .inflight)

/-! ## Launching -/

theorem pendingClosest_eq_nil_iff :
    w.pendingClosest = [] ↔
      (∀ c ∈ w.candidates, c.state ≠ .pending) ∨
        ALPHA ≤ w.candidates.countP (·.state = .inflight) := by
  have hnone : w.candidates.zipIdx.filter (·.1.state = .pending) = [] ↔
      ∀ c ∈ w.candidates, c.state ≠ .pending := by
    rw [List.filter_eq_nil_iff]
    constructor
    · intro h c hc
      obtain ⟨i, hi⟩ := List.mem_iff_getElem?.mp hc
      simpa using h (c, i) (List.mem_zipIdx_iff_getElem?.mpr hi)
    · rintro h ⟨c, i⟩ hmem
      simpa using h c (List.mem_of_getElem? (List.mem_zipIdx_iff_getElem?.mp hmem))
  rw [pendingClosest, List.map_eq_nil_iff, List.take_eq_nil_iff, hnone, Nat.sub_eq_zero_iff_le,
    or_comm]

/-- Launching changes no contact. -/
theorem contacts_launchAt (idx : Nat) :
    (w.launchAt cfg idx).candidates.map (·.contact) = w.candidates.map (·.contact) := by
  rw [launchAt]
  split
  · next c hc =>
    obtain ⟨front, back, heq, hset⟩ := KeyOrder.exists_middle hc
    dsimp only
    rw [hset, heq, List.map_append, List.map_append, List.map_cons, List.map_cons]
  · rfl

theorem contacts_launchLoop (idxs : List Nat) :
    (idxs.foldl (launchAt cfg) w).candidates.map (·.contact) = w.candidates.map (·.contact) := by
  induction idxs generalizing w with
  | nil => rfl
  | cons idx idxs ih => rw [List.foldl_cons, ih, contacts_launchAt]

theorem window_eq_of_contacts {w' : Walk}
    (h : w'.candidates.map (·.contact) = w.candidates.map (·.contact)) :
    w'.window cfg = w.window cfg := by
  have hids : ∀ v : Walk, v.window cfg =
      ((v.candidates.map (·.contact)).take cfg.closestLimit).map (·.id) := fun v => by
    rw [window, ← List.map_take, List.map_map]
    rfl
  rw [hids, hids, h]

theorem queries_launchAt_subset (idx : Nat) : w.queries ⊆ (w.launchAt cfg idx).queries := by
  rw [launchAt]
  split
  · exact List.subset_append_left _ _
  · exact List.Subset.refl _

theorem queries_launchLoop_subset (idxs : List Nat) :
    w.queries ⊆ (idxs.foldl (launchAt cfg) w).queries := by
  induction idxs generalizing w with
  | nil => exact List.Subset.refl _
  | cons idx idxs ih => exact List.Subset.trans (queries_launchAt_subset idx) ih

/-- The candidate at the first index of the launching loop is queried. -/
theorem exists_query_launchLoop (cfg : TraversalConfig) {idx : Nat} (idxs : List Nat)
    {c : TraversalCandidate} (hc : w.candidates[idx]? = some c) :
    ∃ q ∈ ((idx :: idxs).foldl (launchAt cfg) w).queries,
      q.request.recipientId = c.contact.id := by
  rw [List.foldl_cons]
  refine ⟨⟨c.contact.addr, ⟨cfg.reqCount, cfg.target, c.contact.id⟩⟩,
    queries_launchLoop_subset idxs ?_, rfl⟩
  rw [launchAt_eq hc]
  exact List.mem_append_right _ (List.mem_singleton_self _)

/-! ## The other steps -/

theorem queries_mark (idx : Option Nat) (state : CandidateState) :
    (w.mark idx state).queries = w.queries := by
  cases idx with
  | none => rfl
  | some idx => rfl

theorem queries_learn (entry : ContactEntry) : (w.learn cfg entry).queries = w.queries := by
  rw [learn]
  split
  · rfl
  · split
    · rfl
    · rfl

theorem queries_learnLoop (entries : List ContactEntry) :
    (entries.foldl (learn cfg) w).queries = w.queries := by
  induction entries generalizing w with
  | nil => rfl
  | cons entry entries ih => rw [List.foldl_cons, ih, queries_learn]

theorem queries_answer (id : NodeId) (result : QueryResult) (now : Nat) :
    (w.answer cfg id result now).queries = w.queries := by
  unfold answer
  split
  · exact queries_mark _ _
  · dsimp only
    split
    · exact (queries_learnLoop _).trans (queries_mark _ _)
    · exact queries_mark _ _
  · exact queries_mark _ _

/-- Only a round that finds someone to launch launches queries. -/
theorem queries_of_step {event : Event} {w' : Walk} (hstep : step cfg w event = some w')
    (hlaunch : event = .launch → w.pendingClosest = []) : w'.queries = w.queries := by
  cases event with
  | launch =>
    rw [step, Option.ite_none_right_eq_some] at hstep
    obtain ⟨-, hw'⟩ := hstep
    rw [← Option.some.inj hw', launch, hlaunch rfl]
    rfl
  | answered id result now =>
    rw [step, Option.ite_none_right_eq_some] at hstep
    obtain ⟨-, hw'⟩ := hstep
    rw [← Option.some.inj hw']
    exact queries_answer id result now
  | panicked id =>
    rw [step, Option.ite_none_right_eq_some] at hstep
    obtain ⟨-, hw'⟩ := hstep
    rw [← Option.some.inj hw']
  | stop =>
    rw [step, Option.ite_none_left_eq_some] at hstep
    obtain ⟨-, hw'⟩ := hstep
    rw [← Option.some.inj hw']

/-! ## The goal -/

/-- The goal in terms of the map: everybody in the window has settled. -/
theorem goalDone_iff (h : w.Inv cfg) :
    GoalDone cfg w ↔ ∀ id ∈ w.window cfg, Settled (stateOf w.candidates id) := by
  have hstate : ∀ c ∈ w.candidates, stateOf w.candidates c.contact.id = some c.state :=
    fun c hc => h.ordered.stateOf_eq_some_iff.mpr ⟨c, hc, rfl, rfl⟩
  simp only [GoalDone, window, List.forall_mem_map, Settled]
  refine forall₂_congr fun c hc => ?_
  rw [hstate c (List.mem_of_mem_take hc), Option.some.injEq, Option.some.injEq]

/-! ## Runs -/

/-- A run of rounds at rest, as long as the window stays within a settled set of candidates. -/
theorem queries_of_run {ids : List NodeId} {events : List Event} {w' : Walk} (h : w.Inv cfg)
    (hmeets : Meets (step cfg) (AtRest cfg) w events)
    (hids : ∀ id ∈ ids, Settled (stateOf w.candidates id))
    (hwindow : ∀ done v, done <+: events → run (step cfg) w done = some v → v.window cfg ⊆ ids)
    (hrun : run (step cfg) w events = some w') : w'.queries = w.queries := by
  induction events generalizing w with
  | nil => rw [← Option.some.inj hrun]
  | cons event events ih =>
    obtain ⟨v, hstep, hrest⟩ := run_cons_eq_some hrun
    obtain ⟨hrestful, hmeets⟩ := hmeets v hstep
    obtain ⟨hinv, hmove⟩ := inv_step h hstep
    have hgoal : GoalDone cfg w :=
      (goalDone_iff h).mpr fun id hid => hids id (hwindow [] w List.nil_prefix rfl hid)
    have hqueries : v.queries = w.queries := queries_of_step hstep fun hlaunch =>
      pendingClosest_eq_nil_iff.mpr (hrestful hlaunch hgoal)
    rw [ih hinv hmeets (fun id hid => (hmove id).settled (hids id hid)) ?_ hrest, hqueries]
    intro done v' hdone hv'
    refine hwindow (event :: done) v' (List.cons_prefix_cons.mpr ⟨rfl, hdone⟩) ?_
    rw [run, hstep]
    exact hv'

/-- A round with the goal met that is not at rest queries somebody outside the window. -/
theorem exists_query_of_not_rest (h : w.Inv cfg) (hgoal : GoalDone cfg w)
    (hpending : w.pendingClosest ≠ []) :
    ∃ q ∈ (w.launch cfg).queries, q.request.recipientId ∉ w.window cfg ∧ q ∉ w.queries := by
  obtain ⟨idx, idxs, hidxs⟩ := List.exists_cons_of_ne_nil hpending
  have hmem : idx ∈ w.pendingClosest := by rw [hidxs]; exact List.mem_cons_self
  obtain ⟨⟨c, j⟩, hc, rfl⟩ := List.mem_map.mp hmem
  obtain ⟨hzip, hstate⟩ := List.mem_filter.mp (List.mem_of_mem_take hc)
  have hcandidate : w.candidates[j]? = some c := List.mem_zipIdx_iff_getElem?.mp hzip
  have hentry : stateOf w.candidates c.contact.id = some .pending := by
    rw [h.ordered.stateOf_eq_some_iff]
    exact ⟨c, List.mem_of_getElem? hcandidate, rfl, of_decide_eq_true hstate⟩
  obtain ⟨q, hq, hid⟩ := exists_query_launchLoop cfg idxs hcandidate
  rw [launch, hidxs]
  refine ⟨q, hq, fun hwindow => ?_, fun hasked => ?_⟩
  · have hsettled := (goalDone_iff h).mp hgoal _ hwindow
    rw [hid, hentry] at hsettled
    rcases hsettled with hs | hs <;> cases hs
  · obtain ⟨s, hs, hnot⟩ := h.books.queries_asked q hasked
    rw [hid, hentry] at hs
    exact hnot (Option.some.inj hs).symm

theorem StopsWidening.tail {event : Event} {events : List Event} {w' : Walk}
    (h : StopsWidening cfg w (event :: events)) (hstep : step cfg w event = some w') :
    StopsWidening cfg w' events := by
  intro before after w₁ w₂ hpre hbefore
  refine h (event :: before) after w₁ w₂ (List.cons_prefix_cons.mpr ⟨rfl, hpre⟩) ?_
  rw [run, hstep]
  exact hbefore

/-- A run that stops widening starts every round at rest. -/
theorem StopsWidening.meets {events : List Event} (h : w.Inv cfg)
    (hstops : StopsWidening cfg w events) : Meets (step cfg) (AtRest cfg) w events := by
  induction events generalizing w with
  | nil => trivial
  | cons event events ih =>
    refine fun w' hstep => ⟨?_, ih (inv_step h hstep).1 (hstops.tail hstep)⟩
    rintro rfl hgoal
    rw [← pendingClosest_eq_nil_iff]
    by_contra hpending
    obtain ⟨q, hq, houtside, hnew⟩ := exists_query_of_not_rest h hgoal hpending
    have hrun : run (step cfg) w [.launch] = some w' := by rw [run, hstep]; rfl
    have hlaunched : w'.queries = (w.launch cfg).queries ∧ w'.window cfg = w.window cfg := by
      rw [step, Option.ite_none_right_eq_some] at hstep
      obtain ⟨-, hw'⟩ := hstep
      rw [← Option.some.inj hw']
      exact ⟨rfl, window_eq_of_contacts (contacts_launchLoop w.pendingClosest)⟩
    refine hnew (hstops [] [.launch] w w' (by simp) rfl hgoal hrun ?_ q ?_ houtside)
    · intro done v hdone hv
      rcases List.prefix_cons_iff.mp hdone with rfl | ⟨t, rfl, ht⟩
      · rw [← Option.some.inj hv]
        exact List.Subset.refl _
      · obtain rfl := List.prefix_nil.mp ht
        rw [← Option.some.inj (hrun.symm.trans hv), hlaunched.2]
        exact List.Subset.refl _
    · rw [hlaunched.1]
      exact hq

/-- **When a walk stops widening.**  Along a run, nobody outside the window is queried once the
goal is met exactly when every round that starts with the goal met finds nobody left to query or no
free slot. -/
theorem stopsWidening_iff (cfg : TraversalConfig) (initial : List TraversalContact)
    (events : List Event) :
    StopsWidening cfg (start cfg initial) events ↔
      Meets (step cfg) (AtRest cfg) (start cfg initial) events := by
  refine ⟨StopsWidening.meets (inv_start cfg initial), fun hmeets => ?_⟩
  intro before after w₁ w₂ hpre hbefore hgoal hafter hwindow q hq _
  have hinv := inv_of_run hbefore
  have hmeets := (hmeets.of_prefix hpre).of_append hbefore
  have hqueries :=
    queries_of_run hinv hmeets ((goalDone_iff hinv).mp hgoal) hwindow hafter
  rwa [hqueries] at hq

/-! ## A walk that outruns its goal -/

/-- Thirteen peers in the order of their distance from the zero identifier. -/
def thirteenPeers : List TraversalContact :=
  [1, 2, 3, 4, 5, 6, 7, 8, 9, 10, 11, 12, 13].map fun n =>
    ⟨sampleId n, .v4 (.new 80 1 2 n) 4672, 9⟩

/-- The ten nearest peers time out one after the other, the farther ones not yet. -/
def tenTimeouts : List Event :=
  [1, 2, 3, 4, 5, 6, 7, 8, 9, 10].flatMap fun n => [.launch, .answered (sampleId n) .err 0]

/-- **The goal is met and the walk goes on**: with the ten nearest peers settled and two queries
still in flight, the next round of a store traversal queries the thirteenth. -/
theorem not_stopsWidening :
    ¬ StopsWidening ⟨.ZERO, .store, 10⟩ (start ⟨.ZERO, .store, 10⟩ thirteenPeers)
      (tenTimeouts ++ [.launch]) := by
  have hstart : start ⟨.ZERO, .store, 10⟩ thirteenPeers =
      { candidates := thirteenPeers.map (newCandidate .ZERO)
        seen := thirteenPeers.map (·.id)
        joinSet := []
        lastLookupResponseAt := none
        queries := []
        phase := .top } := by
    have hsorted : initialCandidates .ZERO thirteenPeers =
        thirteenPeers.map (newCandidate .ZERO) := by
      rw [initialCandidates, List.mergeSort_of_pairwise (by decide +kernel)]
      exact List.destutter_of_isChain _ _ (by decide +kernel)
    rw [start, hsorted]
    rfl
  obtain ⟨w₁, hrun, hgoal, hpending, hslot, hphase⟩ : ∃ w₁,
      run (step ⟨.ZERO, .store, 10⟩) (start ⟨.ZERO, .store, 10⟩ thirteenPeers) tenTimeouts =
        some w₁ ∧
      (∀ c ∈ w₁.candidates.take 10, c.state = .responded ∨ c.state = .failed) ∧
      (∃ c ∈ w₁.candidates, c.state = .pending) ∧
      w₁.candidates.countP (·.state = .inflight) < ALPHA ∧ w₁.phase = .top := by
    rw [hstart]
    exact ⟨_, rfl, by decide +kernel, by decide +kernel, by decide +kernel, by decide +kernel⟩
  intro hstops
  have hmeets := (hstops.meets (inv_start _ _)).of_append hrun
  obtain ⟨w₂, hstep⟩ : ∃ w₂, step ⟨.ZERO, .store, 10⟩ w₁ .launch = some w₂ :=
    ⟨_, by rw [step, if_pos hphase]⟩
  rcases (hmeets w₂ hstep).1 rfl hgoal with hnone | hfull
  · obtain ⟨c, hc, hcp⟩ := hpending
    exact hnone c hc hcp
  · exact absurd hfull (Nat.not_le.mpr hslot)

end Walk

end Overlord.Kad.Dht
