import Overlord.Kad.Dht.Traversal

/-!
# What holds throughout a walk

The candidates of a walk are found by index and by identifier, inserted in the middle of the list
and marked, while queries are launched and end in any order.  What keeps this consistent is an
invariant of the list and of three things beside it — the set of seen identifiers, the running tasks
and the queries launched so far:

* the candidates are strictly sorted by their distance from the target, so their identifiers are
  distinct (`Ordered`);
* at most `ALPHA` of them are in flight;
* the seen identifiers are exactly theirs, every running task belongs to a candidate in flight and
  no two to the same, and no identifier was queried twice (`Books`).

`stateOf` reads the list as a map from identifiers to states.  The three ways in which the walk
changes the list — launching, marking, learning — are updates of that map at one identifier, and
`Move` is what a whole step may do to an entry.  `inv_step` carries the invariant through every
step, and `inv_of_run` through every run.
-/

set_option autoImplicit false

namespace Overlord.Kad.Dht

open KeyOrder Machine

/-! ## The list of candidates -/

/-- The state of the candidate with an identifier. -/
def stateOf (cs : List TraversalCandidate) (id : NodeId) : Option CandidateState :=
  (cs.find? (·.contact.id = id)).map (·.state)

/-- Strictly sorted by the distance from the target. -/
structure Ordered (target : NodeId) (cs : List TraversalCandidate) : Prop where
  sorted : cs.Pairwise fun a b => a.distance < b.distance
  distance_eq : ∀ c ∈ cs, c.distance = target.distance c.contact.id

theorem isSome_stateOf_iff {cs : List TraversalCandidate} {id : NodeId} :
    (stateOf cs id).isSome ↔ ∃ c ∈ cs, c.contact.id = id := by
  simp [stateOf]

theorem stateOf_eq_none_iff {cs : List TraversalCandidate} {id : NodeId} :
    stateOf cs id = none ↔ ∀ c ∈ cs, c.contact.id ≠ id := by
  simp [stateOf]

/-- A candidate whose identifier is not among those before it has the entry of its identifier. -/
theorem stateOf_middle {front back : List TraversalCandidate} {c : TraversalCandidate}
    (h : ∀ x ∈ front, x.contact.id ≠ c.contact.id) :
    stateOf (front ++ c :: back) =
      Function.update (stateOf (front ++ back)) c.contact.id (some c.state) := by
  funext id
  rw [stateOf, List.find?_append]
  by_cases hid : id = c.contact.id
  · subst hid
    have hfront : front.find? (·.contact.id = c.contact.id) = none := by simpa using h
    rw [Function.update_self, hfront, Option.none_or, List.find?_cons_of_pos (by simp),
      Option.map_some]
  · rw [Function.update_of_ne hid, List.find?_cons_of_neg (by simpa using Ne.symm hid),
      ← List.find?_append, stateOf]

namespace Ordered

variable {target : NodeId} {cs front back : List TraversalCandidate} {c : TraversalCandidate}

theorem id_pairwise (h : Ordered target cs) :
    cs.Pairwise fun a b => a.contact.id ≠ b.contact.id := by
  refine List.Pairwise.imp_of_mem (fun {a b} ha hb hlt hid => ?_) h.sorted
  rw [h.distance_eq a ha, h.distance_eq b hb, hid, NodeId.lt_iff] at hlt
  exact Nat.lt_irrefl _ hlt

theorem nodup (h : Ordered target cs) : (cs.map (·.contact.id)).Nodup :=
  List.pairwise_map.mpr h.id_pairwise

/-- No candidate before another has its identifier. -/
theorem id_ne_of_mem_front (h : Ordered target (front ++ c :: back)) :
    ∀ x ∈ front, x.contact.id ≠ c.contact.id := fun x hx =>
  (List.pairwise_append.mp h.id_pairwise).2.2 x hx c List.mem_cons_self

/-- The order does not see the states. -/
theorem withState (h : Ordered target (front ++ c :: back)) (s : CandidateState) :
    Ordered target (front ++ { c with state := s } :: back) where
  sorted := by
    have hsorted := h.sorted
    simp only [List.pairwise_append, List.pairwise_cons, List.mem_cons, forall_eq_or_imp]
      at hsorted ⊢
    exact hsorted
  distance_eq := by
    have hdist := h.distance_eq
    simp only [List.mem_append, List.mem_cons, or_imp, forall_and, forall_eq] at hdist ⊢
    exact hdist

/-- A candidate with a new identifier, inserted at the partition point. -/
theorem insertIdx (h : Ordered target cs) {contact : TraversalContact}
    (hnew : ∀ x ∈ cs, x.contact.id ≠ contact.id) {c : TraversalCandidate}
    (hc : c = Walk.newCandidate target contact) :
    Ordered target
      (cs.insertIdx (partitionPoint (fun x => decide (x.distance < c.distance)) cs) c) := by
  have hlt : (fun x : TraversalCandidate => decide (x.distance < c.distance)) =
      fun x => decide (x.distance.toNat < c.distance.toNat) := by
    funext x
    rw [decide_eq_decide, NodeId.lt_iff]
  have hne : ∀ x ∈ cs, x.distance.toNat ≠ c.distance.toNat := by
    intro x hx heq
    have hdistance := NodeId.toNat_injective heq
    rw [hc, Walk.newCandidate, h.distance_eq x hx, NodeId.distance_comm,
      NodeId.distance_comm target] at hdistance
    exact hnew x hx (NodeId.distance_injective hdistance)
  rw [hlt]
  constructor
  · exact (pairwise_insertIdx (h.sorted.imp (NodeId.lt_iff _ _).mp) hne).imp (NodeId.lt_iff _ _).mpr
  · intro x hx
    rcases List.eq_or_mem_of_mem_insertIdx hx with rfl | hx
    · rw [hc, Walk.newCandidate]
    · exact h.distance_eq x hx

theorem stateOf_eq_some_iff (h : Ordered target cs) {id : NodeId} {s : CandidateState} :
    stateOf cs id = some s ↔ ∃ c ∈ cs, c.contact.id = id ∧ c.state = s := by
  constructor
  · intro hs
    obtain ⟨c, hfind, rfl⟩ := Option.map_eq_some_iff.mp hs
    exact ⟨c, List.mem_of_find?_eq_some hfind, by simpa using List.find?_some hfind, rfl⟩
  · rintro ⟨c, hc, rfl, rfl⟩
    obtain ⟨front, back, rfl⟩ := List.append_of_mem hc
    rw [stateOf_middle h.id_ne_of_mem_front, Function.update_self]

/-- Setting the state of a candidate sets one entry of the map. -/
theorem stateOf_withState (h : Ordered target (front ++ c :: back)) (s : CandidateState) :
    stateOf (front ++ { c with state := s } :: back) =
      Function.update (stateOf (front ++ c :: back)) c.contact.id (some s) := by
  rw [stateOf_middle h.id_ne_of_mem_front, Function.update_idem,
    stateOf_middle (c := { c with state := s }) h.id_ne_of_mem_front]

end Ordered

theorem countP_inflight_middle (front back : List TraversalCandidate) (c : TraversalCandidate) :
    (front ++ c :: back).countP (·.state = .inflight) =
      (front ++ back).countP (·.state = .inflight) + if c.state = .inflight then 1 else 0 := by
  rw [List.countP_append, List.countP_cons, List.countP_append]
  simp only [decide_eq_true_eq]
  omega

/-- Setting the state of the candidate at an index: the order is kept, one entry of the map is set,
and the number in flight changes with that candidate only. -/
theorem Ordered.set {target : NodeId} {cs : List TraversalCandidate} (h : Ordered target cs)
    {idx : Nat} {c : TraversalCandidate} (hc : cs[idx]? = some c) (s : CandidateState) :
    Ordered target (cs.set idx { c with state := s }) ∧
      stateOf (cs.set idx { c with state := s }) =
        Function.update (stateOf cs) c.contact.id (some s) ∧
      (cs.set idx { c with state := s }).countP (·.state = .inflight) +
          (if c.state = .inflight then 1 else 0) =
        cs.countP (·.state = .inflight) + if s = .inflight then 1 else 0 := by
  obtain ⟨front, back, rfl, hset⟩ := exists_middle hc
  rw [hset]
  refine ⟨h.withState s, h.stateOf_withState s, ?_⟩
  rw [countP_inflight_middle, countP_inflight_middle, Nat.add_right_comm]

/-! ## Moves -/

/-- What a step may do to the state of a candidate: it appears as pending, and goes from there to
in flight and then to answered or failed. -/
inductive Move : Option CandidateState → Option CandidateState → Prop where
  | stay (s : Option CandidateState) : Move s s
  | learned : Move none (some .pending)
  | launched : Move (some .pending) (some .inflight)
  | answered : Move (some .inflight) (some .responded)
  | failed : Move (some .inflight) (some .failed)

/-- What launching queries may do. -/
def Launches (s s' : Option CandidateState) : Prop :=
  s' = s ∨ s = some .pending ∧ s' = some .inflight

/-- What learning contacts may do. -/
def Learns (s s' : Option CandidateState) : Prop := s' = s ∨ s = none ∧ s' = some .pending

theorem Launches.trans {s s' s'' : Option CandidateState} (h : Launches s s')
    (h' : Launches s' s'') : Launches s s'' := by
  rcases h with rfl | ⟨rfl, rfl⟩
  · exact h'
  · rcases h' with rfl | ⟨h, -⟩
    · exact .inr ⟨rfl, rfl⟩
    · cases h

theorem Learns.trans {s s' s'' : Option CandidateState} (h : Learns s s')
    (h' : Learns s' s'') : Learns s s'' := by
  rcases h with rfl | ⟨rfl, rfl⟩
  · exact h'
  · rcases h' with rfl | ⟨h, -⟩
    · exact .inr ⟨rfl, rfl⟩
    · cases h

theorem Launches.move {s s' : Option CandidateState} (h : Launches s s') : Move s s' := by
  rcases h with rfl | ⟨rfl, rfl⟩
  · exact .stay _
  · exact .launched

/-- Contacts learned after a move do not disturb it. -/
theorem Move.learns {s s' s'' : Option CandidateState} (h : Move s s') (h' : Learns s' s'') :
    Move s s'' := by
  rcases h' with rfl | ⟨rfl, rfl⟩
  · exact h
  · cases h
    exact .learned

/-! ## Books

What the walk keeps beside the candidates — the seen identifiers, the running tasks and the queries
launched so far — refers to the candidates by identifier only, so it is related to the map and not
to the list. -/

/-- The seen identifiers, running tasks and queries agree with the states. -/
structure Books (states : NodeId → Option CandidateState) (seen joinSet : List NodeId)
    (queries : List Query) : Prop where
  /-- Exactly the candidates are seen. -/
  seen_iff : ∀ id, id ∈ seen ↔ (states id).isSome
  /-- No two tasks are for the same candidate. -/
  joinSet_nodup : joinSet.Nodup
  /-- A running task is for a candidate in flight. -/
  joinSet_inflight : ∀ id ∈ joinSet, states id = some .inflight
  /-- No candidate was queried twice. -/
  queries_nodup : (queries.map (·.request.recipientId)).Nodup
  /-- A candidate that was queried is no longer pending. -/
  queries_asked : ∀ q ∈ queries, ∃ s, states q.request.recipientId = some s ∧ s ≠ .pending

namespace Books

variable {states : NodeId → Option CandidateState} {seen joinSet : List NodeId}
  {queries : List Query} {id : NodeId}

/-- Changing the state of a candidate changes nothing about which identifiers are candidates. -/
theorem seen_update (h : Books states seen joinSet queries) {s s' : CandidateState}
    (hid : states id = some s) (id' : NodeId) :
    id' ∈ seen ↔ (Function.update states id (some s') id').isSome := by
  rw [h.seen_iff id']
  by_cases heq : id' = id
  · subst heq
    simp [hid]
  · rw [Function.update_of_ne heq]

/-- A pending candidate is launched. -/
theorem launch (h : Books states seen joinSet queries) (hid : states id = some .pending)
    {query : Query} (hquery : query.request.recipientId = id) :
    Books (Function.update states id (some .inflight)) seen (joinSet ++ [id])
      (queries ++ [query]) := by
  -- whoever is in flight or was queried is not pending, hence someone else
  have hne : ∀ id' s, states id' = some s → s ≠ .pending → id' ≠ id := by
    rintro id' s hs hnot rfl
    exact hnot (Option.some.inj (hs.symm.trans hid))
  refine ⟨h.seen_update hid, ?_, fun id' hmem => ?_, ?_, fun q hq => ?_⟩
  · refine List.nodup_append.mpr ⟨h.joinSet_nodup, List.nodup_singleton _, fun id' hmem _ h' => ?_⟩
    rw [List.mem_singleton.mp h']
    exact hne id' _ (h.joinSet_inflight id' hmem) (by decide)
  · rcases List.mem_append.mp hmem with hmem | hmem
    · have hinflight := h.joinSet_inflight id' hmem
      rw [Function.update_of_ne (hne id' _ hinflight (by decide)), hinflight]
    · rw [List.mem_singleton.mp hmem, Function.update_self]
  · rw [List.map_append, List.map_singleton, hquery]
    refine List.nodup_append.mpr ⟨h.queries_nodup, List.nodup_singleton _, fun id' hmem _ h' => ?_⟩
    rw [List.mem_singleton.mp h']
    obtain ⟨q, hq, rfl⟩ := List.mem_map.mp hmem
    obtain ⟨s, hs, hnot⟩ := h.queries_asked q hq
    exact hne _ s hs hnot
  · rcases List.mem_append.mp hq with hq | hq
    · obtain ⟨s, hs, hnot⟩ := h.queries_asked q hq
      exact ⟨s, by rw [Function.update_of_ne (hne _ s hs hnot), hs], hnot⟩
    · rw [List.mem_singleton.mp hq, hquery]
      exact ⟨.inflight, Function.update_self .., by decide⟩

/-- A candidate whose task is gone is marked. -/
theorem mark (h : Books states seen joinSet queries) (hid : states id = some .inflight)
    (htask : id ∉ joinSet) {s : CandidateState} (hs : s ≠ .pending) :
    Books (Function.update states id (some s)) seen joinSet queries := by
  refine ⟨h.seen_update hid, h.joinSet_nodup, fun id' hmem => ?_, h.queries_nodup, fun q hq => ?_⟩
  · have hne : id' ≠ id := fun heq => htask (heq ▸ hmem)
    rw [Function.update_of_ne hne]
    exact h.joinSet_inflight id' hmem
  · by_cases heq : q.request.recipientId = id
    · exact ⟨s, by rw [heq, Function.update_self], hs⟩
    · rw [Function.update_of_ne heq]
      exact h.queries_asked q hq

/-- A new candidate is learned. -/
theorem learn (h : Books states seen joinSet queries) (hid : states id = none) :
    Books (Function.update states id (some .pending)) (id :: seen) joinSet queries := by
  have hne : ∀ id' s, states id' = some s → id' ≠ id := by
    rintro id' s hs rfl
    exact Option.some_ne_none s (hs.symm.trans hid)
  refine ⟨fun id' => ?_, h.joinSet_nodup, fun id' hmem => ?_, h.queries_nodup, fun q hq => ?_⟩
  · rw [List.mem_cons, h.seen_iff id']
    by_cases heq : id' = id
    · subst heq
      simp
    · simp [heq]
  · have hinflight := h.joinSet_inflight id' hmem
    rw [Function.update_of_ne (hne id' _ hinflight), hinflight]
  · obtain ⟨s, hs, hnot⟩ := h.queries_asked q hq
    exact ⟨s, by rw [Function.update_of_ne (hne _ s hs), hs], hnot⟩

/-- A task is gone. -/
theorem erase (h : Books states seen joinSet queries) (id : NodeId) :
    Books states seen (joinSet.erase id) queries :=
  { h with
    joinSet_nodup := h.joinSet_nodup.erase id
    joinSet_inflight := fun id' hmem => h.joinSet_inflight id' (List.mem_of_mem_erase hmem) }

end Books

/-! ## The invariant -/

/-- The invariant of a walk. -/
structure Walk.Inv (cfg : TraversalConfig) (w : Walk) : Prop where
  ordered : Ordered cfg.target w.candidates
  inflight_le : w.candidates.countP (·.state = .inflight) ≤ ALPHA
  books : Books (stateOf w.candidates) w.seen w.joinSet w.queries

namespace Walk

variable {cfg : TraversalConfig} {w : Walk}

/-- Neither the phase nor the time of the last answer is part of the invariant. -/
theorem Inv.withPhase (h : w.Inv cfg) (phase : Phase) (at_ : Option Nat) :
    Inv cfg { w with phase := phase, lastLookupResponseAt := at_ } :=
  ⟨h.ordered, h.inflight_le, h.books⟩

theorem Inv.withoutTask (h : w.Inv cfg) (id : NodeId) :
    Inv cfg { w with joinSet := w.joinSet.erase id } :=
  ⟨h.ordered, h.inflight_le, h.books.erase id⟩

/-! ### Before the loop -/

/-- Dropping adjacent duplicates of a list sorted by distance. -/
theorem ordered_destutter {target : NodeId} {l : List TraversalCandidate}
    (hle : l.Pairwise fun a b => a.distance.toNat ≤ b.distance.toNat)
    (hdist : ∀ c ∈ l, c.distance = target.distance c.contact.id) :
    Ordered target (l.destutter fun a b => ¬ a.contact.id = b.contact.id) := by
  refine ⟨?_, fun c hc => hdist c ((List.destutter_sublist _ _).subset hc)⟩
  have hdup : ∀ a ∈ l, ∀ b ∈ l, a.distance.toNat = b.distance.toNat →
      a.contact.id = b.contact.id := by
    intro a ha b hb hkey
    have hdistance := NodeId.toNat_injective hkey
    rw [hdist a ha, hdist b hb, NodeId.distance_comm, NodeId.distance_comm target] at hdistance
    exact NodeId.distance_injective hdistance
  exact (pairwise_destutter hle hdup).imp (NodeId.lt_iff _ _).mpr

theorem ordered_initialCandidates (target : NodeId) (initial : List TraversalContact) :
    Ordered target (initialCandidates target initial) := by
  have hle : (fun a b : TraversalCandidate => (a.distance.cmp b.distance).isLE) =
      fun a b => decide (a.distance.toNat ≤ b.distance.toNat) := by
    funext a b
    rw [NodeId.isLE_cmp]
  rw [initialCandidates, hle]
  refine ordered_destutter (pairwise_byKey _ (initial.map (newCandidate target))) fun c hc => ?_
  obtain ⟨contact, -, rfl⟩ := List.mem_map.mp ((byKey_perm _ _).mem_iff.mp hc)
  rfl

theorem state_of_mem_initialCandidates {target : NodeId} {initial : List TraversalContact}
    {c : TraversalCandidate} (hc : c ∈ initialCandidates target initial) : c.state = .pending := by
  have hmem := (List.mergeSort_perm _ _).mem_iff.mp ((List.destutter_sublist _ _).subset hc)
  obtain ⟨contact, -, rfl⟩ := List.mem_map.mp hmem
  rfl

theorem inv_start (cfg : TraversalConfig) (initial : List TraversalContact) :
    (start cfg initial).Inv cfg where
  ordered := ordered_initialCandidates cfg.target initial
  inflight_le := by
    refine (Nat.le_of_eq (List.countP_eq_zero.mpr fun c hc => ?_)).trans (Nat.zero_le _)
    simp [state_of_mem_initialCandidates hc]
  books := by
    refine ⟨fun id => ?_, List.nodup_nil, fun _ hid => absurd hid List.not_mem_nil,
      List.nodup_nil, fun _ hq => absurd hq List.not_mem_nil⟩
    rw [isSome_stateOf_iff]
    simp [start]

/-! ### Launching -/

theorem launchAt_eq {idx : Nat} {c : TraversalCandidate} (hc : w.candidates[idx]? = some c) :
    w.launchAt cfg idx =
      { w with
        candidates := w.candidates.set idx { c with state := .inflight }
        queries := w.queries ++ [⟨c.contact.addr, ⟨cfg.reqCount, cfg.target, c.contact.id⟩⟩]
        joinSet := w.joinSet ++ [c.contact.id] } := by
  simp only [launchAt, hc]

/-- Launching a pending candidate. -/
theorem inv_launchAt (h : w.Inv cfg) {idx : Nat} {c : TraversalCandidate}
    (hc : w.candidates[idx]? = some c) (hpending : c.state = .pending)
    (hroom : w.candidates.countP (·.state = .inflight) < ALPHA) :
    (w.launchAt cfg idx).Inv cfg ∧
      (w.launchAt cfg idx).candidates.countP (·.state = .inflight) =
        w.candidates.countP (·.state = .inflight) + 1 ∧
      ∀ id, Launches (stateOf w.candidates id) (stateOf (w.launchAt cfg idx).candidates id) := by
  obtain ⟨hordered, hstate, hcount⟩ := h.ordered.set hc .inflight
  rw [if_neg (by simp [hpending]), if_pos rfl, Nat.add_zero] at hcount
  have hentry : stateOf w.candidates c.contact.id = some .pending := by
    rw [h.ordered.stateOf_eq_some_iff]
    exact ⟨c, List.mem_of_getElem? hc, rfl, hpending⟩
  have hquery : (⟨c.contact.addr, ⟨cfg.reqCount, cfg.target, c.contact.id⟩⟩ :
      Query).request.recipientId = c.contact.id := rfl
  have hbooks := h.books.launch hentry hquery
  rw [← hstate] at hbooks
  rw [launchAt_eq hc]
  refine ⟨⟨hordered, hcount.trans_le hroom, hbooks⟩, hcount, fun id => ?_⟩
  rw [hstate]
  by_cases hid : id = c.contact.id
  · subst hid
    exact .inr ⟨hentry, Function.update_self ..⟩
  · exact .inl (Function.update_of_ne hid _ _)

/-- The launching loop.  The indices left are distinct and still pending, and there is room for
them: that is what one launch keeps for the next. -/
theorem inv_launchLoop {idxs : List Nat} (h : w.Inv cfg) (hnodup : idxs.Nodup)
    (hpending : ∀ i ∈ idxs, ∃ c, w.candidates[i]? = some c ∧ c.state = .pending)
    (hroom : w.candidates.countP (·.state = .inflight) + idxs.length ≤ ALPHA) :
    (idxs.foldl (launchAt cfg) w).Inv cfg ∧
      ∀ id, Launches (stateOf w.candidates id)
        (stateOf (idxs.foldl (launchAt cfg) w).candidates id) := by
  induction idxs generalizing w with
  | nil => exact ⟨h, fun _ => .inl rfl⟩
  | cons idx idxs ih =>
    obtain ⟨hidx, hnodup⟩ := List.nodup_cons.mp hnodup
    obtain ⟨c, hc, hcp⟩ := hpending idx List.mem_cons_self
    rw [List.length_cons] at hroom
    obtain ⟨hinv, hcount, hlaunches⟩ := inv_launchAt h hc hcp (by omega)
    have hpending' : ∀ i ∈ idxs, ∃ d, (w.launchAt cfg idx).candidates[i]? = some d ∧
        d.state = .pending := by
      intro i hi
      have hne : idx ≠ i := fun heq => hidx (heq ▸ hi)
      obtain ⟨d, hd, hdp⟩ := hpending i (List.mem_cons_of_mem idx hi)
      rw [launchAt_eq hc]
      exact ⟨d, (List.getElem?_set_ne hne).trans hd, hdp⟩
    obtain ⟨hinv', hlaunches'⟩ := ih hinv hnodup hpending' (by omega)
    exact ⟨hinv', fun id => (hlaunches id).trans (hlaunches' id)⟩

theorem inv_launch (h : w.Inv cfg) : (w.launch cfg).Inv cfg ∧
    ∀ id, Launches (stateOf w.candidates id) (stateOf (w.launch cfg).candidates id) := by
  refine inv_launchLoop h ?_ (fun i hi => ?_) ?_
  · rw [pendingClosest]
    exact (List.nodup_zipIdx_map_snd w.candidates).sublist
      (((List.take_sublist _ _).trans List.filter_sublist).map Prod.snd)
  · obtain ⟨⟨c, j⟩, hmem, rfl⟩ := List.mem_map.mp hi
    obtain ⟨hzip, hpending⟩ := List.mem_filter.mp (List.mem_of_mem_take hmem)
    exact ⟨c, List.mem_zipIdx_iff_getElem?.mp hzip, of_decide_eq_true hpending⟩
  · have hle := h.inflight_le
    rw [pendingClosest, List.length_map, List.length_take]
    omega

/-! ### Marking -/

/-- Marking the candidate of a query that ended. -/
theorem inv_mark (h : w.Inv cfg) {id : NodeId} (hid : stateOf w.candidates id = some .inflight)
    (htask : id ∉ w.joinSet) {s : CandidateState} (hs : s ≠ .pending) (hs' : s ≠ .inflight) :
    (w.mark (w.candidates.findIdx? (·.contact.id = id)) s).Inv cfg ∧
      stateOf (w.mark (w.candidates.findIdx? (·.contact.id = id)) s).candidates =
        Function.update (stateOf w.candidates) id (some s) := by
  obtain ⟨c₀, hc₀, hcid₀, -⟩ := h.ordered.stateOf_eq_some_iff.mp hid
  cases hidx : w.candidates.findIdx? (·.contact.id = id) with
  | none =>
    have hnone := List.findIdx?_eq_none_iff.mp hidx c₀ hc₀
    simp [hcid₀] at hnone
  | some idx =>
    obtain ⟨hlt, hp, -⟩ := List.findIdx?_eq_some_iff_getElem.mp hidx
    obtain ⟨c, hc⟩ : ∃ c, w.candidates[idx]? = some c := ⟨_, List.getElem?_eq_getElem hlt⟩
    obtain rfl : c.contact.id = id := by
      rw [List.getElem?_eq_getElem hlt] at hc
      rw [← Option.some.inj hc]
      exact of_decide_eq_true hp
    obtain ⟨hordered, hstate, hcount⟩ := h.ordered.set hc s
    have hmodify : w.candidates.modify idx (fun c => { c with state := s }) =
        w.candidates.set idx { c with state := s } := by
      rw [List.modify_eq_set_getElem?, hc]
      rfl
    have hle := h.inflight_le
    rw [if_neg hs', Nat.add_zero] at hcount
    rw [mark]
    simp only [hmodify]
    refine ⟨⟨hordered, (Nat.le_add_right _ _).trans (hcount.trans_le hle), ?_⟩, hstate⟩
    rw [hstate]
    exact h.books.mark hid htask hs

/-! ### Learning -/

/-- Learning a contact. -/
theorem inv_learn (h : w.Inv cfg) (entry : ContactEntry) : (w.learn cfg entry).Inv cfg ∧
    ∀ id, Learns (stateOf w.candidates id) (stateOf (w.learn cfg entry).candidates id) := by
  rw [learn]
  split
  · exact ⟨h, fun _ => .inl rfl⟩
  next hseen =>
  split
  · exact ⟨h, fun _ => .inl rfl⟩
  generalize hc : newCandidate cfg.target
    ⟨entry.nodeId, .v4 entry.ipAddr entry.udpPort, entry.version⟩ = c
  have hid : c.contact.id = entry.nodeId := by rw [← hc]; rfl
  have hpending : c.state = .pending := by rw [← hc]; rfl
  have hnone : stateOf w.candidates entry.nodeId = none := by
    rw [h.books.seen_iff, Bool.not_eq_true, Option.isSome_eq_false_iff,
      Option.isNone_iff_eq_none] at hseen
    exact hseen
  have hordered := h.ordered.insertIdx (stateOf_eq_none_iff.mp hnone) hc.symm
  obtain ⟨front, back, heq, hins⟩ := exists_insertIdx
    (partitionPoint_le (fun x => decide (x.distance < c.distance)) w.candidates) c
  dsimp only
  rw [hins] at hordered ⊢
  have hstate : stateOf (front ++ c :: back) =
      Function.update (stateOf w.candidates) entry.nodeId (some .pending) := by
    rw [stateOf_middle hordered.id_ne_of_mem_front, ← heq, hid, hpending]
  have hcount := countP_inflight_middle front back c
  rw [if_neg (by simp [hpending]), ← heq] at hcount
  refine ⟨⟨hordered, hcount.trans_le h.inflight_le, ?_⟩, fun id => ?_⟩
  · rw [hstate]
    exact h.books.learn hnone
  · rw [hstate]
    by_cases heqid : id = entry.nodeId
    · subst heqid
      exact .inr ⟨hnone, Function.update_self ..⟩
    · exact .inl (Function.update_of_ne heqid _ _)

theorem inv_learnLoop (h : w.Inv cfg) (entries : List ContactEntry) :
    (entries.foldl (learn cfg) w).Inv cfg ∧
      ∀ id, Learns (stateOf w.candidates id)
        (stateOf (entries.foldl (learn cfg) w).candidates id) := by
  induction entries generalizing w with
  | nil => exact ⟨h, fun _ => .inl rfl⟩
  | cons entry entries ih =>
    obtain ⟨hinv, hlearns⟩ := inv_learn h entry
    obtain ⟨hinv', hlearns'⟩ := ih hinv
    exact ⟨hinv', fun id => (hlearns id).trans (hlearns' id)⟩

/-! ### Steps and runs -/

/-- One entry that moves, and no other that changes. -/
theorem move_update {f : NodeId → Option CandidateState} {id : NodeId}
    {s : Option CandidateState} (h : Move (f id) s) (id' : NodeId) :
    Move (f id') (Function.update f id s id') := by
  by_cases heq : id' = id
  · subst heq
    rwa [Function.update_self]
  · rw [Function.update_of_ne heq]
    exact .stay _

/-- What the end of a query does. -/
theorem inv_answer (h : w.Inv cfg) {id : NodeId} (hid : stateOf w.candidates id = some .inflight)
    (htask : id ∉ w.joinSet) (result : QueryResult) (now : Nat) :
    (w.answer cfg id result now).Inv cfg ∧
      ∀ id', Move (stateOf w.candidates id')
        (stateOf (w.answer cfg id result now).candidates id') := by
  obtain ⟨hfailed, hfailedState⟩ := inv_mark h hid htask (s := .failed) (by decide) (by decide)
  obtain ⟨hresponded, hrespondedState⟩ :=
    inv_mark h hid htask (s := .responded) (by decide) (by decide)
  have hfailedMove : ∀ id', Move (stateOf w.candidates id')
      (stateOf (w.mark (w.candidates.findIdx? (·.contact.id = id)) .failed).candidates id') := by
    rw [hfailedState]
    exact move_update (hid ▸ .failed)
  have hrespondedMove : ∀ id', Move (stateOf w.candidates id')
      (stateOf (w.mark (w.candidates.findIdx? (·.contact.id = id)) .responded).candidates id') := by
    rw [hrespondedState]
    exact move_update (hid ▸ .answered)
  unfold answer
  split
  · exact ⟨hfailed.withPhase _ _, hfailedMove⟩
  · dsimp only
    split
    · next contacts _ =>
      obtain ⟨hlearned, hlearns⟩ := inv_learnLoop (hresponded.withPhase _ (some now)) contacts
      exact ⟨hlearned.withPhase _ _, fun id' => (hrespondedMove id').learns (hlearns id')⟩
    · exact ⟨hresponded.withPhase _ _, hrespondedMove⟩
  · exact ⟨hfailed.withPhase _ _, hfailedMove⟩

/-- **One step keeps the invariant**, and every candidate moves as it may. -/
theorem inv_step (h : w.Inv cfg) {event : Event} {w' : Walk} (hstep : step cfg w event = some w') :
    w'.Inv cfg ∧ ∀ id, Move (stateOf w.candidates id) (stateOf w'.candidates id) := by
  cases event with
  | launch =>
    rw [step, Option.ite_none_right_eq_some] at hstep
    obtain ⟨-, hw'⟩ := hstep
    obtain ⟨hinv, hlaunches⟩ := inv_launch h
    rw [← Option.some.inj hw']
    exact ⟨hinv.withPhase _ _, fun id => (hlaunches id).move⟩
  | answered id result now =>
    rw [step, Option.ite_none_right_eq_some] at hstep
    obtain ⟨⟨-, hmem⟩, hw'⟩ := hstep
    rw [← Option.some.inj hw']
    exact inv_answer (h.withoutTask id) (h.books.joinSet_inflight id hmem)
      (fun hid => (h.books.joinSet_nodup.mem_erase_iff.mp hid).1 rfl) result now
  | panicked id =>
    rw [step, Option.ite_none_right_eq_some] at hstep
    obtain ⟨-, hw'⟩ := hstep
    rw [← Option.some.inj hw']
    exact ⟨(h.withoutTask id).withPhase _ _, fun _ => .stay _⟩
  | stop =>
    rw [step, Option.ite_none_left_eq_some] at hstep
    obtain ⟨-, hw'⟩ := hstep
    rw [← Option.some.inj hw']
    exact ⟨h.withPhase _ _, fun _ => .stay _⟩

/-- **The invariant holds throughout a walk.** -/
theorem inv_of_run {initial : List TraversalContact} {events : List Event}
    (hrun : run (step cfg) (start cfg initial) events = some w) : w.Inv cfg :=
  run_invariant (fun _ _ _ h hstep => (inv_step h hstep).1) (inv_start cfg initial) hrun

/-! ## The result -/

/-- The contacts that answered come in increasing distance. -/
theorem responded_pairwise {target : NodeId} (h : Ordered target w.candidates) :
    w.responded.Pairwise fun a b => target.distance a.id < target.distance b.id := by
  rw [responded, List.pairwise_map]
  refine List.Pairwise.imp_of_mem (fun {a b} ha hb hlt => ?_) (h.sorted.sublist List.filter_sublist)
  rwa [h.distance_eq a (List.mem_of_mem_filter ha), h.distance_eq b (List.mem_of_mem_filter hb)]
    at hlt

/-- **A walk, from any candidates and through any events.**  The candidates stay sorted with
distinct identifiers, at most `ALPHA` are in flight, each is queried at most once and moves only
forward, all are seen, and the result is the nearest of those that answered, as many of them as
there are up to the limit. -/
theorem walk_of_run (cfg : TraversalConfig) (initial : List TraversalContact) (events : List Event)
    (w : Walk) (hrun : run (step cfg) (start cfg initial) events = some w) :
    w.candidates.Pairwise (fun a b => a.distance < b.distance) ∧
    (∀ c ∈ w.candidates, c.distance = cfg.target.distance c.contact.id) ∧
    (w.candidates.map (·.contact.id)).Nodup ∧
    w.candidates.countP (·.state = .inflight) ≤ ALPHA ∧
    (w.queries.map (·.request.recipientId)).Nodup ∧
    (∀ event w', step cfg w event = some w' →
      ∀ id, Move (stateOf w.candidates id) (stateOf w'.candidates id)) ∧
    (∀ c ∈ w.candidates, c.contact.id ∈ w.seen) ∧
    w.closest cfg <+: w.responded ∧
    (w.closest cfg).length = min cfg.closestLimit w.responded.length ∧
    (w.closest cfg).Pairwise
      (fun a b => cfg.target.distance a.id < cfg.target.distance b.id) := by
  have hinv := inv_of_run hrun
  refine ⟨hinv.ordered.sorted, hinv.ordered.distance_eq, hinv.ordered.nodup, hinv.inflight_le,
    hinv.books.queries_nodup, fun event w' hstep => (inv_step hinv hstep).2, fun c hc => ?_,
    List.take_prefix _ _, List.length_take, ?_⟩
  · exact (hinv.books.seen_iff _).mpr (isSome_stateOf_iff.mpr ⟨c, hc, rfl⟩)
  · exact (responded_pairwise hinv.ordered).sublist (List.take_sublist _ _)

/-- A lookup of the zero identifier. -/
def sampleConfig : TraversalConfig := ⟨.ZERO, .findNode, 10⟩

/-- An identifier of one repeated byte. -/
def sampleId (n : UInt8) : NodeId := ⟨Vector.replicate 16 n⟩

/-- A walk that knows one peer, learns of two more from it and asks them, and is cancelled after one
of them answered and the task of the other query panicked. -/
def sampleEvents : List Event :=
  [.launch,
    .answered (sampleId 2)
      (.ok (.res ⟨.ZERO, [⟨sampleId 3, 0x01020304, 4672, 4662, 9⟩,
        ⟨sampleId 1, 0x05060708, 4672, 4662, 9⟩]⟩)) 7,
    .launch, .answered (sampleId 1) (.ok (.res ⟨.ZERO, []⟩)) 9, .launch, .panicked (sampleId 3),
    .stop]

theorem walk_of_run_sample : ∃ w,
    run (step sampleConfig) (start sampleConfig [⟨sampleId 2, .v4 (.new 80 1 2 3) 4672, 9⟩])
      sampleEvents = some w ∧
    w.candidates.map (·.contact.id) = [sampleId 1, sampleId 2, sampleId 3] ∧
    w.candidates.map (·.state) = [.responded, .responded, .inflight] ∧
    w.candidates.Pairwise (fun a b => a.distance < b.distance) ∧
    (w.queries.map (·.request.recipientId)).Nodup ∧
    (w.closest sampleConfig).map (·.id) = [sampleId 1, sampleId 2] ∧
    (w.closest sampleConfig).length = min sampleConfig.closestLimit w.responded.length ∧
    (w.closest sampleConfig).Pairwise
      (fun a b => NodeId.ZERO.distance a.id < NodeId.ZERO.distance b.id) := by
  have hstart : start sampleConfig [⟨sampleId 2, .v4 (.new 80 1 2 3) 4672, 9⟩] =
      { candidates := [newCandidate .ZERO ⟨sampleId 2, .v4 (.new 80 1 2 3) 4672, 9⟩]
        seen := [sampleId 2]
        joinSet := []
        lastLookupResponseAt := none
        queries := []
        phase := .top } := by
    simp [start, initialCandidates, newCandidate, sampleConfig]
  obtain ⟨w, hrun, hids, hstates, hclosest⟩ : ∃ w,
      run (step sampleConfig) (start sampleConfig [⟨sampleId 2, .v4 (.new 80 1 2 3) 4672, 9⟩])
        sampleEvents = some w ∧
      w.candidates.map (·.contact.id) = [sampleId 1, sampleId 2, sampleId 3] ∧
      w.candidates.map (·.state) = [.responded, .responded, .inflight] ∧
      (w.closest sampleConfig).map (·.id) = [sampleId 1, sampleId 2] := by
    rw [hstart]
    exact ⟨_, rfl, by decide, by decide, by decide⟩
  obtain ⟨hsorted, -, -, -, hqueries, -, -, -, hlength, hnearest⟩ :=
    walk_of_run sampleConfig _ sampleEvents w hrun
  exact ⟨w, hrun, hids, hstates, hsorted, hqueries, hclosest, hlength, hnearest⟩

end Walk

end Overlord.Kad.Dht
