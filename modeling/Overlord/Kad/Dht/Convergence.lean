import Overlord.Kad.Dht.WalkInvariant

/-!
# When a lookup may stop early

A lookup of a node stops as soon as its nearest `K` responders are certain
(`find_node_lookup_converged`).  Candidates that are pending or in flight can still end either way;
a list that has the same candidates with all of them decided is a completion of it
(`Completes`).

`findNodeLookupConverged_iff` says that the test is exact: it holds if and only if `K` candidates
have responded and every completion has the same nearest `K` responders.  The test looks only at the
undecided candidates that are nearer than the last of these, and the list is sorted, so they would
have to stand before it.
-/

set_option autoImplicit false

namespace Overlord.Kad.Dht

/-! ## Lists and their first elements -/

section Prefix

variable {α : Type} {p : α → Bool}

/-- The place of the `n`-th element with a property. -/
theorem exists_filter_split {l : List α} {n : Nat} (hn : n < (l.filter p).length) :
    ∃ front a back, l = front ++ a :: back ∧ p a = true ∧ (front.filter p).length = n := by
  induction l generalizing n with
  | nil => cases hn
  | cons b l ih =>
    cases hb : p b with
    | false =>
      rw [List.filter_cons_of_neg (by simp [hb])] at hn
      obtain ⟨front, a, back, rfl, ha, hlen⟩ := ih hn
      exact ⟨b :: front, a, back, rfl, ha, by rw [List.filter_cons_of_neg (by simp [hb]), hlen]⟩
    | true =>
      cases n with
      | zero => exact ⟨[], b, l, rfl, hb, rfl⟩
      | succ n =>
        rw [List.filter_cons_of_pos hb, List.length_cons] at hn
        obtain ⟨front, a, back, rfl, ha, hlen⟩ := ih (Nat.lt_of_succ_lt_succ hn)
        exact ⟨b :: front, a, back, rfl, ha,
          by rw [List.filter_cons_of_pos hb, List.length_cons, hlen]⟩

/-- The first elements with a property, up to one of them. -/
theorem take_filter_split {front back : List α} {a : α} {n : Nat} (ha : p a = true)
    (hlen : (front.filter p).length = n) :
    ((front ++ a :: back).filter p).take (n + 1) = front.filter p ++ [a] := by
  rw [List.filter_append, List.filter_cons_of_pos ha, List.take_append, hlen,
    List.take_of_length_le (by omega), Nat.add_sub_cancel_left]
  rfl

end Prefix

/-! ## Completions -/

/-- A candidate that can still respond or fail. -/
def TraversalCandidate.Undecided (c : TraversalCandidate) : Prop :=
  c.state = .pending ∨ c.state = .inflight

instance (c : TraversalCandidate) : Decidable c.Undecided := inferInstanceAs (Decidable (_ ∨ _))

/-- How a candidate may end. -/
structure Settles (c c' : TraversalCandidate) : Prop where
  contact : c'.contact = c.contact
  distance : c'.distance = c.distance
  decided : ¬ c.Undecided → c'.state = c.state
  undecided : c.Undecided → c'.state = .responded ∨ c'.state = .failed

/-- All candidates have ended, and there are no new ones. -/
def Completes (cs cs' : List TraversalCandidate) : Prop := List.Forall₂ Settles cs cs'

/-- The nearest `K` candidates that responded. -/
def closestResponded (cs : List TraversalCandidate) : List TraversalCandidate :=
  (cs.filter (·.state = .responded)).take K

theorem Settles.eq_of_decided {c c' : TraversalCandidate} (h : Settles c c')
    (hc : ¬ c.Undecided) : c' = c := by
  obtain ⟨contact, state, distance⟩ := c
  obtain ⟨contact', state', distance'⟩ := c'
  obtain ⟨rfl, rfl, hstate, -⟩ := h
  obtain rfl := hstate hc
  rfl

/-- What is decided stays as it is. -/
theorem Completes.eq_of_decided {cs cs' : List TraversalCandidate} (h : Completes cs cs')
    (hcs : ∀ c ∈ cs, ¬ c.Undecided) : cs' = cs := by
  induction h with
  | nil => rfl
  | cons hc _ ih =>
    rw [hc.eq_of_decided (hcs _ List.mem_cons_self),
      ih fun c hc => hcs c (List.mem_cons_of_mem _ hc)]

/-- A part that is decided is there in every completion. -/
theorem Completes.exists_append {front back cs' : List TraversalCandidate}
    (h : Completes (front ++ back) cs') (hfront : ∀ c ∈ front, ¬ c.Undecided) :
    ∃ back', cs' = front ++ back' := by
  have htake : Completes front (cs'.take front.length) := by
    have := List.forall₂_take front.length h
    rwa [List.take_left] at this
  refine ⟨cs'.drop front.length, ?_⟩
  nth_rewrite 1 [← htake.eq_of_decided hfront]
  exact (List.take_append_drop _ _).symm

/-! ## The test -/

section Test

variable {target : NodeId} {cs cs' front back : List TraversalCandidate}
  {c last : TraversalCandidate}

theorem closestResponded_split (hlast : last.state = .responded)
    (hfront : (front.filter (·.state = .responded)).length = K - 1) :
    closestResponded (front ++ last :: back) = front.filter (·.state = .responded) ++ [last] :=
  take_filter_split (decide_eq_true hlast) hfront

/-- The test, with the last of the nearest responders. -/
theorem findNodeLookupConverged_split (hlast : last.state = .responded)
    (hfront : (front.filter (·.state = .responded)).length = K - 1) :
    Walk.findNodeLookupConverged (front ++ last :: back) = true ↔
      ∀ c ∈ front ++ last :: back, c.Undecided → ¬ (c.distance.cmp last.distance).isLE = true := by
  have htake : ((front ++ last :: back).filter (·.state = .responded)).take K = _ :=
    closestResponded_split hlast hfront
  have hlength : ¬ (front.filter (·.state = .responded) ++ [last]).length < K := by
    rw [List.length_append, hfront, List.length_singleton]
    decide
  rw [Walk.findNodeLookupConverged, htake, List.getLast?_append_of_ne_nil _ (List.cons_ne_nil _ _)]
  show (if _ < K then false else !_) = true ↔ _
  rw [if_neg hlength, Bool.not_eq_true', List.any_eq_false]
  refine forall₂_congr fun c _ => ?_
  rw [Bool.and_eq_true, not_and, decide_eq_true_eq]
  rfl

/-- Sorted by distance, with distinct identifiers. -/
theorem ordered_of_nodup (hsorted : cs.Pairwise fun a b => (a.distance.cmp b.distance).isLE = true)
    (hids : (cs.map (·.contact.id)).Nodup)
    (hdistance : ∀ c ∈ cs, c.distance = target.distance c.contact.id) : Ordered target cs := by
  refine ⟨List.Pairwise.imp_of_mem (fun {a b} ha hb h => ?_)
    (hsorted.and (List.pairwise_map.mp hids)), hdistance⟩
  obtain ⟨hle, hne⟩ := h
  rw [NodeId.isLE_cmp, decide_eq_true_eq] at hle
  refine (NodeId.lt_iff _ _).mpr (Nat.lt_of_le_of_ne hle fun heq => hne ?_)
  have heq := NodeId.toNat_injective heq
  rw [hdistance a ha, hdistance b hb, NodeId.distance_comm, NodeId.distance_comm target] at heq
  exact NodeId.distance_injective heq

/-- **A test that holds is right**: no candidate before the last of the nearest responders is
undecided. -/
theorem closestResponded_of_converged (h : Ordered target (front ++ last :: back))
    (hlast : last.state = .responded)
    (hfront : (front.filter (·.state = .responded)).length = K - 1)
    (hconverged : Walk.findNodeLookupConverged (front ++ last :: back) = true)
    (hcompletes : Completes (front ++ last :: back) cs') :
    closestResponded cs' = closestResponded (front ++ last :: back) := by
  have hfar := (findNodeLookupConverged_split hlast hfront).mp hconverged
  have hdecided : ∀ c ∈ front ++ [last], ¬ c.Undecided := by
    intro c hc hundecided
    rcases List.mem_append.mp hc with hc | hc
    · refine hfar c (List.mem_append_left _ hc) hundecided ?_
      have hlt := (List.pairwise_append.mp h.sorted).2.2 c hc last List.mem_cons_self
      rw [NodeId.isLE_cmp, decide_eq_true_eq]
      exact Nat.le_of_lt ((NodeId.lt_iff _ _).mp hlt)
    · obtain rfl := List.mem_singleton.mp hc
      rcases hundecided with hstate | hstate <;> exact absurd (hlast.symm.trans hstate) nofun
  -- so a completion starts with the same candidates
  rw [← List.singleton_append, ← List.append_assoc] at hcompletes
  obtain ⟨back', rfl⟩ := hcompletes.exists_append hdecided
  rw [List.append_assoc, List.singleton_append, closestResponded_split hlast hfront,
    closestResponded_split hlast hfront]

/-- The completion in which one undecided candidate responds and the others fail. -/
def respondOnly (id : NodeId) (c : TraversalCandidate) : TraversalCandidate :=
  if c.Undecided then { c with state := if c.contact.id = id then .responded else .failed } else c

theorem settles_respondOnly (id : NodeId) (c : TraversalCandidate) :
    Settles c (respondOnly id c) := by
  rw [respondOnly]
  split
  next hc =>
    refine ⟨rfl, rfl, fun h => absurd hc h, fun _ => ?_⟩
    split
    · exact .inl rfl
    · exact .inr rfl
  next hc => exact ⟨rfl, rfl, fun _ => rfl, fun h => absurd h hc⟩

theorem completes_respondOnly (id : NodeId) (cs : List TraversalCandidate) :
    Completes cs (cs.map (respondOnly id)) :=
  List.forall₂_map_right_iff.mpr (List.forall₂_same.mpr fun c _ => settles_respondOnly id c)

/-- The responders before the candidate are the same. -/
theorem filter_respondOnly {id : NodeId} (hid : ∀ x ∈ cs, x.contact.id ≠ id) :
    (cs.map (respondOnly id)).filter (·.state = .responded) =
      cs.filter (·.state = .responded) := by
  induction cs with
  | nil => rfl
  | cons x cs ih =>
    have hrest := ih fun y hy => hid y (List.mem_cons_of_mem _ hy)
    have hx : x.contact.id ≠ id := hid x List.mem_cons_self
    by_cases hundecided : x.Undecided
    · have hstate : x.state ≠ .responded := by
        rcases hundecided with h | h <;> rw [h] <;> decide
      have hfailed : respondOnly id x = { x with state := .failed } := by
        rw [respondOnly, if_pos hundecided, if_neg hx]
      rw [List.map_cons, hfailed, List.filter_cons_of_neg (by simp),
        List.filter_cons_of_neg (by simpa using hstate), hrest]
    · have hsame : respondOnly id x = x := if_neg hundecided
      rw [List.map_cons, hsame, List.filter_cons, List.filter_cons, hrest]

/-- **An undecided candidate before the last of the nearest responders** could displace it. -/
theorem exists_displaced (h : Ordered target (front ++ last :: back))
    (hfront : (front.filter (·.state = .responded)).length = K - 1) (hc : c ∈ front)
    (hundecided : c.Undecided) :
    ∃ cs', Completes (front ++ last :: back) cs' ∧
      closestResponded cs' ≠ closestResponded (front ++ last :: back) := by
  obtain ⟨before, after, rfl⟩ := List.append_of_mem hc
  have hresponded : respondOnly c.contact.id c = { c with state := .responded } := by
    rw [respondOnly, if_pos hundecided, if_pos rfl]
  have hpairwise := h.id_pairwise
  rw [List.append_assoc, List.cons_append] at h hpairwise ⊢
  have hbefore : ∀ x ∈ before, x.contact.id ≠ c.contact.id :=
    fun x hx => (List.pairwise_append.mp hpairwise).2.2 x hx c List.mem_cons_self
  refine ⟨_, completes_respondOnly c.contact.id _, fun heq => ?_⟩
  -- the candidate is now among the nearest responders
  have hmem : respondOnly c.contact.id c ∈ closestResponded
      ((before ++ c :: (after ++ last :: back)).map (respondOnly c.contact.id)) := by
    have hlength : (before.filter (·.state = .responded)).length < K := by
      rw [List.filter_append, List.length_append] at hfront
      have hpos : 0 < K := by decide
      omega
    rw [closestResponded, List.map_append, List.map_cons, List.filter_append,
      filter_respondOnly hbefore, List.filter_cons_of_pos (by rw [hresponded]; rfl)]
    rw [List.take_append, List.mem_append]
    refine .inr ?_
    obtain ⟨n, hn⟩ : ∃ n, K - (before.filter (·.state = .responded)).length = n + 1 :=
      ⟨K - (before.filter (·.state = .responded)).length - 1, by omega⟩
    rw [hn, List.take_succ_cons]
    exact List.mem_cons_self
  rw [heq, closestResponded] at hmem
  -- but it had not responded before
  have hold := List.mem_of_mem_filter (List.mem_of_mem_take hmem)
  have hc' : c ∈ before ++ c :: (after ++ last :: back) :=
    List.mem_append_right _ List.mem_cons_self
  have hsame : respondOnly c.contact.id c = c :=
    List.inj_on_of_nodup_map h.nodup hold hc' (by rw [hresponded])
  rw [hresponded] at hsame
  rcases hundecided with hstate | hstate
  · rw [← hsame] at hstate
    cases hstate
  · rw [← hsame] at hstate
    cases hstate

/-- **The test is exact.**  For candidates that are sorted by their distance and have distinct
identifiers, it holds if and only if `K` of them have responded and, however the undecided ones end,
the nearest `K` responders stay the same. -/
theorem findNodeLookupConverged_iff
    (hsorted : cs.Pairwise fun a b => (a.distance.cmp b.distance).isLE = true)
    (hids : (cs.map (·.contact.id)).Nodup)
    (hdistance : ∀ c ∈ cs, c.distance = target.distance c.contact.id) :
    Walk.findNodeLookupConverged cs = true ↔ K ≤ cs.countP (·.state = .responded) ∧
      ∀ cs', Completes cs cs' → closestResponded cs' = closestResponded cs := by
  have hordered := ordered_of_nodup hsorted hids hdistance
  by_cases hcount : K ≤ cs.countP (·.state = .responded)
  · rw [and_iff_right hcount]
    rw [List.countP_eq_length_filter] at hcount
    obtain ⟨front, last, back, rfl, hlast, hfront⟩ :=
      exists_filter_split (Nat.lt_of_lt_of_le (by decide : K - 1 < K) hcount)
    have hlast := of_decide_eq_true hlast
    refine ⟨fun hconverged cs' => closestResponded_of_converged hordered hlast hfront hconverged,
      fun hstable => (findNodeLookupConverged_split hlast hfront).mpr fun c hc hundecided hle => ?_⟩
    rcases List.mem_append.mp hc with hc | hc
    · obtain ⟨cs', hcompletes, hne⟩ := exists_displaced hordered hfront hc hundecided
      exact hne (hstable cs' hcompletes)
    · rcases List.mem_cons.mp hc with rfl | hc
      · rcases hundecided with hstate | hstate <;> exact absurd (hlast.symm.trans hstate) nofun
      · have hlt := (List.pairwise_cons.mp (List.pairwise_append.mp hordered.sorted).2.1).1 c hc
        rw [NodeId.isLE_cmp, decide_eq_true_eq] at hle
        exact absurd ((NodeId.lt_iff _ _).mp hlt) (Nat.not_lt.mpr hle)
  · refine iff_of_false (fun hconverged => hcount ?_) fun h => hcount h.1
    rw [Walk.findNodeLookupConverged] at hconverged
    split at hconverged
    · cases hconverged
    · split at hconverged
      · cases hconverged
      next hlength =>
        rw [List.length_take] at hlength
        rw [List.countP_eq_length_filter]
        omega

/-- Ten candidates that have responded, and a farther one that is in flight. -/
def sampleCandidates : List TraversalCandidate :=
  ([1, 2, 3, 4, 5, 6, 7, 8, 9, 10].map fun n => candidate n .responded) ++ [candidate 11 .inflight]
where
  candidate (n : UInt8) (state : CandidateState) : TraversalCandidate :=
    ⟨⟨Walk.sampleId n, .v4 (.new 80 1 2 n) 4672, 9⟩, state,
      NodeId.ZERO.distance (Walk.sampleId n)⟩

theorem findNodeLookupConverged_sample :
    Walk.findNodeLookupConverged sampleCandidates = true ∧
      ∀ cs', Completes sampleCandidates cs' →
        closestResponded cs' = closestResponded sampleCandidates := by
  have hdistance : ∀ c ∈ sampleCandidates, c.distance = NodeId.ZERO.distance c.contact.id := by
    decide +kernel
  have hconverged : Walk.findNodeLookupConverged sampleCandidates = true := by decide +kernel
  exact ⟨hconverged, ((findNodeLookupConverged_iff (by decide +kernel) (by decide +kernel)
    hdistance).mp hconverged).2⟩

end Test

end Overlord.Kad.Dht
