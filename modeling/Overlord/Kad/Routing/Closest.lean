import Overlord.Kad.Routing.Reachable
import Overlord.Data.KeyOrder

/-!
# The contacts closest to a target

`get_closest` of the tree visits the child on the target's side first and skips the other child once
it has collected enough.  `get_closest` of the table asks it for everything and sorts afterwards.
Both give the nearest contacts in the XOR metric.

The pruned walk is correct because of the prefix invariant: all contacts below a branch agree in
the bits above it, so whoever has the target's bit there is nearer than whoever has not
(`near_lt_far`), also in a subtree that the target itself does not belong to.
`RoutingZone.getClosest_spec` carries that through the walk: what was collected is nearer than what
was left out, and nothing was left out unless there were enough.
-/

set_option autoImplicit false

namespace Overlord.Kad.Routing

open KeyOrder

/-- The distance of a contact from the target, as a number. -/
def distanceKey (target : NodeId) (c : Contact) : Nat := (c.id.distance target).toNat

theorem distanceKey_lt_iff {target : NodeId} {a b : Contact} :
    distanceKey target a < distanceKey target b ↔ a.id.distance target < b.id.distance target :=
  (NodeId.lt_iff _ _).symm

/-- Contacts with distinct identifiers are at distinct distances. -/
theorem nodup_distanceKey (target : NodeId) {cs : List Contact}
    (h : (cs.map Contact.id).Nodup) : (cs.map (distanceKey target)).Nodup := by
  have hmap := h.map (f := fun id => (id.distance target).toNat) fun a b heq =>
    NodeId.distance_injective (NodeId.toNat_injective heq)
  rwa [List.map_map] at hmap

theorem sortByDistance_eq (target : NodeId) (cs : List Contact) :
    RoutingTable.sortByDistance target cs = byKey (distanceKey target) cs := by
  have hle : (fun a b : Contact => ((a.id.distance target).cmp (b.id.distance target)).isLE) =
      fun a b => decide (distanceKey target a ≤ distanceKey target b) := by
    funext a b
    rw [NodeId.isLE_cmp, distanceKey, distanceKey]
  rw [RoutingTable.sortByDistance, byKey, hle]

/-! ## The pruned walk -/

namespace RoutingZone

/-- Below a branch, the contacts on the target's side are nearer than those on the other. -/
theorem near_lt_far {path : List Bool} {target : NodeId} {a b : Contact} (hlen : path.length < 128)
    (ha : a.id.StartsWith path) (hb : b.id.StartsWith path)
    (hnear : a.id.bit path.length = target.bit path.length)
    (hfar : b.id.bit path.length ≠ target.bit path.length) :
    distanceKey target a < distanceKey target b :=
  distanceKey_lt_iff.mpr (NodeId.distance_lt_of_bit hlen (fun _ hq => ha.bit_eq hb hq) hnear hfar)

/-- A branch of a valid tree is at a depth with a bit. -/
theorem Valid.length_lt {path : List Bool} {depth zoneIndex : Nat} {left right : RoutingZone}
    (h : (branch depth zoneIndex left right).Valid path) : path.length < 128 := by
  have hle : ∀ {zone : RoutingZone} {path : List Bool}, zone.Valid path → path.length ≤ 127 := by
    intro zone
    induction zone with
    | leaf => exact fun hleaf => hleaf.1 ▸ hleaf.2.1
    | branch _ _ left _ ihl _ =>
      intro path hbranch
      have hl := ihl hbranch.2.1
      rw [List.length_append] at hl
      omega
  exact Nat.lt_succ_of_le (hle h)

/-- What the walk collected from a zone and what it left out. -/
structure Collected (target : NodeId) (n : Nat) (zone : RoutingZone) (result out : List Contact)
    (got rest : List Contact) : Prop where
  /-- The walk appends what it collects. -/
  out_eq : out = result ++ got
  /-- Collected and left out together are the contacts of the zone. -/
  perm : zone.contacts.Perm (got ++ rest)
  /-- Nothing is left out unless there is enough. -/
  enough : rest = [] ∨ n ≤ out.length
  /-- What is left out is farther away. -/
  lt : ∀ a ∈ got, ∀ b ∈ rest, distanceKey target a < distanceKey target b

/-- The walk through a branch, from the walks through the child on the target's side and, if it is
visited, through the other. -/
theorem collected_branch {target : NodeId} {n : Nat} {zone near far : RoutingZone}
    {result out : List Contact} {got rest : List Contact}
    (hperm : zone.contacts.Perm (near.contacts ++ far.contacts))
    (hlt : ∀ a ∈ near.contacts, ∀ b ∈ far.contacts, distanceKey target a < distanceKey target b)
    (hnear : Collected target n near result out got rest)
    (hfar : ∀ result, ∃ got rest,
      Collected target n far result (far.getClosest target n result) got rest) :
    ∃ got rest, Collected target n zone result
      (if out.length < n then far.getClosest target n out else out) got rest := by
  have hgot : ∀ a ∈ got, a ∈ near.contacts := fun a ha =>
    hnear.perm.mem_iff.mpr (List.mem_append_left _ ha)
  split
  · next hmissing =>
    -- too few so far: the near child was collected completely, and the far child follows
    obtain ⟨got', rest', hout', hperm', henough', hlt'⟩ := hfar out
    have hrest : rest = [] := hnear.enough.resolve_right (Nat.not_le.mpr hmissing)
    have hnearPerm := hnear.perm
    rw [hrest, List.append_nil] at hnearPerm
    refine ⟨got ++ got', rest', ?_, ?_, henough', fun a ha b hb => ?_⟩
    · rw [hout', hnear.out_eq, List.append_assoc]
    · exact hperm.trans ((hnearPerm.append hperm').trans (.of_eq (List.append_assoc ..).symm))
    · rcases List.mem_append.mp ha with ha | ha
      · exact hlt a (hgot a ha) b (hperm'.mem_iff.mpr (List.mem_append_right _ hb))
      · exact hlt' a ha b hb
  · next henough =>
    refine ⟨got, rest ++ far.contacts, hnear.out_eq, ?_, .inr (Nat.le_of_not_lt henough),
      fun a ha b hb => ?_⟩
    · exact hperm.trans ((hnear.perm.append_right _).trans (.of_eq (List.append_assoc ..)))
    · rcases List.mem_append.mp hb with hb | hb
      · exact hnear.lt a ha b hb
      · exact hlt a (hgot a ha) b hb

/-- **What the pruned walk guarantees.** -/
theorem getClosest_spec (target : NodeId) (n : Nat) {path : List Bool} {zone : RoutingZone}
    (h : zone.Valid path) (result : List Contact) :
    ∃ got rest, Collected target n zone result (zone.getClosest target n result) got rest := by
  induction zone generalizing path result with
  | leaf _ _ bin =>
    refine ⟨bin.contacts, [], rfl, .of_eq (List.append_nil _).symm, .inl rfl, fun a _ b hb => ?_⟩
    exact absurd hb List.not_mem_nil
  | branch depth zoneIndex left right ihl ihr =>
    have hlen := h.length_lt
    have hl : ∀ c ∈ left.contacts, c.id.StartsWith path ∧ c.id.bit path.length = false :=
      fun c hc => NodeId.startsWith_concat.mp (h.2.1.startsWith hc)
    have hr : ∀ c ∈ right.contacts, c.id.StartsWith path ∧ c.id.bit path.length = true :=
      fun c hc => NodeId.startsWith_concat.mp (h.2.2.startsWith hc)
    rw [getClosest]
    cases hbit : target.bit depth with
    | true =>
      rw [h.1] at hbit
      obtain ⟨got, rest, hright⟩ := ihr h.2.2 result
      rw [if_pos rfl]
      refine collected_branch List.perm_append_comm (fun a ha b hb => ?_) hright
        fun result => ihl h.2.1 result
      exact near_lt_far hlen (hr a ha).1 (hl b hb).1 ((hr a ha).2.trans hbit.symm)
        (by rw [(hl b hb).2, hbit]; exact Bool.false_ne_true)
    | false =>
      rw [h.1] at hbit
      obtain ⟨got, rest, hleft⟩ := ihl h.2.1 result
      rw [if_neg Bool.false_ne_true]
      refine collected_branch (List.Perm.refl _) (fun a ha b hb => ?_) hleft
        fun result => ihr h.2.2 result
      exact near_lt_far hlen (hl a ha).1 (hr b hb).1 ((hl a ha).2.trans hbit.symm)
        (by rw [(hr b hb).2, hbit]; exact Bool.noConfusion)

/-- Sorted and cut off, the pruned walk gives the nearest contacts of the tree. -/
theorem take_sortByDistance_getClosest {zone : RoutingZone} (h : zone.Valid []) (target : NodeId)
    {n m : Nat} (hnm : n ≤ m ∨ zone.contacts.length < m) :
    (RoutingTable.sortByDistance target (zone.getClosest target m [])).take n =
      nearest (distanceKey target) n zone.contacts := by
  obtain ⟨got, rest, hout, hperm, henough, hlt⟩ := getClosest_spec target m h []
  rw [List.nil_append] at hout
  have hnodup := nodup_distanceKey target h.nodup
  have hgot : rest = [] ∨ n ≤ got.length := by
    refine henough.imp_right fun hle => ?_
    have hlength := hperm.length_eq
    rw [List.length_append] at hlength
    rw [hout] at hle
    omega
  rw [sortByDistance_eq, hout, nearest_of_perm hnodup hperm,
    nearest_append ((hperm.map _).nodup_iff.mp hnodup) hlt hgot, nearest]

end RoutingZone

/-! ## The table -/

namespace RoutingTable

/-- There are at most as many contacts as addresses. -/
theorem Valid.length_le {t : RoutingTable} (h : t.Valid) : t.root.contacts.length ≤ 2 ^ 32 := by
  have hnodup : (t.root.contacts.map Contact.ip).Nodup := by
    rw [List.nodup_iff_count_le_one]
    intro ip
    rw [List.count_eq_countP, List.countP_map]
    have hle := h.accounts.ip_le ip
    rwa [total_ipKey] at hle
  simpa using Ipv4Addr.length_le_of_nodup hnodup

theorem Valid.getClosest_eq {t : RoutingTable} (h : t.Valid) (target : NodeId) (n : Nat) :
    t.getClosest target n = nearest (distanceKey target) n t.root.contacts := by
  refine RoutingZone.take_sortByDistance_getClosest h.root target (.inr ?_)
  exact h.length_le.trans_lt (by decide)

/-- **The closest contacts.**  In every reachable table the pruned walk, sorted and truncated,
equals the exhaustive one, and the result is the list of the `n` nearest contacts. -/
theorem getClosest_after (ownId : NodeId) (maxSize : Nat) (calls : List Call) (target : NodeId)
    (n : Nat) :
    let t := (withMaxSize ownId maxSize).after calls
    (sortByDistance target (t.root.getClosest target n [])).take n = t.getClosest target n ∧
    (t.getClosest target n).Pairwise
      (fun a b => a.id.distance target < b.id.distance target) ∧
    (t.getClosest target n).length = min n t.root.contacts.length ∧
    (∀ c ∈ t.getClosest target n, c ∈ t.root.contacts) ∧
    (∀ c ∈ t.root.contacts, c ∉ t.getClosest target n → ∀ d ∈ t.getClosest target n,
      d.id.distance target < c.id.distance target) := by
  have hvalid := valid_after ownId maxSize calls
  generalize (withMaxSize ownId maxSize).after calls = t at hvalid
  have hnearest := isNearest_nearest (nodup_distanceKey target hvalid.root.nodup) n
  rw [← hvalid.getClosest_eq target n] at hnearest
  refine ⟨?_, hnearest.sorted.imp distanceKey_lt_iff.mp, hnearest.length_eq, hnearest.subset,
    fun c hc hout d hd => distanceKey_lt_iff.mp (hnearest.nearer c hc hout d hd)⟩
  rw [hvalid.getClosest_eq target n]
  exact RoutingZone.take_sortByDistance_getClosest hvalid.root target (.inl (Nat.le_refl n))

/-- `all_contacts` lists every stored contact. -/
theorem allContacts_perm {t : RoutingTable} (h : t.Valid) :
    t.allContacts.Perm t.root.contacts := by
  rw [allContacts, h.getClosest_eq, nearest, h.total_eq,
    List.take_of_length_le (byKey_perm _ _).length_eq.le]
  exact byKey_perm _ _

end RoutingTable

end Overlord.Kad.Routing
