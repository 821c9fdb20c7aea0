import Overlord.Kad.Routing.Bin

/-!
# The routing tree

`zone.rs` of the routing crate.  A `RoutingZone` is a binary tree over the bits of node
identifiers: a leaf holds a bucket, a branch at depth `d` sends an identifier left or right by its
bit `d`.  `add` walks to the leaf of a contact.  When the bucket there is full and the splitting
rule allows it, the leaf is drained into two fresh leaves — through fallible adds, with an early
exit that leaves the leaf empty — and the add is tried again.

The recursion of `add` goes down the tree and, after a split, starts over at the same zone, so it is
structural in neither; the model spends one unit of fuel on each split nested in another.  Zones at
depth 127 never split, and `add_eq_add` shows that beyond that budget fuel is irrelevant.  An
outcome also lists the splits made on the way, as the source's log lines do.

* `RoutingZone.Valid path` — the tree below the node reached by `path`: depths count the path, each
  contact's identifier starts with it, buckets are valid, no leaf is deeper than 127.
* `split_eq` — splitting a valid leaf succeeds, makes no further split, and hands each contact, as
  it is and in order, to the child of its bit.
* `AddEffect` — what an add does to the stored contacts: one more, one refreshed, or nothing.
* `add_spec` — from a valid tree `add` makes a valid tree, has this effect, and every split it
  made succeeded and kept the contacts.
* `get_eq_some_iff`, `remove_spec` — lookups and removals are lookups and removals in the flat
  collection of contacts.
-/

set_option autoImplicit false

namespace Overlord.Kad

/-- The first bits of the identifier are the given ones. -/
def NodeId.StartsWith (id : NodeId) (path : List Bool) : Prop :=
  path = (List.range path.length).map id.bit

theorem NodeId.startsWith_nil (id : NodeId) : id.StartsWith [] := rfl

theorem NodeId.startsWith_concat {id : NodeId} {path : List Bool} {b : Bool} :
    id.StartsWith (path ++ [b]) ↔ id.StartsWith path ∧ id.bit path.length = b := by
  rw [StartsWith, StartsWith, List.length_append, List.length_singleton, List.range_succ,
    List.map_append, List.map_singleton]
  constructor
  · intro h
    obtain ⟨hpath, hlast⟩ := List.append_inj' h rfl
    exact ⟨hpath, (List.singleton_inj.mp hlast).symm⟩
  · rintro ⟨hpath, hlast⟩
    rw [← hpath, hlast]

/-- Identifiers that start with the same bits agree in these bits. -/
theorem NodeId.StartsWith.bit_eq {a b : NodeId} {path : List Bool} (ha : a.StartsWith path)
    (hb : b.StartsWith path) {q : Nat} (hq : q < path.length) : a.bit q = b.bit q := by
  have h := ha.symm.trans hb
  exact List.map_inj_left.mp h q (List.mem_range.mpr hq)

namespace Routing

/-- `usize::MAX` of a 64-bit target. -/
def USIZE_MAX : Nat := 2 ^ 64 - 1

/-- A zone of the routing tree. -/
inductive RoutingZone where
  | leaf (depth zoneIndex : Nat) (bin : RoutingBin)
  | branch (depth zoneIndex : Nat) (left right : RoutingZone)
deriving DecidableEq, Repr

/-- One split of a leaf: the bucket it was made on, how `split` returned and the zone it left. -/
structure Split where
  /-- The bucket of the leaf before the split. -/
  bin : RoutingBin
  /-- What `split` returned. -/
  result : Except RoutingError Unit
  /-- The zone after the call. -/
  zone : RoutingZone

/-- What a call of `add` leaves behind. -/
structure AddOutcome where
  /-- The returned value. -/
  result : Except RoutingError Bool
  /-- The zone after the call. -/
  zone : RoutingZone
  /-- The splits made during the call. -/
  splits : List Split

/-- `child_zone_index`.  The cap is far below the bound the source saturates at. -/
def childZoneIndex (parentZoneIndex : Nat) (rightChild : Bool) : Nat :=
  min (parentZoneIndex * 2 + rightChild.toNat) KK

namespace RoutingZone

/-- `new_root`. -/
def newRoot : RoutingZone := .leaf 0 0 .new

/-- `new_leaf`. -/
def newLeaf (depth zoneIndex : Nat) : RoutingZone := .leaf depth zoneIndex .new

/-- `can_split`. -/
def canSplit (depth zoneIndex totalContacts maxTableSize : Nat) :
    Except RoutingSplitDeniedReason Unit :=
  if 127 ≤ depth then .error .depthLimit
  else if maxTableSize ≤ totalContacts then .error .maxTableSize
  else if depth < KBASE ∨ zoneIndex < KK then .ok ()
  else .error .zoneIndexCap

/-- The first loop of `split`: the drained contacts, added to a fresh bucket. -/
def refill : List Contact → RoutingBin → Except RoutingError RoutingBin
  | [], drained => .ok drained
  | c :: cs, drained =>
    match drained.tryAdd c with
    | (.ok _, drained) => refill cs drained
    | (.error e, _) => .error e

/-- The second loop of `split`: each contact, added to the child of its bit. -/
def redistribute (addTo : RoutingZone → Contact → AddOutcome) (depth : Nat) :
    List Contact → RoutingZone → RoutingZone →
      Except RoutingError (RoutingZone × RoutingZone) × List Split
  | [], left, right => (.ok (left, right), [])
  | c :: cs, left, right =>
    if c.id.bit depth then
      let out := addTo right c
      match out.result with
      | .ok _ =>
        let (result, splits) := redistribute addTo depth cs left out.zone
        (result, out.splits ++ splits)
      | .error e => (.error e, out.splits)
    else
      let out := addTo left c
      match out.result with
      | .ok _ =>
        let (result, splits) := redistribute addTo depth cs out.zone right
        (result, out.splits ++ splits)
      | .error e => (.error e, out.splits)

/-- `split` of a leaf, with the function its children are filled by.  The leaf is drained first, so
an error leaves it empty. -/
def split (addTo : RoutingZone → Contact → AddOutcome) (depth zoneIndex : Nat) (bin : RoutingBin) :
    Except RoutingError Unit × RoutingZone × List Split :=
  match refill bin.contacts .new with
  | .error e => (.error e, .leaf depth zoneIndex .new, [])
  | .ok drained =>
    let left := newLeaf (depth + 1) (childZoneIndex zoneIndex false)
    let right := newLeaf (depth + 1) (childZoneIndex zoneIndex true)
    match redistribute addTo depth drained.contacts left right with
    | (.error e, splits) => (.error e, .leaf depth zoneIndex .new, splits)
    | (.ok (left, right), splits) => (.ok (), .branch depth zoneIndex left right, splits)

/-- What `add` does with a full leaf: split it and try again, or give up. -/
def splitAndRetry (addTo : RoutingZone → Contact → Nat → Nat → AddOutcome) (contact : Contact)
    (totalContacts maxTableSize depth zoneIndex : Nat) (bin : RoutingBin) : AddOutcome :=
  match canSplit depth zoneIndex totalContacts maxTableSize with
  | .error reason => ⟨.error (.splitDenied reason), .leaf depth zoneIndex bin, []⟩
  | .ok () =>
    match split (fun zone c => addTo zone c 0 USIZE_MAX) depth zoneIndex bin with
    | (.error e, zone, splits) => ⟨.error e, zone, ⟨bin, .error e, zone⟩ :: splits⟩
    | (.ok (), zone, splits) =>
      let out := addTo zone contact totalContacts maxTableSize
      { out with splits := ⟨bin, .ok (), zone⟩ :: splits ++ out.splits }

/-- The walk of `add` to the leaf of the contact. -/
def addIn (onFull : Nat → Nat → RoutingBin → AddOutcome) (contact : Contact) :
    RoutingZone → AddOutcome
  | .leaf depth zoneIndex bin =>
    match bin.tryAdd contact with
    | (.ok added, bin) => ⟨.ok added, .leaf depth zoneIndex bin, []⟩
    | (.error (.tableFull _), bin) => onFull depth zoneIndex bin
    | (.error e, bin) => ⟨.error e, .leaf depth zoneIndex bin, []⟩
  | .branch depth zoneIndex left right =>
    if contact.id.bit depth then
      let out := addIn onFull contact right
      { out with zone := .branch depth zoneIndex left out.zone }
    else
      let out := addIn onFull contact left
      { out with zone := .branch depth zoneIndex out.zone right }

/-- `add`, with fuel for nested splits.  `ok true` for a new contact, `ok false` for one that was
refreshed. -/
def add : Nat → RoutingZone → Contact → Nat → Nat → AddOutcome
  | 0, zone, contact, _, _ =>
    addIn (fun depth zoneIndex bin =>
      ⟨.error (.splitDenied .depthLimit), .leaf depth zoneIndex bin, []⟩) contact zone
  | fuel + 1, zone, contact, totalContacts, maxTableSize =>
    addIn (splitAndRetry (add fuel) contact totalContacts maxTableSize) contact zone

/-- `get_closest`: the near child first, the far one only while contacts are missing. -/
def getClosest (target : NodeId) (n : Nat) : RoutingZone → List Contact → List Contact
  | .leaf _ _ bin, result => result ++ bin.contacts
  | .branch depth _ left right, result =>
    if target.bit depth then
      let result := right.getClosest target n result
      if result.length < n then left.getClosest target n result else result
    else
      let result := left.getClosest target n result
      if result.length < n then right.getClosest target n result else result

/-- `remove`. -/
def remove (id : NodeId) : RoutingZone → Option Contact × RoutingZone
  | .leaf depth zoneIndex bin =>
    let (removed, bin) := bin.remove id
    (removed, .leaf depth zoneIndex bin)
  | .branch depth zoneIndex left right =>
    if id.bit depth then
      let (removed, right) := right.remove id
      (removed, .branch depth zoneIndex left right)
    else
      let (removed, left) := left.remove id
      (removed, .branch depth zoneIndex left right)

/-- `get`. -/
def get (id : NodeId) : RoutingZone → Option Contact
  | .leaf _ _ bin => bin.find id
  | .branch depth _ left right => if id.bit depth then right.get id else left.get id

/-- `count`. -/
def count : RoutingZone → Nat
  | .leaf _ _ bin => bin.contacts.length
  | .branch _ _ left right => left.count + right.count

/-! ## Valid trees -/

/-- The stored contacts, leaf by leaf. -/
def contacts : RoutingZone → List Contact
  | .leaf _ _ bin => bin.contacts
  | .branch _ _ left right => left.contacts ++ right.contacts

/-- The bucket an identifier belongs to. -/
def leafFor (id : NodeId) : RoutingZone → RoutingBin
  | .leaf _ _ bin => bin
  | .branch depth _ left right => if id.bit depth then right.leafFor id else left.leafFor id

/-- The tree below the node that the bits of `path` lead to. -/
def Valid (path : List Bool) : RoutingZone → Prop
  | .leaf depth _ bin =>
    depth = path.length ∧ depth ≤ 127 ∧ bin.Valid ∧ ∀ c ∈ bin.contacts, c.id.StartsWith path
  | .branch depth _ left right =>
    depth = path.length ∧ left.Valid (path ++ [false]) ∧ right.Valid (path ++ [true])

theorem valid_newRoot : newRoot.Valid [] :=
  ⟨rfl, by decide, RoutingBin.valid_new, fun _ hc => absurd hc List.not_mem_nil⟩

theorem count_eq_length (zone : RoutingZone) : zone.count = zone.contacts.length := by
  induction zone with
  | leaf => rfl
  | branch _ _ left right ihl ihr => rw [count, contacts, List.length_append, ihl, ihr]

theorem Valid.startsWith {path : List Bool} {zone : RoutingZone} (h : zone.Valid path) {c : Contact}
    (hc : c ∈ zone.contacts) : c.id.StartsWith path := by
  induction zone generalizing path with
  | leaf => exact h.2.2.2 c hc
  | branch _ _ left right ihl ihr =>
    rcases List.mem_append.mp hc with hc | hc
    · exact (NodeId.startsWith_concat.mp (ihl h.2.1 hc)).1
    · exact (NodeId.startsWith_concat.mp (ihr h.2.2 hc)).1

/-- The contacts of the left child have a clear bit at the branch. -/
theorem Valid.bit_left {path : List Bool} {depth zoneIndex : Nat} {left right : RoutingZone}
    (h : (branch depth zoneIndex left right).Valid path) {c : Contact} (hc : c ∈ left.contacts) :
    c.id.bit depth = false :=
  h.1 ▸ (NodeId.startsWith_concat.mp (h.2.1.startsWith hc)).2

/-- The contacts of the right child have a set bit at the branch. -/
theorem Valid.bit_right {path : List Bool} {depth zoneIndex : Nat} {left right : RoutingZone}
    (h : (branch depth zoneIndex left right).Valid path) {c : Contact} (hc : c ∈ right.contacts) :
    c.id.bit depth = true :=
  h.1 ▸ (NodeId.startsWith_concat.mp (h.2.2.startsWith hc)).2

/-- **Stored identifiers are distinct.** -/
theorem Valid.nodup {path : List Bool} {zone : RoutingZone} (h : zone.Valid path) :
    (zone.contacts.map Contact.id).Nodup := by
  induction zone generalizing path with
  | leaf => exact h.2.2.1.nodup
  | branch _ _ left right ihl ihr =>
    rw [contacts, List.map_append]
    refine (ihl h.2.1).append (ihr h.2.2) fun id hl hr => ?_
    obtain ⟨c, hc, rfl⟩ := List.mem_map.mp hl
    obtain ⟨d, hd, hdc⟩ := List.mem_map.mp hr
    have hbit := h.bit_right hd
    rw [hdc, h.bit_left hc] at hbit
    exact Bool.false_ne_true hbit

/-- A leaf and where it is. -/
structure Leaf where
  /-- The bits on the way from the root. -/
  path : List Bool
  /-- The depth the leaf carries. -/
  depth : Nat
  /-- Its bucket. -/
  bin : RoutingBin

/-- The leaves below the node reached by `path`. -/
def leaves (path : List Bool) : RoutingZone → List Leaf
  | .leaf depth _ bin => [⟨path, depth, bin⟩]
  | .branch _ _ left right => left.leaves (path ++ [false]) ++ right.leaves (path ++ [true])

/-- The leaves of a valid tree are valid leaves, each for its own path. -/
theorem Valid.leaf_of_mem {path : List Bool} {zone : RoutingZone} (h : zone.Valid path) {l : Leaf}
    (hl : l ∈ zone.leaves path) : l.depth = l.path.length ∧ l.depth ≤ 127 ∧ l.bin.Valid ∧
      ∀ c ∈ l.bin.contacts, c.id.StartsWith l.path := by
  induction zone generalizing path with
  | leaf =>
    rw [leaves, List.mem_singleton] at hl
    subst hl
    exact h
  | branch _ _ left right ihl ihr =>
    rcases List.mem_append.mp hl with hl | hl
    · exact ihl h.2.1 hl
    · exact ihr h.2.2 hl

/-! ## Lookup and removal -/

theorem get_eq_find_leafFor (id : NodeId) (zone : RoutingZone) :
    zone.get id = (zone.leafFor id).find id := by
  induction zone with
  | leaf => rfl
  | branch depth _ left right ihl ihr =>
    rw [get, leafFor]
    split
    · exact ihr
    · exact ihl

/-- **A lookup finds what is stored.** -/
theorem get_eq_some_iff {path : List Bool} {zone : RoutingZone} (h : zone.Valid path)
    {id : NodeId} {c : Contact} : zone.get id = some c ↔ c ∈ zone.contacts ∧ c.id = id := by
  induction zone generalizing path with
  | leaf _ _ bin =>
    constructor
    · intro hfind
      exact ⟨List.mem_of_find?_eq_some hfind, RoutingBin.id_of_find_eq_some hfind⟩
    · rintro ⟨hc, rfl⟩
      cases hfind : bin.find c.id with
      | none => exact absurd rfl (RoutingBin.find_eq_none_iff.mp hfind c hc)
      | some d =>
        have hd : d ∈ bin.contacts := List.mem_of_find?_eq_some hfind
        rw [get, hfind, List.inj_on_of_nodup_map h.2.2.1.nodup hd hc
          (RoutingBin.id_of_find_eq_some hfind)]
  | branch depth _ left right ihl ihr =>
    rw [get, contacts, List.mem_append]
    split
    · next hbit =>
      rw [ihr h.2.2]
      refine and_congr_left fun hid => ⟨.inr, fun hc => hc.resolve_left fun hl => ?_⟩
      rw [← hid, h.bit_left hl] at hbit
      exact Bool.false_ne_true hbit
    · next hbit =>
      rw [ihl h.2.1]
      refine and_congr_left fun hid => ⟨.inl, fun hc => hc.resolve_right fun hr => ?_⟩
      exact hbit (hid ▸ h.bit_right hr)

theorem get_eq_none_iff {path : List Bool} {zone : RoutingZone} (h : zone.Valid path)
    {id : NodeId} : zone.get id = none ↔ ∀ c ∈ zone.contacts, c.id ≠ id := by
  rw [Option.eq_none_iff_forall_not_mem]
  refine forall_congr' fun c => ?_
  rw [Option.mem_def, get_eq_some_iff h, not_and]

theorem remove_fst (id : NodeId) (zone : RoutingZone) : (zone.remove id).1 = zone.get id := by
  induction zone with
  | leaf => rfl
  | branch depth _ left right ihl ihr =>
    rw [get, remove]
    split
    · exact ihr
    · exact ihl

theorem valid_remove {path : List Bool} {zone : RoutingZone} (h : zone.Valid path) (id : NodeId) :
    (zone.remove id).2.Valid path := by
  induction zone generalizing path with
  | leaf _ _ bin =>
    refine ⟨h.1, h.2.1, RoutingBin.valid_others h.2.2.1 id, fun c hc => h.2.2.2 c ?_⟩
    exact List.mem_of_mem_eraseP hc
  | branch depth _ left right ihl ihr =>
    rw [remove]
    split
    · exact ⟨h.1, h.2.1, ihr h.2.2⟩
    · exact ⟨h.1, ihl h.2.1, h.2.2⟩

/-- **A removal takes out the contact it returns**, and nothing when it returns none. -/
theorem remove_spec (id : NodeId) (zone : RoutingZone) :
    zone.contacts.Perm ((zone.get id).toList ++ (zone.remove id).2.contacts) := by
  induction zone with
  | leaf _ _ bin =>
    rw [get, remove, contacts]
    cases hfind : bin.find id with
    | none => exact .of_eq (RoutingBin.others_eq_of_find_eq_none hfind).symm
    | some c => exact RoutingBin.perm_of_find_eq_some hfind
  | branch depth _ left right ihl ihr =>
    rw [get, remove]
    split
    · exact (ihr.append_left _).trans (List.perm_append_comm_assoc _ _ _)
    · exact (ihl.append_right _).trans (.of_eq (List.append_assoc _ _ _))

/-! ## Splitting a leaf -/

theorem refill_eq {pre cs : List Contact} (h : RoutingBin.Valid ⟨pre ++ cs⟩) :
    refill cs ⟨pre⟩ = .ok ⟨pre ++ cs⟩ := by
  induction cs generalizing pre with
  | nil => rw [refill, List.append_nil]
  | cons c cs ih =>
    rw [List.append_cons] at h ⊢
    rw [refill, RoutingBin.tryAdd_of_valid_concat (h.of_sublist (List.sublist_append_left _ _))]
    exact ih h

/-- The function appends a contact to a leaf that it fits in. -/
def Appends (addTo : RoutingZone → Contact → AddOutcome) : Prop :=
  ∀ depth zoneIndex cs c, RoutingBin.Valid ⟨cs ++ [c]⟩ →
    addTo (.leaf depth zoneIndex ⟨cs⟩) c = ⟨.ok true, .leaf depth zoneIndex ⟨cs ++ [c]⟩, []⟩

theorem appends_addIn (onFull : Contact → Nat → Nat → RoutingBin → AddOutcome) :
    Appends fun zone c => addIn (onFull c) c zone := by
  intro depth zoneIndex cs c h
  simp only [addIn, RoutingBin.tryAdd_of_valid_concat h]

theorem appends_add (fuel total max : Nat) : Appends fun zone c => add fuel zone c total max := by
  cases fuel with
  | zero => exact appends_addIn fun _ => _
  | succ fuel => exact appends_addIn fun c => splitAndRetry (add fuel) c total max

/-- The contacts of a list whose bit is set, or clear. -/
def side (depth : Nat) (b : Bool) (cs : List Contact) : List Contact :=
  cs.filter fun c => c.id.bit depth == b

theorem redistribute_eq {addTo : RoutingZone → Contact → AddOutcome} (hadd : Appends addTo)
    {depth d dl dr : Nat} {cs ls rs : List Contact}
    (hl : RoutingBin.Valid ⟨ls ++ side depth false cs⟩)
    (hr : RoutingBin.Valid ⟨rs ++ side depth true cs⟩) :
    redistribute addTo depth cs (.leaf d dl ⟨ls⟩) (.leaf d dr ⟨rs⟩) =
      (.ok (.leaf d dl ⟨ls ++ side depth false cs⟩, .leaf d dr ⟨rs ++ side depth true cs⟩),
        []) := by
  induction cs generalizing ls rs with
  | nil => simp only [redistribute, side, List.filter_nil, List.append_nil]
  | cons c cs ih =>
    cases hbit : c.id.bit depth with
    | false =>
      have hside : side depth false (c :: cs) = c :: side depth false cs :=
        List.filter_cons_of_pos (by simp [hbit])
      have hside' : side depth true (c :: cs) = side depth true cs :=
        List.filter_cons_of_neg (by simp [hbit])
      rw [hside, List.append_cons] at hl ⊢
      rw [hside'] at hr ⊢
      rw [redistribute, hbit, if_neg Bool.false_ne_true,
        hadd _ _ _ _ (hl.of_sublist (List.sublist_append_left _ _))]
      dsimp only
      rw [ih hl hr, List.nil_append]
    | true =>
      have hside : side depth true (c :: cs) = c :: side depth true cs :=
        List.filter_cons_of_pos (by simp [hbit])
      have hside' : side depth false (c :: cs) = side depth false cs :=
        List.filter_cons_of_neg (by simp [hbit])
      rw [hside, List.append_cons] at hr ⊢
      rw [hside'] at hl ⊢
      rw [redistribute, hbit, if_pos rfl,
        hadd _ _ _ _ (hr.of_sublist (List.sublist_append_left _ _))]
      dsimp only
      rw [ih hl hr, List.nil_append]

/-- A leaf split in two. -/
def halves (depth zoneIndex : Nat) (bin : RoutingBin) : RoutingZone :=
  .branch depth zoneIndex
    (.leaf (depth + 1) (childZoneIndex zoneIndex false) ⟨side depth false bin.contacts⟩)
    (.leaf (depth + 1) (childZoneIndex zoneIndex true) ⟨side depth true bin.contacts⟩)

/-- **Splitting a valid leaf succeeds** and hands every contact to the child of its bit. -/
theorem split_eq {addTo : RoutingZone → Contact → AddOutcome} (hadd : Appends addTo)
    {bin : RoutingBin} (h : bin.Valid) (depth zoneIndex : Nat) :
    split addTo depth zoneIndex bin = (.ok (), halves depth zoneIndex bin, []) := by
  have hrefill : refill bin.contacts ⟨[]⟩ = .ok ⟨[] ++ bin.contacts⟩ := refill_eq h
  have hside : ∀ b, RoutingBin.Valid ⟨[] ++ side depth b bin.contacts⟩ := fun b =>
    h.of_sublist List.filter_sublist
  simp only [split, newLeaf, RoutingBin.new, hrefill, List.nil_append,
    redistribute_eq hadd (hside false) (hside true)]
  rfl

theorem contacts_halves (depth zoneIndex : Nat) (bin : RoutingBin) :
    (halves depth zoneIndex bin).contacts.Perm bin.contacts := by
  have hnot : side depth false bin.contacts = bin.contacts.filter fun c => !(c.id.bit depth) :=
    congrFun (congrArg _ (funext fun c => by cases c.id.bit depth <;> rfl)) _
  have hbit : side depth true bin.contacts = bin.contacts.filter fun c => c.id.bit depth :=
    congrFun (congrArg _ (funext fun c => by cases c.id.bit depth <;> rfl)) _
  rw [halves, contacts, contacts, contacts, hnot, hbit]
  exact List.perm_append_comm.trans (List.filter_append_perm _ _)

theorem valid_halves {path : List Bool} {depth zoneIndex : Nat} {bin : RoutingBin}
    (h : (leaf depth zoneIndex bin).Valid path) (hdepth : depth < 127) :
    (halves depth zoneIndex bin).Valid path := by
  have hchild : ∀ b, (leaf (depth + 1) (childZoneIndex zoneIndex b)
      ⟨side depth b bin.contacts⟩).Valid (path ++ [b]) := by
    intro b
    refine ⟨by simp [h.1], hdepth, h.2.2.1.of_sublist List.filter_sublist, fun c hc => ?_⟩
    obtain ⟨hc, hbit⟩ := List.mem_filter.mp hc
    exact NodeId.startsWith_concat.mpr ⟨h.2.2.2 c hc, h.1 ▸ beq_iff_eq.mp hbit⟩
  exact ⟨h.1, hchild false, hchild true⟩

/-! ## Adding a contact -/

theorem lt_of_canSplit {depth zoneIndex total max : Nat}
    (h : canSplit depth zoneIndex total max = .ok ()) : depth < 127 ∧ total < max := by
  by_cases hd : 127 ≤ depth
  · simp [canSplit, hd] at h
  · by_cases hm : max ≤ total
    · simp [canSplit, hd, hm] at h
    · omega

/-- What an add does to a full valid leaf, with `split` executed. -/
theorem splitAndRetry_eq {addTo : RoutingZone → Contact → Nat → Nat → AddOutcome}
    (hadd : ∀ total max, Appends fun zone c => addTo zone c total max) {bin : RoutingBin}
    (h : bin.Valid) (contact : Contact) (total max depth zoneIndex : Nat) :
    splitAndRetry addTo contact total max depth zoneIndex bin =
      match canSplit depth zoneIndex total max with
      | .error reason => ⟨.error (.splitDenied reason), .leaf depth zoneIndex bin, []⟩
      | .ok () =>
        let zone := halves depth zoneIndex bin
        let out := addTo zone contact total max
        { out with splits := ⟨bin, .ok (), zone⟩ :: out.splits } := by
  rw [splitAndRetry, split_eq (hadd 0 USIZE_MAX) h]
  rfl

/-- What an add of the contact does to a collection of contacts, by the value it returns. -/
inductive AddEffect (contact : Contact) (before after : List Contact) :
    Except RoutingError Bool → Prop where
  | inserted (hnew : ∀ c ∈ before, c.id ≠ contact.id) (hafter : after.Perm (contact :: before)) :
      AddEffect contact before after (.ok true)
  | refreshed (old : Contact) (rest : List Contact) (hid : old.id = contact.id)
      (hbefore : before.Perm (old :: rest))
      (hafter : after.Perm (old.refreshedBy contact :: rest)) :
      AddEffect contact before after (.ok false)
  | rejected (e : RoutingError) (hafter : after.Perm before) :
      AddEffect contact before after (.error e)

/-- The effect does not see the order of the collections. -/
theorem AddEffect.of_perm {contact : Contact} {before before' after after' : List Contact}
    {result : Except RoutingError Bool} (h : AddEffect contact before after result)
    (hb : before'.Perm before) (ha : after'.Perm after) :
    AddEffect contact before' after' result := by
  cases h with
  | inserted hnew hafter =>
    exact .inserted (fun c hc => hnew c (hb.mem_iff.mp hc))
      ((ha.trans hafter).trans (hb.symm.cons contact))
  | refreshed old rest hid hbefore hafter =>
    exact .refreshed old rest hid (hb.trans hbefore) (ha.trans hafter)
  | rejected e hafter => exact .rejected e ((ha.trans hafter).trans hb.symm)

/-- Contacts with other identifiers are left alone. -/
theorem AddEffect.frame {contact : Contact} {before after : List Contact}
    {result : Except RoutingError Bool} (h : AddEffect contact before after result)
    {others : List Contact} (hothers : ∀ c ∈ others, c.id ≠ contact.id) :
    AddEffect contact (before ++ others) (after ++ others) result := by
  cases h with
  | inserted hnew hafter =>
    refine .inserted (fun c hc => ?_) (hafter.append_right others)
    rcases List.mem_append.mp hc with hc | hc
    · exact hnew c hc
    · exact hothers c hc
  | refreshed old rest hid hbefore hafter =>
    exact .refreshed old (rest ++ others) hid (hbefore.append_right others)
      (hafter.append_right others)
  | rejected e hafter => exact .rejected e (hafter.append_right others)

/-- The errors that come out of the tree: a crowded bucket, or a full one that may not be split. -/
def FromTree : RoutingError → Prop
  | .subnetLimitExceeded _ .binLocal | .splitDenied _ => True
  | .tableFull _ | .ipLimitExceeded _ | .subnetLimitExceeded _ .global => False

/-- What an add guarantees in a valid tree. -/
structure AddSpec (path : List Bool) (contact : Contact) (zone : RoutingZone)
    (out : AddOutcome) : Prop where
  /-- The tree is valid again. -/
  valid : out.zone.Valid path
  /-- One contact more, one refreshed, or none touched. -/
  effect : AddEffect contact zone.contacts out.zone.contacts out.result
  /-- Every split on the way succeeded and kept the contacts. -/
  splits : ∀ s ∈ out.splits, s.result = .ok () ∧ s.zone.contacts.Perm s.bin.contacts
  /-- A full bucket is never reported as such, and the limits of the table are not checked here. -/
  errors : ∀ e, out.result = .error e → FromTree e

/-- Giving up on a leaf leaves it as it is. -/
theorem addSpec_giveUp {path : List Bool} {contact : Contact} {zone : RoutingZone}
    (h : zone.Valid path) {e : RoutingError} (he : FromTree e) :
    AddSpec path contact zone ⟨.error e, zone, []⟩ where
  valid := h
  effect := .rejected e (List.Perm.refl _)
  splits _ hs := absurd hs List.not_mem_nil
  errors _ heq := Except.error.inj heq ▸ he

/-- An add to the bucket of a leaf. -/
theorem addSpec_leaf {path : List Bool} {contact : Contact} {depth zoneIndex : Nat}
    {bin : RoutingBin} (h : (leaf depth zoneIndex bin).Valid path)
    (hpath : contact.id.StartsWith path)
    (onFull : Nat → Nat → RoutingBin → AddOutcome)
    (hfull : AddSpec path contact (leaf depth zoneIndex bin) (onFull depth zoneIndex bin)) :
    AddSpec path contact (leaf depth zoneIndex bin)
      (addIn onFull contact (leaf depth zoneIndex bin)) := by
  have hvalid := RoutingBin.valid_tryAdd h.2.2.1 contact
  have hcases := RoutingBin.tryAdd_cases bin contact
  rw [addIn]
  generalize bin.tryAdd contact = out at hcases hvalid
  cases hcases with
  | crowded => exact addSpec_giveUp h trivial
  | full => exact hfull
  | refreshed existing hfind =>
    have hid := RoutingBin.id_of_find_eq_some hfind
    refine ⟨⟨h.1, h.2.1, hvalid, fun c hc => ?_⟩, ?_, fun _ hs => absurd hs List.not_mem_nil,
      fun e he => nomatch he⟩
    · rcases List.mem_append.mp hc with hc | hc
      · exact h.2.2.2 c (List.mem_of_mem_eraseP hc)
      · rw [List.mem_singleton.mp hc, Contact.refreshedBy_id, hid]
        exact hpath
    · exact .refreshed existing (bin.others contact.id) hid
        (RoutingBin.perm_of_find_eq_some hfind) List.perm_append_comm
  | appended hfind =>
    refine ⟨⟨h.1, h.2.1, hvalid, fun c hc => ?_⟩, ?_, fun _ hs => absurd hs List.not_mem_nil,
      fun e he => nomatch he⟩
    · rcases List.mem_append.mp hc with hc | hc
      · exact h.2.2.2 c hc
      · rw [List.mem_singleton.mp hc]
        exact hpath
    · exact .inserted (RoutingBin.find_eq_none_iff.mp hfind) List.perm_append_comm

/-- The walk down the tree carries the guarantee of the leaf up to the root. -/
theorem addSpec_addIn {contact : Contact} (onFull : Nat → Nat → RoutingBin → AddOutcome)
    (hfull : ∀ path depth zoneIndex bin, (leaf depth zoneIndex bin).Valid path →
      contact.id.StartsWith path →
      AddSpec path contact (leaf depth zoneIndex bin) (onFull depth zoneIndex bin))
    {path : List Bool} {zone : RoutingZone} (h : zone.Valid path)
    (hpath : contact.id.StartsWith path) :
    AddSpec path contact zone (addIn onFull contact zone) := by
  induction zone generalizing path with
  | leaf depth zoneIndex bin => exact addSpec_leaf h hpath onFull (hfull path _ _ _ h hpath)
  | branch depth zoneIndex left right ihl ihr =>
    cases hbit : contact.id.bit depth with
    | true =>
      have hothers : ∀ c ∈ left.contacts, c.id ≠ contact.id := fun c hc heq =>
        Bool.false_ne_true
          ((h.bit_left hc).symm.trans ((congrArg (NodeId.bit · depth) heq).trans hbit))
      have hspec := ihr h.2.2 (NodeId.startsWith_concat.mpr ⟨hpath, h.1 ▸ hbit⟩)
      rw [addIn, hbit, if_pos rfl]
      exact ⟨⟨h.1, h.2.1, hspec.valid⟩,
        (hspec.effect.frame hothers).of_perm List.perm_append_comm List.perm_append_comm,
        hspec.splits, hspec.errors⟩
    | false =>
      have hothers : ∀ c ∈ right.contacts, c.id ≠ contact.id := fun c hc heq =>
        Bool.false_ne_true (hbit.symm.trans
          ((congrArg (NodeId.bit · depth) heq).symm.trans (h.bit_right hc)))
      have hspec := ihl h.2.1 (NodeId.startsWith_concat.mpr ⟨hpath, h.1 ▸ hbit⟩)
      rw [addIn, hbit, if_neg Bool.false_ne_true]
      exact ⟨⟨h.1, hspec.valid, h.2.2⟩, hspec.effect.frame hothers, hspec.splits,
        hspec.errors⟩

/-- **Adding to a valid tree.**  The induction is on the fuel, that is, on the splits nested in one
another; each split leaves a valid tree with the same contacts, on which the retry runs. -/
theorem add_spec (fuel total max : Nat) {contact : Contact} {path : List Bool} {zone : RoutingZone}
    (h : zone.Valid path) (hpath : contact.id.StartsWith path) :
    AddSpec path contact zone (add fuel zone contact total max) := by
  induction fuel generalizing path zone with
  | zero =>
    refine addSpec_addIn _ (fun path depth zoneIndex bin hleaf _ => ?_) h hpath
    exact addSpec_giveUp (e := .splitDenied .depthLimit) hleaf trivial
  | succ fuel ih =>
    refine addSpec_addIn _ (fun path depth zoneIndex bin hleaf hpath => ?_) h hpath
    rw [splitAndRetry_eq (appends_add fuel) hleaf.2.2.1]
    cases hsplit : canSplit depth zoneIndex total max with
    | error reason => exact addSpec_giveUp hleaf trivial
    | ok =>
      have hperm := contacts_halves depth zoneIndex bin
      have hspec := ih (valid_halves hleaf (lt_of_canSplit hsplit).1) hpath
      refine ⟨hspec.valid, hspec.effect.of_perm hperm.symm (List.Perm.refl _), fun s hs => ?_,
        hspec.errors⟩
      rcases List.mem_cons.mp hs with rfl | hs
      · exact ⟨rfl, hperm⟩
      · exact hspec.splits s hs

/-- Without a split on the way, the bucket of the contact decides alone whether it is inserted. -/
theorem addIn_eq_ok_true_iff {contact : Contact} {onFull : Nat → Nat → RoutingBin → AddOutcome}
    (hfull : ∀ depth zoneIndex bin, (onFull depth zoneIndex bin).result ≠ .ok true)
    (zone : RoutingZone) : (addIn onFull contact zone).result = .ok true ↔
      ((zone.leafFor contact.id).tryAdd contact).1 = .ok true := by
  induction zone with
  | leaf depth zoneIndex bin =>
    have hcases := RoutingBin.tryAdd_cases bin contact
    rw [addIn, leafFor]
    generalize bin.tryAdd contact = out at hcases
    cases hcases with
    | crowded | refreshed | appended => exact Iff.rfl
    | full => exact iff_of_false (hfull _ _ _) (by simp)
  | branch depth zoneIndex left right ihl ihr =>
    rw [addIn, leafFor]
    split
    · exact ihr
    · exact ihl

/-- **At the size ceiling only buckets with room grow.** -/
theorem add_eq_ok_true_iff {total max : Nat} (h : max ≤ total) (fuel : Nat) (zone : RoutingZone)
    (contact : Contact) : (add fuel zone contact total max).result = .ok true ↔
      (zone.leafFor contact.id).find contact.id = none ∧
      RoutingBin.HasRoom contact (zone.leafFor contact.id).contacts ∧
      (zone.leafFor contact.id).contacts.length < K := by
  rw [← RoutingBin.tryAdd_eq_ok_true_iff]
  cases fuel with
  | zero => exact addIn_eq_ok_true_iff (fun _ _ _ => by simp) zone
  | succ fuel =>
    refine addIn_eq_ok_true_iff (fun depth zoneIndex bin => ?_) zone
    cases hsplit : canSplit depth zoneIndex total max with
    | error reason => simp [splitAndRetry, hsplit]
    | ok => exact absurd (lt_of_canSplit hsplit).2 (Nat.not_lt.mpr h)

/-! ## Fuel -/

/-- The walk depends only on what is done with the full leaf it ends at. -/
theorem addIn_congr {contact : Contact} {onFull onFull' : Nat → Nat → RoutingBin → AddOutcome}
    {path : List Bool} {zone : RoutingZone} (h : zone.Valid path)
    (heq : ∀ path' depth zoneIndex bin, path.length ≤ path'.length →
      (leaf depth zoneIndex bin).Valid path' →
      onFull depth zoneIndex bin = onFull' depth zoneIndex bin) :
    addIn onFull contact zone = addIn onFull' contact zone := by
  induction zone generalizing path with
  | leaf depth zoneIndex bin =>
    have hcases := RoutingBin.tryAdd_cases bin contact
    rw [addIn, addIn]
    generalize bin.tryAdd contact = out at hcases
    cases hcases with
    | crowded | refreshed | appended => rfl
    | full => exact heq path _ _ _ (Nat.le_refl _) h
  | branch depth zoneIndex left right ihl ihr =>
    have hle : ∀ b, path.length ≤ (path ++ [b]).length := fun b => by simp
    rw [addIn, addIn, ihl h.2.1 fun path' d z b hlen => heq path' d z b ((hle _).trans hlen),
      ihr h.2.2 fun path' d z b hlen => heq path' d z b ((hle _).trans hlen)]

/-- An add to a branch is an add to the child of the contact's bit. -/
theorem add_branch (fuel : Nat) (depth zoneIndex : Nat) (left right : RoutingZone)
    (contact : Contact) (total max : Nat) :
    add fuel (.branch depth zoneIndex left right) contact total max =
      if contact.id.bit depth then
        let out := add fuel right contact total max
        { out with zone := .branch depth zoneIndex left out.zone }
      else
        let out := add fuel left contact total max
        { out with zone := .branch depth zoneIndex out.zone right } := by
  cases fuel with
  | zero => rw [add, addIn]; rfl
  | succ fuel => rw [add, addIn]; rfl

theorem canSplit_of_le {depth : Nat} (h : 127 ≤ depth) (zoneIndex total max : Nat) :
    canSplit depth zoneIndex total max = .error .depthLimit := by
  rw [canSplit, if_pos h]

/-- **Fuel for the levels that are left is enough.**  Two amounts that both reach depth 127 give
the same outcome. -/
theorem add_eq_add {fuel fuel' : Nat} {path : List Bool} {zone : RoutingZone} (h : zone.Valid path)
    (hfuel : 127 ≤ fuel + path.length) (hfuel' : 127 ≤ fuel' + path.length) (contact : Contact)
    (total max : Nat) : add fuel zone contact total max = add fuel' zone contact total max := by
  -- without fuel, every leaf is at depth 127 and the splitting rule gives the same answer
  have hzero : ∀ {path : List Bool} {zone : RoutingZone} {fuel : Nat}, zone.Valid path →
      127 ≤ path.length →
      add 0 zone contact total max = add (fuel + 1) zone contact total max := by
    intro path zone fuel h hlen
    refine addIn_congr h fun path' depth zoneIndex bin hlen' hleaf => ?_
    rw [splitAndRetry, canSplit_of_le (by rw [hleaf.1]; omega)]
  induction fuel generalizing fuel' path zone with
  | zero =>
    cases fuel' with
    | zero => rfl
    | succ fuel' => exact hzero h (by omega)
  | succ fuel ih =>
    cases fuel' with
    | zero => exact (hzero h (by omega)).symm
    | succ fuel' =>
      refine addIn_congr h fun path' depth zoneIndex bin hlen hleaf => ?_
      rw [splitAndRetry_eq (appends_add fuel) hleaf.2.2.1,
        splitAndRetry_eq (appends_add fuel') hleaf.2.2.1]
      cases hsplit : canSplit depth zoneIndex total max with
      | error reason => rfl
      | ok =>
        -- the retry runs on the two halves, whose leaves are one level deeper
        have hhalves := valid_halves hleaf (lt_of_canSplit hsplit).1
        have hchild : ∀ b {child : RoutingZone}, child.Valid (path' ++ [b]) →
            add fuel child contact total max = add fuel' child contact total max := fun b child h =>
          ih h (by simp; omega) (by simp; omega)
        have hadd : add fuel (halves depth zoneIndex bin) contact total max =
            add fuel' (halves depth zoneIndex bin) contact total max := by
          rw [halves, add_branch, add_branch,
            hchild false hhalves.2.1, hchild true hhalves.2.2]
        dsimp only
        rw [hadd]

end RoutingZone

end Routing

end Overlord.Kad
