import Overlord.Kad.Proto.NodeId
import Overlord.Kad.Proto.Constants
import Overlord.Net.Addr

/-!
# Contacts and k-buckets

`contact.rs`, `error.rs` and `bin.rs` of the routing crate.  A `RoutingBin` is a bucket of at most
`K` contacts, oldest first.  `tryAdd` is the only way in: it refuses a third contact of one public
/24 network, refreshes a contact it already has and moves it to the back, refuses a new one when
the bucket is full, and otherwise appends it.

* `RoutingBin.tryAdd_cases` splits a call into these four cases, once for all proofs.
* `RoutingBin.Valid` is what a bucket guarantees: at most `K` contacts, distinct identifiers, and at
  most two public contacts of one /24.  `tryAdd` and `remove` keep it.
* `RoutingBin.tryAdd_of_valid_concat` says that a contact which fits is appended as it is; this is
  what refilling a bucket from a valid one rests on.
-/

set_option autoImplicit false

namespace Overlord.Kad.Routing

/-! ## Contacts -/

/-- Liveness state of a contact. -/
inductive ContactType where
  | active
  | inactive
  | dead
deriving DecidableEq, Repr

/-- An entry of the routing table. -/
structure Contact where
  /-- Node identifier of the peer. -/
  id : NodeId
  /-- Its address. -/
  ip : Ipv4Addr
  /-- Its Kad port. -/
  udpPort : UInt16
  /-- Its eD2k port. -/
  tcpPort : UInt16
  /-- Highest Kad version seen. -/
  kadVersion : UInt8
  /-- Latest anti-spoofing key. -/
  udpKey : KadUdpKey
  /-- Kad port the peer advertised in its hello. -/
  helloSourceUdpPort : Option UInt16
  udpFirewalled : Bool
  tcpFirewalled : Bool
  requestsHelloResAck : Bool
  verified : Bool
  contactType : ContactType
  /-- Time of the last observation. -/
  lastSeen : Nat
  /-- Time of the first insertion. -/
  createdAt : Nat
deriving DecidableEq, Repr

/-- `Contact::new`, with the time it is called at. -/
def Contact.new (id : NodeId) (ip : Ipv4Addr) (udpPort tcpPort : UInt16) (kadVersion : UInt8)
    (now : Nat) : Contact where
  id := id
  ip := ip
  udpPort := udpPort
  tcpPort := tcpPort
  kadVersion := kadVersion
  udpKey := .ZERO
  helloSourceUdpPort := none
  udpFirewalled := false
  tcpFirewalled := false
  requestsHelloResAck := false
  verified := false
  contactType := .inactive
  lastSeen := now
  createdAt := now

/-- RFC 1918 and loopback addresses. -/
def isLan (ip : Ipv4Addr) : Bool :=
  if ip.a = 10 then true
  else if ip.a = 172 ∧ ip.b ≥ 16 ∧ ip.b ≤ 31 then true
  else if ip.a = 192 ∧ ip.b = 168 then true
  else if ip.a = 127 then true
  else false

/-- The /24 network of an address. -/
def subnet24 (ip : Ipv4Addr) : Vector UInt8 3 :=
  #v[ip.a, ip.b, ip.c]

/-- The public /24 network of an address; a LAN address has none. -/
def publicSubnet (ip : Ipv4Addr) : Option (Vector UInt8 3) :=
  if isLan ip then none else some (subnet24 ip)

/-- Whether a contact is a public one of the /24 network. -/
def Contact.inSubnet (c : Contact) (subnet : Vector UInt8 3) : Bool :=
  !isLan c.ip && subnet24 c.ip == subnet

theorem Contact.inSubnet_iff {c : Contact} {subnet : Vector UInt8 3} :
    c.inSubnet subnet = true ↔ isLan c.ip = false ∧ subnet24 c.ip = subnet := by
  rw [inSubnet, Bool.and_eq_true, Bool.not_eq_true', beq_iff_eq]

theorem Contact.inSubnet_eq {c : Contact} {subnet : Vector UInt8 3} :
    c.inSubnet subnet = decide (publicSubnet c.ip = some subnet) := by
  rw [inSubnet, publicSubnet]
  cases isLan c.ip <;> simp [Bool.beq_eq_decide_eq]

/-- What `try_add` leaves of a known contact when it is seen again. -/
def Contact.refreshedBy (existing contact : Contact) : Contact :=
  { existing with
    ip := contact.ip
    udpPort := contact.udpPort
    tcpPort := contact.tcpPort
    kadVersion := max existing.kadVersion contact.kadVersion
    udpKey := if contact.udpKey ≠ .ZERO then contact.udpKey else existing.udpKey
    lastSeen := contact.lastSeen }

@[simp] theorem Contact.refreshedBy_id (existing contact : Contact) :
    (existing.refreshedBy contact).id = existing.id := rfl

/-! ## Errors -/

/-- Which of the two /24 limits rejected a contact. -/
inductive RoutingSubnetLimitScope where
  | global
  | binLocal
deriving DecidableEq, Repr

/-- Why a full leaf was not split. -/
inductive RoutingSplitDeniedReason where
  | depthLimit
  | maxTableSize
  | zoneIndexCap
deriving DecidableEq, Repr

/-- Why a contact was rejected. -/
inductive RoutingError where
  | tableFull (max : Nat)
  | ipLimitExceeded (ip : Ipv4Addr)
  | subnetLimitExceeded (bits : UInt8) (scope : RoutingSubnetLimitScope)
  | splitDenied (reason : RoutingSplitDeniedReason)
deriving DecidableEq, Repr

/-! ## Buckets -/

/-- Most contacts of one public /24 network in a bucket. -/
def MAX_PER_BIN_SUBNET24 : Nat := 2

/-- A k-bucket, oldest contact first. -/
structure RoutingBin where
  /-- The contacts. -/
  contacts : List Contact
deriving DecidableEq, Repr

namespace RoutingBin

/-- `RoutingBin::new`. -/
def new : RoutingBin := ⟨[]⟩

/-- The contact with an identifier, `iter().find(..)`. -/
def find (bin : RoutingBin) (id : NodeId) : Option Contact := bin.contacts.find? (·.id == id)

/-- The contacts at every position but that of the first contact with the identifier. -/
def others (bin : RoutingBin) (id : NodeId) : List Contact := bin.contacts.eraseP (·.id == id)

/-- `try_add`: `ok true` for a new contact, `ok false` for one that was known.  The source looks
the contact's position up once; counting the other positions, and removing that position to push
the refreshed contact to the back, are both about `others`. -/
def tryAdd (bin : RoutingBin) (contact : Contact) : Except RoutingError Bool × RoutingBin :=
  let others := bin.others contact.id
  if !isLan contact.ip ∧
      MAX_PER_BIN_SUBNET24 ≤ others.countP (·.inSubnet (subnet24 contact.ip)) then
    (.error (.subnetLimitExceeded 24 .binLocal), bin)
  else
    match bin.find contact.id with
    | some existing => (.ok false, ⟨others ++ [existing.refreshedBy contact]⟩)
    | none =>
      if K ≤ bin.contacts.length then (.error (.tableFull K), bin)
      else (.ok true, ⟨bin.contacts ++ [contact]⟩)

/-- `remove`: the contact with the identifier and the bucket without it. -/
def remove (bin : RoutingBin) (id : NodeId) : Option Contact × RoutingBin :=
  (bin.find id, ⟨bin.others id⟩)

/-! ### The cases of `try_add` -/

/-- The /24 limit of the bucket lets the contact join the given ones. -/
def HasRoom (contact : Contact) (others : List Contact) : Prop :=
  isLan contact.ip = false →
    others.countP (·.inSubnet (subnet24 contact.ip)) < MAX_PER_BIN_SUBNET24

instance (contact : Contact) (others : List Contact) : Decidable (HasRoom contact others) :=
  inferInstanceAs (Decidable (_ → _))

/-- The four ways a call of `try_add` can go. -/
inductive TryAdd (bin : RoutingBin) (contact : Contact) :
    Except RoutingError Bool × RoutingBin → Prop where
  | crowded (hroom : ¬ HasRoom contact (bin.others contact.id)) :
      TryAdd bin contact (.error (.subnetLimitExceeded 24 .binLocal), bin)
  | refreshed (existing : Contact) (hfind : bin.find contact.id = some existing)
      (hroom : HasRoom contact (bin.others contact.id)) :
      TryAdd bin contact (.ok false, ⟨bin.others contact.id ++ [existing.refreshedBy contact]⟩)
  | full (hfind : bin.find contact.id = none) (hroom : HasRoom contact bin.contacts)
      (hfull : K ≤ bin.contacts.length) :
      TryAdd bin contact (.error (.tableFull K), bin)
  | appended (hfind : bin.find contact.id = none) (hroom : HasRoom contact bin.contacts)
      (hlen : bin.contacts.length < K) :
      TryAdd bin contact (.ok true, ⟨bin.contacts ++ [contact]⟩)

theorem find_eq_none_iff {bin : RoutingBin} {id : NodeId} :
    bin.find id = none ↔ ∀ c ∈ bin.contacts, c.id ≠ id := by
  simp [find, List.find?_eq_none]

theorem others_eq_of_find_eq_none {bin : RoutingBin} {id : NodeId} (h : bin.find id = none) :
    bin.others id = bin.contacts :=
  List.eraseP_of_forall_not (List.find?_eq_none.mp h)

theorem tryAdd_cases (bin : RoutingBin) (contact : Contact) :
    TryAdd bin contact (bin.tryAdd contact) := by
  have hiff : (!isLan contact.ip) = true ∧ MAX_PER_BIN_SUBNET24 ≤
      (bin.others contact.id).countP (·.inSubnet (subnet24 contact.ip)) ↔
      ¬ HasRoom contact (bin.others contact.id) := by
    rw [HasRoom, Bool.not_eq_true', Classical.not_imp, Nat.not_lt]
  simp only [tryAdd, hiff]
  by_cases hroom : HasRoom contact (bin.others contact.id)
  · rw [if_neg (not_not_intro hroom)]
    cases hfind : bin.find contact.id with
    | some existing => exact .refreshed existing hfind hroom
    | none =>
      rw [others_eq_of_find_eq_none hfind] at hroom
      by_cases hlen : K ≤ bin.contacts.length
      · simp only [hlen, if_true]
        exact .full hfind hroom hlen
      · simp only [hlen, if_false]
        exact .appended hfind hroom (Nat.lt_of_not_le hlen)
  · rw [if_pos hroom]
    exact .crowded hroom

/-- A new contact is stored exactly when it is new, its network has room and the bucket has. -/
theorem tryAdd_eq_ok_true_iff (bin : RoutingBin) (contact : Contact) :
    (bin.tryAdd contact).1 = .ok true ↔ bin.find contact.id = none ∧
      HasRoom contact bin.contacts ∧ bin.contacts.length < K := by
  have h := tryAdd_cases bin contact
  generalize bin.tryAdd contact = out at h
  cases h with
  | crowded hroom =>
    refine iff_of_false (by simp) fun ⟨hfind, hroom', _⟩ => hroom ?_
    rwa [others_eq_of_find_eq_none hfind]
  | refreshed existing hfind hroom => simp [hfind]
  | full hfind hroom hfull => simp [Nat.not_lt.mpr hfull]
  | appended hfind hroom hlen => simp [hfind, hroom, hlen]

/-! ### What a bucket guarantees -/

/-- A bucket as the routing tree keeps it. -/
structure Valid (bin : RoutingBin) : Prop where
  /-- At most `K` contacts. -/
  length_le : bin.contacts.length ≤ K
  /-- Distinct identifiers. -/
  nodup : (bin.contacts.map Contact.id).Nodup
  /-- At most two public contacts of a /24 network. -/
  subnet_le : ∀ subnet, bin.contacts.countP (·.inSubnet subnet) ≤ MAX_PER_BIN_SUBNET24

theorem valid_new : new.Valid where
  length_le := Nat.zero_le K
  nodup := List.nodup_nil
  subnet_le _ := Nat.zero_le _

theorem Valid.of_sublist {bin : RoutingBin} (h : bin.Valid) {cs : List Contact}
    (hcs : cs.Sublist bin.contacts) : Valid ⟨cs⟩ where
  length_le := hcs.length_le.trans h.length_le
  nodup := h.nodup.sublist (hcs.map _)
  subnet_le subnet := (hcs.countP_le).trans (h.subnet_le subnet)

/-- The bucket is the contact found and the others. -/
theorem perm_of_find_eq_some {bin : RoutingBin} {id : NodeId} {existing : Contact}
    (h : bin.find id = some existing) : bin.contacts.Perm (existing :: bin.others id) := by
  obtain ⟨hid, front, back, heq, hfront⟩ := List.find?_eq_some_iff_append.mp h
  have hothers : bin.others id = front ++ back := by
    rw [others, heq, List.eraseP_append_right _ (by simpa using hfront)]
    exact congrArg _ (List.eraseP_cons_of_pos (p := fun c : Contact => c.id == id) hid)
  rw [heq, hothers]
  exact List.perm_middle

theorem id_of_find_eq_some {bin : RoutingBin} {id : NodeId} {existing : Contact}
    (h : bin.find id = some existing) : existing.id = id := by
  simpa using List.find?_some h

/-- Adding a contact to a valid bucket, when there is room for it. -/
theorem Valid.cons {cs : List Contact} {c : Contact} (h : Valid ⟨cs⟩) (hlen : cs.length < K)
    (hid : ∀ x ∈ cs, x.id ≠ c.id) (hroom : HasRoom c cs) : Valid ⟨c :: cs⟩ where
  length_le := hlen
  nodup := by
    refine List.nodup_cons.mpr ⟨?_, h.nodup⟩
    rintro hmem
    obtain ⟨x, hx, hxid⟩ := List.mem_map.mp hmem
    exact hid x hx hxid
  subnet_le subnet := by
    rw [List.countP_cons]
    split
    · next hin =>
      obtain ⟨hlan, rfl⟩ := Contact.inSubnet_iff.mp hin
      exact hroom hlan
    · exact h.subnet_le subnet

theorem Valid.of_perm {cs ds : List Contact} (h : Valid ⟨cs⟩) (hperm : cs.Perm ds) :
    Valid ⟨ds⟩ where
  length_le := hperm.length_eq ▸ h.length_le
  nodup := (hperm.map _).nodup_iff.mp h.nodup
  subnet_le subnet := hperm.countP_eq _ ▸ h.subnet_le subnet

theorem valid_others {bin : RoutingBin} (h : bin.Valid) (id : NodeId) : Valid ⟨bin.others id⟩ :=
  h.of_sublist List.eraseP_sublist

/-- The other contacts of a valid bucket have other identifiers. -/
theorem id_ne_of_mem_others {bin : RoutingBin} (h : bin.Valid) {id : NodeId} {c : Contact}
    (hc : c ∈ bin.others id) : c.id ≠ id := by
  cases hfind : bin.find id with
  | none =>
    rw [others_eq_of_find_eq_none hfind] at hc
    exact find_eq_none_iff.mp hfind c hc
  | some existing =>
    have hnodup := ((perm_of_find_eq_some hfind).map Contact.id).nodup_iff.mp h.nodup
    have hne := (List.nodup_cons.mp hnodup).1
    rw [id_of_find_eq_some hfind] at hne
    exact fun heq => hne (List.mem_map.mpr ⟨c, hc, heq⟩)

/-- **`try_add` keeps the bucket valid.** -/
theorem valid_tryAdd {bin : RoutingBin} (h : bin.Valid) (contact : Contact) :
    (bin.tryAdd contact).2.Valid := by
  have hcases := tryAdd_cases bin contact
  generalize bin.tryAdd contact = out at hcases
  cases hcases with
  | crowded | full => exact h
  | refreshed existing hfind hroom =>
    have hlen := (perm_of_find_eq_some hfind).length_eq
    rw [List.length_cons] at hlen
    have hK := h.length_le
    have hperm : (existing.refreshedBy contact :: bin.others contact.id).Perm
        (bin.others contact.id ++ [existing.refreshedBy contact]) :=
      (List.perm_append_singleton _ _).symm
    refine ((valid_others h contact.id).cons (by omega) (fun x hx => ?_) ?_).of_perm hperm
    · rw [Contact.refreshedBy_id, id_of_find_eq_some hfind]
      exact id_ne_of_mem_others h hx
    · exact hroom
  | appended hfind hroom hlen =>
    exact (h.cons hlen (find_eq_none_iff.mp hfind) hroom).of_perm
      (List.perm_append_singleton _ _).symm

/-- **A contact that fits is appended as it is.** -/
theorem tryAdd_of_valid_concat {cs : List Contact} {c : Contact} (h : Valid ⟨cs ++ [c]⟩) :
    tryAdd ⟨cs⟩ c = (.ok true, ⟨cs ++ [c]⟩) := by
  have h' : Valid ⟨c :: cs⟩ := h.of_perm List.perm_append_comm
  have hok : (tryAdd ⟨cs⟩ c).1 = .ok true := by
    refine (tryAdd_eq_ok_true_iff _ _).mpr ⟨find_eq_none_iff.mpr fun x hx heq => ?_, ?_, ?_⟩
    · exact (List.nodup_cons.mp h'.nodup).1 (List.mem_map.mpr ⟨x, hx, heq⟩)
    · intro hlan
      have hle := h'.subnet_le (subnet24 c.ip)
      rwa [List.countP_cons, if_pos (Contact.inSubnet_iff.mpr ⟨hlan, rfl⟩)] at hle
    · exact h'.length_le
  have hcases := tryAdd_cases ⟨cs⟩ c
  generalize tryAdd ⟨cs⟩ c = out at hcases hok
  cases hcases with
  | appended => rfl
  | crowded | refreshed | full => simp at hok

end RoutingBin

end Overlord.Kad.Routing
