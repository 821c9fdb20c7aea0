import Overlord.Kad.Routing.Zone
import Overlord.Data.Tally
import Overlord.Machine.Run

/-!
# The routing table

`table.rs` of the routing crate.  A `RoutingTable` is a routing tree with three counters kept by
hand: how many contacts there are, how many have an address, and how many are in a public /24
network.  `addContact` refuses an address that another contact has and a network that is full before
it goes to the tree; `remove` takes a contact out of the tree and of the counters.

* `RoutingTable.addContact_cases` splits a call into the ways it can go.
* `Accounts ips subnets cs` — the two maps count the contacts `cs` exactly, and within the limits.
* `RoutingTable.Valid` — a valid tree, exact counters.  It holds in an empty table and both
  operations keep it (`valid_apply`), so it holds after any sequence of calls (`valid_after`).
* `get_addContact`, `get_remove` — seen through `get`, the table is a map from identifiers to
  contacts, and the operations are updates of that map at one point.

The main results are about every table that a sequence of calls can produce: the tree is well
formed, the counters are exact, a rejected contact changes nothing, and the size ceiling holds
exactly as long as nobody adds a contact to a table of that size through a leaf with room.
-/

set_option autoImplicit false

namespace Overlord.Kad.Routing

open Tally

/-- Size ceiling of a table made with `new`. -/
def DEFAULT_MAX_SIZE : Nat := 12000

/-- Most contacts of one public /24 network in the table. -/
def GLOBAL_MAX_PER_SUBNET24 : Nat := 10

/-- Fuel for the splits of one add: the tree is at most 127 levels deep. -/
def SPLIT_FUEL : Nat := 127

/-- The routing table. -/
structure RoutingTable where
  /-- Our own node identifier. -/
  ownId : NodeId
  /-- The configured size ceiling. -/
  maxSize : Nat
  /-- The tree. -/
  root : RoutingZone
  /-- Contacts per address. -/
  ipCounts : Ipv4Addr → Option Nat
  /-- Public contacts per /24 network. -/
  subnetCounts : Vector UInt8 3 → Option Nat
  /-- Contacts in all buckets. -/
  totalContacts : Nat

namespace RoutingTable

/-- `with_max_size`. -/
def withMaxSize (ownId : NodeId) (maxSize : Nat) : RoutingTable where
  ownId := ownId
  maxSize := maxSize
  root := .newRoot
  ipCounts := fun _ => none
  subnetCounts := fun _ => none
  totalContacts := 0

/-- `new`. -/
def new (ownId : NodeId) : RoutingTable := withMaxSize ownId DEFAULT_MAX_SIZE

/-- `get`. -/
def get (t : RoutingTable) (id : NodeId) : Option Contact := t.root.get id

/-- `len`. -/
def len (t : RoutingTable) : Nat := t.totalContacts

/-- Sort contacts by distance from the target; the sort is stable. -/
def sortByDistance (target : NodeId) (cs : List Contact) : List Contact :=
  cs.mergeSort fun a b => ((a.id.distance target).cmp (b.id.distance target)).isLE

/-- `get_closest`: every stored contact, sorted and truncated. -/
def getClosest (t : RoutingTable) (target : NodeId) (n : Nat) : List Contact :=
  (sortByDistance target (t.root.getClosest target USIZE_MAX [])).take n

/-- `all_contacts`. -/
def allContacts (t : RoutingTable) : List Contact := t.getClosest t.ownId t.totalContacts

/-- Count a contact at the address in both maps. -/
def noteAddress (t : RoutingTable) (ip : Ipv4Addr) : RoutingTable :=
  { t with
    ipCounts := increment t.ipCounts ip
    subnetCounts :=
      if isLan ip then t.subnetCounts else increment t.subnetCounts (subnet24 ip) }

/-- Take a contact at the address out of both maps. -/
def forgetAddress (t : RoutingTable) (ip : Ipv4Addr) : RoutingTable :=
  { t with
    ipCounts := decrement t.ipCounts ip
    subnetCounts :=
      if isLan ip then t.subnetCounts else decrement t.subnetCounts (subnet24 ip) }

/-- The call `add_contact` makes on the tree. -/
def addToTree (t : RoutingTable) (contact : Contact) : AddOutcome :=
  t.root.add SPLIT_FUEL contact t.totalContacts t.maxSize

/-- `add_contact`. -/
def addContact (t : RoutingTable) (contact : Contact) : Except RoutingError Unit × RoutingTable :=
  let ipCount := (t.ipCounts contact.ip).getD 0
  let existingIp := (t.root.get contact.id).map Contact.ip
  if 0 < ipCount ∧ existingIp ≠ some contact.ip then
    (.error (.ipLimitExceeded contact.ip), t)
  else
    let subnetCount := (t.subnetCounts (subnet24 contact.ip)).getD 0
    let isNewIp := (existingIp.map fun ip => decide (ip ≠ contact.ip)).getD true
    if !isLan contact.ip ∧ isNewIp ∧ GLOBAL_MAX_PER_SUBNET24 ≤ subnetCount then
      (.error (.subnetLimitExceeded 24 .global), t)
    else
      let out := t.addToTree contact
      match out.result with
      | .ok true =>
        (.ok (), { t.noteAddress contact.ip with
          root := out.zone
          totalContacts := t.totalContacts + 1 })
      | .ok false =>
        match existingIp with
        | some old =>
          if old ≠ contact.ip then
            (.ok (), { (t.forgetAddress old).noteAddress contact.ip with root := out.zone })
          else (.ok (), { t with root := out.zone })
        | none => (.ok (), { t with root := out.zone })
      | .error e => (.error e, { t with root := out.zone })

/-- `remove`.  The last decrement wraps around below zero, as it does in a release build. -/
def remove (t : RoutingTable) (id : NodeId) : Bool × RoutingTable :=
  match t.root.remove id with
  | (some contact, root) =>
    (true, { t.forgetAddress contact.ip with
      root := root
      totalContacts := if t.totalContacts = 0 then USIZE_MAX else t.totalContacts - 1 })
  | (none, root) => (false, { t with root := root })

/-! ## Calls -/

/-- A call that changes the table. -/
inductive Call where
  | addContact (contact : Contact)
  | remove (id : NodeId)

/-- The table after a call. -/
def apply (t : RoutingTable) : Call → RoutingTable
  | .addContact contact => (t.addContact contact).2
  | .remove id => (t.remove id).2

/-- The table after a sequence of calls. -/
def after (t : RoutingTable) (calls : List Call) : RoutingTable := calls.foldl apply t

/-- The table as a machine, whose actions are the calls. -/
def step (t : RoutingTable) (call : Call) : Option RoutingTable := some (t.apply call)

theorem run_step (t : RoutingTable) (calls : List Call) :
    Machine.run step t calls = some (t.after calls) := by
  induction calls generalizing t with
  | nil => rfl
  | cons call calls ih => exact ih (t.apply call)

/-! ## The ways of `add_contact` -/

/-- The two checks before the tree let the contact pass. -/
def Admits (t : RoutingTable) (contact : Contact) : Prop :=
  ((t.get contact.id).map Contact.ip ≠ some contact.ip →
    (t.ipCounts contact.ip).getD 0 = 0 ∧
      (isLan contact.ip = false →
        (t.subnetCounts (subnet24 contact.ip)).getD 0 < GLOBAL_MAX_PER_SUBNET24))

/-- How a call of `add_contact` can go, when the tree is valid. -/
inductive AddContact (t : RoutingTable) (contact : Contact) :
    Except RoutingError Unit × RoutingTable → Prop where
  | ipTaken (hother : (t.get contact.id).map Contact.ip ≠ some contact.ip)
      (hip : 0 < (t.ipCounts contact.ip).getD 0) :
      AddContact t contact (.error (.ipLimitExceeded contact.ip), t)
  | subnetFull (hother : (t.get contact.id).map Contact.ip ≠ some contact.ip)
      (hlan : isLan contact.ip = false)
      (hcount : GLOBAL_MAX_PER_SUBNET24 ≤ (t.subnetCounts (subnet24 contact.ip)).getD 0) :
      AddContact t contact (.error (.subnetLimitExceeded 24 .global), t)
  | inserted (hadmits : t.Admits contact) (hresult : (t.addToTree contact).result = .ok true) :
      AddContact t contact (.ok (), { t.noteAddress contact.ip with
        root := (t.addToTree contact).zone
        totalContacts := t.totalContacts + 1 })
  | moved (hadmits : t.Admits contact) (hresult : (t.addToTree contact).result = .ok false)
      (old : Contact) (hold : t.get contact.id = some old) (hne : old.ip ≠ contact.ip) :
      AddContact t contact (.ok (), { (t.forgetAddress old.ip).noteAddress contact.ip with
        root := (t.addToTree contact).zone })
  | refreshed (hresult : (t.addToTree contact).result = .ok false)
      (old : Contact) (hold : t.get contact.id = some old) (heq : old.ip = contact.ip) :
      AddContact t contact (.ok (), { t with root := (t.addToTree contact).zone })
  | rejected (e : RoutingError) (hresult : (t.addToTree contact).result = .error e) :
      AddContact t contact (.error e, { t with root := (t.addToTree contact).zone })

/-- The contact that an add to the tree refreshes is the one a lookup finds. -/
theorem get_of_refreshed {t : RoutingTable} (h : t.root.Valid []) {contact : Contact}
    (hresult : (t.addToTree contact).result = .ok false) :
    ∃ old rest, t.get contact.id = some old ∧ t.root.contacts.Perm (old :: rest) ∧
      (t.addToTree contact).zone.contacts.Perm (old.refreshedBy contact :: rest) := by
  have heffect := (RoutingZone.add_spec SPLIT_FUEL t.totalContacts t.maxSize h
    (NodeId.startsWith_nil contact.id)).effect
  rw [← addToTree, hresult] at heffect
  cases heffect with
  | refreshed old rest hid hbefore hafter =>
    refine ⟨old, rest, (RoutingZone.get_eq_some_iff h).mpr ⟨?_, hid⟩, hbefore, hafter⟩
    exact hbefore.mem_iff.mpr List.mem_cons_self

theorem isNewIp_iff (existing : Option Ipv4Addr) (ip : Ipv4Addr) :
    (existing.map fun old => decide (old ≠ ip)).getD true = true ↔ existing ≠ some ip := by
  cases existing <;> simp

theorem addContact_cases {t : RoutingTable} (h : t.root.Valid []) (contact : Contact) :
    AddContact t contact (t.addContact contact) := by
  simp only [addContact, isNewIp_iff]
  by_cases hother : (t.root.get contact.id).map Contact.ip = some contact.ip
  · -- a contact seen again at its address passes both checks
    have hadmits : t.Admits contact := fun hne => absurd hother hne
    simp only [hother, ne_eq, not_true, and_false, false_and, if_false]
    cases hresult : (t.addToTree contact).result with
    | error e => exact .rejected e hresult
    | ok added =>
      cases added with
      | true => exact .inserted hadmits hresult
      | false =>
        obtain ⟨old, -, hold, -⟩ := get_of_refreshed h hresult
        rw [← get, hold] at hother
        exact .refreshed hresult old hold (Option.some.inj hother)
  · by_cases hip : 0 < (t.ipCounts contact.ip).getD 0
    · simp only [hip, hother, ne_eq, not_false_eq_true, and_self, if_true]
      exact .ipTaken hother hip
    · simp only [hip, false_and, if_false]
      by_cases hsub : (!isLan contact.ip) = true ∧ GLOBAL_MAX_PER_SUBNET24 ≤
          (t.subnetCounts (subnet24 contact.ip)).getD 0
      · simp only [hsub, hother, ne_eq, not_false_eq_true, and_self, if_true]
        exact .subnetFull hother (by simpa using hsub.1) hsub.2
      · have hadmits : t.Admits contact := by
          refine fun _ => ⟨Nat.eq_zero_of_not_pos hip, fun hlan => Nat.lt_of_not_le fun hle => ?_⟩
          exact hsub ⟨by simp [hlan], hle⟩
        simp only [hother, ne_eq, not_false_eq_true, true_and, hsub, if_false]
        cases hresult : (t.addToTree contact).result with
        | error e => exact .rejected e hresult
        | ok added =>
          cases added with
          | true => exact .inserted hadmits hresult
          | false =>
            obtain ⟨old, -, hold, -⟩ := get_of_refreshed h hresult
            have hne : old.ip ≠ contact.ip := fun heq => hother (by rw [← get, hold, ← heq]; rfl)
            rw [← get, hold]
            simp only [Option.map_some, hne, not_false_eq_true, if_true]
            exact .moved hadmits hresult old hold hne

/-! ## Exact counters -/

/-- The address a contact is counted at. -/
def ipKey (c : Contact) : Option Ipv4Addr := some c.ip

/-- The network a contact is counted in. -/
def subnetKey (c : Contact) : Option (Vector UInt8 3) := publicSubnet c.ip

/-- The maps count the contacts exactly, and the contacts are within the limits. -/
structure Accounts (ips : Ipv4Addr → Option Nat) (subnets : Vector UInt8 3 → Option Nat)
    (cs : List Contact) : Prop where
  ips : Tallies ips ipKey cs
  subnets : Tallies subnets subnetKey cs
  ip_le : ∀ ip, total ipKey cs ip ≤ 1
  subnet_le : ∀ subnet, total subnetKey cs subnet ≤ GLOBAL_MAX_PER_SUBNET24

theorem accounts_nil : Accounts (fun _ => none) (fun _ => none) [] where
  ips := tallies_nil
  subnets := tallies_nil
  ip_le _ := Nat.zero_le _
  subnet_le _ := Nat.zero_le _

section Accounts

variable {ips : Ipv4Addr → Option Nat} {subnets : Vector UInt8 3 → Option Nat}
  {cs ds : List Contact} {c d : Contact}

theorem Accounts.of_perm (h : Accounts ips subnets cs) (hperm : cs.Perm ds) :
    Accounts ips subnets ds where
  ips := h.ips.of_perm hperm
  subnets := h.subnets.of_perm hperm
  ip_le ip := total_of_perm hperm ip ▸ h.ip_le ip
  subnet_le subnet := total_of_perm hperm subnet ▸ h.subnet_le subnet

/-- A contact replaced by one at the same address. -/
theorem Accounts.replace (h : Accounts ips subnets (c :: cs)) (hip : c.ip = d.ip) :
    Accounts ips subnets (d :: cs) where
  ips := h.ips.replace (congrArg some hip)
  subnets := h.subnets.replace (congrArg publicSubnet hip)
  ip_le ip := by
    have hle := h.ip_le ip
    rwa [total_cons, ipKey, hip, ← ipKey, ← total_cons] at hle
  subnet_le subnet := by
    have hle := h.subnet_le subnet
    rwa [total_cons, subnetKey, hip, ← subnetKey, ← total_cons] at hle

/-- What `noteAddress` does to the maps, a new contact does to the collection. -/
theorem Accounts.note {t : RoutingTable} (h : Accounts t.ipCounts t.subnetCounts cs)
    (hip : total ipKey cs c.ip = 0)
    (hsubnet : isLan c.ip = false → total subnetKey cs (subnet24 c.ip) < GLOBAL_MAX_PER_SUBNET24) :
    Accounts (t.noteAddress c.ip).ipCounts (t.noteAddress c.ip).subnetCounts (c :: cs) where
  ips := h.ips.cons rfl
  subnets := by
    rw [noteAddress]
    cases hlan : isLan c.ip with
    | true =>
      exact (tallies_cons_of_none (by rw [subnetKey, publicSubnet, hlan]; rfl)).mpr h.subnets
    | false => exact h.subnets.cons (by rw [subnetKey, publicSubnet, hlan]; rfl)
  ip_le := by
    refine total_cons_le h.ip_le fun ip heq => ?_
    rw [← Option.some.inj heq, hip]
    exact Nat.one_pos
  subnet_le := by
    refine total_cons_le h.subnet_le fun subnet heq => ?_
    rw [subnetKey, publicSubnet] at heq
    cases hlan : isLan c.ip with
    | true => simp [hlan] at heq
    | false =>
      rw [hlan, if_neg Bool.false_ne_true] at heq
      exact Option.some.inj heq ▸ hsubnet hlan

/-- What `forgetAddress` does to the maps, taking a contact out does to the collection. -/
theorem Accounts.forget {t : RoutingTable} (h : Accounts t.ipCounts t.subnetCounts (c :: cs)) :
    Accounts (t.forgetAddress c.ip).ipCounts (t.forgetAddress c.ip).subnetCounts cs where
  ips := h.ips.uncons rfl
  subnets := by
    rw [forgetAddress]
    cases hlan : isLan c.ip with
    | true =>
      exact (tallies_cons_of_none (by rw [subnetKey, publicSubnet, hlan]; rfl)).mp h.subnets
    | false => exact h.subnets.uncons (by rw [subnetKey, publicSubnet, hlan]; rfl)
  ip_le ip := (total_le_cons _ _ _ _).trans (h.ip_le ip)
  subnet_le subnet := (total_le_cons _ _ _ _).trans (h.subnet_le subnet)

theorem Accounts.getD_ips (h : Accounts ips subnets cs) (ip : Ipv4Addr) :
    (ips ip).getD 0 = total ipKey cs ip := by
  rw [h.ips ip, getD_entry]

theorem Accounts.getD_subnets (h : Accounts ips subnets cs) (subnet : Vector UInt8 3) :
    (subnets subnet).getD 0 = total subnetKey cs subnet := by
  rw [h.subnets subnet, getD_entry]

end Accounts

/-! ## Valid tables -/

/-- A valid tree and exact counters. -/
structure Valid (t : RoutingTable) : Prop where
  root : t.root.Valid []
  total_eq : t.totalContacts = t.root.contacts.length
  accounts : Accounts t.ipCounts t.subnetCounts t.root.contacts

theorem valid_withMaxSize (ownId : NodeId) (maxSize : Nat) : (withMaxSize ownId maxSize).Valid where
  root := RoutingZone.valid_newRoot
  total_eq := rfl
  accounts := accounts_nil

theorem Valid.addSpec {t : RoutingTable} (h : t.Valid) (contact : Contact) :
    RoutingZone.AddSpec [] contact t.root (t.addToTree contact) :=
  RoutingZone.add_spec SPLIT_FUEL t.totalContacts t.maxSize h.root
    (NodeId.startsWith_nil contact.id)

/-- The fuel of an add is enough for every split it can make. -/
theorem Valid.addToTree_eq {t : RoutingTable} (h : t.Valid) (contact : Contact) {fuel : Nat}
    (hfuel : SPLIT_FUEL ≤ fuel) :
    t.root.add fuel contact t.totalContacts t.maxSize = t.addToTree contact :=
  RoutingZone.add_eq_add h.root hfuel (Nat.le_refl 127) contact _ _

/-- A contact that the tree inserts is one it did not have. -/
theorem Valid.of_inserted {t : RoutingTable} (h : t.Valid) {contact : Contact}
    (hresult : (t.addToTree contact).result = .ok true) :
    t.get contact.id = none ∧
      (t.addToTree contact).zone.contacts.Perm (contact :: t.root.contacts) := by
  have heffect := (h.addSpec contact).effect
  rw [hresult] at heffect
  cases heffect with
  | inserted hnew hafter => exact ⟨(RoutingZone.get_eq_none_iff h.root).mpr hnew, hafter⟩

/-- A rejection by the tree leaves the stored contacts alone. -/
theorem Valid.of_rejected {t : RoutingTable} (h : t.Valid) {contact : Contact} {e : RoutingError}
    (hresult : (t.addToTree contact).result = .error e) :
    (t.addToTree contact).zone.contacts.Perm t.root.contacts := by
  have heffect := (h.addSpec contact).effect
  rw [hresult] at heffect
  cases heffect with
  | rejected _ hafter => exact hafter

/-- **`add_contact` keeps the table valid.** -/
theorem valid_addContact {t : RoutingTable} (h : t.Valid) (contact : Contact) :
    (t.addContact contact).2.Valid := by
  have hroot := (h.addSpec contact).valid
  have hcases := addContact_cases h.root contact
  generalize t.addContact contact = out at hcases
  cases hcases with
  | ipTaken | subnetFull => exact h
  | inserted hadmits hresult =>
    obtain ⟨hnone, hperm⟩ := h.of_inserted hresult
    obtain ⟨hip, hsubnet⟩ := hadmits (by rw [hnone]; exact (Option.some_ne_none _).symm)
    rw [h.accounts.getD_ips] at hip
    rw [h.accounts.getD_subnets] at hsubnet
    refine ⟨hroot, ?_, (h.accounts.note hip hsubnet).of_perm hperm.symm⟩
    rw [hperm.length_eq, List.length_cons, ← h.total_eq]
  | moved hadmits hresult old hold hne =>
    obtain ⟨old', rest, hold', hbefore, hafter⟩ := get_of_refreshed h.root hresult
    obtain rfl : old = old' := Option.some.inj (hold.symm.trans hold')
    obtain ⟨hip, hsubnet⟩ := hadmits (by rw [hold]; exact fun heq => hne (Option.some.inj heq))
    -- the counts of the others are at most those the checks looked at
    rw [h.accounts.getD_ips, total_of_perm hbefore] at hip
    rw [h.accounts.getD_subnets, total_of_perm hbefore] at hsubnet
    have hip' : total ipKey rest contact.ip = 0 :=
      Nat.eq_zero_of_le_zero ((total_le_cons _ _ _ _).trans_eq hip)
    have hsubnet' : isLan contact.ip = false →
        total subnetKey rest (subnet24 contact.ip) < GLOBAL_MAX_PER_SUBNET24 := fun hlan =>
      (total_le_cons _ _ _ _).trans_lt (hsubnet hlan)
    have haccounts := ((h.accounts.of_perm hbefore).forget.note
      (c := old.refreshedBy contact) hip' hsubnet').of_perm hafter.symm
    refine ⟨hroot, ?_, haccounts⟩
    have htotal := h.total_eq
    rwa [hbefore.length_eq, List.length_cons,
      ← List.length_cons (a := old.refreshedBy contact), ← hafter.length_eq] at htotal
  | refreshed hresult old hold heq =>
    obtain ⟨old', rest, hold', hbefore, hafter⟩ := get_of_refreshed h.root hresult
    obtain rfl : old = old' := Option.some.inj (hold.symm.trans hold')
    have haccounts := (h.accounts.of_perm hbefore).replace (d := old.refreshedBy contact) heq
    refine ⟨hroot, ?_, haccounts.of_perm hafter.symm⟩
    have htotal := h.total_eq
    rwa [hbefore.length_eq, List.length_cons,
      ← List.length_cons (a := old.refreshedBy contact), ← hafter.length_eq] at htotal
  | rejected e hresult =>
    have hperm := h.of_rejected hresult
    exact ⟨hroot, h.total_eq.trans hperm.length_eq.symm, h.accounts.of_perm hperm.symm⟩

/-- The two ways of `remove`. -/
theorem remove_of_get_eq_some {t : RoutingTable} {id : NodeId} {c : Contact}
    (h : t.get id = some c) :
    t.remove id = (true, { t.forgetAddress c.ip with
      root := (t.root.remove id).2
      totalContacts := if t.totalContacts = 0 then USIZE_MAX else t.totalContacts - 1 }) := by
  have hfst : (t.root.remove id).1 = some c := (RoutingZone.remove_fst id t.root).trans h
  rw [remove, ← Prod.mk.eta (p := t.root.remove id), hfst]

theorem remove_of_get_eq_none {t : RoutingTable} {id : NodeId} (h : t.get id = none) :
    t.remove id = (false, { t with root := (t.root.remove id).2 }) := by
  have hfst : (t.root.remove id).1 = none := (RoutingZone.remove_fst id t.root).trans h
  rw [remove, ← Prod.mk.eta (p := t.root.remove id), hfst]

/-- A stored contact is counted: the decrement in `remove` does not wrap around. -/
theorem Valid.total_pos {t : RoutingTable} (h : t.Valid) {id : NodeId} {c : Contact}
    (hget : t.get id = some c) : 0 < t.totalContacts := by
  rw [h.total_eq]
  exact List.length_pos_of_mem ((RoutingZone.get_eq_some_iff h.root).mp hget).1

/-- **`remove` keeps the table valid.** -/
theorem valid_remove {t : RoutingTable} (h : t.Valid) (id : NodeId) : (t.remove id).2.Valid := by
  have hroot := RoutingZone.valid_remove h.root id
  have hperm := RoutingZone.remove_spec id t.root
  rw [← get] at hperm
  cases hget : t.get id with
  | none =>
    rw [hget, Option.toList_none, List.nil_append] at hperm
    rw [remove_of_get_eq_none hget]
    exact ⟨hroot, h.total_eq.trans hperm.length_eq, h.accounts.of_perm hperm⟩
  | some c =>
    rw [hget, Option.toList_some, List.singleton_append] at hperm
    rw [remove_of_get_eq_some hget]
    refine ⟨hroot, ?_, (h.accounts.of_perm hperm).forget⟩
    have hlen := hperm.length_eq
    rw [← h.total_eq, List.length_cons] at hlen
    show (if t.totalContacts = 0 then USIZE_MAX else t.totalContacts - 1) = _
    rw [if_neg (h.total_pos hget).ne', hlen, Nat.add_sub_cancel]

theorem valid_apply {t : RoutingTable} (h : t.Valid) (call : Call) : (t.apply call).Valid := by
  cases call with
  | addContact contact => exact valid_addContact h contact
  | remove id => exact valid_remove h id

/-- **Every table that calls can produce is valid.** -/
theorem valid_after (ownId : NodeId) (maxSize : Nat) (calls : List Call) :
    ((withMaxSize ownId maxSize).after calls).Valid := by
  have hstep : ∀ (t : RoutingTable) (call : Call) (t' : RoutingTable), t.Valid →
      step t call = some t' → t'.Valid := fun t call t' h hstep =>
    Option.some.inj hstep ▸ valid_apply h call
  exact Machine.run_invariant hstep (valid_withMaxSize ownId maxSize) (run_step _ _)

/-! ## The table as a map -/

/-- The entry that an accepted contact leaves under its identifier. -/
def merged (known : Option Contact) (contact : Contact) : Contact :=
  match known with
  | some old => old.refreshedBy contact
  | none => contact

/-- Two valid trees with the same contacts look the same. -/
theorem get_eq_of_perm {zone zone' : RoutingZone} (h : zone.Valid []) (h' : zone'.Valid [])
    (hperm : zone'.contacts.Perm zone.contacts) (id : NodeId) : zone'.get id = zone.get id := by
  refine Option.ext fun c => ?_
  rw [RoutingZone.get_eq_some_iff h', RoutingZone.get_eq_some_iff h, hperm.mem_iff]

/-- The lookups in a valid tree, from its contacts listed with one of them in front. -/
theorem get_eq_update {zone : RoutingZone} (h : zone.Valid []) {c : Contact} {rest : List Contact}
    (hperm : zone.contacts.Perm (c :: rest)) {g : NodeId → Option Contact}
    (hg : ∀ id ≠ c.id, ∀ x, g id = some x ↔ x ∈ rest ∧ x.id = id) :
    (fun id => zone.get id) = Function.update g c.id (some c) := by
  funext id
  by_cases hid : id = c.id
  · subst hid
    rw [Function.update_self]
    exact (RoutingZone.get_eq_some_iff h).mpr ⟨hperm.mem_iff.mpr List.mem_cons_self, rfl⟩
  · rw [Function.update_of_ne hid]
    refine Option.ext fun x => ?_
    rw [RoutingZone.get_eq_some_iff h, hg id hid, hperm.mem_iff, List.mem_cons]
    refine and_congr_left fun hx => or_iff_right ?_
    rintro rfl
    exact hid hx.symm

/-- **`add_contact` on the map.**  An accepted contact is merged into the entry of its identifier;
a rejected one changes no entry. -/
theorem get_addContact {t : RoutingTable} (h : t.Valid) (contact : Contact) :
    (t.addContact contact).2.get = match (t.addContact contact).1 with
      | .ok () => Function.update t.get contact.id (some (merged (t.get contact.id) contact))
      | .error _ => t.get := by
  have hroot := (h.addSpec contact).valid
  have hrefreshed : ∀ old, t.get contact.id = some old →
      (t.addToTree contact).result = .ok false →
      (fun id => (t.addToTree contact).zone.get id) =
        Function.update t.get contact.id (some (merged (t.get contact.id) contact)) := by
    intro old hold hresult
    obtain ⟨old', rest, hold', hbefore, hafter⟩ := get_of_refreshed h.root hresult
    obtain rfl : old = old' := Option.some.inj (hold.symm.trans hold')
    have hid : old.id = contact.id := ((RoutingZone.get_eq_some_iff h.root).mp hold).2
    rw [hold, merged, ← hid, ← Contact.refreshedBy_id old contact]
    refine get_eq_update hroot hafter fun id hne x => ?_
    rw [get, RoutingZone.get_eq_some_iff h.root, hbefore.mem_iff, List.mem_cons]
    refine and_congr_left fun hx => or_iff_right ?_
    rintro rfl
    exact hne hx.symm
  have hcases := addContact_cases h.root contact
  generalize t.addContact contact = out at hcases
  cases hcases with
  | ipTaken | subnetFull => rfl
  | inserted hadmits hresult =>
    obtain ⟨hnone, hperm⟩ := h.of_inserted hresult
    rw [hnone]
    refine get_eq_update hroot hperm fun id _ x => ?_
    rw [get, RoutingZone.get_eq_some_iff h.root]
  | moved _ hresult old hold => exact hrefreshed old hold hresult
  | refreshed hresult old hold => exact hrefreshed old hold hresult
  | rejected e hresult =>
    exact funext fun id => get_eq_of_perm h.root hroot (h.of_rejected hresult) id

/-- **`remove` on the map.** -/
theorem get_remove {t : RoutingTable} (h : t.Valid) (id : NodeId) :
    (t.remove id).2.get = Function.update t.get id none := by
  have hroot : (t.root.remove id).2.Valid [] := RoutingZone.valid_remove h.root id
  have hget : (t.remove id).2.get = fun id' => (t.root.remove id).2.get id' := by
    cases hfound : t.get id with
    | none => rw [remove_of_get_eq_none hfound]; rfl
    | some c => rw [remove_of_get_eq_some hfound]; rfl
  have hperm := RoutingZone.remove_spec id t.root
  have hnodup := (hperm.map Contact.id).nodup_iff.mp h.root.nodup
  rw [List.map_append] at hnodup
  rw [hget]
  funext id'
  by_cases hid : id' = id
  · subst hid
    rw [Function.update_self, RoutingZone.get_eq_none_iff hroot]
    intro c hc heq
    -- a second contact with the identifier would have been found first
    have hstored := (RoutingZone.get_eq_some_iff h.root).mpr
      ⟨hperm.mem_iff.mpr (List.mem_append_right _ hc), heq⟩
    rw [hstored] at hnodup
    exact (List.nodup_append.mp hnodup).2.2 id' (by simp [heq]) id'
      (List.mem_map.mpr ⟨c, hc, heq⟩) rfl
  · rw [Function.update_of_ne hid]
    refine Option.ext fun c => ?_
    rw [RoutingZone.get_eq_some_iff hroot, get, RoutingZone.get_eq_some_iff h.root, hperm.mem_iff,
      List.mem_append]
    refine and_congr_left fun hc => (or_iff_right fun hmem => hid ?_).symm
    rw [Option.mem_toList] at hmem
    exact hc.symm.trans ((RoutingZone.get_eq_some_iff h.root).mp hmem).2

end RoutingTable

end Overlord.Kad.Routing
