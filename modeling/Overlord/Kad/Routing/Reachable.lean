import Overlord.Kad.Routing.Table

/-!
# What holds in every reachable routing table

A table is reachable when some sequence of `add_contact` and `remove` calls, with arbitrary contacts
and rejected calls included, leads to it from an empty table.  `RoutingTable.valid_after` is the
invariant; this file reads it back in the terms of the tree and of the counters, and adds what needs
the history of the calls or the size ceiling.

* `wellFormed_after` — identifiers are distinct, a contact sits in the leaf of its leading bits,
  leaves respect their limits, and a lookup finds exactly what was added and not removed since.
* `accounting_after` — the three counters are exact and within their limits, so removals never
  underflow and every refusal of an address is on account of a contact that is stored.
* `rejected_unchanged` — an error leaves the contacts and counters as they were, and no split made
  on the way failed or lost a contact.
* `always_len_le_iff` — the size ceiling is *not* an invariant, as `len_gt_maxSize` shows: it is
  consulted only when a full leaf asks to split.  It holds along a run exactly when no call adds a
  new contact to a table that has reached it through a leaf with room.
-/

set_option autoImplicit false

namespace Overlord.Kad.Routing

namespace RoutingTable

open Tally

/-! ## The tree and its history -/

/-- Among the calls made from `start`, one added a contact with the identifier, and no later one
removed it. -/
def Added (start : RoutingTable) (calls : List Call) (id : NodeId) : Prop :=
  ∃ earlier contact later, calls = earlier ++ .addContact contact :: later ∧ contact.id = id ∧
    ((start.after earlier).addContact contact).1 = .ok () ∧ .remove id ∉ later

theorem after_concat (t : RoutingTable) (calls : List Call) (call : Call) :
    t.after (calls ++ [call]) = (t.after calls).apply call := by
  rw [after, List.foldl_concat, after]

/-- The last call of a history either is the one that added the contact or comes after it. -/
theorem added_concat {start : RoutingTable} {calls : List Call} {call : Call} {id : NodeId} :
    Added start (calls ++ [call]) id ↔
      (∃ contact, call = .addContact contact ∧ contact.id = id ∧
        ((start.after calls).addContact contact).1 = .ok ()) ∨
      (Added start calls id ∧ call ≠ .remove id) := by
  constructor
  · rintro ⟨earlier, contact, later, heq, hid, hok, hlater⟩
    rcases List.eq_nil_or_concat later with rfl | ⟨later, last, rfl⟩
    · obtain ⟨rfl, hcall⟩ := List.append_inj' heq rfl
      exact .inl ⟨contact, List.singleton_inj.mp hcall, hid, hok⟩
    · rw [List.concat_eq_append, ← List.cons_append, ← List.append_assoc] at heq
      obtain ⟨rfl, hcall⟩ := List.append_inj' heq rfl
      obtain rfl := List.singleton_inj.mp hcall
      rw [List.concat_eq_append, List.mem_append, List.mem_singleton, not_or] at hlater
      exact .inr ⟨⟨earlier, contact, later, rfl, hid, hok, hlater.1⟩, fun h => hlater.2 h.symm⟩
  · rintro (⟨contact, rfl, hid, hok⟩ | ⟨⟨earlier, contact, later, rfl, hid, hok, hlater⟩, hcall⟩)
    · exact ⟨calls, contact, [], rfl, hid, hok, List.not_mem_nil⟩
    · refine ⟨earlier, contact, later ++ [call], by simp, hid, hok, ?_⟩
      rw [List.mem_append, List.mem_singleton, not_or]
      exact ⟨hlater, fun h => hcall h.symm⟩

/-- A lookup after an add finds what it found before, and the contact if it was accepted. -/
theorem isSome_get_addContact {t : RoutingTable} (h : t.Valid) (contact : Contact) (id : NodeId) :
    ((t.addContact contact).2.get id).isSome ↔
      (contact.id = id ∧ (t.addContact contact).1 = .ok ()) ∨ (t.get id).isSome := by
  rw [get_addContact h contact]
  cases (t.addContact contact).1 with
  | error e => simp
  | ok =>
    by_cases hid : contact.id = id
    · subst hid
      simp
    · simp [hid, Function.update_of_ne (Ne.symm hid)]

/-- A lookup finds exactly what was added and not removed since.  The induction adds calls at the
end, where the history and the table change together. -/
theorem isSome_get_after (ownId : NodeId) (maxSize : Nat) (calls : List Call) (id : NodeId) :
    (((withMaxSize ownId maxSize).after calls).get id).isSome ↔
      Added (withMaxSize ownId maxSize) calls id := by
  induction calls using List.reverseRecOn with
  | nil =>
    refine iff_of_false (by simp [after, withMaxSize, get, RoutingZone.newRoot, RoutingZone.get,
      RoutingBin.find, RoutingBin.new]) ?_
    rintro ⟨earlier, contact, later, heq, -⟩
    simp at heq
  | append_singleton calls call ih =>
    have hvalid := valid_after ownId maxSize calls
    rw [after_concat, added_concat]
    cases call with
    | addContact contact =>
      rw [apply, isSome_get_addContact hvalid, ih]
      simp
    | remove id' =>
      rw [apply, get_remove hvalid]
      by_cases hid : id = id'
      · subst hid
        simp
      · simp [Function.update_of_ne hid, ih, Ne.symm hid]

/-- **The routing tree is well formed after any sequence of calls.** -/
theorem wellFormed_after (ownId : NodeId) (maxSize : Nat) (calls : List Call) :
    let t := (withMaxSize ownId maxSize).after calls
    (t.root.contacts.map Contact.id).Nodup ∧
    (∀ leaf ∈ t.root.leaves [],
      (∀ c ∈ leaf.bin.contacts, leaf.path = (List.range leaf.depth).map c.id.bit) ∧
      leaf.bin.contacts.length ≤ K ∧
      (∀ subnet, leaf.bin.contacts.countP (·.inSubnet subnet) ≤ 2) ∧
      leaf.depth = leaf.path.length ∧ leaf.depth ≤ 127) ∧
    (∀ id, (t.get id).isSome ↔ Added (withMaxSize ownId maxSize) calls id) ∧
    (∀ id c, t.get id = some c → c ∈ t.root.contacts ∧ c.id = id) := by
  have hvalid := valid_after ownId maxSize calls
  refine ⟨hvalid.root.nodup, fun leaf hleaf => ?_, isSome_get_after ownId maxSize calls,
    fun id c => (RoutingZone.get_eq_some_iff hvalid.root).mp⟩
  obtain ⟨hdepth, hle, hbin, hpath⟩ := hvalid.root.leaf_of_mem hleaf
  refine ⟨fun c hc => ?_, hbin.length_le, hbin.subnet_le, hdepth, hle⟩
  rw [hdepth]
  exact hpath c hc

/-! ## The counters -/

theorem total_subnetKey (cs : List Contact) (subnet : Vector UInt8 3) :
    total subnetKey cs subnet = cs.countP (·.inSubnet subnet) := by
  refine congrFun (congrArg _ (funext fun c => ?_)) cs
  rw [Contact.inSubnet_eq, subnetKey]

theorem total_ipKey (cs : List Contact) (ip : Ipv4Addr) :
    total ipKey cs ip = cs.countP (·.ip == ip) := by
  refine congrFun (congrArg _ (funext fun c => ?_)) cs
  simp only [ipKey, Option.some_inj, Bool.beq_eq_decide_eq]

/-- An address is refused only on account of another contact that has it. -/
theorem exists_of_ipLimitExceeded {t : RoutingTable} (h : t.Valid) {contact : Contact}
    (herror : (t.addContact contact).1 = .error (.ipLimitExceeded contact.ip)) :
    ∃ c ∈ t.root.contacts, c.ip = contact.ip ∧ c.id ≠ contact.id := by
  have hcases := addContact_cases h.root contact
  generalize t.addContact contact = out at hcases herror
  cases hcases with
  | ipTaken hother hip =>
    rw [h.accounts.getD_ips, total_ipKey, List.countP_pos_iff] at hip
    obtain ⟨c, hc, hcip⟩ := hip
    have hcip : c.ip = contact.ip := beq_iff_eq.mp hcip
    refine ⟨c, hc, hcip, fun hid => hother ?_⟩
    rw [get, (RoutingZone.get_eq_some_iff h.root).mpr ⟨hc, hid⟩, Option.map_some, hcip]
  | rejected e hresult =>
    obtain rfl := Except.error.inj herror
    exact ((h.addSpec contact).errors _ hresult).elim
  | subnetFull | inserted | moved | refreshed => simp at herror

/-- A network is refused only when it is full. -/
theorem countP_of_subnetLimitExceeded {t : RoutingTable} (h : t.Valid) {contact : Contact}
    (herror : (t.addContact contact).1 = .error (.subnetLimitExceeded 24 .global)) :
    t.root.contacts.countP (·.inSubnet (subnet24 contact.ip)) = GLOBAL_MAX_PER_SUBNET24 := by
  have hcases := addContact_cases h.root contact
  generalize t.addContact contact = out at hcases herror
  cases hcases with
  | subnetFull hother hlan hcount =>
    rw [h.accounts.getD_subnets, total_subnetKey] at hcount
    have hle := h.accounts.subnet_le (subnet24 contact.ip)
    rw [total_subnetKey] at hle
    exact Nat.le_antisymm hle hcount
  | rejected e hresult =>
    obtain rfl := Except.error.inj herror
    exact ((h.addSpec contact).errors _ hresult).elim
  | ipTaken | inserted | moved | refreshed => simp at herror

/-- **The counters are exact after any sequence of calls.** -/
theorem accounting_after (ownId : NodeId) (maxSize : Nat) (calls : List Call) :
    let t := (withMaxSize ownId maxSize).after calls
    t.totalContacts = t.root.count ∧
    (∀ ip, t.ipCounts ip = entry (t.root.contacts.countP (·.ip == ip)) ∧
      t.root.contacts.countP (·.ip == ip) ≤ 1) ∧
    (∀ subnet, t.subnetCounts subnet = entry (t.root.contacts.countP (·.inSubnet subnet)) ∧
      t.root.contacts.countP (·.inSubnet subnet) ≤ 10) ∧
    (∀ id, (t.remove id).1 = true → 0 < t.totalContacts) ∧
    (∀ contact, (t.addContact contact).1 = .error (.ipLimitExceeded contact.ip) →
      ∃ c ∈ t.root.contacts, c.ip = contact.ip ∧ c.id ≠ contact.id) ∧
    (∀ contact, (t.addContact contact).1 = .error (.subnetLimitExceeded 24 .global) →
      t.root.contacts.countP (·.inSubnet (subnet24 contact.ip)) = 10) := by
  have hvalid := valid_after ownId maxSize calls
  generalize (withMaxSize ownId maxSize).after calls = t at hvalid
  have haccounts := hvalid.accounts
  refine ⟨hvalid.total_eq.trans (RoutingZone.count_eq_length _).symm, fun ip => ?_,
    fun subnet => ?_, fun id hremoved => ?_, fun _ => exists_of_ipLimitExceeded hvalid,
    fun _ => countP_of_subnetLimitExceeded hvalid⟩
  · rw [← total_ipKey]
    exact ⟨haccounts.ips ip, haccounts.ip_le ip⟩
  · rw [← total_subnetKey]
    exact ⟨haccounts.subnets subnet, haccounts.subnet_le subnet⟩
  · cases hget : t.get id with
    | none => simp [remove_of_get_eq_none hget] at hremoved
    | some c => exact hvalid.total_pos hget

/-! ## Rejected contacts -/

/-- **A rejected contact changes nothing**, whatever was split on the way, and no split fails. -/
theorem rejected_unchanged (ownId : NodeId) (maxSize : Nat) (calls : List Call)
    (contact : Contact) :
    let t := (withMaxSize ownId maxSize).after calls
    (∀ e, (t.addContact contact).1 = .error e →
      (t.addContact contact).2.root.contacts.Perm t.root.contacts ∧
      (t.addContact contact).2.totalContacts = t.totalContacts ∧
      (t.addContact contact).2.ipCounts = t.ipCounts ∧
      (t.addContact contact).2.subnetCounts = t.subnetCounts) ∧
    ∀ s ∈ (t.addToTree contact).splits,
      s.result = .ok () ∧ s.zone.contacts.Perm s.bin.contacts := by
  have hvalid := valid_after ownId maxSize calls
  generalize (withMaxSize ownId maxSize).after calls = t at hvalid
  refine ⟨fun e herror => ?_, (hvalid.addSpec contact).splits⟩
  have hcases := addContact_cases hvalid.root contact
  generalize t.addContact contact = out at hcases herror
  cases hcases with
  | ipTaken | subnetFull => exact ⟨List.Perm.refl _, rfl, rfl, rfl⟩
  | rejected _ hresult => exact ⟨hvalid.of_rejected hresult, rfl, rfl, rfl⟩
  | inserted | moved | refreshed => exact absurd herror (by simp)

/-- Contacts whose identifiers agree in all but the last byte. -/
def sampleContact (n : UInt8) : Contact :=
  .new ⟨(Vector.replicate 16 0xFF).set 15 n⟩ (.new 80 n 3 4) 4672 4662 9 0

-- ten contacts with the same leading bits fill one leaf; the eleventh splits it four times, until
-- the zone index forbids a fifth, and is rejected
example :
    let t := (withMaxSize .ZERO 100).after
      ((List.range 10).map fun n => .addContact (sampleContact (UInt8.ofNat n)))
    (t.addContact (sampleContact 10)).1 = .error (.splitDenied .zoneIndexCap) ∧
      (t.addToTree (sampleContact 10)).splits.length = 4 := by
  decide +kernel

/-! ## The size ceiling -/

/-- The contact is new, passes every check, and its leaf has room, while the table has reached its
ceiling. -/
def AddsBeyond (t : RoutingTable) (contact : Contact) : Prop :=
  t.maxSize ≤ t.len ∧ t.get contact.id = none ∧ (t.ipCounts contact.ip).getD 0 = 0 ∧
    (isLan contact.ip = false →
      (t.subnetCounts (subnet24 contact.ip)).getD 0 < GLOBAL_MAX_PER_SUBNET24) ∧
    RoutingBin.HasRoom contact (t.root.leafFor contact.id).contacts ∧
    (t.root.leafFor contact.id).contacts.length < K

/-- The call does not add a contact beyond the ceiling. -/
def RespectsCeiling (t : RoutingTable) : Call → Prop
  | .addContact contact => ¬ t.AddsBeyond contact
  | .remove _ => True

/-- At the ceiling, a contact is inserted exactly when nothing stands against it. -/
theorem addsBeyond_iff {t : RoutingTable} {contact : Contact} (hlen : t.maxSize ≤ t.len)
    (hadmits : t.Admits contact) :
    t.AddsBeyond contact ↔ (t.addToTree contact).result = .ok true := by
  have hiff := RoutingZone.add_eq_ok_true_iff hlen SPLIT_FUEL t.root contact
  rw [← RoutingZone.get_eq_find_leafFor] at hiff
  rw [addToTree]
  refine Iff.trans ?_ hiff.symm
  refine ⟨fun h => ⟨h.2.1, h.2.2.2.2⟩, fun h => ⟨hlen, h.1, ?_⟩⟩
  obtain ⟨hip, hsubnet⟩ := hadmits (by rw [get, h.1]; exact (Option.some_ne_none _).symm)
  exact ⟨hip, hsubnet, h.2⟩

/-- One call keeps the ceiling exactly when it respects it. -/
theorem len_addContact_le_iff {t : RoutingTable} (h : t.Valid) (hlen : t.len ≤ t.maxSize)
    (contact : Contact) :
    (t.addContact contact).2.len ≤ (t.addContact contact).2.maxSize ↔
      ¬ t.AddsBeyond contact := by
  have hcases := addContact_cases h.root contact
  generalize t.addContact contact = out at hcases
  cases hcases with
  | ipTaken _ hip => exact iff_of_true hlen fun hadds => hip.ne' hadds.2.2.1
  | subnetFull _ hlan hcount =>
    exact iff_of_true hlen fun hadds => Nat.not_lt.mpr hcount (hadds.2.2.2.1 hlan)
  | inserted hadmits hresult =>
    show t.len + 1 ≤ t.maxSize ↔ _
    rcases Nat.lt_or_ge t.len t.maxSize with hlt | hge
    · exact iff_of_true hlt fun hadds => Nat.not_le.mpr hlt hadds.1
    · exact iff_of_false (by omega) (not_not_intro ((addsBeyond_iff hge hadmits).mpr hresult))
  | moved _ _ old hold | refreshed _ old hold =>
    exact iff_of_true hlen fun hadds => Option.some_ne_none old (hold.symm.trans hadds.2.1)
  | rejected e hresult =>
    refine iff_of_true hlen fun hadds => ?_
    have hadmits : t.Admits contact := fun _ => ⟨hadds.2.2.1, hadds.2.2.2.1⟩
    rw [addsBeyond_iff hadds.1 hadmits, hresult] at hadds
    exact absurd hadds (by simp)

theorem len_remove_le {t : RoutingTable} (h : t.Valid) (hlen : t.len ≤ t.maxSize) (id : NodeId) :
    (t.remove id).2.len ≤ (t.remove id).2.maxSize := by
  cases hget : t.get id with
  | none => rwa [remove_of_get_eq_none hget]
  | some c =>
    rw [remove_of_get_eq_some hget]
    show (if t.totalContacts = 0 then USIZE_MAX else t.totalContacts - 1) ≤ t.maxSize
    rw [if_neg (h.total_pos hget).ne']
    exact (Nat.sub_le _ _).trans hlen

/-- **When the size ceiling holds.**  Along a run of calls the table stays within its ceiling
exactly when no call adds a new contact, through a leaf with room, to a table that has reached
it. -/
theorem always_len_le_iff (ownId : NodeId) (maxSize : Nat) (calls : List Call) :
    Machine.Always step (fun t => t.len ≤ t.maxSize) (withMaxSize ownId maxSize) calls ↔
      Machine.Meets step RespectsCeiling (withMaxSize ownId maxSize) calls := by
  refine Machine.always_iff_meets (J := Valid) ?_ ?_ (valid_withMaxSize ownId maxSize)
    (Nat.zero_le _)
  · intro t call t' h hstep
    exact Option.some.inj hstep ▸ valid_apply h call
  · intro t call t' h hlen hstep
    obtain rfl := Option.some.inj hstep
    cases call with
    | addContact contact => exact len_addContact_le_iff h hlen contact
    | remove id => exact iff_of_true (len_remove_le h hlen id) trivial

/-- A ceiling of one does not keep a second contact out: the root leaf has room for ten. -/
theorem len_gt_maxSize :
    let t := (withMaxSize .ZERO 1).after
      [.addContact (sampleContact 1), .addContact (sampleContact 2)]
    t.maxSize < t.len := by
  decide

end RoutingTable

end Overlord.Kad.Routing
