import Overlord.Kad.Dht.NodesDat
import Overlord.Kad.Dht.Sanitize
import Overlord.Kad.Routing.Closest

/-!
# The routing table at work

What a node does with its routing table: it answers `REQ` from it, takes a contact out that floods
it, saves it to `nodes.dat` and starts from that file again.  The functions are those of
`kad_unsolicited.rs` and `lifecycle.rs` of the agent and of `node/` of the DHT crate.

* `req_answered` — the answer to a `REQ` fits its packet, arrives as it was sent and is not refused
  by the walk of the peer that asked.  What that walk does not take, it drops for a reason that the
  table does not know of: a table holds up to ten contacts of a public /24 network, and any number
  of a private one, of which the walk takes two.
* `flooder_expired` — of a flood exactly the contact at its endpoint goes.
* `bootstrap_resumes` — after a restart the node starts from the contacts it had, nearest first.

The known keys of peers are a function here, and the contacts of the text file and of the fallback
list are arguments.
-/

set_option autoImplicit false

namespace Overlord.Kad.Dht

open Routing KeyOrder Wire

/-! ## Answers to `REQ` -/

/-- `contact_to_entry`. -/
def contactToEntry (contact : Contact) : ContactEntry :=
  ⟨contact.id, contact.ip.toBeU32, contact.udpPort, contact.tcpPort, contact.kadVersion⟩

/-- What `handle_unsolicited_packet` answers to a `REQ`. -/
def answerReq (t : RoutingTable) (req : Req) : Res :=
  ⟨req.target, (t.getClosest req.target req.count.toNat).map contactToEntry⟩

@[simp] theorem contactToEntry_ipAddr (contact : Contact) :
    (contactToEntry contact).ipAddr = contact.ip :=
  Ipv4Addr.ofBeU32_toBeU32 contact.ip

theorem contactToEntry_ip_eq_zero_iff (contact : Contact) :
    (contactToEntry contact).ip = 0 ↔ contact.ip = .UNSPECIFIED := by
  rw [← Ipv4Addr.ofBeU32_eq_unspecified_iff]
  exact Eq.congr_left (contactToEntry_ipAddr contact)

/-- The contacts of an answer are the nearest ones. -/
theorem isNearest_getClosest {t : RoutingTable} (h : t.Valid) (target : NodeId) (n : Nat) :
    IsNearest (distanceKey target) n t.root.contacts (t.getClosest target n) := by
  rw [h.getClosest_eq]
  exact isNearest_nearest (nodup_distanceKey target h.root.nodup) n

theorem nodup_ip {t : RoutingTable} (h : t.Valid) : (t.root.contacts.map Contact.ip).Nodup := by
  rw [List.nodup_iff_count_le_one]
  intro ip
  rw [List.count_eq_countP, List.countP_map]
  have hle := h.accounts.ip_le ip
  rwa [RoutingTable.total_ipKey] at hle

/-- No two contacts of a table have the same address. -/
theorem eq_of_ip_eq {t : RoutingTable} (h : t.Valid) {a b : Contact} (ha : a ∈ t.root.contacts)
    (hb : b ∈ t.root.contacts) (hip : a.ip = b.ip) : a = b :=
  List.inj_on_of_nodup_map (nodup_ip h) ha hb hip

/-- An entry that could be contacted, whose address is not that of the responder or of another
entry, is dropped only if its network is full. -/
theorem taken_or_crowded {entries : List ContactEntry} {responder : SocketAddr}
    {entry : ContactEntry} (hentry : entry ∈ entries) (hvalid : Valid entry)
    (hresponder : responderIp responder ≠ some entry.ipAddr)
    (hdistinct : (entries.map (·.ipAddr)).Nodup) :
    let taken := (entries.foldl Sanitizer.step (.start responder)).sanitized
    entry ∈ taken ∨ 2 ≤ occupants responder taken (ipv4Prefix24 entry.ipAddr) := by
  obtain ⟨front, back, rfl⟩ := List.append_of_mem hentry
  have hinv := Sanitizer.inv_foldl responder front
  rw [List.foldl_append, List.foldl_cons]
  generalize front.foldl Sanitizer.step (.start responder) = s at hinv ⊢
  obtain ⟨more, hmore, -⟩ := Sanitizer.exists_foldl (s.step entry) back
  rw [hmore]
  cases Sanitizer.round_step hinv entry with
  | invalid hinvalid => exact absurd hvalid hinvalid
  | repeats _ hseen =>
    rcases hseen with hseen | ⟨other, hother, -, heq⟩
    · exact absurd hseen hresponder
    · rw [List.map_append, List.map_cons, List.nodup_middle, List.nodup_cons] at hdistinct
      exact absurd (List.mem_append_left _ (heq ▸ List.mem_map_of_mem hother)) hdistinct.1
  | crowded _ _ hcount hs =>
    refine .inr ?_
    rw [hs, occupants, List.countP_append]
    rw [hinv.counts, occupants] at hcount
    dsimp only at hcount ⊢
    omega
  | taken _ _ _ hs =>
    rw [hs]
    exact .inl (List.mem_append_left _ (List.mem_append_right _ List.mem_cons_self))

/-- **A `REQ` and its answer**, between any two peers.  The answer is encoded and arrives as it was
sent; the walk of the peer that asked does not refuse it, and takes its contacts in the order of
their distance.  A contact of it that could be reached is left out only if it is the responder
itself or if two addresses of its /24 network were taken. -/
theorem req_answered (pf : Platform) (ownId : NodeId) (maxSize : Nat)
    (calls : List RoutingTable.Call) (req : Req) (responder : SocketAddr) :
    let t := (RoutingTable.withMaxSize ownId maxSize).after calls
    (∃ bytes, KadPacket.encode (.res (answerReq t req)) = .ok bytes ∧
      KadPacket.decode pf bytes = .ok (.res (answerReq t req))) ∧
    ∃ taken, sanitizeResContacts (answerReq t req).contacts responder req.count.toNat =
        some taken ∧
      taken.Pairwise (fun a b => a.nodeId.distance req.target < b.nodeId.distance req.target) ∧
      ∀ contact ∈ t.getClosest req.target req.count.toNat,
        contact.ip ≠ .UNSPECIFIED → contact.udpPort ≠ 0 →
        responderIp responder ≠ some contact.ip →
        contactToEntry contact ∈ taken ∨
          2 ≤ occupants responder taken (ipv4Prefix24 contact.ip) := by
  intro t
  have hvalid : t.Valid := RoutingTable.valid_after ownId maxSize calls
  have hnearest := isNearest_getClosest hvalid req.target req.count.toNat
  have hlength : (answerReq t req).contacts.length ≤ req.count.toNat := by
    rw [answerReq, List.length_map, hnearest.length_eq]
    exact Nat.min_le_left _ _
  have hnodup : (t.getClosest req.target req.count.toNat).Nodup :=
    hnearest.sorted.imp fun hlt heq => (heq ▸ hlt).ne rfl
  have hdistinct : ((answerReq t req).contacts.map (·.ipAddr)).Nodup := by
    simp only [answerReq, List.map_map, Function.comp_def, contactToEntry_ipAddr]
    exact hnodup.map_on fun a ha b hb => eq_of_ip_eq hvalid (hnearest.subset a ha)
      (hnearest.subset b hb)
  refine ⟨?_, ?_⟩
  · have hfits : KadPacket.Fits (.res (answerReq t req)) :=
      Nat.lt_of_le_of_lt hlength req.count.toNat_lt
    have hown : KadPacket.OwnOpcode (.res (answerReq t req)) := trivial
    obtain ⟨bytes, hencode⟩ := (KadPacket.encode_isOk_iff _).mpr hfits
    exact ⟨bytes, hencode, KadPacket.decode_of_encode pf hown hencode⟩
  · have hsanitize : sanitizeResContacts (answerReq t req).contacts responder req.count.toNat =
        some ((answerReq t req).contacts.foldl Sanitizer.step (.start responder)).sanitized :=
      if_neg (Nat.not_lt.mpr hlength)
    refine ⟨_, hsanitize, ?_, fun contact hcontact hip hport hresponder => ?_⟩
    · have hsorted : (answerReq t req).contacts.Pairwise
          (fun a b => a.nodeId.distance req.target < b.nodeId.distance req.target) :=
        List.pairwise_map.mpr (hnearest.sorted.imp distanceKey_lt_iff.mp)
      exact hsorted.sublist (Sanitizer.inv_foldl responder _).sublist
    · have hentry : contactToEntry contact ∈ (answerReq t req).contacts :=
        List.mem_map_of_mem hcontact
      have hcrowded := taken_or_crowded hentry
        ⟨fun hzero => hip ((contactToEntry_ip_eq_zero_iff contact).mp hzero), hport⟩
        (by rwa [contactToEntry_ipAddr]) hdistinct
      rwa [contactToEntry_ipAddr] at hcrowded

/-! ## Contacts that flood -/

/-- `addr_from_contact`. -/
def addrFromContact (contact : Contact) : SocketAddr := .v4 contact.ip contact.udpPort

/-- `expire_contact_for_massive_flood`. -/
def expireContactForMassiveFlood (t : RoutingTable) (addr : SocketAddr) : RoutingTable :=
  match addr with
  | .v6 .. => t
  | .v4 ip port =>
    match t.allContacts.find? fun contact => contact.ip = ip ∧ contact.udpPort = port with
    | some contact => (t.remove contact.id).2
    | none => t

/-- Removing a stored contact leaves the others. -/
theorem contacts_remove {t : RoutingTable} (h : t.Valid) {contact : Contact}
    (hcontact : contact ∈ t.root.contacts) :
    t.root.contacts.Perm (contact :: (t.remove contact.id).2.root.contacts) := by
  have hget : t.get contact.id = some contact :=
    (RoutingZone.get_eq_some_iff h.root).mpr ⟨hcontact, rfl⟩
  have hperm := RoutingZone.remove_spec contact.id t.root
  rw [← RoutingTable.get, hget] at hperm
  rwa [RoutingTable.remove_of_get_eq_some hget]

/-- No address is in the table twice, so removing a contact is leaving out its endpoint. -/
theorem contacts_remove_filter {t : RoutingTable} (h : t.Valid) {contact : Contact}
    (hcontact : contact ∈ t.root.contacts) :
    (t.remove contact.id).2.root.contacts.Perm
      (t.root.contacts.filter fun other => addrFromContact other ≠ addrFromContact contact) := by
  have hperm := contacts_remove h hcontact
  have hothers : ∀ other ∈ (t.remove contact.id).2.root.contacts,
      addrFromContact other ≠ addrFromContact contact := by
    intro other hother haddr
    rw [addrFromContact, addrFromContact, SocketAddr.v4.injEq] at haddr
    have hips := (hperm.map Contact.ip).nodup_iff.mp (nodup_ip h)
    rw [List.map_cons, List.nodup_cons] at hips
    exact hips.1 (haddr.1 ▸ List.mem_map_of_mem hother)
  have hfilter := hperm.filter fun other =>
    decide (addrFromContact other ≠ addrFromContact contact)
  rw [List.filter_cons_of_neg (by simp), List.filter_eq_self.mpr
    fun other hother => decide_eq_true (hothers other hother)] at hfilter
  exact hfilter.symm

/-- **A flood costs one contact.**  When an endpoint floods the node, the contacts left are those at
other endpoints: at most one goes, and the table is one that calls to it could have made. -/
theorem flooder_expired (ownId : NodeId) (maxSize : Nat) (calls : List RoutingTable.Call)
    (addr : SocketAddr) :
    let t := (RoutingTable.withMaxSize ownId maxSize).after calls
    let expired := expireContactForMassiveFlood t addr
    expired.root.contacts.Perm
        (t.root.contacts.filter fun contact => addrFromContact contact ≠ addr) ∧
      t.len ≤ expired.len + 1 ∧
      ∃ more, expired = (RoutingTable.withMaxSize ownId maxSize).after (calls ++ more) := by
  intro t
  have hvalid : t.Valid := RoutingTable.valid_after ownId maxSize calls
  have hafter : t = (RoutingTable.withMaxSize ownId maxSize).after (calls ++ []) := by
    rw [List.append_nil]
  -- nothing goes when nothing is at the endpoint
  have hkeep : (∀ contact ∈ t.root.contacts, addrFromContact contact ≠ addr) →
      t.root.contacts.Perm
          (t.root.contacts.filter fun contact => addrFromContact contact ≠ addr) ∧
        t.len ≤ t.len + 1 ∧
        ∃ more, t = (RoutingTable.withMaxSize ownId maxSize).after (calls ++ more) := by
    intro hnone
    refine ⟨?_, Nat.le_succ _, [], hafter⟩
    rw [List.filter_eq_self.mpr fun contact hcontact => decide_eq_true (hnone contact hcontact)]
  cases addr with
  | v6 octets port flowinfo scopeId => exact hkeep fun contact _ => nofun
  | v4 ip port =>
    rw [expireContactForMassiveFlood]
    cases hfind : t.allContacts.find? fun contact => contact.ip = ip ∧ contact.udpPort = port with
    | none =>
      refine hkeep fun contact hcontact haddr => ?_
      have hmem := (RoutingTable.allContacts_perm hvalid).mem_iff.mpr hcontact
      rw [addrFromContact, SocketAddr.v4.injEq] at haddr
      exact List.find?_eq_none.mp hfind contact hmem (decide_eq_true haddr)
    | some contact =>
      have hmem : contact ∈ t.root.contacts :=
        (RoutingTable.allContacts_perm hvalid).mem_iff.mp (List.mem_of_find?_eq_some hfind)
      have hat := List.find?_some hfind
      rw [decide_eq_true_eq] at hat
      obtain ⟨rfl, rfl⟩ := hat
      have hlength := (contacts_remove hvalid hmem).length_eq
      have hremoved := RoutingTable.valid_remove hvalid contact.id
      refine ⟨?_, ?_, [.remove contact.id], ?_⟩
      · exact contacts_remove_filter hvalid hmem
      · show t.totalContacts ≤ (t.remove contact.id).2.totalContacts + 1
        rw [hvalid.total_eq, hremoved.total_eq, hlength, List.length_cons]
      · rw [RoutingTable.after, List.foldl_append]
        rfl

/-! ## Restarts -/

section Restart

variable (knownPeerKey : SocketAddr → Option KadUdpKey)

/-- What `persist_nodes_dat_for` saves of a contact. -/
def savedContact (contact : Contact) : BootstrapContact :=
  ⟨contact.id, contact.ip, contact.udpPort, contact.tcpPort, contact.kadVersion,
    (knownPeerKey (addrFromContact contact)).getD contact.udpKey⟩

/-- The bytes that `persist_nodes_dat_for` writes. -/
def persistNodesDat (t : RoutingTable) : Except DhtError Bytes :=
  encodeNodesDat (t.allContacts.map (savedContact knownPeerKey))

/-- `load_bootstrap_contacts`. -/
def loadBootstrapContacts (nodesDat : Option Bytes) (nodesText hardcoded : List BootstrapContact) :
    List BootstrapContact :=
  let saved :=
    match nodesDat with
    | some data => (parseNodesDat data).toOption.getD []
    | none => []
  let contacts := saved ++ nodesText
  if contacts = [] then hardcoded else contacts

/-- The contacts to which `bootstrap_with_class` sends a `BOOTSTRAP_REQ`. -/
def bootstrapAttempts (nodesDat : Option Bytes) (nodesText hardcoded : List BootstrapContact) :
    List BootstrapContact :=
  (loadBootstrapContacts nodesDat nodesText hardcoded).take 10

/-- The contact has an address and a port. -/
def HasEndpoint (contact : Contact) : Prop := contact.ip ≠ .UNSPECIFIED ∧ contact.udpPort ≠ 0

instance (contact : Contact) : Decidable (HasEndpoint contact) :=
  inferInstanceAs (Decidable (_ ∧ _))

/-- **A node resumes where it was.**  After a restart it bootstraps from the contacts with an
endpoint that its table held when it was saved: from the nearest ones, nearest first, each under the
key known for its endpoint.  Contacts of the text file come in only when they are fewer than ten.
A table of more than 500000 contacts would be saved to a file that is not read back. -/
theorem bootstrap_resumes (ownId : NodeId) (maxSize : Nat) (calls : List RoutingTable.Call)
    (nodesText hardcoded : List BootstrapContact) :
    let t := (RoutingTable.withMaxSize ownId maxSize).after calls
    t.len ≤ 500000 → (∃ contact ∈ t.root.contacts, HasEndpoint contact) →
    ∃ data attempted, persistNodesDat knownPeerKey t = .ok data ∧
      bootstrapAttempts (some data) nodesText hardcoded =
        attempted.map (savedContact knownPeerKey) ++ nodesText.take (10 - attempted.length) ∧
      IsNearest (distanceKey t.ownId) 10 (t.root.contacts.filter (HasEndpoint ·)) attempted := by
  intro t hlen hsome
  have hvalid : t.Valid := RoutingTable.valid_after ownId maxSize calls
  have hperm := RoutingTable.allContacts_perm hvalid
  have hlength : (t.allContacts.map (savedContact knownPeerKey)).length ≤ 500000 := by
    rwa [List.length_map, hperm.length_eq, ← hvalid.total_eq]
  obtain ⟨data, hencode, hparse⟩ := parseNodesDat_encodeNodesDat hlength
  -- a contact is read back if it has an endpoint
  have hfilter : (t.allContacts.map (savedContact knownPeerKey)).filter (·.Reachable) =
      (t.allContacts.filter (HasEndpoint ·)).map (savedContact knownPeerKey) := by
    rw [List.filter_map]
    rfl
  rw [hfilter] at hparse
  have hsorted : (t.allContacts.filter (HasEndpoint ·)).Pairwise fun a b =>
      distanceKey t.ownId a < distanceKey t.ownId b :=
    (isNearest_getClosest hvalid t.ownId t.totalContacts).sorted.sublist List.filter_sublist
  have hnearest : nearest (distanceKey t.ownId) 10 (t.root.contacts.filter (HasEndpoint ·)) =
      (t.allContacts.filter (HasEndpoint ·)).take 10 := by
    rw [nearest, byKey_eq_of_perm hsorted (hperm.filter _)]
  have hnodup : ((t.root.contacts.filter (HasEndpoint ·)).map (distanceKey t.ownId)).Nodup :=
    (nodup_distanceKey t.ownId hvalid.root.nodup).sublist (List.filter_sublist.map _)
  have hload : loadBootstrapContacts (some data) nodesText hardcoded =
      (t.allContacts.filter (HasEndpoint ·)).map (savedContact knownPeerKey) ++ nodesText := by
    obtain ⟨contact, hcontact, hendpoint⟩ := hsome
    have hmem : contact ∈ t.allContacts.filter (HasEndpoint ·) :=
      List.mem_filter.mpr ⟨hperm.mem_iff.mpr hcontact, decide_eq_true hendpoint⟩
    rw [loadBootstrapContacts, hparse]
    refine if_neg fun hnil => ?_
    exact List.ne_nil_of_mem (List.mem_append_left _ (List.mem_map_of_mem hmem)) hnil
  refine ⟨data, _, hencode, ?_, isNearest_nearest hnodup 10⟩
  rw [bootstrapAttempts, hload, hnearest, List.take_append, List.map_take, List.length_map,
    List.length_take]
  congr 2
  omega

/-- One contact, whose key became known after it was added: it is asked first, under that key, and
the text file follows. -/
theorem bootstrap_resumes_sample :
    let t := (RoutingTable.withMaxSize .ZERO 100).after
      [.addContact (RoutingTable.sampleContact 1)]
    let knownPeerKey : SocketAddr → Option KadUdpKey := fun _ => some ⟨7⟩
    let text : BootstrapContact := ⟨.ZERO, .new 1 2 3 4, 4672, 4672, 9, .ZERO⟩
    ∃ data attempted, persistNodesDat knownPeerKey t = .ok data ∧
      bootstrapAttempts (some data) [text] [] =
        attempted.map (savedContact knownPeerKey) ++ [text].take (10 - attempted.length) ∧
      IsNearest (distanceKey t.ownId) 10 (t.root.contacts.filter (HasEndpoint ·)) attempted :=
  bootstrap_resumes (fun _ => some ⟨7⟩) .ZERO 100 [.addContact (RoutingTable.sampleContact 1)]
    [⟨.ZERO, .new 1 2 3 4, 4672, 4672, 9, .ZERO⟩] [] (by decide +kernel)
    ⟨RoutingTable.sampleContact 1, by decide +kernel, by decide +kernel⟩

end Restart

end Overlord.Kad.Dht
