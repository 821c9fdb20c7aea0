import Overlord.Kad.Proto.RoundTrip
import Overlord.Net.Addr

/-!
# Bootstrap contacts on disk

`parse_nodes_dat` and `encode_nodes_dat`.  The parser accepts five headers — with or without a zero
in front, version 2 or 3, or no version at all — and takes the size of an entry from what is left of
the file.  The encoder writes one of these layouts: the zero, version 2, the count, and entries of
34 bytes.

* `parseNodesDat_encodeNodesDat` — what the encoder writes is read with the large entries, so the
  file comes back without the contacts that have no address or no port;
* `parseNodesDat_sound` — on any bytes, the contacts are no more than the header counts.

Entries of the small size have no UDP key and get the key zero.  Contacts without an endpoint are
written like all others, and dropped when the file is read.
-/

set_option autoImplicit false

namespace Overlord.Kad.Dht

open Wire

/-- The one member of `DhtError` that the file format has. -/
inductive DhtError where
  | nodesDatParse
deriving DecidableEq, Repr

/-- A contact to start from. -/
structure BootstrapContact where
  nodeId : NodeId
  ip : Ipv4Addr
  udpPort : UInt16
  tcpPort : UInt16
  version : UInt8
  udpKey : KadUdpKey
deriving DecidableEq, Repr

/-! ## Entries -/

/-- The 25 bytes that every entry has. -/
structure NodesDatEntry where
  nodeId : NodeId
  ip : UInt32
  udpPort : UInt16
  tcpPort : UInt16
  version : UInt8
deriving DecidableEq, Repr

/-- The 34 bytes of an entry of a modern file. -/
structure NodesDatEntryExt where
  nodeId : NodeId
  ip : UInt32
  udpPort : UInt16
  tcpPort : UInt16
  version : UInt8
  contactType : UInt8
  lastSeen : UInt32
  udpKey : UInt32
deriving DecidableEq, Repr

/-- A read from the file: every failure is the same error. -/
abbrev ReadDat := Get DhtError

def readNodeId : ReadDat NodeId := NodeId.mk <$> getArray .nodesDatParse 16

def readU32 : ReadDat UInt32 := getU32 .nodesDatParse

def NodesDatEntry.read : ReadDat NodesDatEntry := do
  let nodeId ← readNodeId
  let ip ← readU32
  let udpPort ← getU16 .nodesDatParse
  let tcpPort ← getU16 .nodesDatParse
  let version ← getU8 .nodesDatParse
  return ⟨nodeId, ip, udpPort, tcpPort, version⟩

def NodesDatEntryExt.read : ReadDat NodesDatEntryExt := do
  let nodeId ← readNodeId
  let ip ← readU32
  let udpPort ← getU16 .nodesDatParse
  let tcpPort ← getU16 .nodesDatParse
  let version ← getU8 .nodesDatParse
  let contactType ← getU8 .nodesDatParse
  let lastSeen ← readU32
  let udpKey ← readU32
  return ⟨nodeId, ip, udpPort, tcpPort, version, contactType, lastSeen, udpKey⟩

def NodesDatEntryExt.write (e : NodesDatEntryExt) : Bytes :=
  [e.nodeId.write, putU32 e.ip, putU16 e.udpPort, putU16 e.tcpPort, putU8 e.version,
    putU8 e.contactType, putU32 e.lastSeen, putU32 e.udpKey].flatten

/-! ## Parsing -/

/-- The contact of an entry, unless it has no address or no port. -/
def contact? (nodeId : NodeId) (ip : UInt32) (udpPort tcpPort : UInt16) (version : UInt8)
    (udpKey : KadUdpKey) : Option BootstrapContact :=
  if ip = 0 ∨ udpPort = 0 then none
  else some ⟨nodeId, .ofBeU32 ip, udpPort, tcpPort, version, udpKey⟩

/-- One round of the loop in `parse_nodes_dat`. -/
def readContact (extended : Bool) : ReadDat (Option BootstrapContact) := do
  if extended then
    let e ← NodesDatEntryExt.read
    return contact? e.nodeId e.ip e.udpPort e.tcpPort e.version ⟨e.udpKey⟩
  else
    let e ← NodesDatEntry.read
    return contact? e.nodeId e.ip e.udpPort e.tcpPort e.version .ZERO

/-- The header of `parse_nodes_dat`: the number of contacts it announces. -/
def readCount : ReadDat UInt32 := do
  let first ← readU32
  if first = 0 then
    let version ← readU32
    if version = 2 then readU32
    else if version = 3 then do
      let _edition ← readU32
      readU32
    else throw .nodesDatParse
  else if first = 2 then readU32
  else if first = 3 then do
    let _edition ← readU32
    readU32
  -- the old format starts with the count
  else return first

/-- `parse_nodes_dat`. -/
def parseNodesDat (data : Bytes) : Except DhtError (List BootstrapContact) :=
  if data.length < 8 then .error .nodesDatParse
  else do
    let (count, rest) ← readCount.run data
    if count = 0 ∨ 500000 < count then return []
    else
      let entrySize := rest.length / count.toNat
      let (contacts, _) ← (getMany count.toNat (readContact (34 ≤ entrySize))).run rest
      return contacts.reduceOption

/-! ## Writing -/

/-- The entry of a contact. -/
def BootstrapContact.entry (contact : BootstrapContact) : NodesDatEntryExt :=
  ⟨contact.nodeId, contact.ip.toBeU32, contact.udpPort, contact.tcpPort, contact.version, 2, 0,
    contact.udpKey.value⟩

/-- `encode_nodes_dat`.  Writing to memory does not fail. -/
def encodeNodesDat (contacts : List BootstrapContact) : Except DhtError Bytes :=
  .ok ([putU32 0, putU32 2, putU32 (UInt32.ofNat contacts.length)].flatten ++
    contacts.flatMap fun contact => contact.entry.write)

/-- The contact has an address and a port. -/
def BootstrapContact.Reachable (contact : BootstrapContact) : Prop :=
  contact.ip ≠ .UNSPECIFIED ∧ contact.udpPort ≠ 0

instance (contact : BootstrapContact) : Decidable contact.Reachable :=
  inferInstanceAs (Decidable (_ ∧ _))

/-! ## What is read back -/

theorem reads_readNodeId (id : NodeId) : Reads readNodeId id.write id :=
  (reads_getArray _ id.bytes).map NodeId.mk

theorem NodesDatEntryExt.reads_write (e : NodesDatEntryExt) : Reads read e.write e :=
  (reads_readNodeId _).field <| (reads_getU32 _ _).field <| (reads_getU16 _ _).field <|
    (reads_getU16 _ _).field <| (reads_getU8 _ _).field <| (reads_getU8 _ _).field <|
    (reads_getU32 _ _).field (reads_getU32 _ _).lastField

@[simp] theorem NodesDatEntryExt.length_write (e : NodesDatEntryExt) : e.write.length = 34 := by
  simp [write]

/-- The entry of a contact gives it back if it is reachable. -/
theorem contact?_entry (contact : BootstrapContact) :
    contact? contact.entry.nodeId contact.entry.ip contact.entry.udpPort contact.entry.tcpPort
        contact.entry.version ⟨contact.entry.udpKey⟩ =
      if contact.Reachable then some contact else none := by
  have hip : contact.ip.toBeU32 = 0 ↔ contact.ip = .UNSPECIFIED := by
    rw [← Ipv4Addr.ofBeU32_eq_unspecified_iff, Ipv4Addr.ofBeU32_toBeU32]
  simp only [contact?, BootstrapContact.entry, hip, Ipv4Addr.ofBeU32_toBeU32]
  by_cases h : contact.Reachable
  · rw [if_pos h, if_neg (fun hor => hor.elim h.1 h.2)]
  · rw [if_neg h, if_pos (by rw [BootstrapContact.Reachable] at h; tauto)]

theorem reads_readContact (contact : BootstrapContact) :
    Reads (readContact true) contact.entry.write
      (if contact.Reachable then some contact else none) := by
  rw [← contact?_entry]
  exact contact.entry.reads_write.bind_pure _

theorem reduceOption_map_reachable (contacts : List BootstrapContact) :
    (contacts.map fun contact => if contact.Reachable then some contact else none).reduceOption =
      contacts.filter fun contact => contact.Reachable := by
  induction contacts with
  | nil => rfl
  | cons contact contacts ih =>
    rw [List.map_cons, List.filter_cons]
    by_cases h : contact.Reachable <;> simp [h, ih]

/-- The header of the encoder is one of those the parser knows. -/
theorem reads_readCount (count : UInt32) :
    Reads readCount [putU32 0, putU32 2, putU32 count].flatten count := by
  refine (reads_getU32 _ 0).field ?_
  rw [if_pos rfl]
  refine (reads_getU32 _ 2).field ?_
  rw [if_pos rfl, List.flatten_singleton]
  exact reads_getU32 _ count

theorem parseNodesDat_of_readCount {data rest : Bytes} {count : UInt32} (hdata : 8 ≤ data.length)
    (hcount : readCount.run data = .ok (count, rest)) :
    parseNodesDat data =
      if count = 0 ∨ 500000 < count then .ok []
      else ((getMany count.toNat (readContact (34 ≤ rest.length / count.toNat))).run rest).map
        fun read => read.1.reduceOption := by
  rw [parseNodesDat, if_neg (by omega), hcount]
  show (if count = 0 ∨ 500000 < count then _ else _) = _
  split_ifs
  · rfl
  · cases (getMany count.toNat (readContact (34 ≤ rest.length / count.toNat))).run rest <;> rfl

theorem length_flatMap_write (contacts : List BootstrapContact) :
    (contacts.flatMap fun contact => contact.entry.write).length = contacts.length * 34 := by
  simp [List.length_flatMap]

/-- What the encoder writes comes back, without the contacts that cannot be reached. -/
theorem parseNodesDat_encodeNodesDat {contacts : List BootstrapContact}
    (hlength : contacts.length ≤ 500000) :
    ∃ data, encodeNodesDat contacts = .ok data ∧
      parseNodesDat data = .ok (contacts.filter fun contact => contact.Reachable) := by
  have hnat : (UInt32.ofNat contacts.length).toNat = contacts.length :=
    UInt32.toNat_ofNat_of_lt' (Nat.lt_of_le_of_lt hlength (by decide))
  refine ⟨_, rfl, ?_⟩
  rw [parseNodesDat_of_readCount (by simp; omega) (reads_readCount _ _), hnat]
  split_ifs with hcount
  · rw [← UInt32.toNat_inj, UInt32.lt_iff_toNat_lt, hnat] at hcount
    obtain rfl : contacts = [] := List.eq_nil_of_length_eq_zero
      (hcount.resolve_right (Nat.not_lt.mpr hlength))
    rfl
  · have hpos : 0 < contacts.length := by
      rw [← UInt32.toNat_inj, hnat] at hcount
      exact Nat.pos_of_ne_zero fun h => hcount (.inl h)
    -- the entries fill the file, so their size is found
    have hsize : (contacts.flatMap fun contact => contact.entry.write).length / contacts.length =
        34 := by
      rw [length_flatMap_write, Nat.mul_div_cancel_left 34 hpos]
    rw [hsize, decide_eq_true (Nat.le_refl 34),
      (reads_getMany_map fun contact _ => reads_readContact contact).run_nil]
    exact congrArg Except.ok (reduceOption_map_reachable contacts)

/-! ## What is accepted -/

theorem reachable_of_contact? {nodeId : NodeId} {ip : UInt32} {udpPort tcpPort : UInt16}
    {version : UInt8} {udpKey : KadUdpKey} {contact : BootstrapContact}
    (h : contact? nodeId ip udpPort tcpPort version udpKey = some contact) :
    contact.Reachable := by
  rw [contact?] at h
  split_ifs at h with hzero
  obtain rfl := Option.some.inj h
  exact ⟨fun hip => hzero (.inl ((Ipv4Addr.ofBeU32_eq_unspecified_iff ip).mp hip)),
    fun hport => hzero (.inr hport)⟩

theorem yields_readContact (extended : Bool) :
    Yields (readContact extended) fun read => ∀ contact, read = some contact →
      contact.Reachable := by
  cases extended with
  | true => exact .skip fun e => .pure fun _ => reachable_of_contact?
  | false => exact .skip fun e => .pure fun _ => reachable_of_contact?

/-- Whatever is accepted is within the count of its header, and can be reached. -/
theorem parseNodesDat_sound {data : Bytes} {contacts : List BootstrapContact}
    (h : parseNodesDat data = .ok contacts) :
    ∃ count rest, readCount.run data = .ok (count, rest) ∧ contacts.length ≤ count.toNat ∧
      ∀ contact ∈ contacts, contact.Reachable := by
  have hdata : 8 ≤ data.length := by
    by_contra hshort
    rw [parseNodesDat, if_pos (by omega)] at h
    cases h
  cases hcount : readCount.run data with
  | error e =>
    rw [parseNodesDat, if_neg (by omega), hcount] at h
    cases h
  | ok header =>
    obtain ⟨count, rest⟩ := header
    refine ⟨count, rest, rfl, ?_⟩
    rw [parseNodesDat_of_readCount hdata hcount] at h
    split_ifs at h with hnone
    · obtain rfl := Except.ok.inj h
      exact ⟨Nat.zero_le _, nofun⟩
    · cases hread :
        (getMany count.toNat (readContact (34 ≤ rest.length / count.toNat))).run rest with
      | error e => rw [hread] at h; cases h
      | ok read =>
        rw [hread] at h
        obtain rfl := Except.ok.inj h
        have hyields := (yields_getMany (yields_readContact _) _).of_run hread
        refine ⟨hyields.1 ▸ List.reduceOption_length_le _, fun contact hcontact => ?_⟩
        exact hyields.2 _ (List.reduceOption_mem_iff.mp hcontact) contact rfl

/-- **The file format.**  Up to 500000 contacts come back from the file that is written for them,
in order and unchanged, except for those without an address or a port; and any bytes are either
refused or give contacts that can be reached, no more of them than the header counts. -/
theorem nodesDat_roundTrip_and_sound :
    (∀ contacts : List BootstrapContact, contacts.length ≤ 500000 →
      ∃ data, encodeNodesDat contacts = .ok data ∧
        parseNodesDat data = .ok (contacts.filter fun contact =>
          contact.ip ≠ .UNSPECIFIED ∧ contact.udpPort ≠ 0)) ∧
    ∀ data : Bytes, parseNodesDat data = .error .nodesDatParse ∨
      ∃ contacts count rest, parseNodesDat data = .ok contacts ∧
        readCount.run data = .ok (count, rest) ∧ contacts.length ≤ count.toNat ∧
        ∀ contact ∈ contacts, contact.ip ≠ .UNSPECIFIED ∧ contact.udpPort ≠ 0 := by
  refine ⟨fun contacts => parseNodesDat_encodeNodesDat, fun data => ?_⟩
  cases h : parseNodesDat data with
  | error e => exact .inl rfl
  | ok contacts =>
    obtain ⟨count, rest, hcount, hlength, hreachable⟩ := parseNodesDat_sound h
    exact .inr ⟨contacts, count, rest, rfl, hcount, hlength, hreachable⟩

end Overlord.Kad.Dht
