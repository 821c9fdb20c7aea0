import Overlord.Kad.Proto.Packet

/-!
# Encoding and decoding are inverse, up to three normalisations

This file answers what happens to a packet that is encoded and decoded again, and to a buffer that
is decoded and encoded again.

* `KadPacket.Fits` says that every count and length of a packet fits the field it is written to.
  It is exactly the condition under which no `expect` of the encoder fires
  (`KadPacket.encode_isOk_iff`).
* `KadPacket.normalise` is what a packet turns into on the wire.  Three things change: an untyped
  integer tag gets the narrowest width, a one-byte string name becomes a short name, and the source
  search offset loses its top bit.
* `KadPacket.decode_encode_of_fits` puts the two together, packet kind by packet kind.

The other direction starts from a buffer.  Decoding a string can make it longer — an ill-formed
byte becomes the three bytes of U+FFFD — so a packet that was received need not fit when it is sent
again.
-/

set_option autoImplicit false

namespace Overlord.Kad

open Wire

/-! ## What fits -/

/-- A tag list fits its `u8` count and every tag fits. -/
def TagsFit (tags : List Tag) : Prop := tags.length < 2 ^ 8 ∧ ∀ t ∈ tags, Tag.Fits t

/-- Every counted field of a packet fits its wire width. -/
def KadPacket.Fits : KadPacket → Prop
  | .bootstrapRes p => p.contacts.length < 2 ^ 16
  | .helloReq p => TagsFit p.tags
  | .helloRes p => TagsFit p.tags
  | .helloResAck p => TagsFit p.tags
  | .res p => p.contacts.length < 2 ^ 8
  | .searchRes p => p.results.length < 2 ^ 16 ∧ ∀ r ∈ p.results, TagsFit r.tags
  | .publishKeyReq p => p.entries.length < 2 ^ 16 ∧ ∀ e ∈ p.entries, TagsFit e.tags
  | .publishSourceReq p => TagsFit p.tags
  | .publishNotesReq p => TagsFit p.tags
  | _ => True

/-- The packet does not carry an opcode that belongs to another packet kind. -/
def KadPacket.OwnOpcode : KadPacket → Prop
  | .unknown op _ => op ∉ opcode.known
  | _ => True

/-! ## What changes -/

/-- The packet that comes back when a packet is encoded and decoded. -/
def KadPacket.normalise : KadPacket → KadPacket
  | .helloReq p => .helloReq { p with tags := p.tags.map Tag.normalise }
  | .helloRes p => .helloRes { p with tags := p.tags.map Tag.normalise }
  | .helloResAck p => .helloResAck { p with tags := p.tags.map Tag.normalise }
  | .searchSourceReq p => .searchSourceReq { p with startPosition := p.startPosition &&& 0x7FFF }
  | .searchRes p => .searchRes { p with
      results := p.results.map fun r => { r with tags := r.tags.map Tag.normalise } }
  | .publishKeyReq p => .publishKeyReq { p with
      entries := p.entries.map fun e => { e with tags := e.tags.map Tag.normalise } }
  | .publishSourceReq p => .publishSourceReq { p with tags := p.tags.map Tag.normalise }
  | .publishNotesReq p => .publishNotesReq { p with tags := p.tags.map Tag.normalise }
  | p => p

/-! ## The encoder panics exactly when something does not fit -/

theorem writeTags_isOk_iff (tags : List Tag) : (∃ bs, writeTags tags = .ok bs) ↔ TagsFit tags := by
  constructor
  · rintro ⟨bs, h⟩
    obtain ⟨n, hn, h⟩ := bind_ok h
    obtain ⟨cs, hcs, -⟩ := bind_ok h
    refine ⟨(expectBelow_ok hn).1, fun t ht => ?_⟩
    exact (Tag.write_isOk_iff t).mp ((putMany_isOk_iff _ _).mp ⟨cs, hcs⟩ t ht)
  · rintro ⟨hlen, hfit⟩
    obtain ⟨cs, hcs⟩ := (putMany_isOk_iff Tag.write tags).mpr
      fun t ht => (Tag.write_isOk_iff t).mpr (hfit t ht)
    exact ⟨_, by rw [writeTags, expectBelow_of_lt _ hlen, hcs]; rfl⟩

/-- A writer made of one fallible part and plain bytes around it fails exactly when the part
does. -/
theorem isOk_bind_pure_iff {α : Type} (x : Except Panic α) (f : α → Bytes) :
    (∃ bs, (x >>= fun a => pure (f a) : Except Panic Bytes) = .ok bs) ↔ ∃ a, x = .ok a := by
  constructor
  · rintro ⟨bs, h⟩
    obtain ⟨a, ha, -⟩ := bind_ok h
    exact ⟨a, ha⟩
  · rintro ⟨a, rfl⟩
    exact ⟨_, rfl⟩

theorem isOk_expectBelow_iff (bound n : Nat) (message : String) :
    (∃ m, expectBelow bound n message = .ok m) ↔ n < bound :=
  ⟨fun ⟨_, h⟩ => (expectBelow_ok h).1, fun h => ⟨n, expectBelow_of_lt _ h⟩⟩

theorem SearchResultEntry.write_isOk_iff (r : SearchResultEntry) :
    (∃ bs, SearchResultEntry.write r = .ok bs) ↔ TagsFit r.tags :=
  (isOk_bind_pure_iff _ _).trans (writeTags_isOk_iff _)

theorem PublishEntry.write_isOk_iff (e : PublishEntry) :
    (∃ bs, PublishEntry.write e = .ok bs) ↔ TagsFit e.tags :=
  (isOk_bind_pure_iff _ _).trans (writeTags_isOk_iff _)

/-- A counted list of records: the count and every record must fit. -/
theorem isOk_counted_iff {α : Type} (w : α → Except Panic Bytes) (as : List α) (bound : Nat)
    (message : String) (f : Nat → Bytes → Bytes) :
    (∃ bs, (expectBelow bound as.length message >>= fun n => putMany w as >>= fun cs =>
      pure (f n cs) : Except Panic Bytes) = .ok bs) ↔
      as.length < bound ∧ ∀ a ∈ as, ∃ bs, w a = .ok bs := by
  rw [← isOk_expectBelow_iff bound as.length message, ← putMany_isOk_iff]
  constructor
  · rintro ⟨bs, h⟩
    obtain ⟨n, hn, h⟩ := bind_ok h
    obtain ⟨cs, hcs, -⟩ := bind_ok h
    exact ⟨⟨n, hn⟩, ⟨cs, hcs⟩⟩
  · rintro ⟨⟨n, hn⟩, ⟨cs, hcs⟩⟩
    exact ⟨_, by rw [hn, hcs]; rfl⟩

theorem KadPacket.encodeBody_isOk_iff (p : KadPacket) :
    (∃ bs, encodeBody p = .ok bs) ↔ Fits p := by
  cases p with
  | bootstrapRes p => exact (isOk_bind_pure_iff _ _).trans (isOk_expectBelow_iff _ _ _)
  | helloReq p => exact (isOk_bind_pure_iff _ _).trans (writeTags_isOk_iff _)
  | helloRes p => exact (isOk_bind_pure_iff _ _).trans (writeTags_isOk_iff _)
  | helloResAck p => exact (isOk_bind_pure_iff _ _).trans (writeTags_isOk_iff _)
  | res p => exact (isOk_bind_pure_iff _ _).trans (isOk_expectBelow_iff _ _ _)
  | searchRes p =>
    refine (isOk_counted_iff SearchResultEntry.write p.results _ _ _).trans ?_
    simp only [SearchResultEntry.write_isOk_iff, Fits]
  | publishKeyReq p =>
    refine (isOk_counted_iff PublishEntry.write p.entries _ _ _).trans ?_
    simp only [PublishEntry.write_isOk_iff, Fits]
  | publishSourceReq p => exact (isOk_bind_pure_iff _ _).trans (writeTags_isOk_iff _)
  | publishNotesReq p => exact (isOk_bind_pure_iff _ _).trans (writeTags_isOk_iff _)
  | _ => exact ⟨fun _ => trivial, fun _ => ⟨_, rfl⟩⟩

/-- **No `expect` of the encoder fires exactly when every count and length fits.** -/
theorem KadPacket.encode_isOk_iff (p : KadPacket) : (∃ bs, encode p = .ok bs) ↔ Fits p :=
  (isOk_bind_pure_iff _ _).trans (encodeBody_isOk_iff p)

/-! ## Record by record -/

section Records

variable {dec : Bytes → String}

theorem reads_writeTags (hdec : ∀ s, dec (asBytes s) = s) {tags : List Tag} {bs : Bytes}
    (h : writeTags tags = .ok bs) : Reads (readTags dec) bs (tags.map Tag.normalise) := by
  obtain ⟨n, hn, h⟩ := bind_ok h
  obtain ⟨cs, hcs, h⟩ := bind_ok h
  obtain ⟨hlt, rfl⟩ := expectBelow_ok hn
  cases h
  refine (reads_getU8 _ _).bind ?_
  rw [UInt8.toNat_ofNat_of_lt' hlt]
  exact reads_getMany (fun tag _ => Tag.reads_write hdec tag) hcs

theorem ContactEntry.reads_write (c : ContactEntry) : Reads ContactEntry.read c.write c :=
  (NodeId.reads_write _).field <| (reads_getU32 _ _).field <| (reads_getU16 _ _).field <|
    (reads_getU16 _ _).field (reads_getU8 _ _).lastField

theorem reads_writeContacts (contacts : List ContactEntry) :
    Reads (getMany contacts.length ContactEntry.read) (writeContacts contacts) contacts :=
  reads_getMany_flatMap fun contact _ => contact.reads_write

theorem BootstrapRes.reads_write {p : BootstrapRes} {bs : Bytes} (h : p.write = .ok bs) :
    Reads BootstrapRes.read bs p := by
  obtain ⟨n, hn, h⟩ := bind_ok h
  obtain ⟨hlt, rfl⟩ := expectBelow_ok hn
  cases h
  refine (NodeId.reads_write _).field <| (reads_getU16 _ _).field <| (reads_getU8 _ _).field <|
    (reads_getU16 _ _).field ?_
  rw [UInt16.toNat_ofNat_of_lt' hlt]
  exact (reads_writeContacts _).lastField

theorem HelloReq.reads_write (hdec : ∀ s, dec (asBytes s) = s) {p : HelloReq} {bs : Bytes}
    (h : HelloReq.write p = .ok bs) :
    Reads (HelloReqOf.read dec) bs { p with tags := p.tags.map Tag.normalise } := by
  obtain ⟨tags, htags, h⟩ := bind_ok h
  cases h
  exact (NodeId.reads_write _).field <| (reads_getU16 _ _).field <| (reads_getU8 _ _).field
    (reads_writeTags hdec htags).lastField

theorem HelloRes.reads_write (hdec : ∀ s, dec (asBytes s) = s) {p : HelloRes} {bs : Bytes}
    (h : HelloRes.write p = .ok bs) :
    Reads (HelloResOf.read dec) bs { p with tags := p.tags.map Tag.normalise } := by
  obtain ⟨tags, htags, h⟩ := bind_ok h
  cases h
  exact (NodeId.reads_write _).field <| (reads_getU16 _ _).field <| (reads_getU8 _ _).field
    (reads_writeTags hdec htags).lastField

theorem HelloResAck.reads_write (hdec : ∀ s, dec (asBytes s) = s) {p : HelloResAck} {bs : Bytes}
    (h : HelloResAck.write p = .ok bs) :
    Reads (HelloResAckOf.read dec) bs { p with tags := p.tags.map Tag.normalise } := by
  obtain ⟨tags, htags, h⟩ := bind_ok h
  cases h
  exact (NodeId.reads_write _).field (reads_writeTags hdec htags).lastField

theorem Req.reads_write (p : Req) : Reads Req.read p.write p :=
  (reads_getU8 _ _).field <| (NodeId.reads_write _).field (NodeId.reads_write _).lastField

theorem Res.reads_write {p : Res} {bs : Bytes} (h : p.write = .ok bs) : Reads Res.read bs p := by
  obtain ⟨n, hn, h⟩ := bind_ok h
  obtain ⟨hlt, rfl⟩ := expectBelow_ok hn
  cases h
  refine (NodeId.reads_write _).field <| (reads_getU8 _ _).field ?_
  rw [UInt8.toNat_ofNat_of_lt' hlt]
  exact (reads_writeContacts _).lastField

theorem SearchNotesReq.reads_write (p : SearchNotesReq) : Reads SearchNotesReq.read p.write p :=
  (NodeId.reads_write _).field (reads_getU64 _ _).lastField

theorem reads_writeKadSearchEntryId (h : Ed2kHash) :
    Reads readKadSearchEntryId (writeKadSearchEntryId h) h := by
  have hr := (NodeId.reads_write (NodeId.fromBeBytes h.bytes)).bind_pure fun id =>
    Ed2kHash.mk id.toBeBytes
  rwa [NodeId.toBeBytes_fromBeBytes] at hr

theorem SearchResultEntry.reads_write (hdec : ∀ s, dec (asBytes s) = s) (r : SearchResultEntry)
    (bs : Bytes) (h : SearchResultEntry.write r = .ok bs) :
    Reads (SearchResultEntryOf.read dec) bs { r with tags := r.tags.map Tag.normalise } := by
  obtain ⟨tags, htags, h⟩ := bind_ok h
  cases h
  exact (reads_writeKadSearchEntryId _).field (reads_writeTags hdec htags).lastField

theorem SearchRes.reads_write (hdec : ∀ s, dec (asBytes s) = s) {p : SearchRes} {bs : Bytes}
    (h : SearchRes.write p = .ok bs) :
    Reads (SearchResOf.read dec) bs { p with
      results := p.results.map fun r => { r with tags := r.tags.map Tag.normalise } } := by
  obtain ⟨n, hn, h⟩ := bind_ok h
  obtain ⟨hlt, rfl⟩ := expectBelow_ok hn
  obtain ⟨cs, hcs, h⟩ := bind_ok h
  cases h
  refine (NodeId.reads_write _).field <| (NodeId.reads_write _).field <| (reads_getU16 _ _).field ?_
  rw [UInt16.toNat_ofNat_of_lt' hlt]
  exact (reads_getMany (fun entry _ => SearchResultEntry.reads_write hdec entry) hcs).lastField

theorem PublishEntry.reads_write (hdec : ∀ s, dec (asBytes s) = s) (e : PublishEntry) (bs : Bytes)
    (h : PublishEntry.write e = .ok bs) :
    Reads (PublishEntryOf.read dec) bs { e with tags := e.tags.map Tag.normalise } := by
  obtain ⟨tags, htags, h⟩ := bind_ok h
  cases h
  exact (Ed2kHash.reads_write _).field (reads_writeTags hdec htags).lastField

theorem PublishKeyReq.reads_write (hdec : ∀ s, dec (asBytes s) = s) {p : PublishKeyReq}
    {bs : Bytes} (h : PublishKeyReq.write p = .ok bs) :
    Reads (PublishKeyReqOf.read dec) bs { p with
      entries := p.entries.map fun e => { e with tags := e.tags.map Tag.normalise } } := by
  obtain ⟨n, hn, h⟩ := bind_ok h
  obtain ⟨hlt, rfl⟩ := expectBelow_ok hn
  obtain ⟨cs, hcs, h⟩ := bind_ok h
  cases h
  refine (NodeId.reads_write _).field <| (reads_getU16 _ _).field ?_
  rw [UInt16.toNat_ofNat_of_lt' hlt]
  exact (reads_getMany (fun entry _ => PublishEntry.reads_write hdec entry) hcs).lastField

theorem PublishSourceReq.reads_write (hdec : ∀ s, dec (asBytes s) = s) {p : PublishSourceReq}
    {bs : Bytes} (h : PublishSourceReq.write p = .ok bs) :
    Reads (PublishSourceReqOf.read dec) bs { p with tags := p.tags.map Tag.normalise } := by
  obtain ⟨tags, htags, h⟩ := bind_ok h
  cases h
  exact (NodeId.reads_write _).field <|
    (NodeId.reads_write _).field (reads_writeTags hdec htags).lastField

theorem PublishNotesReq.reads_write (hdec : ∀ s, dec (asBytes s) = s) {p : PublishNotesReq}
    {bs : Bytes} (h : PublishNotesReq.write p = .ok bs) :
    Reads (PublishNotesReqOf.read dec) bs { p with tags := p.tags.map Tag.normalise } := by
  obtain ⟨tags, htags, h⟩ := bind_ok h
  cases h
  exact (NodeId.reads_write _).field <|
    (NodeId.reads_write _).field (reads_writeTags hdec htags).lastField

theorem FirewalledReq.reads_write (p : FirewalledReq) : Reads FirewalledReq.read p.write p :=
  (reads_getU16 _ _).bind_pure FirewalledReq.mk

theorem FirewalledRes.reads_write (p : FirewalledRes) : Reads FirewalledRes.read p.write p :=
  (reads_getU32 _ _).bind_pure FirewalledRes.mk

theorem Pong.reads_write (p : Pong) : Reads Pong.read p.write p :=
  (reads_getU16 _ _).bind_pure Pong.mk

theorem Firewalled2Req.reads_write (p : Firewalled2Req) : Reads Firewalled2Req.read p.write p :=
  (reads_getU16 _ _).field <| (Ed2kHash.reads_write _).field (reads_getU8 _ _).lastField

theorem FirewallUdp.reads_write (p : FirewallUdp) : Reads FirewallUdp.read p.write p :=
  (reads_getU8 _ _).field (reads_getU16 _ _).lastField

theorem FindBuddyReq.reads_write (p : FindBuddyReq) : Reads FindBuddyReq.read p.write p :=
  (NodeId.reads_write _).field <| (Ed2kHash.reads_write _).field (reads_getU16 _ _).lastField

theorem CallbackReq.reads_write (p : CallbackReq) : Reads CallbackReq.read p.write p :=
  (NodeId.reads_write _).field <| (Ed2kHash.reads_write _).field (reads_getU16 _ _).lastField

end Records

/-! ## Records that read to the end of the body -/

theorem parse_of_reads {α : Type} {g : Read α} {bs : Bytes} {a : α} (h : Reads g bs a) :
    parse g bs = .ok a := by
  rw [parse, h.run_nil]
  rfl

theorem SearchKeyReq.parse_write (p : SearchKeyReq) : parse SearchKeyReq.read p.write = .ok p := by
  rw [parse, SearchKeyReq.read, SearchKeyReq.write, (NodeId.reads_write _).run_field,
    (reads_getU16 _ _).run_field, List.flatten_singleton]
  rfl

/-- The offset is masked by the reader only, so its top bit is sent and lost. -/
theorem SearchSourceReq.parse_write (p : SearchSourceReq) :
    parse SearchSourceReq.read p.write =
      .ok { p with startPosition := p.startPosition &&& 0x7FFF } := by
  have hlen : [putU16 p.startPosition, putU64 p.size].flatten.length = 10 := by simp
  rw [parse, SearchSourceReq.read, SearchSourceReq.write, (NodeId.reads_write _).run_field,
    run_bind_of_ok (run_remaining _), hlen]
  exact congrArg (Prod.fst <$> ·)
    (((reads_getU16 _ _).field (reads_getU64 _ _).lastField).run_nil)

theorem run_readTrailingByte (b : Option UInt8) :
    readTrailingByte.run (writeTrailingByte b) = .ok (b, []) := by
  cases b with
  | none => rfl
  | some b => rfl

theorem PublishRes.parse_write (p : PublishRes) : parse PublishRes.read p.write = .ok p := by
  rw [parse, PublishRes.read, PublishRes.write, (NodeId.reads_write _).run_field,
    (reads_getU8 _ _).run_field, List.flatten_singleton, run_bind_of_ok (run_readTrailingByte _)]
  rfl

theorem FindBuddyRes.parse_write (p : FindBuddyRes) : parse FindBuddyRes.read p.write = .ok p := by
  rw [parse, FindBuddyRes.read, FindBuddyRes.write, (NodeId.reads_write _).run_field,
    (Ed2kHash.reads_write _).run_field, (reads_getU16 _ _).run_field, List.flatten_singleton,
    run_bind_of_ok (run_readTrailingByte _)]
  rfl

/-! ## Packet by packet -/

section Packets

variable {σ : Type}

theorem parse_bind {α : Type} {g : Read α} {bs : Bytes} {a : α} (h : parse g bs = .ok a)
    (f : α → KadPacketOf σ) : (parse g bs >>= fun x => pure (f x)) = .ok (f a) := by
  rw [h]
  rfl

theorem requireMinBodyLen_bind {op : UInt8} {body : Bytes} {n : Nat} (hlen : n ≤ body.length)
    (f : Unit → Except ProtoError (KadPacketOf σ)) :
    (requireMinBodyLen op body n >>= f) = f () := by
  rw [requireMinBodyLen, if_pos hlen]
  rfl

/-- An opcode no packet kind owns decodes to `Unknown`. -/
theorem KadPacketOf.decodeBody_of_not_known (dec : StringDecodeMode → Bytes → σ) {op : UInt8}
    (hop : op ∉ opcode.known) (body : Bytes) : decodeBody dec op body = .ok (.unknown op body) := by
  unfold decodeBody
  split
  all_goals first
    | rfl
    | exact absurd (by decide) hop

end Packets

theorem KadPacket.decodeBody_encodeBody {dec : StringDecodeMode → Bytes → String}
    (hdec : ∀ m s, dec m (asBytes s) = s) {p : KadPacket} {body : Bytes} (hown : OwnOpcode p)
    (h : encodeBody p = .ok body) :
    KadPacketOf.decodeBody dec p.opcode body = .ok (normalise p) := by
  cases p with
  | bootstrapRes p => exact parse_bind (parse_of_reads (BootstrapRes.reads_write h)) _
  | helloReq p => exact parse_bind (parse_of_reads (HelloReq.reads_write (hdec _) h)) _
  | helloRes p => exact parse_bind (parse_of_reads (HelloRes.reads_write (hdec _) h)) _
  | helloResAck p => exact parse_bind (parse_of_reads (HelloResAck.reads_write (hdec _) h)) _
  | res p => exact parse_bind (parse_of_reads (Res.reads_write h)) _
  | searchRes p => exact parse_bind (parse_of_reads (SearchRes.reads_write (hdec _) h)) _
  | publishKeyReq p => exact parse_bind (parse_of_reads (PublishKeyReq.reads_write (hdec _) h)) _
  | publishSourceReq p =>
    exact parse_bind (parse_of_reads (PublishSourceReq.reads_write (hdec _) h)) _
  | publishNotesReq p =>
    exact parse_bind (parse_of_reads (PublishNotesReq.reads_write (hdec _) h)) _
  -- From here on the writer cannot fail, and the body is what it wrote.
  | req p => cases h; exact parse_bind (parse_of_reads p.reads_write) _
  | searchKeyReq p => cases h; exact parse_bind p.parse_write _
  | searchSourceReq p => cases h; exact parse_bind p.parse_write _
  | searchNotesReq p => cases h; exact parse_bind (parse_of_reads p.reads_write) _
  | publishRes p =>
    cases h
    refine (requireMinBodyLen_bind ?_ _).trans (parse_bind p.parse_write _)
    simp only [PublishRes.write, List.length_flatten, List.map_cons, List.sum_cons,
      NodeId.length_write, length_putU8]
    omega
  | firewalledReq p => cases h; exact parse_bind (parse_of_reads p.reads_write) _
  | firewalled2Req p => cases h; exact parse_bind (parse_of_reads p.reads_write) _
  | firewalledRes p => cases h; exact parse_bind (parse_of_reads p.reads_write) _
  | firewallUdp p =>
    cases h
    refine (requireMinBodyLen_bind ?_ _).trans (parse_bind (parse_of_reads p.reads_write) _)
    simp [FirewallUdp.write]
  | findBuddyReq p =>
    cases h
    refine (requireMinBodyLen_bind ?_ _).trans (parse_bind (parse_of_reads p.reads_write) _)
    simp [FindBuddyReq.write]
  | findBuddyRes p =>
    cases h
    refine (requireMinBodyLen_bind ?_ _).trans (parse_bind p.parse_write _)
    simp only [FindBuddyRes.write, List.length_flatten, List.map_cons, List.sum_cons,
      NodeId.length_write, Ed2kHash.length_write, length_putU16]
    omega
  | callbackReq p =>
    cases h
    refine (requireMinBodyLen_bind ?_ _).trans (parse_bind (parse_of_reads p.reads_write) _)
    simp [CallbackReq.write]
  | pong p => cases h; exact parse_bind (parse_of_reads p.reads_write) _
  | unknown op payload => cases h; exact KadPacketOf.decodeBody_of_not_known dec hown _
  | bootstrapReq | publishResAck | firewalledAckRes | ping => cases h; rfl

/-- What was encoded is never compressed, so the inflater plays no part. -/
theorem KadPacket.decodeWith_encode (inflate : Bytes → Option Bytes)
    {dec : StringDecodeMode → Bytes → String} (hdec : ∀ m s, dec m (asBytes s) = s)
    {p : KadPacket} {bs : Bytes} (hown : OwnOpcode p) (h : encode p = .ok bs) :
    KadPacketOf.decodeWith inflate dec bs = .ok (normalise p) := by
  obtain ⟨body, hbody, h⟩ := bind_ok h
  cases h
  exact decodeBody_encodeBody hdec hown hbody

theorem KadPacket.decode_of_encode (pf : Platform) {p : KadPacket} {bs : Bytes}
    (hown : OwnOpcode p) (h : encode p = .ok bs) : decode pf bs = .ok (normalise p) :=
  decodeWith_encode pf.inflate (decodeStringBytes_asBytes pf) hown h

/-- **Decoding inverts encoding up to normalisation.**  A packet whose counted fields fit their
wire width, and which does not hide another kind's opcode in `Unknown`, is encoded, and decoding
the bytes gives its normal form. -/
theorem KadPacket.decode_encode_of_fits (pf : Platform) (p : KadPacket) (hfits : Fits p)
    (hown : OwnOpcode p) : ∃ bs, encode p = .ok bs ∧ decode pf bs = .ok (normalise p) := by
  obtain ⟨bs, h⟩ := (encode_isOk_iff p).mpr hfits
  exact ⟨bs, h, decode_of_encode pf hown h⟩

/-- The first two normalisations at work: an untyped 300 under the string name `"a"` comes back as
a `u16` under a short name. -/
theorem KadPacket.decode_encode_of_fits_hello :
    ∃ bs, encode (.helloReq ⟨NodeId.ZERO, 4662, 9, [⟨.long "a", .uint 300⟩]⟩) = .ok bs ∧
      decode ⟨fun _ => "", fun _ => none⟩ bs =
        .ok (.helloReq ⟨NodeId.ZERO, 4662, 9, [⟨.short 0x61, .u16 300⟩]⟩) :=
  decode_encode_of_fits _ (.helloReq ⟨NodeId.ZERO, 4662, 9, [⟨.long "a", .uint 300⟩]⟩)
    ⟨by decide, by simp [Tag.Fits, TagName.Fits, TagValue.Fits]; decide⟩ trivial

end Overlord.Kad
