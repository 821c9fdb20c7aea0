import Overlord.Kad.Proto.RoundTrip

/-!
# What the decoder lets through

The converse reading of the codec: start from a buffer that `KadPacket::decode` accepted, and ask
whether the packet can be sent again and read back unchanged.

Almost everything about a decoded packet fits by construction, because it was read with a count of
the width it is written with.  `KadPacketOf.FromWire` collects that, and
`KadPacketOf.fromWire_decodeWith` proves it of every accepted buffer.  The exception is text.  The
bytes of a name or a string are decoded on the way in, and the decoded text may be longer than the
bytes were.  So the condition for a buffer to survive is about its *undecoded* strings, and to
state it the buffer is also decoded with the strings left alone: `KadPacketOf.decodeWith_comp` says
that the packet is that raw packet with its strings decoded afterwards.

* `KadPacketOf.fits_iff` and `KadPacketOf.normalise_eq_self_iff` reduce both questions to the tags
  of the packet.
* `TextFits` is the condition on one raw tag, `Resendable` the condition on a buffer.
* `KadPacket.encode_decode_iff` is the answer: the packet survives exactly when the buffer is
  `Resendable`, and `KadPacket.encode_decode_panics` is a buffer that is not.
-/

set_option autoImplicit false

namespace Overlord.Kad

open Wire

variable {σ τ : Type}

/-! ## Decoding the strings afterwards -/

def HelloReqOf.map (f : σ → τ) (p : HelloReqOf σ) : HelloReqOf τ :=
  ⟨p.nodeId, p.tcpPort, p.version, p.tags.map (TagOf.map f)⟩

def HelloResOf.map (f : σ → τ) (p : HelloResOf σ) : HelloResOf τ :=
  ⟨p.nodeId, p.tcpPort, p.version, p.tags.map (TagOf.map f)⟩

def HelloResAckOf.map (f : σ → τ) (p : HelloResAckOf σ) : HelloResAckOf τ :=
  ⟨p.nodeId, p.tags.map (TagOf.map f)⟩

def SearchResultEntryOf.map (f : σ → τ) (r : SearchResultEntryOf σ) : SearchResultEntryOf τ :=
  ⟨r.entryId, r.tags.map (TagOf.map f)⟩

def SearchResOf.map (f : σ → τ) (p : SearchResOf σ) : SearchResOf τ :=
  ⟨p.senderId, p.target, p.results.map (SearchResultEntryOf.map f)⟩

def PublishEntryOf.map (f : σ → τ) (e : PublishEntryOf σ) : PublishEntryOf τ :=
  ⟨e.hash, e.tags.map (TagOf.map f)⟩

def PublishKeyReqOf.map (f : σ → τ) (p : PublishKeyReqOf σ) : PublishKeyReqOf τ :=
  ⟨p.target, p.entries.map (PublishEntryOf.map f)⟩

def PublishSourceReqOf.map (f : σ → τ) (p : PublishSourceReqOf σ) : PublishSourceReqOf τ :=
  ⟨p.target, p.publisherId, p.tags.map (TagOf.map f)⟩

def PublishNotesReqOf.map (f : σ → τ) (p : PublishNotesReqOf σ) : PublishNotesReqOf τ :=
  ⟨p.target, p.publisherId, p.tags.map (TagOf.map f)⟩

/-- The mode in which the strings of a packet are decoded. -/
def KadPacketOf.mode : KadPacketOf σ → StringDecodeMode
  | .searchRes _ => .searchResult
  | _ => .lossyUtf8

/-- Decode the strings of a packet, each in the mode of the packet. -/
def KadPacketOf.decodeStrings (f : StringDecodeMode → σ → τ) : KadPacketOf σ → KadPacketOf τ
  | .bootstrapReq => .bootstrapReq
  | .bootstrapRes p => .bootstrapRes p
  | .helloReq p => .helloReq (p.map (f .lossyUtf8))
  | .helloRes p => .helloRes (p.map (f .lossyUtf8))
  | .helloResAck p => .helloResAck (p.map (f .lossyUtf8))
  | .req p => .req p
  | .res p => .res p
  | .searchKeyReq p => .searchKeyReq p
  | .searchSourceReq p => .searchSourceReq p
  | .searchNotesReq p => .searchNotesReq p
  | .searchRes p => .searchRes (p.map (f .searchResult))
  | .publishKeyReq p => .publishKeyReq (p.map (f .lossyUtf8))
  | .publishSourceReq p => .publishSourceReq (p.map (f .lossyUtf8))
  | .publishNotesReq p => .publishNotesReq (p.map (f .lossyUtf8))
  | .publishRes p => .publishRes p
  | .publishResAck => .publishResAck
  | .firewalledReq p => .firewalledReq p
  | .firewalled2Req p => .firewalled2Req p
  | .firewalledRes p => .firewalledRes p
  | .firewalledAckRes => .firewalledAckRes
  | .firewallUdp p => .firewallUdp p
  | .findBuddyReq p => .findBuddyReq p
  | .findBuddyRes p => .findBuddyRes p
  | .callbackReq p => .callbackReq p
  | .ping => .ping
  | .pong p => .pong p
  | .unknown op payload => .unknown op payload

section Naturality

variable (f : σ → τ) (dec : Bytes → σ)

theorem readTags_comp : readTags (f ∘ dec) = List.map (TagOf.map f) <$> readTags dec := by
  simp only [readTags, map_bind, TagOf.readWith_comp, getMany_map]

theorem HelloReqOf.read_comp : read (f ∘ dec) = HelloReqOf.map f <$> read dec := by
  simp [read, readTags_comp, HelloReqOf.map]

theorem HelloResOf.read_comp : read (f ∘ dec) = HelloResOf.map f <$> read dec := by
  simp [read, readTags_comp, HelloResOf.map]

theorem HelloResAckOf.read_comp : read (f ∘ dec) = HelloResAckOf.map f <$> read dec := by
  simp [read, readTags_comp, HelloResAckOf.map]

theorem SearchResultEntryOf.read_comp :
    read (f ∘ dec) = SearchResultEntryOf.map f <$> read dec := by
  simp [read, readTags_comp, SearchResultEntryOf.map]

theorem SearchResOf.read_comp : read (f ∘ dec) = SearchResOf.map f <$> read dec := by
  simp [read, SearchResultEntryOf.read_comp, getMany_map, SearchResOf.map]

theorem PublishEntryOf.read_comp : read (f ∘ dec) = PublishEntryOf.map f <$> read dec := by
  simp [read, readTags_comp, PublishEntryOf.map]

theorem PublishKeyReqOf.read_comp : read (f ∘ dec) = PublishKeyReqOf.map f <$> read dec := by
  simp [read, PublishEntryOf.read_comp, getMany_map, PublishKeyReqOf.map]

theorem PublishSourceReqOf.read_comp : read (f ∘ dec) = PublishSourceReqOf.map f <$> read dec := by
  simp [read, readTags_comp, PublishSourceReqOf.map]

theorem PublishNotesReqOf.read_comp : read (f ∘ dec) = PublishNotesReqOf.map f <$> read dec := by
  simp [read, readTags_comp, PublishNotesReqOf.map]

end Naturality

theorem parse_map {α β : Type} (f : α → β) (g : Read α) (body : Bytes) :
    parse (f <$> g) body = f <$> parse g body := by
  rw [parse, parse, StateT.run_map]
  cases g.run body with
  | error e => rfl
  | ok r => rfl

theorem KadPacketOf.decodeBody_comp (f : StringDecodeMode → σ → τ)
    (dec : StringDecodeMode → Bytes → σ) (op : UInt8) (body : Bytes) :
    decodeBody (fun m => f m ∘ dec m) op body = decodeStrings f <$> decodeBody dec op body := by
  unfold decodeBody
  split
  all_goals simp [HelloReqOf.read_comp, HelloResOf.read_comp, HelloResAckOf.read_comp,
    SearchResOf.read_comp, PublishKeyReqOf.read_comp, PublishSourceReqOf.read_comp,
    PublishNotesReqOf.read_comp, parse_map, decodeStrings]

/-- **Strings can be decoded afterwards.**  Decoding a buffer is decoding it with the strings left
alone and decoding the strings of the result. -/
theorem KadPacketOf.decodeWith_comp (inflate : Bytes → Option Bytes) (f : StringDecodeMode → σ → τ)
    (dec : StringDecodeMode → Bytes → σ) (buf : Bytes) :
    decodeWith inflate (fun m => f m ∘ dec m) buf =
      decodeStrings f <$> decodeWith inflate dec buf := by
  unfold decodeWith
  split
  · split_ifs
    · split
      · rfl
      · exact decodeBody_comp f dec _ _
    · exact decodeBody_comp f dec _ _
    · rfl
  · rfl

/-! ## What every accepted packet satisfies -/

/-- A tag list as the reader builds it. -/
def TagsFromWire (tags : List (TagOf σ)) : Prop :=
  tags.length < 2 ^ 8 ∧ ∀ t ∈ tags, t.value.FromWire

/-- A packet as the decoder builds it. -/
def KadPacketOf.FromWire : KadPacketOf σ → Prop
  | .bootstrapRes p => p.contacts.length < 2 ^ 16
  | .helloReq p => TagsFromWire p.tags
  | .helloRes p => TagsFromWire p.tags
  | .helloResAck p => TagsFromWire p.tags
  | .res p => p.contacts.length < 2 ^ 8
  | .searchSourceReq p => p.startPosition &&& 0x7FFF = p.startPosition
  | .searchRes p => p.results.length < 2 ^ 16 ∧ ∀ r ∈ p.results, TagsFromWire r.tags
  | .publishKeyReq p => p.entries.length < 2 ^ 16 ∧ ∀ e ∈ p.entries, TagsFromWire e.tags
  | .publishSourceReq p => TagsFromWire p.tags
  | .publishNotesReq p => TagsFromWire p.tags
  | .unknown op _ => op ∉ opcode.known
  | _ => True

section Yields

variable (dec : Bytes → σ)

theorem yields_readTags : Yields (readTags dec) TagsFromWire :=
  Yields.skip fun tagCount => (yields_getMany (TagOf.yields_readWith dec) _).mono
    fun _ h => ⟨h.1.trans_lt tagCount.toNat_lt, h.2⟩

theorem HelloReqOf.yields_read : Yields (read dec) fun p => TagsFromWire p.tags :=
  Yields.skip fun _ => Yields.skip fun _ => Yields.skip fun _ =>
    (yields_readTags dec).bind fun _ h => Yields.pure h

theorem HelloResOf.yields_read : Yields (read dec) fun p => TagsFromWire p.tags :=
  Yields.skip fun _ => Yields.skip fun _ => Yields.skip fun _ =>
    (yields_readTags dec).bind fun _ h => Yields.pure h

theorem HelloResAckOf.yields_read : Yields (read dec) fun p => TagsFromWire p.tags :=
  Yields.skip fun _ => (yields_readTags dec).bind fun _ h => Yields.pure h

theorem SearchResultEntryOf.yields_read : Yields (read dec) fun r => TagsFromWire r.tags :=
  Yields.skip fun _ => (yields_readTags dec).bind fun _ h => Yields.pure h

theorem SearchResOf.yields_read : Yields (read dec) fun p =>
    p.results.length < 2 ^ 16 ∧ ∀ r ∈ p.results, TagsFromWire r.tags :=
  Yields.skip fun _ => Yields.skip fun _ => Yields.skip fun count =>
    (yields_getMany (SearchResultEntryOf.yields_read dec) _).bind
      fun _ h => Yields.pure ⟨h.1.trans_lt count.toNat_lt, h.2⟩

theorem PublishEntryOf.yields_read : Yields (read dec) fun e => TagsFromWire e.tags :=
  Yields.skip fun _ => (yields_readTags dec).bind fun _ h => Yields.pure h

theorem PublishKeyReqOf.yields_read : Yields (read dec) fun p =>
    p.entries.length < 2 ^ 16 ∧ ∀ e ∈ p.entries, TagsFromWire e.tags :=
  Yields.skip fun _ => Yields.skip fun count =>
    (yields_getMany (PublishEntryOf.yields_read dec) _).bind
      fun _ h => Yields.pure ⟨h.1.trans_lt count.toNat_lt, h.2⟩

theorem PublishSourceReqOf.yields_read : Yields (read dec) fun p => TagsFromWire p.tags :=
  Yields.skip fun _ => Yields.skip fun _ => (yields_readTags dec).bind fun _ h => Yields.pure h

theorem PublishNotesReqOf.yields_read : Yields (read dec) fun p => TagsFromWire p.tags :=
  Yields.skip fun _ => Yields.skip fun _ => (yields_readTags dec).bind fun _ h => Yields.pure h

theorem BootstrapRes.yields_read : Yields read fun p => p.contacts.length < 2 ^ 16 :=
  Yields.skip fun _ => Yields.skip fun _ => Yields.skip fun _ => Yields.skip fun count =>
    (yields_getMany (Yields.trivial _) _).bind
      fun _ h => Yields.pure (h.1.trans_lt count.toNat_lt)

theorem Res.yields_read : Yields read fun p => p.contacts.length < 2 ^ 8 :=
  Yields.skip fun _ => Yields.skip fun count =>
    (yields_getMany (Yields.trivial _) _).bind
      fun _ h => Yields.pure (h.1.trans_lt count.toNat_lt)

/-- Two of the three shapes carry no offset, the third is masked. -/
theorem SearchSourceReq.yields_read :
    Yields read fun p => p.startPosition &&& 0x7FFF = p.startPosition := by
  refine Yields.skip fun target => Yields.skip fun left => ?_
  split
  · exact Yields.skip fun _ => Yields.pure (show (0 : UInt16) &&& 0x7FFF = 0 by decide)
  · exact Yields.skip fun _ => Yields.pure (show (0 : UInt16) &&& 0x7FFF = 0 by decide)
  · refine Yields.skip fun pos => Yields.skip fun size => Yields.pure ?_
    show pos &&& 0x7FFF &&& 0x7FFF = pos &&& 0x7FFF
    rw [UInt16.and_assoc, UInt16.and_self]
  · exact Yields.throw _ _

end Yields

theorem KadPacketOf.fromWire_of_parse {α : Type} {g : Read α} {mk : α → KadPacketOf σ}
    {body : Bytes} {p : KadPacketOf σ} (h : (parse g body >>= fun a => pure (mk a)) = .ok p)
    (hg : Yields g fun a => (mk a).FromWire) : p.FromWire := by
  obtain ⟨a, ha, h⟩ := bind_ok h
  cases h
  rw [parse] at ha
  cases hr : g.run body with
  | error e => rw [hr] at ha; cases ha
  | ok r =>
    rw [hr] at ha
    cases ha
    exact hg.of_run hr

theorem KadPacketOf.fromWire_decodeBody {dec : StringDecodeMode → Bytes → σ} {op : UInt8}
    {body : Bytes} {p : KadPacketOf σ} (h : decodeBody dec op body = .ok p) : p.FromWire := by
  unfold decodeBody at h
  split at h
  case h_2 => exact fromWire_of_parse h BootstrapRes.yields_read
  case h_3 => exact fromWire_of_parse h (HelloReqOf.yields_read _)
  case h_4 => exact fromWire_of_parse h (HelloResOf.yields_read _)
  case h_5 => exact fromWire_of_parse h (HelloResAckOf.yields_read _)
  case h_7 => exact fromWire_of_parse h Res.yields_read
  case h_9 => exact fromWire_of_parse h SearchSourceReq.yields_read
  case h_11 => exact fromWire_of_parse h (SearchResOf.yields_read _)
  case h_12 => exact fromWire_of_parse h (PublishKeyReqOf.yields_read _)
  case h_13 => exact fromWire_of_parse h (PublishSourceReqOf.yields_read _)
  case h_14 => exact fromWire_of_parse h (PublishNotesReqOf.yields_read _)
  case h_27 =>
    cases h
    simp_all [FromWire, opcode.known]
  -- The other kinds carry nothing that is counted, with or without a length check in front.
  all_goals first
    | cases h; trivial
    | exact fromWire_of_parse h (Yields.trivial _)
    | obtain ⟨_, -, h⟩ := bind_ok h
      first
        | cases h; trivial
        | exact fromWire_of_parse h (Yields.trivial _)

/-- **Whatever is accepted was counted with the width it is written with.** -/
theorem KadPacketOf.fromWire_decodeWith {inflate : Bytes → Option Bytes}
    {dec : StringDecodeMode → Bytes → σ} {buf : Bytes} {p : KadPacketOf σ}
    (h : decodeWith inflate dec buf = .ok p) : p.FromWire := by
  unfold decodeWith at h
  split at h
  · split_ifs at h
    · split at h
      · cases h
      · exact fromWire_decodeBody h
    · exact fromWire_decodeBody h
  · cases h

/-! ## Everything is decided by the tags -/

/-- The tags of a packet, those of its entries included. -/
def KadPacketOf.tags : KadPacketOf σ → List (TagOf σ)
  | .helloReq p => p.tags
  | .helloRes p => p.tags
  | .helloResAck p => p.tags
  | .searchRes p => p.results.flatMap SearchResultEntryOf.tags
  | .publishKeyReq p => p.entries.flatMap PublishEntryOf.tags
  | .publishSourceReq p => p.tags
  | .publishNotesReq p => p.tags
  | _ => []

theorem KadPacketOf.tags_decodeStrings (f : StringDecodeMode → σ → τ) (p : KadPacketOf σ) :
    (p.decodeStrings f).tags = p.tags.map (TagOf.map (f p.mode)) := by
  cases p with
  | searchRes p =>
    simp only [decodeStrings, tags, SearchResOf.map, List.flatMap_map, List.map_flatMap]
    rfl
  | publishKeyReq p =>
    simp only [decodeStrings, tags, PublishKeyReqOf.map, List.flatMap_map, List.map_flatMap]
    rfl
  | _ => rfl

theorem map_eq_self_iff {α : Type} (f : α → α) (l : List α) :
    l.map f = l ↔ ∀ a ∈ l, f a = a := by
  simpa using List.map_inj_left (l := l) (f := f) (g := id)

theorem forall_mem_flatMap {α β : Type} {f : α → List β} {l : List α} {P : β → Prop} :
    (∀ b ∈ l.flatMap f, P b) ↔ ∀ a ∈ l, ∀ b ∈ f a, P b := by
  simp only [List.mem_flatMap, forall_exists_index, and_imp]
  exact ⟨fun H a ha b hb => H b a ha hb, fun H b a ha hb => H a ha b hb⟩

theorem tagsFit_iff {tags : List Tag} (h : TagsFromWire tags) :
    TagsFit tags ↔ ∀ t ∈ tags, Tag.Fits t :=
  and_iff_right h.1

/-- A decoded packet can be written as soon as each of its tags can. -/
theorem KadPacket.fits_iff {p : KadPacket} (h : p.FromWire) :
    Fits p ↔ ∀ t ∈ p.tags, Tag.Fits t := by
  cases p with
  | bootstrapRes p => exact iff_of_true h (by simp [KadPacketOf.tags])
  | res p => exact iff_of_true h (by simp [KadPacketOf.tags])
  | helloReq p => exact tagsFit_iff h
  | helloRes p => exact tagsFit_iff h
  | helloResAck p => exact tagsFit_iff h
  | searchRes p =>
    rw [Fits, KadPacketOf.tags, and_iff_right h.1, forall_mem_flatMap]
    exact forall₂_congr fun r hr => tagsFit_iff (h.2 r hr)
  | publishKeyReq p =>
    rw [Fits, KadPacketOf.tags, and_iff_right h.1, forall_mem_flatMap]
    exact forall₂_congr fun e he => tagsFit_iff (h.2 e he)
  | publishSourceReq p => exact tagsFit_iff h
  | publishNotesReq p => exact tagsFit_iff h
  | _ => exact iff_of_true trivial (by simp [KadPacketOf.tags])

/-- A decoded packet is unchanged as soon as each of its tags is. -/
theorem KadPacket.normalise_eq_self_iff {p : KadPacket} (h : p.FromWire) :
    normalise p = p ↔ ∀ t ∈ p.tags, Tag.normalise t = t := by
  cases p with
  | helloReq p => simp [normalise, KadPacketOf.tags, HelloReqOf.ext_iff, map_eq_self_iff]
  | helloRes p => simp [normalise, KadPacketOf.tags, HelloResOf.ext_iff, map_eq_self_iff]
  | helloResAck p => simp [normalise, KadPacketOf.tags, HelloResAckOf.ext_iff, map_eq_self_iff]
  | searchSourceReq p =>
    exact iff_of_true (by rw [normalise, show p.startPosition &&& 0x7FFF = _ from h])
      (by simp [KadPacketOf.tags])
  | searchRes p =>
    simp only [normalise, KadPacketOf.tags, KadPacketOf.searchRes.injEq, SearchResOf.ext_iff,
      map_eq_self_iff, SearchResultEntryOf.ext_iff, true_and, forall_mem_flatMap]
  | publishKeyReq p =>
    simp only [normalise, KadPacketOf.tags, KadPacketOf.publishKeyReq.injEq,
      PublishKeyReqOf.ext_iff, map_eq_self_iff, PublishEntryOf.ext_iff, true_and,
      forall_mem_flatMap]
  | publishSourceReq p =>
    simp [normalise, KadPacketOf.tags, PublishSourceReqOf.ext_iff, map_eq_self_iff]
  | publishNotesReq p =>
    simp [normalise, KadPacketOf.tags, PublishNotesReqOf.ext_iff, map_eq_self_iff]
  | _ => exact iff_of_true rfl (by simp [KadPacketOf.tags])

theorem KadPacketOf.fromWire_of_mem_tags {p : KadPacketOf σ} (h : p.FromWire) {t : TagOf σ}
    (ht : t ∈ p.tags) : t.value.FromWire := by
  cases p with
  | helloReq p => exact h.2 t ht
  | helloRes p => exact h.2 t ht
  | helloResAck p => exact h.2 t ht
  | searchRes p =>
    obtain ⟨r, hr, ht⟩ := List.mem_flatMap.mp ht
    exact (h.2 r hr).2 t ht
  | publishKeyReq p =>
    obtain ⟨e, he, ht⟩ := List.mem_flatMap.mp ht
    exact (h.2 e he).2 t ht
  | publishSourceReq p => exact h.2 t ht
  | publishNotesReq p => exact h.2 t ht
  | _ => cases ht

theorem KadPacketOf.ownOpcode {p : KadPacket} (h : p.FromWire) : KadPacket.OwnOpcode p := by
  cases p with
  | unknown op payload => exact h
  | _ => trivial

/-- **A decoded packet survives exactly when each of its tags does.** -/
theorem KadPacket.survives_iff (pf : Platform) {p : KadPacket} (h : p.FromWire) :
    (∃ bs, encode p = .ok bs ∧ decode pf bs = .ok p) ↔
      ∀ t ∈ p.tags, Tag.Fits t ∧ Tag.normalise t = t := by
  simp only [forall_and, ← fits_iff h, ← normalise_eq_self_iff h]
  constructor
  · rintro ⟨bs, henc, hdec⟩
    rw [decode_of_encode pf (KadPacketOf.ownOpcode h) henc, Except.ok.injEq] at hdec
    exact ⟨(encode_isOk_iff p).mp ⟨bs, henc⟩, hdec⟩
  · rintro ⟨hfits, hnorm⟩
    obtain ⟨bs, henc⟩ := (encode_isOk_iff p).mpr hfits
    exact ⟨bs, henc, by rw [decode_of_encode pf (KadPacketOf.ownOpcode h) henc, hnorm]⟩

/-! ## The condition on the buffer -/

/-- The decoded text of a raw tag fits its length fields, and a string name is not mistaken for a
short one. -/
def TextFits (dec : Bytes → String) (t : TagOf Bytes) : Prop :=
  (∀ name, t.name = .long name →
    (asBytes (dec name)).length < 2 ^ 16 ∧ (asBytes (dec name)).length ≠ 1) ∧
  ∀ s, t.value = .string s → (asBytes (dec s)).length < 2 ^ 16

/-- The text of every tag in the buffer fits once it is decoded.  The buffer is read with its
strings left as bytes, so this is a condition on the bytes that were received. -/
def Resendable (pf : Platform) (buf : Bytes) : Prop :=
  ∀ raw, KadPacketOf.decodeWith pf.inflate (fun _ bs => bs) buf = .ok raw →
    ∀ t ∈ raw.tags, TextFits (decodeStringBytes pf raw.mode) t

theorem textFits_iff (dec : Bytes → String) {t : TagOf Bytes} (h : t.value.FromWire) :
    TextFits dec t ↔ Tag.Fits (t.map dec) ∧ Tag.normalise (t.map dec) = t.map dec := by
  rw [Tag.normalise_eq_self_iff ((TagValueOf.fromWire_map dec t.value).mpr h)]
  obtain ⟨name, value⟩ := t
  have hvalue : TagValue.Fits (value.map dec) ↔
      ∀ s, value = .string s → (asBytes (dec s)).length < 2 ^ 16 := by
    cases value with
    | string s => simp [TagValueOf.map, TagValue.Fits]
    | blob data => exact iff_of_true h (by simp)
    | smallBlob data => exact iff_of_true h (by simp)
    | _ => simp [TagValueOf.map, TagValue.Fits]
  rw [TextFits, ← hvalue, Tag.Fits]
  cases name with
  | short b => simp [TagOf.map, TagNameOf.map, TagName.Fits]
  | long s =>
    simp only [TagOf.map, TagNameOf.map, TagName.Fits, TagNameOf.long.injEq, forall_eq']
    tauto

/-- **Re-encoding what was received is safe and loses nothing exactly when its text fits.** -/
theorem KadPacket.encode_decode_iff (pf : Platform) (buf : Bytes) (p : KadPacket)
    (h : decode pf buf = .ok p) :
    (∃ bs, encode p = .ok bs ∧ decode pf bs = .ok p) ↔ Resendable pf buf := by
  have hcomp := KadPacketOf.decodeWith_comp pf.inflate (decodeStringBytes pf) (fun _ bs => bs) buf
  rw [survives_iff pf (KadPacketOf.fromWire_decodeWith h)]
  rw [decode] at h
  have hraw := hcomp.symm.trans h
  cases hr : KadPacketOf.decodeWith pf.inflate (fun _ bs => bs) buf with
  | error e => rw [hr] at hraw; cases hraw
  | ok raw =>
    rw [hr] at hraw
    cases hraw
    have hwire := KadPacketOf.fromWire_decodeWith hr
    simp only [Resendable, hr, Except.ok.injEq, forall_eq', KadPacketOf.tags_decodeStrings,
      List.forall_mem_map]
    exact forall₂_congr fun t ht =>
      (textFits_iff _ (KadPacketOf.fromWire_of_mem_tags hwire ht)).symm

/-- A `HELLO_REQ` whose one tag is a string with the given bytes. -/
def helloWithText (text : Bytes) : Bytes :=
  OP_KADEMLIAHEADER :: opcode.HELLO_REQ ::
    [NodeId.ZERO.write, putU16 4662, putU8 9, putU8 1 ++ (putU8 0x02 ++
      ((putU16 1 ++ putU8 tagName.FILENAME) ++
        (putU16 (UInt16.ofNat text.length) ++ text)))].flatten

theorem reads_stringTag {text : Bytes} (h : text.length < 2 ^ 16) (b : UInt8) :
    Reads (TagOf.readWith fromUtf8Lossy)
      (putU8 0x02 ++ ((putU16 1 ++ putU8 b) ++ (putU16 (UInt16.ofNat text.length) ++ text)))
      ⟨.short b, .string (fromUtf8Lossy text)⟩ := by
  refine (reads_getU8 _ _).bind ?_
  have hname : Reads (TagNameOf.readWith fromUtf8Lossy false) (putU16 1 ++ putU8 b) (.short b) :=
    TagName.reads_write (n := .short b) fromUtf8Lossy_asBytes rfl
  refine hname.bind (Reads.bind_pure (TagOf.mk (.short b)) (a := .string (fromUtf8Lossy text)) ?_)
  exact Reads.counted _ (reads_getU16 _ _) (UInt16.toNat_ofNat_of_lt' h)

theorem decode_helloWithText (pf : Platform) {text : Bytes} (h : text.length < 2 ^ 16) :
    KadPacket.decode pf (helloWithText text) = .ok (.helloReq
      ⟨NodeId.ZERO, 4662, 9, [⟨.short tagName.FILENAME, .string (fromUtf8Lossy text)⟩]⟩) := by
  have htags : Reads (readTags fromUtf8Lossy) _ [_] :=
    (reads_getU8 ProtoError.eof 1).bind ((reads_stringTag h tagName.FILENAME).bind_pure _)
  exact parse_bind (parse_of_reads <| (NodeId.reads_write _).field <| (reads_getU16 _ _).field <|
    (reads_getU8 _ _).field htags.lastField) _

/-- A witness of `encode_decode_iff`. -/
theorem KadPacket.encode_decode_iff_hello :
    ∃ p, decode ⟨fromUtf8Lossy, fun _ => none⟩ (helloWithText [0x61]) = .ok p ∧
      ((∃ bs, encode p = .ok bs ∧ decode ⟨fromUtf8Lossy, fun _ => none⟩ bs = .ok p) ↔
        Resendable ⟨fromUtf8Lossy, fun _ => none⟩ (helloWithText [0x61])) :=
  ⟨_, decode_helloWithText _ (by decide),
    encode_decode_iff _ _ _ (decode_helloWithText _ (by decide))⟩

/-- 21846 stray bytes decode to a text of 65538 bytes, which the writer cannot count. -/
theorem KadPacket.encode_decode_panics :
    ∃ p, decode ⟨fromUtf8Lossy, fun _ => none⟩ (helloWithText (List.replicate 21846 0xFF)) = .ok p ∧
      encode p = .error ⟨"string tag length exceeds u16"⟩ := by
  refine ⟨_, decode_helloWithText _ (by rw [List.length_replicate]; decide), ?_⟩
  have hlen : (asBytes (fromUtf8Lossy (List.replicate 21846 0xFF))).length = 3 * 21846 :=
    length_asBytes_fromUtf8Lossy_replicate (by decide) 21846
  generalize fromUtf8Lossy (List.replicate 21846 0xFF) = s at hlen
  have hvalue : TagValue.write (.string s) = .error ⟨"string tag length exceeds u16"⟩ := by
    rw [TagValue.write, expectBelow, hlen]
    rfl
  have htag : Tag.write ⟨.short tagName.FILENAME, .string s⟩ =
      .error ⟨"string tag length exceeds u16"⟩ := by
    rw [Tag.write, hvalue]
    rfl
  rw [encode, encodeBody, HelloReq.write, writeTags, putMany, htag]
  rfl

end Overlord.Kad
