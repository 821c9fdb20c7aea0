import Overlord.Kad.Proto.NodeId
import Overlord.Wire.Utf8

/-!
# Kad tags on the wire

`tag.rs` of the wire crate: the tag model, the reader `Tag::read_with_mode` and the writer
`BinWrite for Tag`.

The reader decodes names and strings on the way in, and that is the only place where a packet can
come out larger than it went in.  To be able to speak about the bytes a packet carried and the text
it was decoded to at the same time, the tag types take the type `σ` of a decoded string as a
parameter: `Tag` is the program's own type, with `σ = String`, and `TagOf Bytes` is what a tag
looks like before its strings are decoded.  The reader is one function for both
(`TagOf.readWith`), and `TagOf.readWith_comp` says that decoding the strings afterwards is the same
as decoding them on the way.

The main facts are `Tag.reads_write` — a tag that can be written is read back, up to
`Tag.normalise` — and `Tag.write_isOk_iff` — it can be written exactly when its counted parts fit
their length fields.
-/

set_option autoImplicit false

namespace Overlord.Kad

open Wire

/-! ## Errors and panics -/

/-- What the record reader reports: the buffer ended early, or a tag type is not known. -/
inductive BinError where
  /-- An unexpected end of the buffer. -/
  | unexpectedEof
  /-- A tag type byte without a meaning. -/
  | unknownTagType (tagType : UInt8)
deriving DecidableEq, Repr

/-- Errors of the wire crate. -/
inductive ProtoError where
  /-- A malformed identifier in text form. -/
  | invalidNodeId
  /-- The first byte is not one of the two Kad protocol bytes. -/
  | invalidProtocol (byte : UInt8)
  /-- A record could not be read. -/
  | binRw (e : BinError)
  /-- The buffer is too short for its packet. -/
  | bufferTooShort
  /-- A body length that the opcode does not allow. -/
  | invalidPacketSize (opcode : UInt8) (expected actual : Nat)
  /-- The zlib body does not decompress. -/
  | decompressError
deriving DecidableEq, Repr

/-- The reader ran past the end of the buffer. -/
def ProtoError.eof : ProtoError := .binRw .unexpectedEof

/-- A failed `expect`. -/
structure Panic where
  /-- The message given to `expect`. -/
  message : String
deriving DecidableEq, Repr

/-- `uN::try_from(n).expect(message)` with `bound = 2 ^ N`. -/
def expectBelow (bound n : Nat) (message : String) : Except Panic Nat :=
  if n < bound then .ok n else .error ⟨message⟩

theorem expectBelow_ok {bound n m : Nat} {message : String}
    (h : expectBelow bound n message = .ok m) : n < bound ∧ m = n := by
  rw [expectBelow] at h
  split at h
  · rename_i hlt
    cases h
    exact ⟨hlt, rfl⟩
  · cases h

theorem expectBelow_of_lt {bound n : Nat} (message : String) (h : n < bound) :
    expectBelow bound n message = .ok n :=
  if_pos h

/-- The two pieces of foreign code the codec calls.  Both are parameters of everything below. -/
structure Platform where
  /-- `decode_legacy_search_result_string`: the ANSI code page on Windows, windows-1252
  elsewhere. -/
  decodeLegacySearchResultString : Bytes → String
  /-- `ZlibDecoder::read_to_end`; `none` when the stream is not valid. -/
  inflate : Bytes → Option Bytes

/-! ## The data model -/

/-- Tag name: a one-byte `FT_*` identifier or a longer string. -/
inductive TagNameOf (σ : Type) where
  /-- One-byte identifier. -/
  | short (b : UInt8)
  /-- String name. -/
  | long (s : σ)
deriving DecidableEq, Repr

/-- Typed tag value.  A float is its bit pattern. -/
inductive TagValueOf (σ : Type) where
  | hash (h : Ed2kHash)
  | string (s : σ)
  | uint (v : UInt64)
  | u64 (v : UInt64)
  | u32 (v : UInt32)
  | u16 (v : UInt16)
  | u8 (v : UInt8)
  | float (bits : UInt32)
  | bool (b : Bool)
  | blob (data : Bytes)
  | smallBlob (data : Bytes)
deriving DecidableEq, Repr

/-- One tag. -/
structure TagOf (σ : Type) where
  /-- The name. -/
  name : TagNameOf σ
  /-- The value. -/
  value : TagValueOf σ
deriving DecidableEq, Repr

/-- The program's tag name. -/
abbrev TagName := TagNameOf String

/-- The program's tag value. -/
abbrev TagValue := TagValueOf String

/-- The program's tag. -/
abbrev Tag := TagOf String

variable {σ τ : Type}

/-- Decode the string of a name. -/
def TagNameOf.map (f : σ → τ) : TagNameOf σ → TagNameOf τ
  | .short b => .short b
  | .long s => .long (f s)

/-- Decode the string of a value. -/
def TagValueOf.map (f : σ → τ) : TagValueOf σ → TagValueOf τ
  | .hash h => .hash h
  | .string s => .string (f s)
  | .uint v => .uint v
  | .u64 v => .u64 v
  | .u32 v => .u32 v
  | .u16 v => .u16 v
  | .u8 v => .u8 v
  | .float bits => .float bits
  | .bool b => .bool b
  | .blob data => .blob data
  | .smallBlob data => .smallBlob data

/-- Decode the strings of a tag. -/
def TagOf.map (f : σ → τ) (t : TagOf σ) : TagOf τ := ⟨t.name.map f, t.value.map f⟩

/-- How the strings of a packet are decoded. -/
inductive StringDecodeMode where
  /-- Lossy UTF-8, everywhere but in search results. -/
  | lossyUtf8
  /-- UTF-8 with a fallback to the legacy code page. -/
  | searchResult
deriving DecidableEq, Repr

/-- `decode_string_bytes`. -/
def decodeStringBytes (pf : Platform) (mode : StringDecodeMode) (bytes : Bytes) : String :=
  match mode with
  | .lossyUtf8 => fromUtf8Lossy bytes
  | .searchResult =>
    match fromUtf8? bytes with
    | some s => s
    | none => pf.decodeLegacySearchResultString bytes

/-- Text that was written as UTF-8 is read back in both modes. -/
@[simp] theorem decodeStringBytes_asBytes (pf : Platform) (mode : StringDecodeMode) (s : String) :
    decodeStringBytes pf mode (asBytes s) = s := by
  cases mode with
  | lossyUtf8 => exact fromUtf8Lossy_asBytes s
  | searchResult => simp only [decodeStringBytes, fromUtf8?_asBytes]

/-! ## Reading -/

/-- The primitives of the record reader. -/
abbrev Read := Get ProtoError

/-- A sixteen-byte identifier. -/
def NodeId.read : Read NodeId := NodeId.mk <$> getArray .eof 16

/-- A sixteen-byte hash. -/
def Ed2kHash.read : Read Ed2kHash := Ed2kHash.mk <$> getArray .eof 16

/-- The name of a tag, after its type byte.  A one-byte string name stands for the short
identifier. -/
def TagNameOf.readWith (dec : Bytes → σ) (shortName : Bool) : Read (TagNameOf σ) :=
  if shortName then return .short (← getU8 .eof)
  else do
    let nameLen ← getU16 .eof
    let nameBytes ← getExact .eof nameLen.toNat
    match nameBytes with
    | [b] => return .short b
    | _ => return .long (dec nameBytes)

/-- The value of a tag of the given type. -/
def TagValueOf.readWith (dec : Bytes → σ) (tagType : UInt8) : Read (TagValueOf σ) :=
  match tagType with
  | 0x01 => return .hash (← Ed2kHash.read)
  | 0x02 => do
    let strLen ← getU16 .eof
    let strBytes ← getExact .eof strLen.toNat
    return .string (dec strBytes)
  | 0x03 => return .u32 (← getU32 .eof)
  | 0x04 => return .float (← getU32 .eof)
  | 0x05 => do
    let v ← getU8 .eof
    return .bool (v != 0)
  | 0x06 => do
    -- a bool array is kept as the bytes it is packed into
    let arrLen ← getU16 .eof
    let data ← getExact .eof ((arrLen.toNat + 7) / 8)
    return .blob data
  | 0x07 => do
    let blobLen ← getU32 .eof
    let data ← getExact .eof blobLen.toNat
    return .blob data
  | 0x08 => return .u16 (← getU16 .eof)
  | 0x09 => return .u8 (← getU8 .eof)
  | 0x0A => do
    let bsobLen ← getU8 .eof
    let data ← getExact .eof bsobLen.toNat
    return .smallBlob data
  | 0x0B => return .u64 (← getU64 .eof)
  | other => throw (.binRw (.unknownTagType other))

/-- `Tag::read_with_mode`, with the string decoder of the mode as an argument. -/
def TagOf.readWith (dec : Bytes → σ) : Read (TagOf σ) := do
  let typeByte ← getU8 .eof
  let name ← TagNameOf.readWith dec ((typeByte &&& 0x80) != 0)
  let value ← TagValueOf.readWith dec (typeByte &&& 0x7F)
  return ⟨name, value⟩

/-! ## Writing -/

/-- The sixteen bytes of an identifier. -/
def NodeId.write (id : NodeId) : Bytes := id.bytes.toList

/-- The sixteen bytes of a hash. -/
def Ed2kHash.write (h : Ed2kHash) : Bytes := h.bytes.toList

@[simp] theorem NodeId.length_write (id : NodeId) : id.write.length = 16 := by simp [NodeId.write]

@[simp] theorem Ed2kHash.length_write (h : Ed2kHash) : h.write.length = 16 := by
  simp [Ed2kHash.write]

/-- `value_type_byte`: the type byte of a value, with the narrowest width for an untyped integer. -/
def valueTypeByte : TagValue → UInt8
  | .hash _ => 0x01
  | .string _ => 0x02
  | .uint v =>
    if v.toNat ≤ 0xFF then 0x09
    else if v.toNat ≤ 0xFFFF then 0x08
    else if v.toNat ≤ 0xFFFFFFFF then 0x03
    else 0x0B
  | .u32 _ => 0x03
  | .float _ => 0x04
  | .bool _ => 0x05
  | .blob _ => 0x07
  | .smallBlob _ => 0x0A
  | .u16 _ => 0x08
  | .u8 _ => 0x09
  | .u64 _ => 0x0B

/-- The name of a tag: always a counted string on the Kad wire. -/
def TagName.write : TagName → Except Panic Bytes
  | .short b => return putU16 1 ++ putU8 b
  | .long s => do
    let len ← expectBelow (2 ^ 16) (asBytes s).length "tag name length exceeds u16"
    return putU16 (UInt16.ofNat len) ++ asBytes s

/-- The payload of a tag. -/
def TagValue.write : TagValue → Except Panic Bytes
  | .hash h => return h.write
  | .string s => do
    let len ← expectBelow (2 ^ 16) (asBytes s).length "string tag length exceeds u16"
    return putU16 (UInt16.ofNat len) ++ asBytes s
  | .uint v => do
    if v.toNat ≤ 0xFF then
      return putU8 (UInt8.ofNat (← expectBelow (2 ^ 8) v.toNat "value fits into u8"))
    else if v.toNat ≤ 0xFFFF then
      return putU16 (UInt16.ofNat (← expectBelow (2 ^ 16) v.toNat "value fits into u16"))
    else if v.toNat ≤ 0xFFFFFFFF then
      return putU32 (UInt32.ofNat (← expectBelow (2 ^ 32) v.toNat "value fits into u32"))
    else
      return putU64 v
  | .u32 v => return putU32 v
  | .float bits => return putU32 bits
  | .bool b => return putU8 (if b then 1 else 0)
  | .blob data => do
    let len ← expectBelow (2 ^ 32) data.length "blob tag length exceeds u32"
    return putU32 (UInt32.ofNat len) ++ data
  | .smallBlob data => do
    let len ← expectBelow (2 ^ 8) data.length "small blob tag length exceeds Kad BSOB"
    return putU8 (UInt8.ofNat len) ++ data
  | .u16 v => return putU16 v
  | .u8 v => return putU8 v
  | .u64 v => return putU64 v

/-- `BinWrite for Tag`. -/
def Tag.write (t : Tag) : Except Panic Bytes := do
  let name ← TagName.write t.name
  let value ← TagValue.write t.value
  return putU8 (valueTypeByte t.value) ++ (name ++ value)

/-! ## What can be written -/

/-- The name fits its `u16` length field. -/
def TagName.Fits : TagName → Prop
  | .short _ => True
  | .long s => (asBytes s).length < 2 ^ 16

/-- The payload fits its length field. -/
def TagValue.Fits : TagValue → Prop
  | .string s => (asBytes s).length < 2 ^ 16
  | .blob data => data.length < 2 ^ 32
  | .smallBlob data => data.length < 2 ^ 8
  | _ => True

/-- The counted parts of a tag fit their length fields. -/
def Tag.Fits (t : Tag) : Prop := TagName.Fits t.name ∧ TagValue.Fits t.value

/-- A writer that starts with a length fails only if the length does not fit. -/
theorem counted_isOk_iff {bound n : Nat} {message : String} (body : Nat → Bytes) :
    (∃ bs, (do return body (← expectBelow bound n message)) = Except.ok bs) ↔ n < bound := by
  constructor
  · rintro ⟨bs, h⟩
    obtain ⟨len, hlen, -⟩ := bind_ok h
    exact (expectBelow_ok hlen).1
  · intro h
    exact ⟨_, by rw [expectBelow_of_lt _ h]; rfl⟩

theorem TagName.write_isOk_iff (n : TagName) :
    (∃ bs, TagName.write n = .ok bs) ↔ TagName.Fits n := by
  cases n with
  | short b => exact ⟨fun _ => trivial, fun _ => ⟨_, rfl⟩⟩
  | long s => exact counted_isOk_iff _

theorem TagValue.write_isOk_iff (v : TagValue) :
    (∃ bs, TagValue.write v = .ok bs) ↔ TagValue.Fits v := by
  cases v with
  | string s => exact counted_isOk_iff _
  | blob data => exact counted_isOk_iff _
  | smallBlob data => exact counted_isOk_iff _
  | uint v =>
    -- the width was chosen so that its `expect` holds
    refine ⟨fun _ => trivial, fun _ => ?_⟩
    rw [write]
    split_ifs with h1 h2 h3
    · exact ⟨_, by rw [expectBelow_of_lt _ (by omega)]; rfl⟩
    · exact ⟨_, by rw [expectBelow_of_lt _ (by omega)]; rfl⟩
    · exact ⟨_, by rw [expectBelow_of_lt _ (by omega)]; rfl⟩
    · exact ⟨_, rfl⟩
  | _ => exact ⟨fun _ => trivial, fun _ => ⟨_, rfl⟩⟩

/-- **No `expect` of the tag writer fires exactly when the counted parts fit.** -/
theorem Tag.write_isOk_iff (t : Tag) : (∃ bs, Tag.write t = .ok bs) ↔ Tag.Fits t := by
  rw [Fits, ← TagName.write_isOk_iff, ← TagValue.write_isOk_iff]
  constructor
  · rintro ⟨bs, h⟩
    obtain ⟨name, hname, h⟩ := bind_ok h
    obtain ⟨value, hvalue, -⟩ := bind_ok h
    exact ⟨⟨name, hname⟩, ⟨value, hvalue⟩⟩
  · rintro ⟨⟨name, hname⟩, ⟨value, hvalue⟩⟩
    exact ⟨_, by rw [write, hname, hvalue]; rfl⟩

/-! ## Reading back what was written -/

/-- A string name of exactly one byte is read back as the short identifier. -/
def TagName.normalise : TagName → TagName
  | .short b => .short b
  | .long s =>
    match asBytes s with
    | [b] => .short b
    | _ => .long s

/-- An untyped integer is read back in the narrowest width that holds it. -/
def TagValue.normalise : TagValue → TagValue
  | .uint v =>
    if v.toNat ≤ 0xFF then .u8 (UInt8.ofNat v.toNat)
    else if v.toNat ≤ 0xFFFF then .u16 (UInt16.ofNat v.toNat)
    else if v.toNat ≤ 0xFFFFFFFF then .u32 (UInt32.ofNat v.toNat)
    else .u64 v
  | v => v

/-- What a tag becomes on the wire. -/
def Tag.normalise (t : Tag) : Tag := ⟨TagName.normalise t.name, TagValue.normalise t.value⟩

theorem NodeId.reads_write (id : NodeId) : Reads NodeId.read id.write id :=
  (reads_getArray _ id.bytes).map NodeId.mk

theorem Ed2kHash.reads_write (h : Ed2kHash) : Reads Ed2kHash.read h.write h :=
  (reads_getArray _ h.bytes).map Ed2kHash.mk

theorem TagName.reads_write {dec : Bytes → String} (hdec : ∀ s, dec (asBytes s) = s) {n : TagName}
    {bs : Bytes} (h : TagName.write n = .ok bs) :
    Reads (TagNameOf.readWith dec false) bs (TagName.normalise n) := by
  have hread : TagNameOf.readWith dec false = getU16 .eof >>= fun nameLen =>
      getExact .eof nameLen.toNat >>= fun nameBytes => pure (match nameBytes with
        | [b] => TagNameOf.short b
        | _ => .long (dec nameBytes)) := by
    refine bind_congr fun nameLen => bind_congr fun nameBytes => ?_
    split <;> rfl
  rw [hread]
  cases n with
  | short b =>
    cases h
    have hlen : (1 : UInt16).toNat = [b].length := rfl
    exact Reads.counted _ (reads_getU16 _ 1) hlen
  | long s =>
    obtain ⟨len, hlen, h⟩ := bind_ok h
    obtain ⟨hlt, rfl⟩ := expectBelow_ok hlen
    cases h
    have hnorm : TagName.normalise (.long s) = match asBytes s with
        | [b] => TagNameOf.short b
        | _ => .long (dec (asBytes s)) := by rw [hdec]; rfl
    rw [hnorm]
    exact Reads.counted _ (reads_getU16 _ _) (UInt16.toNat_ofNat_of_lt hlt)

theorem TagValue.reads_write {dec : Bytes → String} (hdec : ∀ s, dec (asBytes s) = s)
    {v : TagValue} {bs : Bytes} (h : TagValue.write v = .ok bs) :
    Reads (TagValueOf.readWith dec (valueTypeByte v)) bs (TagValue.normalise v) := by
  cases v with
  | hash x =>
    cases h
    exact x.reads_write.bind_pure _
  | string s =>
    obtain ⟨len, hlen, h⟩ := bind_ok h
    obtain ⟨hlt, rfl⟩ := expectBelow_ok hlen
    cases h
    have hnorm : TagValue.normalise (.string s) = .string (dec (asBytes s)) := by rw [hdec]; rfl
    rw [hnorm]
    exact Reads.counted _ (reads_getU16 _ _) (UInt16.toNat_ofNat_of_lt hlt)
  | uint v =>
    rw [write] at h
    rw [valueTypeByte, normalise]
    split_ifs at h ⊢ with h1 h2 h3
    · rw [expectBelow_of_lt _ (by omega)] at h
      cases h
      exact (reads_getU8 _ _).bind_pure _
    · rw [expectBelow_of_lt _ (by omega)] at h
      cases h
      exact (reads_getU16 _ _).bind_pure _
    · rw [expectBelow_of_lt _ (by omega)] at h
      cases h
      exact (reads_getU32 _ _).bind_pure _
    · cases h
      exact (reads_getU64 _ _).bind_pure _
  | u64 v =>
    cases h
    exact (reads_getU64 _ v).bind_pure _
  | u32 v =>
    cases h
    exact (reads_getU32 _ v).bind_pure _
  | u16 v =>
    cases h
    exact (reads_getU16 _ v).bind_pure _
  | u8 v =>
    cases h
    exact (reads_getU8 _ v).bind_pure _
  | float bits =>
    cases h
    exact (reads_getU32 _ bits).bind_pure _
  | bool b =>
    cases h
    have hb : ((if b then 1 else 0 : UInt8) != 0) = b := by cases b <;> rfl
    have hr := (reads_getU8 ProtoError.eof (if b then 1 else 0)).bind_pure
      (fun v => (TagValueOf.bool (v != 0) : TagValue))
    rwa [hb] at hr
  | blob data =>
    obtain ⟨len, hlen, h⟩ := bind_ok h
    obtain ⟨hlt, rfl⟩ := expectBelow_ok hlen
    cases h
    exact Reads.counted _ (reads_getU32 _ _) (UInt32.toNat_ofNat_of_lt hlt)
  | smallBlob data =>
    obtain ⟨len, hlen, h⟩ := bind_ok h
    obtain ⟨hlt, rfl⟩ := expectBelow_ok hlen
    cases h
    exact Reads.counted _ (reads_getU8 _ _) (UInt8.toNat_ofNat_of_lt hlt)

/-- The writer never sets the short-name flag. -/
theorem valueTypeByte_flag (v : TagValue) :
    (valueTypeByte v &&& 0x80) = 0 ∧ valueTypeByte v &&& 0x7F = valueTypeByte v := by
  cases v with
  | uint v =>
    rw [valueTypeByte]
    split_ifs <;> decide
  | _ =>
    rw [valueTypeByte]
    decide

/-- **Round trip of a tag.** -/
theorem Tag.reads_write {dec : Bytes → String} (hdec : ∀ s, dec (asBytes s) = s) (t : Tag)
    (bs : Bytes) (h : Tag.write t = .ok bs) : Reads (TagOf.readWith dec) bs (Tag.normalise t) := by
  obtain ⟨name, hname, h⟩ := bind_ok h
  obtain ⟨value, hvalue, h⟩ := bind_ok h
  cases h
  obtain ⟨hflag, htype⟩ := valueTypeByte_flag t.value
  refine (reads_getU8 _ _).bind ?_
  rw [hflag, htype]
  refine (TagName.reads_write hdec hname).bind ?_
  exact (TagValue.reads_write hdec hvalue).bind_pure (TagOf.mk (TagName.normalise t.name))

/-! ## What the reader lets through -/

/-- The reader never builds an untyped integer, and the byte strings it builds fit the length field
they are written back with. -/
def TagValueOf.FromWire : TagValueOf σ → Prop
  | .uint _ => False
  | .blob data => data.length < 2 ^ 32
  | .smallBlob data => data.length < 2 ^ 8
  | _ => True

theorem TagValueOf.fromWire_map (f : σ → τ) (v : TagValueOf σ) :
    (v.map f).FromWire ↔ v.FromWire := by
  cases v <;> exact Iff.rfl

theorem TagValueOf.yields_readWith (dec : Bytes → σ) (tagType : UInt8) :
    Yields (readWith dec tagType) FromWire := by
  unfold readWith
  split
  case h_6 =>
    refine Yields.skip fun arrLen => (yields_getExact _ _).bind fun data hdata => Yields.pure ?_
    have := arrLen.toNat_lt
    show data.length < 2 ^ 32
    omega
  case h_7 =>
    refine Yields.skip fun blobLen => (yields_getExact _ _).bind fun data hdata => Yields.pure ?_
    exact lt_of_eq_of_lt hdata blobLen.toNat_lt
  case h_10 =>
    refine Yields.skip fun bsobLen => (yields_getExact _ _).bind fun data hdata => Yields.pure ?_
    exact lt_of_eq_of_lt hdata bsobLen.toNat_lt
  case h_12 => exact Yields.throw _ _
  case h_2 => exact Yields.skip fun _ => Yields.skip fun _ => Yields.pure trivial
  all_goals exact Yields.skip fun _ => Yields.pure trivial

theorem TagOf.yields_readWith (dec : Bytes → σ) :
    Yields (readWith dec) fun t => t.value.FromWire :=
  Yields.skip fun _ => Yields.skip fun _ =>
    (TagValueOf.yields_readWith dec _).bind fun _ hv => Yields.pure hv

/-- Decoding the strings of a tag on the way in or afterwards is the same. -/
theorem TagOf.readWith_comp (f : σ → τ) (dec : Bytes → σ) :
    readWith (f ∘ dec) = TagOf.map f <$> readWith dec := by
  have hname : ∀ b,
      TagNameOf.readWith (f ∘ dec) b = TagNameOf.map f <$> TagNameOf.readWith dec b := by
    intro b
    cases b with
    | true => simp [TagNameOf.readWith, TagNameOf.map]
    | false =>
      simp only [TagNameOf.readWith, Bool.false_eq_true, if_false, map_bind]
      refine bind_congr fun nameLen => bind_congr fun nameBytes => ?_
      split <;> simp [TagNameOf.map]
  have hvalue : ∀ ty,
      TagValueOf.readWith (f ∘ dec) ty = TagValueOf.map f <$> TagValueOf.readWith dec ty := by
    intro ty
    unfold TagValueOf.readWith
    split
    case h_12 => rfl
    all_goals simp [TagValueOf.map]
  simp only [readWith, hname, hvalue, map_bind, bind_map_left, map_pure]
  rfl

/-- A decoded tag is changed by being written and read again exactly when its string name has one
byte. -/
theorem Tag.normalise_eq_self_iff {t : Tag} (ht : t.value.FromWire) :
    Tag.normalise t = t ↔ ∀ s, t.name = .long s → (asBytes s).length ≠ 1 := by
  obtain ⟨name, value⟩ := t
  have hvalue : TagValue.normalise value = value := by
    cases value with
    | uint v => exact absurd ht (by simp [TagValueOf.FromWire])
    | _ => rfl
  rw [normalise, hvalue, TagOf.mk.injEq, and_iff_left rfl]
  cases name with
  | short b => simp [TagName.normalise]
  | long s =>
    simp only [TagName.normalise, TagNameOf.long.injEq, forall_eq']
    split
    · rename_i b hb
      simp [hb]
    · rename_i hne
      refine ⟨fun _ h1 => ?_, fun _ => rfl⟩
      obtain ⟨b, hb⟩ := List.length_eq_one_iff.mp h1
      exact hne b hb

end Overlord.Kad
