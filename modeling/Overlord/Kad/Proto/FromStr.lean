import Overlord.Data.Hex
import Overlord.Kad.Proto.Tag

/-!
# Identifiers as text

`Display` and `FromStr` of the two kinds of identifiers.  The parsers cut the text into chunks by
byte offsets and give each chunk to `from_str_radix`: a `u8` of two digits for a hash, a `u32` of
eight digits for a node identifier.

* The text of an identifier is parsed back (`parseBytes_displayBytes`).
* `fromStr_correct_iff` says for which texts the parsers accept exactly 32 hexadecimal digits.  Two
  kinds of texts of 32 bytes are the exceptions: those with a chunk that ends inside a character,
  where the slice panics (`Straddled`), and those with a plus sign in front of the digits of a
  chunk, which `from_str_radix` takes (`Signed`).

* `parseChunks_panics_iff`, `parseChunks_ok_iff` — the loop over the chunks, for any width; both are
  by induction on the chunks that are left.
* `readsHex_parseBytes_iff` — the parser of a list of bytes is right exactly if the text is of
  neither kind.  The two `FromStr` instances are this one at widths two and eight.
-/

set_option autoImplicit false

namespace Overlord.Kad

open Wire

/-! ## The parsers -/

/-- The plus sign. -/
def plus : UInt8 := 43

/-- A plus sign in front of something is left out. -/
def stripSign : Bytes → Bytes
  | b :: c :: bs => if b = plus then c :: bs else b :: c :: bs
  | bs => bs

/-- `uN::from_str_radix(_, 16)`, for at most as many digits as the type has.  An unsigned type takes
no minus sign. -/
def fromStrRadix16 (text : Bytes) : Option Nat :=
  let digits := stripSign text
  if digits ≠ [] ∧ ∀ b ∈ digits, Hex.IsDigit b then some (Hex.value digits) else none

/-- A slice may start here.  The text is what follows this place. -/
def isCharBoundary : Bytes → Bool
  | [] => true
  | b :: _ => !isCont b

/-- `&s[start..start + width]`, and the text after it. -/
def takeSlice (width : Nat) (text : Bytes) : Except Panic (Bytes × Bytes) :=
  if width ≤ text.length ∧ isCharBoundary text ∧ isCharBoundary (text.drop width) then
    .ok (text.take width, text.drop width)
  else .error ⟨"byte index is not a char boundary"⟩

/-- The numbers of a text, `count` chunks of `width` digits. -/
def parseChunks (width : Nat) : Nat → Bytes → Except Panic (Except ProtoError (List Nat))
  | 0, _ => .ok (.ok [])
  | count + 1, text => do
    let (chunk, rest) ← takeSlice width text
    match fromStrRadix16 chunk with
    | none => return .error .invalidNodeId
    | some v => return (v :: ·) <$> (← parseChunks width count rest)

/-- The bytes of numbers of `k` bytes. -/
def bytesOf (k : Nat) (vs : List Nat) : Vector UInt8 16 :=
  Vector.ofFn fun i => (vs.flatMap (Hex.toBe k)).getD i 0

/-- The bytes of a text of 32 digits, read in chunks of `k` bytes. -/
def parseBytes (k : Nat) (s : String) : Except Panic (Except ProtoError (Vector UInt8 16)) :=
  if (asBytes s).length ≠ 32 then .ok (.error .invalidNodeId)
  else do
    let chunks ← parseChunks (2 * k) (16 / k) (asBytes s)
    return chunks.map (bytesOf k)

/-- `FromStr for Ed2kHash`. -/
def Ed2kHash.fromStr (s : String) : Except Panic (Except ProtoError Ed2kHash) :=
  return (← parseBytes 1 s).map Ed2kHash.mk

/-- `FromStr for NodeId`. -/
def NodeId.fromStr (s : String) : Except Panic (Except ProtoError NodeId) :=
  return (← parseBytes 4 s).map NodeId.fromBeBytes

/-! ## One chunk -/

theorem stripSign_cases (text : Bytes) : stripSign text = text ∨ text = plus :: stripSign text := by
  match text with
  | [] | [_] => exact .inl rfl
  | b :: c :: bs =>
    rw [stripSign]
    split
    next hb => exact .inr (by rw [hb])
    next => exact .inl rfl

/-- A chunk of digits alone. -/
theorem fromStrRadix16_of_digits {chunk : Bytes} (hne : chunk ≠ [])
    (hdigits : ∀ b ∈ chunk, Hex.IsDigit b) : fromStrRadix16 chunk = some (Hex.value chunk) := by
  have hstrip : stripSign chunk = chunk := by
    refine (stripSign_cases chunk).resolve_right fun h => ?_
    have hplus : ¬ Hex.IsDigit plus := by decide
    exact hplus (hdigits plus (h ▸ List.mem_cons_self))
  rw [fromStrRadix16, hstrip, if_pos ⟨hne, hdigits⟩]

/-- What is accepted: digits, perhaps with a plus sign in front of them. -/
theorem fromStrRadix16_isSome_iff {chunk : Bytes} :
    (fromStrRadix16 chunk).isSome ↔ ∃ digits, digits ≠ [] ∧ (∀ b ∈ digits, Hex.IsDigit b) ∧
      (chunk = digits ∨ chunk = plus :: digits) := by
  constructor
  · intro hsome
    rw [fromStrRadix16] at hsome
    split at hsome
    next hdigits => exact ⟨_, hdigits.1, hdigits.2, (stripSign_cases chunk).imp_left Eq.symm⟩
    next => cases hsome
  · rintro ⟨digits, hne, hdigits, rfl | rfl⟩
    · rw [fromStrRadix16_of_digits hne hdigits]
      rfl
    · have hstrip : stripSign (plus :: digits) = digits := by
        obtain ⟨b, bs, rfl⟩ := List.exists_cons_of_ne_nil hne
        rw [stripSign, if_pos rfl]
      rw [fromStrRadix16, hstrip, if_pos ⟨hne, hdigits⟩]
      rfl

/-- A chunk that `from_str_radix` accepts. -/
def Accepted (width : Nat) (chunk : Bytes) : Prop :=
  chunk.length = width ∧ (fromStrRadix16 chunk).isSome

theorem not_isCont_of_isDigit {b : UInt8} (hb : Hex.IsDigit b) : isCont b = false := by
  have h : ∀ n < 256, Hex.IsDigit (UInt8.ofNat n) → isCont (UInt8.ofNat n) = false := by
    decide +kernel
  have := h b.toNat b.toNat_lt
  rw [UInt8.ofNat_toNat] at this
  exact this hb

/-- An accepted chunk starts with a character. -/
theorem Accepted.isCharBoundary {width : Nat} {chunk : Bytes} (h : Accepted width chunk)
    (rest : Bytes) : isCharBoundary (chunk ++ rest) = true := by
  obtain ⟨digits, hne, hdigits, rfl | rfl⟩ := fromStrRadix16_isSome_iff.mp h.2
  · obtain ⟨b, bs, rfl⟩ := List.exists_cons_of_ne_nil hne
    show (!isCont b) = true
    rw [not_isCont_of_isDigit (hdigits b List.mem_cons_self)]
    rfl
  · rfl

/-! ## All chunks -/

/-- After some chunks that are accepted, one ends inside a character. -/
def Straddled (width : Nat) (text : Bytes) : Prop :=
  ∃ (chunks : List Bytes) (tail : Bytes), text = chunks.flatten ++ tail ∧
    (∀ chunk ∈ chunks, Accepted width chunk) ∧
    isCharBoundary (tail.drop width) = false

/-- All chunks are accepted, and one of them has a sign. -/
def Signed (width : Nat) (text : Bytes) : Prop :=
  ∃ chunks : List Bytes, text = chunks.flatten ∧ (∀ chunk ∈ chunks, Accepted width chunk) ∧
    ∃ chunk ∈ chunks, chunk.head? = some plus

section Chunks

variable {width count : Nat} {text chunk rest : Bytes}

theorem straddled_append (hlen : chunk.length = width) :
    Straddled width (chunk ++ rest) ↔ isCharBoundary rest = false ∨
      ((fromStrRadix16 chunk).isSome ∧ Straddled width rest) := by
  constructor
  · rintro ⟨chunks, tail, htext, haccepted, hinside⟩
    cases chunks with
    | nil =>
      obtain rfl : chunk ++ rest = tail := htext
      rw [← hlen, List.drop_left] at hinside
      exact .inl hinside
    | cons first chunks =>
      rw [List.flatten_cons, List.append_assoc] at htext
      have hfirst := haccepted first List.mem_cons_self
      obtain ⟨rfl, rfl⟩ := List.append_inj htext (hlen.trans hfirst.1.symm)
      exact .inr ⟨hfirst.2, chunks, tail, rfl,
        fun c hc => haccepted c (List.mem_cons_of_mem _ hc), hinside⟩
  · rintro (hinside | ⟨hsome, chunks, tail, rfl, haccepted, hinside⟩)
    · refine ⟨[], chunk ++ rest, rfl, nofun, ?_⟩
      rw [← hlen, List.drop_left]
      exact hinside
    · refine ⟨chunk :: chunks, tail, by simp, fun c hc => ?_, hinside⟩
      rcases List.mem_cons.mp hc with rfl | hc
      · exact ⟨hlen, hsome⟩
      · exact haccepted c hc

theorem exists_chunk (hlen : text.length = (count + 1) * width) :
    ∃ chunk rest, text = chunk ++ rest ∧ chunk.length = width ∧ rest.length = count * width := by
  have hmul : (count + 1) * width = count * width + width := Nat.succ_mul _ _
  refine ⟨text.take width, text.drop width, (List.take_append_drop _ _).symm, ?_, ?_⟩
  · rw [List.length_take]
    omega
  · rw [List.length_drop]
    omega

/-- A turn of the loop. -/
theorem parseChunks_append (count : Nat) (hlen : chunk.length = width)
    (hstart : isCharBoundary (chunk ++ rest) = true) :
    parseChunks width (count + 1) (chunk ++ rest) =
      if isCharBoundary rest then
        match fromStrRadix16 chunk with
        | none => .ok (.error .invalidNodeId)
        | some v => ((v :: ·) <$> ·) <$> parseChunks width count rest
      else .error ⟨"byte index is not a char boundary"⟩ := by
  have hle : width ≤ (chunk ++ rest).length := by
    rw [List.length_append]
    omega
  have htake : (chunk ++ rest).take width = chunk := hlen ▸ List.take_left
  have hdrop : (chunk ++ rest).drop width = rest := hlen ▸ List.drop_left
  rw [parseChunks, takeSlice, htake, hdrop]
  cases hboundary : isCharBoundary rest with
  | false =>
    rw [if_neg (by simp)]
    rfl
  | true =>
    rw [if_pos ⟨hle, hstart, rfl⟩]
    cases hvalue : fromStrRadix16 chunk with
    | none =>
      show (match fromStrRadix16 chunk with | none => _ | some v => _) = _
      rw [hvalue]
      rfl
    | some v =>
      show (match fromStrRadix16 chunk with | none => _ | some v => _) = _
      rw [hvalue]
      rfl

/-- **When the parser panics.** -/
theorem parseChunks_panics_iff (hlen : text.length = count * width)
    (hstart : isCharBoundary text = true) :
    (∃ p, parseChunks width count text = .error p) ↔ Straddled width text := by
  induction count generalizing text with
  | zero =>
    obtain rfl := List.eq_nil_of_length_eq_zero (hlen.trans (Nat.zero_mul _))
    refine iff_of_false (fun ⟨_, h⟩ => nomatch h) fun ⟨chunks, tail, htext, _, hinside⟩ => ?_
    obtain rfl := (List.append_eq_nil_iff.mp htext.symm).2
    rw [List.drop_nil] at hinside
    cases hinside
  | succ count ih =>
    obtain ⟨chunk, rest, rfl, hchunk, hrest⟩ := exists_chunk hlen
    rw [parseChunks_append count hchunk hstart, straddled_append hchunk]
    cases hboundary : isCharBoundary rest with
    | false => exact iff_of_true ⟨_, rfl⟩ (.inl rfl)
    | true =>
      rw [if_pos rfl, or_iff_right (by decide), ← ih hrest hboundary]
      cases fromStrRadix16 chunk with
      | none => exact iff_of_false (fun ⟨_, h⟩ => nomatch h) fun h => Bool.false_ne_true h.1
      | some v =>
        cases parseChunks width count rest with
        | error p => exact iff_of_true ⟨p, rfl⟩ ⟨rfl, p, rfl⟩
        | ok r => exact iff_of_false (fun ⟨_, h⟩ => nomatch h) fun ⟨_, _, h⟩ => nomatch h

/-- **When the parser accepts**, and what it returns. -/
theorem parseChunks_ok_iff (hwidth : 0 < width) (hlen : text.length = count * width)
    (hstart : isCharBoundary text = true) {vs : List Nat} :
    parseChunks width count text = .ok (.ok vs) ↔ ∃ chunks : List Bytes, text = chunks.flatten ∧
      (∀ chunk ∈ chunks, Accepted width chunk) ∧ chunks.map fromStrRadix16 = vs.map some := by
  have hnonempty : ∀ {chunks : List Bytes}, (∀ chunk ∈ chunks, Accepted width chunk) →
      chunks.flatten = [] → chunks = [] := by
    intro chunks haccepted hnil
    refine List.eq_nil_iff_forall_not_mem.mpr fun chunk hchunk => ?_
    have hlength := (haccepted chunk hchunk).1
    rw [List.flatten_eq_nil_iff.mp hnil chunk hchunk, List.length_nil] at hlength
    omega
  induction count generalizing text vs with
  | zero =>
    obtain rfl := List.eq_nil_of_length_eq_zero (hlen.trans (Nat.zero_mul _))
    constructor
    · intro h
      cases h
      exact ⟨[], rfl, nofun, rfl⟩
    · rintro ⟨chunks, htext, haccepted, hvs⟩
      obtain rfl := hnonempty haccepted htext.symm
      obtain rfl := List.map_eq_nil_iff.mp hvs.symm
      rfl
  | succ count ih =>
    obtain ⟨chunk, rest, rfl, hchunk, hrest⟩ := exists_chunk hlen
    rw [parseChunks_append count hchunk hstart]
    constructor
    · intro h
      split at h
      next hboundary =>
        cases hvalue : fromStrRadix16 chunk with
        | none =>
          rw [hvalue] at h
          cases h
        | some v =>
          rw [hvalue] at h
          cases hparse : parseChunks width count rest with
          | error p =>
            rw [hparse] at h
            cases h
          | ok r =>
            rw [hparse] at h
            cases r with
            | error e => cases h
            | ok vs' =>
              obtain rfl : v :: vs' = vs := Except.ok.inj (Except.ok.inj h)
              obtain ⟨chunks, rfl, haccepted, hvs⟩ := (ih hrest hboundary).mp hparse
              refine ⟨chunk :: chunks, rfl, fun c hc => ?_, by rw [List.map_cons, hvalue, hvs]; rfl⟩
              rcases List.mem_cons.mp hc with rfl | hc
              · exact ⟨hchunk, by rw [hvalue]; rfl⟩
              · exact haccepted c hc
      next => cases h
    · rintro ⟨chunks, htext, haccepted, hvs⟩
      cases chunks with
      | nil =>
        have := congrArg List.length htext
        rw [hlen, List.flatten_nil, List.length_nil, Nat.succ_mul] at this
        omega
      | cons first chunks =>
        have hfirst := haccepted first List.mem_cons_self
        obtain ⟨rfl, rfl⟩ := List.append_inj htext (hchunk.trans hfirst.1.symm)
        have haccepted' := fun c hc => haccepted c (List.mem_cons_of_mem chunk hc)
        obtain ⟨v, vs, rfl, hv, hvs⟩ := List.map_eq_cons_iff.mp hvs.symm
        have hboundary : isCharBoundary chunks.flatten = true := by
          cases chunks with
          | nil => rfl
          | cons second chunks => exact (haccepted' second List.mem_cons_self).isCharBoundary _
        have hparse := (ih hrest hboundary).mpr ⟨chunks, rfl, haccepted', hvs.symm⟩
        rw [if_pos hboundary, ← hv, hparse]
        rfl

end Chunks

/-! ## Characters and bytes -/

/-- A hexadecimal digit, in either case. -/
def isHexDigit (c : Char) : Bool :=
  ('0' ≤ c && c ≤ '9') || ('a' ≤ c && c ≤ 'f') || ('A' ≤ c && c ≤ 'F')

/-- A text of 32 hexadecimal digits. -/
def IsHexText (s : String) : Prop := s.toList.length = 32 ∧ ∀ c ∈ s.toList, isHexDigit c = true

theorem utf8EncodeChar_ascii {c : Char} (hc : c.toNat < 128) :
    String.utf8EncodeChar c = [UInt8.ofNat c.toNat] :=
  if_pos (Nat.le_of_lt_succ hc)

/-- The first byte of a character is no continuation byte, and an ASCII byte only for an ASCII
character. -/
theorem exists_utf8EncodeChar (c : Char) : ∃ b l, String.utf8EncodeChar c = b :: l ∧
    isCont b = false ∧ (b.toNat < 128 → c.toNat < 128) := by
  obtain ⟨b, l, hencode, hfront⟩ := front_utf8EncodeChar c []
  refine ⟨b, l, hencode, Bool.eq_false_iff.mpr fun hcont => ?_, fun hb => ?_⟩
  · have hwidth : ∀ n < 256, isCont (UInt8.ofNat n) = true → charWidth (UInt8.ofNat n) = 0 := by
      decide +kernel
    have hzero := hwidth b.toNat b.toNat_lt
    rw [UInt8.ofNat_toNat] at hzero
    rw [front, hzero hcont] at hfront
    cases hfront
  · have hone : charWidth b = 1 := if_pos hb
    rw [front, hone] at hfront
    have hchar : Char.ofNat b.toNat = c := Option.some.inj (Prod.ext_iff.mp hfront).1
    have hsmall : ∀ n < 128, (Char.ofNat n).toNat < 128 := by decide +kernel
    exact hchar ▸ hsmall b.toNat hb

theorem toNat_lt_of_isDigit {b : UInt8} (hb : Hex.IsDigit b) : b.toNat < 128 := by
  have h : ∀ n < 256, Hex.IsDigit (UInt8.ofNat n) → n < 128 := by decide +kernel
  have := h b.toNat b.toNat_lt
  rw [UInt8.ofNat_toNat] at this
  exact this hb

theorem toNat_lt_of_isHexDigit {c : Char} (hc : isHexDigit c = true) : c.toNat < 128 := by
  simp only [isHexDigit, Bool.or_eq_true, Bool.and_eq_true, decide_eq_true_eq, Char.le_def,
    UInt32.le_iff_toNat_le] at hc
  have h9 : '9'.val.toNat = 57 := rfl
  have hf : 'f'.val.toNat = 102 := rfl
  have hF : 'F'.val.toNat = 70 := rfl
  have hval : c.val.toNat = c.toNat := rfl
  omega

/-- The bytes of a digit are one digit. -/
theorem isHexDigit_iff (c : Char) :
    isHexDigit c = true ↔ ∀ b ∈ String.utf8EncodeChar c, Hex.IsDigit b := by
  by_cases hc : c.toNat < 128
  · have h : ∀ n < 128, (isHexDigit (Char.ofNat n) = true ↔ Hex.IsDigit (UInt8.ofNat n)) := by
      decide +kernel
    rw [utf8EncodeChar_ascii hc, List.forall_mem_singleton, ← h c.toNat hc, Char.ofNat_toNat]
  · obtain ⟨b, l, hencode, -, hascii⟩ := exists_utf8EncodeChar c
    refine iff_of_false (fun h => hc (toNat_lt_of_isHexDigit h)) fun h => hc (hascii ?_)
    exact toNat_lt_of_isDigit (h b (hencode ▸ List.mem_cons_self))

theorem asBytes_ascii {s : String} (hs : ∀ c ∈ s.toList, c.toNat < 128) :
    asBytes s = s.toList.map fun c => UInt8.ofNat c.toNat := by
  rw [asBytes]
  generalize s.toList = cs at hs
  induction cs with
  | nil => rfl
  | cons c cs ih =>
    rw [List.flatMap_cons, utf8EncodeChar_ascii (hs c List.mem_cons_self),
      ih fun d hd => hs d (List.mem_cons_of_mem _ hd)]
    rfl

theorem isCharBoundary_asBytes (s : String) : isCharBoundary (asBytes s) = true := by
  rw [asBytes]
  cases s.toList with
  | nil => rfl
  | cons c cs =>
    obtain ⟨b, l, hencode, hcont, -⟩ := exists_utf8EncodeChar c
    rw [List.flatMap_cons, hencode]
    show (!isCont b) = true
    rw [hcont]
    rfl

/-- Digits in the text are digits among its bytes. -/
theorem isHexText_iff (s : String) :
    IsHexText s ↔ (asBytes s).length = 32 ∧ ∀ b ∈ asBytes s, Hex.IsDigit b := by
  have hdigits : (∀ c ∈ s.toList, isHexDigit c = true) ↔ ∀ b ∈ asBytes s, Hex.IsDigit b := by
    simp only [asBytes, List.mem_flatMap, isHexDigit_iff]
    refine ⟨fun h b hmem => ?_, fun h c hc b hb => h b ⟨c, hc, hb⟩⟩
    obtain ⟨c, hc, hb⟩ := hmem
    exact h c hc b hb
  rw [IsHexText, ← hdigits]
  refine and_congr_left fun h => ?_
  rw [asBytes_ascii fun c hc => toNat_lt_of_isHexDigit (h c hc), List.length_map]

/-- The text in lower case, from its bytes. -/
theorem IsHexText.toLower_eq {s : String} (h : IsHexText s) :
    (asBytes s).map (fun b => (Hex.charOf b).toLower) = s.toLower.toList := by
  have hchar : ∀ n < 128, Hex.charOf (UInt8.ofNat n) = Char.ofNat n := by decide +kernel
  rw [asBytes_ascii fun c hc => toNat_lt_of_isHexDigit (h.2 c hc), String.toLower,
    String.toList_map, List.map_map]
  refine List.map_congr_left fun c hc => ?_
  show (Hex.charOf (UInt8.ofNat c.toNat)).toLower = c.toLower
  rw [hchar _ (toNat_lt_of_isHexDigit (h.2 c hc)), Char.ofNat_toNat]

/-! ## The parsers on all texts -/

/-- A parser accepts exactly the texts of 32 digits, and does not panic; printing what it returns
gives the text in lower case. -/
def ReadsHex {α : Type} (fromStr : String → Except Panic (Except ProtoError α))
    (display : α → String) (s : String) : Prop :=
  (∃ r, fromStr s = .ok r) ∧ ((∃ a, fromStr s = .ok (.ok a)) ↔ IsHexText s) ∧
    ∀ a, fromStr s = .ok (.ok a) → display a = s.toLower

/-- The numbers of chunks of digits have the bytes of the text. -/
theorem flatMap_toBe {k : Nat} (hk : 0 < k) {chunks : List Bytes}
    (hchunks : ∀ chunk ∈ chunks, chunk.length = 2 * k ∧ ∀ b ∈ chunk, Hex.IsDigit b) {vs : List Nat}
    (hvs : chunks.map fromStrRadix16 = vs.map some) :
    vs.flatMap (Hex.toBe k) = Hex.pairs chunks.flatten := by
  induction chunks generalizing vs with
  | nil =>
    obtain rfl := List.map_eq_nil_iff.mp hvs.symm
    rfl
  | cons chunk chunks ih =>
    obtain ⟨v, vs, rfl, hv, hvs⟩ := List.map_eq_cons_iff.mp hvs.symm
    obtain ⟨hlen, hdigits⟩ := hchunks chunk List.mem_cons_self
    have hne : chunk ≠ [] := List.ne_nil_of_length_pos (by omega)
    rw [fromStrRadix16_of_digits hne hdigits, Option.some.injEq] at hv
    rw [List.flatMap_cons, List.flatten_cons, Hex.pairs_append hlen, hv, Hex.toBe_value hlen,
      ih (fun c hc => hchunks c (List.mem_cons_of_mem _ hc)) hvs.symm]

/-- An accepted chunk without a sign. -/
theorem Accepted.isDigit {width : Nat} {chunk : Bytes} (h : Accepted width chunk)
    (hsign : chunk.head? ≠ some plus) : ∀ b ∈ chunk, Hex.IsDigit b := by
  obtain ⟨digits, -, hdigits, rfl | rfl⟩ := fromStrRadix16_isSome_iff.mp h.2
  · exact hdigits
  · exact absurd rfl hsign

theorem exists_chunks {width count : Nat} {text : Bytes} (hlen : text.length = count * width) :
    ∃ chunks : List Bytes, text = chunks.flatten ∧ ∀ chunk ∈ chunks, chunk.length = width := by
  induction count generalizing text with
  | zero => exact ⟨[], List.eq_nil_of_length_eq_zero (hlen.trans (Nat.zero_mul _)), nofun⟩
  | succ count ih =>
    obtain ⟨chunk, rest, rfl, hchunk, hrest⟩ := exists_chunk hlen
    obtain ⟨chunks, rfl, hchunks⟩ := ih hrest
    exact ⟨chunk :: chunks, rfl, List.forall_mem_cons.mpr ⟨hchunk, hchunks⟩⟩

section Bytes

variable {k : Nat} {s : String} {vs : List Nat}

/-- Texts of 32 digits are accepted. -/
theorem parseChunks_of_isHexText (hk : 0 < k) (hcount : 16 / k * (2 * k) = 32) (h : IsHexText s) :
    ∃ vs, parseChunks (2 * k) (16 / k) (asBytes s) = .ok (.ok vs) ∧
      vs.flatMap (Hex.toBe k) = Hex.pairs (asBytes s) := by
  obtain ⟨hlen, hdigits⟩ := (isHexText_iff s).mp h
  obtain ⟨chunks, htext, hchunks⟩ := exists_chunks (hlen.trans hcount.symm)
  have hdigits' : ∀ chunk ∈ chunks, ∀ b ∈ chunk, Hex.IsDigit b := fun chunk hchunk b hb =>
    hdigits b (htext ▸ List.mem_flatten.mpr ⟨chunk, hchunk, hb⟩)
  have hvalue : ∀ chunk ∈ chunks, fromStrRadix16 chunk = some (Hex.value chunk) := by
    intro chunk hchunk
    have hlength := hchunks chunk hchunk
    exact fromStrRadix16_of_digits (List.ne_nil_of_length_pos (by omega)) (hdigits' chunk hchunk)
  have hvs : chunks.map fromStrRadix16 = (chunks.map Hex.value).map some := by
    rw [List.map_map]
    exact List.map_congr_left hvalue
  refine ⟨chunks.map Hex.value, ?_, ?_⟩
  · refine (parseChunks_ok_iff (by omega) (hlen.trans hcount.symm)
      (isCharBoundary_asBytes s)).mpr ⟨chunks, htext, fun chunk hchunk => ?_, hvs⟩
    exact ⟨hchunks chunk hchunk, by rw [hvalue chunk hchunk]; rfl⟩
  · rw [htext]
    exact flatMap_toBe hk (fun chunk hchunk => ⟨hchunks chunk hchunk, hdigits' chunk hchunk⟩) hvs

/-- Without signs, nothing else is. -/
theorem isHexText_of_parseChunks (hk : 0 < k) (hcount : 16 / k * (2 * k) = 32)
    (hlen : (asBytes s).length = 32) (hsigned : ¬ Signed (2 * k) (asBytes s))
    (hparse : parseChunks (2 * k) (16 / k) (asBytes s) = .ok (.ok vs)) : IsHexText s := by
  obtain ⟨chunks, htext, haccepted, -⟩ := (parseChunks_ok_iff (by omega) (hlen.trans hcount.symm)
    (isCharBoundary_asBytes s)).mp hparse
  refine (isHexText_iff s).mpr ⟨hlen, fun b hb => ?_⟩
  rw [htext] at hb
  obtain ⟨chunk, hchunk, hb⟩ := List.mem_flatten.mp hb
  refine (haccepted chunk hchunk).isDigit (fun hsign => ?_) b hb
  exact hsigned ⟨chunks, htext, haccepted, chunk, hchunk, hsign⟩

/-- The text of sixteen bytes. -/
def displayBytes (bytes : Vector UInt8 16) : String := String.ofList (Hex.text bytes.toList)

theorem parseBytes_eq (hlen : (asBytes s).length = 32) :
    parseBytes k s = Except.map (bytesOf k) <$> parseChunks (2 * k) (16 / k) (asBytes s) :=
  if_neg (not_not_intro hlen)

theorem toList_bytesOf (hlen : (vs.flatMap (Hex.toBe k)).length = 16) :
    (bytesOf k vs).toList = vs.flatMap (Hex.toBe k) := by
  refine List.ext_getElem (by simp [hlen]) fun i h₁ h₂ => ?_
  simp [bytesOf, List.getElem?_eq_getElem h₂]

/-- **Texts of 32 digits** give their bytes. -/
theorem parseBytes_of_isHexText (hk : 0 < k) (hcount : 16 / k * (2 * k) = 32) (h : IsHexText s) :
    ∃ bytes, parseBytes k s = .ok (.ok bytes) ∧ bytes.toList = Hex.pairs (asBytes s) := by
  have hlen := ((isHexText_iff s).mp h).1
  obtain ⟨vs, hparse, hbytes⟩ := parseChunks_of_isHexText hk hcount h
  rw [parseBytes_eq hlen, hparse]
  refine ⟨bytesOf k vs, rfl, ?_⟩
  rw [toList_bytesOf (hbytes ▸ Hex.length_pairs hlen), hbytes]

theorem displayBytes_of_isHexText (h : IsHexText s) {bytes : Vector UInt8 16}
    (hbytes : bytes.toList = Hex.pairs (asBytes s)) : displayBytes bytes = s.toLower := by
  obtain ⟨hlen, hdigits⟩ := (isHexText_iff s).mp h
  have htext : Hex.text (Hex.pairs (asBytes s)) = _ := Hex.text_pairs (k := 16) hlen hdigits
  rw [displayBytes, hbytes, htext, h.toLower_eq, String.ofList_toList]

/-- **When a parser is right.** -/
theorem readsHex_parseBytes_iff (hk : 0 < k) (hcount : 16 / k * (2 * k) = 32) (s : String) :
    ReadsHex (parseBytes k) displayBytes s ↔ ¬ ((asBytes s).length = 32 ∧
      (Straddled (2 * k) (asBytes s) ∨ Signed (2 * k) (asBytes s))) := by
  by_cases hlen : (asBytes s).length = 32
  · rw [not_and, forall_prop_of_true hlen, not_or]
    have hpanics := parseChunks_panics_iff (hlen.trans hcount.symm) (isCharBoundary_asBytes s)
    constructor
    · rintro ⟨⟨r, hok⟩, haccepts, -⟩
      rw [parseBytes_eq hlen] at hok haccepts
      refine ⟨fun hstraddled => ?_, fun ⟨chunks, htext, haccepted, chunk, hchunk, hsign⟩ => ?_⟩
      · obtain ⟨p, hpanic⟩ := hpanics.mpr hstraddled
        rw [hpanic] at hok
        cases hok
      · have hvs : chunks.map fromStrRadix16 =
            (chunks.map fun chunk => (fromStrRadix16 chunk).getD 0).map some := by
          rw [List.map_map]
          refine List.map_congr_left fun c hc => ?_
          obtain ⟨v, hv⟩ := Option.isSome_iff_exists.mp (haccepted c hc).2
          show fromStrRadix16 c = some ((fromStrRadix16 c).getD 0)
          rw [hv]
          rfl
        have hparse := (parseChunks_ok_iff (by omega) (hlen.trans hcount.symm)
          (isCharBoundary_asBytes s)).mpr ⟨chunks, htext, haccepted, hvs⟩
        have hhex := haccepts.mp ⟨_, by rw [hparse]; rfl⟩
        have hplus : ¬ Hex.IsDigit plus := by decide
        refine hplus (((isHexText_iff s).mp hhex).2 plus (htext ▸ List.mem_flatten.mpr
          ⟨chunk, hchunk, List.mem_of_mem_head? hsign⟩))
    · rintro ⟨hstraddled, hsigned⟩
      have hexact : ∀ bytes, parseBytes k s = .ok (.ok bytes) → IsHexText s := by
        intro bytes hok
        rw [parseBytes_eq hlen] at hok
        cases hparse : parseChunks (2 * k) (16 / k) (asBytes s) with
        | error p =>
          rw [hparse] at hok
          cases hok
        | ok r =>
          rw [hparse] at hok
          cases r with
          | error e => cases hok
          | ok vs => exact isHexText_of_parseChunks hk hcount hlen hsigned hparse
      refine ⟨?_, ⟨fun ⟨bytes, hok⟩ => hexact bytes hok, fun hhex => ?_⟩, fun bytes hok => ?_⟩
      · rw [parseBytes_eq hlen]
        cases hparse : parseChunks (2 * k) (16 / k) (asBytes s) with
        | error p => exact absurd (hpanics.mp ⟨p, hparse⟩) hstraddled
        | ok r => exact ⟨_, rfl⟩
      · obtain ⟨bytes, hok, -⟩ := parseBytes_of_isHexText hk hcount hhex
        exact ⟨bytes, hok⟩
      · have hhex := hexact bytes hok
        obtain ⟨bytes', hok', hbytes⟩ := parseBytes_of_isHexText hk hcount hhex
        obtain rfl := Except.ok.inj (Except.ok.inj (hok.symm.trans hok'))
        exact displayBytes_of_isHexText hhex hbytes
  · have hparse : parseBytes k s = .ok (.error .invalidNodeId) := if_pos hlen
    refine iff_of_true ⟨⟨_, hparse⟩, iff_of_false ?_ ?_, ?_⟩ fun h => hlen h.1
    · rintro ⟨bytes, h⟩
      cases hparse.symm.trans h
    · exact fun h => hlen ((isHexText_iff s).mp h).1
    · intro bytes h
      cases hparse.symm.trans h

theorem isHexText_displayBytes (bytes : Vector UInt8 16) : IsHexText (displayBytes bytes) := by
  rw [IsHexText, displayBytes, String.toList_ofList, Hex.length_text, Vector.length_toList]
  refine ⟨rfl, fun c hc => ?_⟩
  obtain ⟨hascii, hdigit⟩ := Hex.mem_text hc
  rw [isHexDigit_iff, utf8EncodeChar_ascii hascii, List.forall_mem_singleton]
  exact hdigit

/-- **The text of bytes is parsed back.** -/
theorem parseBytes_displayBytes (hk : 0 < k) (hcount : 16 / k * (2 * k) = 32)
    (bytes : Vector UInt8 16) : parseBytes k (displayBytes bytes) = .ok (.ok bytes) := by
  have hhex := isHexText_displayBytes bytes
  obtain ⟨bytes', hok, hbytes⟩ := parseBytes_of_isHexText hk hcount hhex
  have hascii : ∀ c ∈ (displayBytes bytes).toList, c.toNat < 128 :=
    fun c hc => toNat_lt_of_isHexDigit (hhex.2 c hc)
  rw [asBytes_ascii hascii, displayBytes, String.toList_ofList, Hex.pairs_text] at hbytes
  rw [hok, Vector.toList_inj.mp hbytes]

end Bytes

/-! ## The two kinds of identifiers -/

/-- A parser of something that is made of bytes. -/
theorem readsHex_map_iff {α β : Type} {parse : String → Except Panic (Except ProtoError α)}
    {display : β → String} (f : α → β) (s : String) :
    ReadsHex (fun s => do return (← parse s).map f) display s ↔
      ReadsHex parse (display ∘ f) s := by
  rw [ReadsHex, ReadsHex]
  cases parse s with
  | error p => exact iff_of_false (fun ⟨⟨_, h⟩, _⟩ => nomatch h) fun ⟨⟨_, h⟩, _⟩ => nomatch h
  | ok r =>
    cases r with
    | error e => simp [bind, Except.bind, pure, Except.pure, Except.map]
    | ok a => simp [bind, Except.bind, pure, Except.pure, Except.map]

theorem Ed2kHash.display_eq (h : Ed2kHash) : h.display = displayBytes h.bytes := by
  rw [← String.toList_inj, display, String.toList_join, List.flatMap_map, displayBytes,
    String.toList_ofList]
  exact List.flatMap_congr fun b _ => String.toList_ofList

/-- The bytes of a chunk, from the most significant one on. -/
theorem toBe_ofLe (a b c d : UInt8) : Hex.toBe 4 (ofLe [a, b, c, d]) = [d, c, b, a] := by
  have ha := a.toNat_lt
  have hb := b.toNat_lt
  have hc := c.toNat_lt
  have hd := d.toNat_lt
  have hbyte : ∀ (x : UInt8) (n : Nat), n % 256 = x.toNat → UInt8.ofNat n = x := by
    intro x n hn
    rw [← UInt8.toNat_inj, UInt8.toNat_ofNat']
    exact hn
  simp only [Hex.toBe, ofLe]
  rw [hbyte d _ (by omega), hbyte c _ (by omega), hbyte b _ (by omega), hbyte a _ (by omega)]

theorem NodeId.toBe_chunkU32 (bytes : Vector UInt8 16) (i : Fin 4) (hi : i.val * 4 < 16)
    (hi₁ : i.val * 4 + 1 < 16) (hi₂ : i.val * 4 + 2 < 16) (hi₃ : i.val * 4 + 3 < 16) :
    Hex.toBe 4 ((NodeId.fromBeBytes bytes).chunkU32 i).toNat =
      [bytes.get ⟨i.val * 4, hi⟩, bytes.get ⟨i.val * 4 + 1, hi₁⟩,
        bytes.get ⟨i.val * 4 + 2, hi₂⟩, bytes.get ⟨i.val * 4 + 3, hi₃⟩] := by
  have hswap : ∀ (j : Nat) (hj : j < 4),
      (NodeId.fromBeBytes bytes).bytes.get ⟨i.val * 4 + j, by omega⟩ =
        bytes.get ⟨i.val * 4 + (3 - j), by omega⟩ := by
    intro j hj
    have hidx : (i.val * 4 + j) / 4 * 4 + (3 - (i.val * 4 + j) % 4) = i.val * 4 + (3 - j) := by
      omega
    simp only [fromBeBytes, swapChunks, Vector.get_eq_getElem, Vector.getElem_ofFn, hidx]
  have h0 := hswap 0 (by decide)
  have h1 := hswap 1 (by decide)
  have h2 := hswap 2 (by decide)
  have h3 := hswap 3 (by decide)
  simp only [Nat.add_zero, Nat.sub_zero, Nat.reduceSub] at h0 h1 h2 h3
  rw [toNat_chunkU32, toBe_ofLe, h0, h1, h2, h3]

/-- The chunks of an identifier have its bytes in the canonical order. -/
theorem NodeId.flatMap_toBe_chunkU32 (bytes : Vector UInt8 16) :
    (List.finRange 4).flatMap (fun i => Hex.toBe 4 ((NodeId.fromBeBytes bytes).chunkU32 i).toNat) =
      bytes.toList := by
  have hlist : bytes.toList = List.ofFn bytes.get := by
    refine List.ext_getElem (by rw [Vector.length_toList, List.length_ofFn]) fun i h₁ h₂ => ?_
    rw [List.getElem_ofFn, Vector.getElem_toList, Vector.get_eq_getElem]
  rw [hlist]
  have hchunk := fun i : Fin 4 =>
    toBe_chunkU32 bytes i (by omega) (by omega) (by omega) (by omega)
  simp only [hchunk]
  rfl

theorem NodeId.display_fromBeBytes (bytes : Vector UInt8 16) :
    (NodeId.fromBeBytes bytes).display = displayBytes bytes := by
  have hchunk : ∀ i : Fin 4, (Hex.lower 8 ((NodeId.fromBeBytes bytes).chunkU32 i).toNat).toList =
      Hex.text (Hex.toBe 4 ((NodeId.fromBeBytes bytes).chunkU32 i).toNat) := fun i =>
    String.toList_ofList.trans (Hex.padded_toBe 4 _)
  rw [← String.toList_inj, display, String.toList_join, List.flatMap_map, displayBytes,
    String.toList_ofList, ← flatMap_toBe_chunkU32 bytes, Hex.text, List.flatMap_assoc]
  exact List.flatMap_congr fun i _ => hchunk i

/-- The text of a hash is parsed back. -/
theorem Ed2kHash.fromStr_display (hash : Ed2kHash) :
    Ed2kHash.fromStr hash.display = .ok (.ok hash) := by
  rw [hash.display_eq, Ed2kHash.fromStr, parseBytes_displayBytes (by decide) rfl]
  rfl

/-- **When the parsers of identifiers are right**: for all texts but those of 32 bytes that have a
chunk with a sign, or one that ends inside a character after chunks that were accepted.  The text of
an identifier is always parsed back. -/
theorem fromStr_correct_iff (s : String) :
    (ReadsHex NodeId.fromStr NodeId.display s ↔ ¬ ((asBytes s).length = 32 ∧
      (Straddled 8 (asBytes s) ∨ Signed 8 (asBytes s)))) ∧
    (ReadsHex Ed2kHash.fromStr Ed2kHash.display s ↔ ¬ ((asBytes s).length = 32 ∧
      (Straddled 2 (asBytes s) ∨ Signed 2 (asBytes s)))) ∧
    (∀ id : NodeId, NodeId.fromStr id.display = .ok (.ok id)) ∧
    ∀ hash : Ed2kHash, Ed2kHash.fromStr hash.display = .ok (.ok hash) := by
  have hnode : NodeId.display ∘ NodeId.fromBeBytes = displayBytes :=
    funext NodeId.display_fromBeBytes
  have hhash : Ed2kHash.display ∘ Ed2kHash.mk = displayBytes :=
    funext fun bytes => Ed2kHash.display_eq ⟨bytes⟩
  refine ⟨(readsHex_map_iff NodeId.fromBeBytes s).trans ?_,
    (readsHex_map_iff Ed2kHash.mk s).trans ?_, fun id => ?_, Ed2kHash.fromStr_display⟩
  · rw [hnode]
    exact readsHex_parseBytes_iff (k := 4) (by decide) rfl s
  · rw [hhash]
    exact readsHex_parseBytes_iff (k := 1) (by decide) rfl s
  · rw [← NodeId.fromBeBytes_toBeBytes id, NodeId.display_fromBeBytes, NodeId.fromStr,
      parseBytes_displayBytes (by decide) rfl]
    rfl

/-- A plus sign and 31 zeros. -/
def signedText : String := String.ofList ('+' :: List.replicate 31 '0')

/-- A text of 32 bytes, with a character of two bytes from the byte `n` on. -/
def straddledText (n : Nat) : String :=
  String.ofList (List.replicate n '0' ++ 'é' :: List.replicate (30 - n) '0')

/-- **A sign is accepted**, although it is no digit, and a character that crosses the end of a chunk
makes the parsers panic. -/
theorem sign_accepted :
    ¬ IsHexText signedText ∧
    (NodeId.fromStr signedText).toOption.bind (·.toOption) = some NodeId.ZERO ∧
    (Ed2kHash.fromStr signedText).toOption.bind (·.toOption) = some ⟨Vector.replicate 16 0⟩ ∧
    (NodeId.fromStr (straddledText 7)).toOption = none ∧
    (Ed2kHash.fromStr (straddledText 1)).toOption = none := by
  have hsigned : asBytes signedText = plus :: List.replicate 31 48 := by
    unfold asBytes signedText
    rw [String.toList_ofList]
    decide +kernel
  have hstraddled : ∀ n, asBytes (straddledText n) = (List.replicate n '0' ++ 'é' ::
      List.replicate (30 - n) '0').flatMap String.utf8EncodeChar := by
    intro n
    rw [asBytes, straddledText, String.toList_ofList]
  refine ⟨?_, ?_, ?_, ?_, ?_⟩
  · rw [isHexText_iff, hsigned]
    decide +kernel
  · rw [NodeId.fromStr, parseBytes, hsigned]
    decide +kernel
  · rw [Ed2kHash.fromStr, parseBytes, hsigned]
    decide +kernel
  · rw [NodeId.fromStr, parseBytes, hstraddled]
    decide +kernel
  · rw [Ed2kHash.fromStr, parseBytes, hstraddled]
    decide +kernel

end Overlord.Kad
