import Overlord.Kad.Proto.Constants
import Overlord.Kad.Proto.Tag

/-!
# Restrictive keyword searches

`kad_search_expr.rs` of the eMule agent.  A keyword search may carry an expression that narrows the
files it asks for; the agent parses it from the packet and evaluates it against the name and the
tags of a published file.

The parser follows the recursion of the source with the remaining depth as its argument, so it is
total for the reason the source is: an expression nested deeper than `MAX_SEARCH_EXPR_DEPTH` is
rejected.  Lower-casing is the full Unicode one of the standard library and is a parameter of
everything that uses it.
-/

set_option autoImplicit false

namespace Overlord.Emule

open Kad Wire

/-- `MAX_SEARCH_EXPR_DEPTH`. -/
def MAX_SEARCH_EXPR_DEPTH : Nat := 24

/-- `INVALID_KAD_KEYWORD_CHARS`. -/
def INVALID_KAD_KEYWORD_CHARS : List Char :=
  [' ', '(', ')', '[', ']', '\x7b', '\x7d', '<', '>', ',', '.', '_', '-', '!', '?', ':', ';', '\\',
    '/', '"']

inductive NumericOp where
  | equal
  | greater
  | less
  | greaterEqual
  | lessEqual
  | notEqual
deriving DecidableEq, Repr

inductive SearchTerm where
  | and (left right : SearchTerm)
  | or (left right : SearchTerm)
  | not (left right : SearchTerm)
  | string (terms : List String)
  | metaString (name : TagName) (value : String)
  | numeric (name : TagName) (op : NumericOp) (value : UInt64)
deriving DecidableEq, Repr

/-! ## Parsing -/

/-- The parser reports failure without a reason. -/
abbrev Parse := Get Unit

/-- `read_tag_name`. -/
def readTagName : Parse TagName := do
  let len ← getU16 ()
  let bytes ← getExact () len.toNat
  match bytes with
  | [name] => return .short name
  | _ => return .long (fromUtf8Lossy bytes)

/-- A quoted part: everything up to the closing quote, if there is one. -/
def quotedPart (cs : List Char) : List Char := cs.takeWhile (· ≠ '"')

/-- A bare word: everything up to the first separator. -/
def barePart (cs : List Char) : List Char :=
  cs.takeWhile fun c => ¬ c ∈ INVALID_KAD_KEYWORD_CHARS

/-- Push a term unless it is empty. -/
def pushTerm (term : List Char) (terms : List String) : List String :=
  if term.isEmpty then terms else String.ofList term :: terms

/-- The loop of `tokenize_opt_quoted_search_term` on the characters from the current index on.
Every round consumes a character, so as many rounds as there are characters are enough. -/
def tokenizeChars : Nat → List Char → List String
  | 0, _ => []
  | _, [] => []
  | rounds + 1, '"' :: cs =>
    match cs.drop (quotedPart cs).length with
    -- an unterminated quote is dropped together with the rest
    | [] => []
    | _ :: rest => pushTerm (quotedPart cs) (tokenizeChars rounds rest)
  | rounds + 1, c :: cs =>
    match (c :: cs).drop (barePart (c :: cs)).length with
    | [] => pushTerm (barePart (c :: cs)) []
    -- a quote starts the next term, any other separator is skipped
    | '"' :: rest => pushTerm (barePart (c :: cs)) (tokenizeChars rounds ('"' :: rest))
    | _ :: rest => pushTerm (barePart (c :: cs)) (tokenizeChars rounds rest)

/-- `tokenize_opt_quoted_search_term`. -/
def tokenizeOptQuotedSearchTerm (value : String) : List String :=
  tokenizeChars value.toList.length value.toList

theorem tokenizeChars_nil (rounds : Nat) : tokenizeChars rounds [] = [] := by
  cases rounds <;> rfl

/-- What is left after a bare word, unless a quote follows, is shorter than the text. -/
theorem length_lt_of_drop_barePart {c : Char} {cs rest : List Char} (hc : c ≠ '"')
    (h : (c :: cs).drop (barePart (c :: cs)).length = '"' :: rest) : rest.length < cs.length := by
  have hlen := congrArg List.length h
  rw [List.length_drop, List.length_cons, List.length_cons] at hlen
  by_cases hinv : c ∈ INVALID_KAD_KEYWORD_CHARS
  · have hnil : barePart (c :: cs) = [] := by simp [barePart, hinv]
    rw [hnil] at h
    simp only [List.length_nil, List.drop_zero, List.cons.injEq] at h
    exact absurd h.1 hc
  · have hcons : barePart (c :: cs) = c :: barePart cs := by simp [barePart, hinv]
    rw [hcons, List.length_cons] at hlen
    omega

/-- **The tokenizer has enough rounds.**  More rounds than characters change nothing. -/
theorem tokenizeChars_eq_of_length_le {n m : Nat} {cs : List Char} (hn : cs.length ≤ n)
    (hm : cs.length ≤ m) : tokenizeChars n cs = tokenizeChars m cs := by
  induction n generalizing m cs with
  | zero =>
    obtain rfl := List.length_eq_zero_iff.mp (Nat.le_zero.mp hn)
    rw [tokenizeChars_nil, tokenizeChars_nil]
  | succ n ih =>
    cases cs with
    | nil => rw [tokenizeChars_nil, tokenizeChars_nil]
    | cons c cs =>
      obtain ⟨m, rfl⟩ := Nat.exists_eq_succ_of_ne_zero (n := m) (by simp at hm; omega)
      rw [List.length_cons] at hn hm
      by_cases hc : c = '"'
      · subst hc
        simp only [tokenizeChars]
        split
        · rfl
        · rename_i q rest hrest
          have hlen := congrArg List.length hrest
          rw [List.length_drop, List.length_cons] at hlen
          rw [ih (by omega) (m := m) (by omega)]
      · rw [tokenizeChars, tokenizeChars]
        · split
          · rfl
          · rename_i rest hrest
            have hlen := length_lt_of_drop_barePart hc hrest
            rw [ih (by simp; omega) (m := m) (by simp; omega)]
          · rename_i d rest _ hrest
            have hlen := congrArg List.length hrest
            rw [List.length_drop, List.length_cons, List.length_cons] at hlen
            rw [ih (by omega) (m := m) (by omega)]
        · exact fun h => hc h
        · exact fun h => hc h

section Lowercase

variable (toLowercase : String → String)

/-- `read_lower_string`. -/
def readLowerString : Parse String := do
  let len ← getU16 ()
  let bytes ← getExact () len.toNat
  return toLowercase (fromUtf8Lossy bytes)

/-- `parse_numeric_term`. -/
def parseNumericTerm (value : UInt64) : Parse SearchTerm := do
  let op ← match ← getU8 () with
    | 0x00 => pure NumericOp.equal
    | 0x01 => pure NumericOp.greater
    | 0x02 => pure NumericOp.less
    | 0x03 => pure NumericOp.greaterEqual
    | 0x04 => pure NumericOp.lessEqual
    | 0x05 => pure NumericOp.notEqual
    | _ => throw ()
  let name ← readTagName
  return .numeric name op value

/-- `parse_boolean_term`, over the parser of its operands. -/
def parseBooleanTerm (operand : Parse SearchTerm) : Parse SearchTerm := do
  let boolOp ← getU8 ()
  let left ← operand
  let right ← operand
  match boolOp with
  | 0x00 => return .and left right
  | 0x01 => return .or left right
  | 0x02 => return .not left right
  | _ => throw ()

/-- `parse_search_term` with `left` levels of nesting to go. -/
def parseSearchTerm (left : Nat) : Parse SearchTerm :=
  match left with
  | 0 => throw ()
  | left + 1 => do
    match ← getU8 () with
    | 0x00 => parseBooleanTerm (parseSearchTerm left)
    | 0x01 => do
      let value ← readLowerString toLowercase
      return .string (tokenizeOptQuotedSearchTerm value)
    | 0x02 => do
      let value ← readLowerString toLowercase
      let name ← readTagName
      return .metaString name value
    | 0x03 => do
      let value ← getU32 ()
      parseNumericTerm (UInt64.ofNat value.toNat)
    | 0x08 => do
      let value ← getU64 ()
      parseNumericTerm value
    | _ => throw ()

/-! ## Evaluation -/

/-- `string_terms_match`: every term occurs in the name. -/
def stringTermsMatch (filenameLower : String) (terms : List String) : Bool :=
  !terms.isEmpty && terms.all fun term => decide (term.toList <:+: filenameLower.toList)

/-- `rsplit_once('.')`, keeping the part behind the last dot. -/
def extension? (name : List Char) : Option (List Char) :=
  if '.' ∈ name then some (name.reverse.takeWhile (· ≠ '.')).reverse else none

/-- `meta_string_matches`. -/
def metaStringMatches (filenameLower : String) (tags : List Tag) (name : TagName)
    (value : String) : Bool :=
  if name = .short tagName.FILEFORMAT then extension? filenameLower.toList = some value.toList
  else
    tags.any fun tag => tag.name = name && match tag.value with
      | .string tagValue => toLowercase tagValue = value
      | _ => false

/-- The accumulators of `file_size_tag_value`: the first whole size and the first low and high
halves. -/
structure FileSizeParts where
  size : Option UInt64
  sizeLow : Option UInt32
  sizeHigh : Option UInt32
deriving DecidableEq, Repr

/-- `Option::get_or_insert`. -/
def getOrInsert {α : Type} (slot : Option α) (value : α) : Option α := slot <|> some value

/-- `(u64::from(high) << 32) | u64::from(low)`. -/
def joinHalves (high low : UInt32) : UInt64 := UInt64.ofNat (high.toNat <<< 32 ||| low.toNat)

/-- What the accumulators amount to. -/
def FileSizeParts.result (parts : FileSizeParts) : Option UInt64 :=
  parts.size <|> parts.sizeLow.map fun low => joinHalves (parts.sizeHigh.getD 0) low

/-- One round of the loop in `file_size_tag_value`. -/
def fileSizeTagValueStep (parts : FileSizeParts) (tag : Tag) : FileSizeParts :=
  match tag.name with
  | .long _ => parts
  | .short name =>
    if name = tagName.FILESIZE then
      match tag.value with
      | .uint v =>
        if v.toNat < 2 ^ 32 then
          { parts with sizeLow := getOrInsert parts.sizeLow (UInt32.ofNat v.toNat) }
        else { parts with size := getOrInsert parts.size v }
      | .u64 v => { parts with size := getOrInsert parts.size v }
      | .u32 v => { parts with sizeLow := getOrInsert parts.sizeLow v }
      | .u16 v => { parts with sizeLow := getOrInsert parts.sizeLow (UInt32.ofNat v.toNat) }
      | .u8 v => { parts with sizeLow := getOrInsert parts.sizeLow (UInt32.ofNat v.toNat) }
      | .blob bytes | .smallBlob bytes =>
        if bytes.length = 8 then
          { parts with size := getOrInsert parts.size (UInt64.ofNat (ofLe bytes)) }
        else parts
      | _ => parts
    else if name = tagName.FILESIZE_HI then
      match tag.value with
      | .uint v =>
        if v.toNat < 2 ^ 32 then
          { parts with sizeHigh := getOrInsert parts.sizeHigh (UInt32.ofNat v.toNat) }
        else parts
      | .u32 v => { parts with sizeHigh := getOrInsert parts.sizeHigh v }
      | .u16 v => { parts with sizeHigh := getOrInsert parts.sizeHigh (UInt32.ofNat v.toNat) }
      | .u8 v => { parts with sizeHigh := getOrInsert parts.sizeHigh (UInt32.ofNat v.toNat) }
      | _ => parts
    else parts

/-- `file_size_tag_value`. -/
def fileSizeTagValue (tags : List Tag) : Option UInt64 :=
  (tags.foldl fileSizeTagValueStep ⟨none, none, none⟩).result

/-- `int_tag_value`. -/
def intTagValue (tags : List Tag) (name : TagName) : Option UInt64 :=
  if name = .short tagName.FILESIZE then fileSizeTagValue tags
  else
    tags.findSome? fun tag =>
      if tag.name ≠ name then none
      else
        match tag.value with
        | .uint v | .u64 v => some v
        | .u32 v => some (UInt64.ofNat v.toNat)
        | .u16 v => some (UInt64.ofNat v.toNat)
        | .u8 v => some (UInt64.ofNat v.toNat)
        | _ => none

/-- `numeric_matches`. -/
def numericMatches (tags : List Tag) (name : TagName) (op : NumericOp) (expected : UInt64) : Bool :=
  match intTagValue tags name with
  | none => false
  | some actual =>
    match op with
    | .equal => actual = expected
    | .greater => expected < actual
    | .less => actual < expected
    | .greaterEqual => expected ≤ actual
    | .lessEqual => actual ≤ expected
    | .notEqual => actual ≠ expected

/-- `matches_with_lower_filename`. -/
def SearchTerm.matchesWithLowerFilename (filenameLower : String) (tags : List Tag) :
    SearchTerm → Bool
  | .and left right => left.matchesWithLowerFilename filenameLower tags &&
      right.matchesWithLowerFilename filenameLower tags
  | .or left right => left.matchesWithLowerFilename filenameLower tags ||
      right.matchesWithLowerFilename filenameLower tags
  | .not left right => left.matchesWithLowerFilename filenameLower tags &&
      !right.matchesWithLowerFilename filenameLower tags
  | .string terms => stringTermsMatch filenameLower terms
  | .metaString name value => metaStringMatches toLowercase filenameLower tags name value
  | .numeric name op value => numericMatches tags name op value

/-- `matches_restrictive_keyword_payload`: what does not parse matches nothing; bytes behind the
expression are ignored. -/
def matchesRestrictiveKeywordPayload (filename : String) (tags : List Tag) (payload : Bytes) :
    Bool :=
  match (parseSearchTerm toLowercase MAX_SEARCH_EXPR_DEPTH).run payload with
  | .error _ => false
  | .ok (term, _) => term.matchesWithLowerFilename toLowercase (toLowercase filename) tags

end Lowercase

end Overlord.Emule
