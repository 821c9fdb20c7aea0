import Overlord.Data.Text
import Overlord.Wire.Utf8

/-!
# Search expressions for servers

`search_expr.rs` of the server session.  What the user types is cut into tokens, parsed by
precedence climbing, and written for the server in prefix notation.

The parser works on the tokens that are left instead of an index into all of them.  Every call
returns fewer tokens than it was given, and the results carry the proof of it; this is what the
recursion is on.

* `parseSearchExpression_print` — a tree that is printed with all its parentheses is read back.
* `readPrefix` is the server's side: prefix notation as a reader.
* `search_expression_round_trip` puts the two together.  A tree that is built from `AND` alone is
  sent as one string.

The two halves of `parseSearchExpression_print` are stated with what comes after: `Tokenizes` for
the characters of a subtree, and `ParsesTo` for its tokens.  Both are by induction on the tree, with
one lemma for an operator in parentheses.
-/

set_option autoImplicit false

namespace Overlord.Emule

open Wire

/-! ## Trees and tokens -/

inductive SearchExprNode where
  | term (value : String)
  | and (left right : SearchExprNode)
  | or (left right : SearchExprNode)
  | not (left right : SearchExprNode)
deriving DecidableEq, Repr

inductive SearchToken where
  | term (value : String)
  | and
  | or
  | not
  | openParen
  | closeParen
deriving DecidableEq, Repr

inductive SearchBinaryOperator where
  | and
  | or
  | not
deriving DecidableEq, Repr

namespace SearchBinaryOperator

/-- The tree of an operator and its operands. -/
def node : SearchBinaryOperator → SearchExprNode → SearchExprNode → SearchExprNode
  | and => .and
  | or => .or
  | not => .not

/-- The token of an operator. -/
def token : SearchBinaryOperator → SearchToken
  | and => .and
  | or => .or
  | not => .not

/-- How tightly an operator binds. -/
def precedence : SearchBinaryOperator → Nat
  | and => 1
  | or => 2
  | not => 3

/-- The word of an operator. -/
def word : SearchBinaryOperator → List Char
  | and => ['A', 'N', 'D']
  | or => ['O', 'R']
  | not => ['N', 'O', 'T']

/-- The byte of an operator in prefix notation. -/
def code : SearchBinaryOperator → UInt8
  | and => 0x00
  | or => 0x01
  | not => 0x02

end SearchBinaryOperator

/-! ## Tokens -/

/-- A character that ends a bare word. -/
def endsWord (c : Char) : Bool :=
  Text.isWhitespace c || c = '(' || c = ')' || c = '"'

/-- A bare word is an operator in any case, or a term. -/
def wordToken (word : List Char) : SearchToken :=
  let uppercase := String.ofList (word.map Char.toUpper)
  if uppercase = "AND" then .and
  else if uppercase = "OR" then .or
  else if uppercase = "NOT" then .not
  else .term (String.ofList word)

/-- A quoted phrase is a term unless it is blank. -/
def phraseTokens (phrase : List Char) : List SearchToken :=
  let phrase := Text.trim (String.ofList phrase)
  if phrase = "" then [] else [.term phrase]

/-- The loop of `tokenize_search_expression`. -/
def tokenizeExpression : List Char → Except String (List SearchToken)
  | [] => .ok []
  | c :: cs =>
    if Text.isWhitespace c then tokenizeExpression cs
    else if c = '(' then (.openParen :: ·) <$> tokenizeExpression cs
    else if c = ')' then (.closeParen :: ·) <$> tokenizeExpression cs
    else if c = '"' then
      let behind := cs.dropWhile (· ≠ '"')
      if behind.isEmpty then .error "unterminated quoted ED2K search phrase"
      else (phraseTokens (cs.takeWhile (· ≠ '"')) ++ ·) <$> tokenizeExpression behind.tail
    -- `c` does not end a word, so the word that starts here is not empty
    else (wordToken (c :: cs.takeWhile (!endsWord ·)) :: ·) <$>
      tokenizeExpression (cs.dropWhile (!endsWord ·))
termination_by cs => cs.length
decreasing_by
  · simp
  · simp
  · simp
  · have := (List.dropWhile_suffix (l := cs) (fun c => decide (c ≠ '"'))).length_le
    simp only [List.length_tail, List.length_cons]
    omega
  · have := (List.dropWhile_suffix (l := cs) (fun c => !endsWord c)).length_le
    simp only [List.length_cons]
    omega

/-- `tokenize_search_expression`. -/
def tokenizeSearchExpression (input : String) : Except String (List SearchToken) :=
  tokenizeExpression input.toList

/-! ## The parser -/

/-- A parsed tree and the tokens behind it, fewer than `n`. -/
abbrev ParsedBelow (n : Nat) :=
  { r : SearchExprNode × List SearchToken // r.2.length < n }

/-- `peek_binary_operator`: the operator, and whether it is implicit. -/
def peekBinaryOperator : List SearchToken → Option (SearchBinaryOperator × Bool)
  | .and :: _ => some (.and, false)
  | .or :: _ => some (.or, false)
  | .not :: _ => some (.not, false)
  | .term _ :: _ | .openParen :: _ => some (.and, true)
  | .closeParen :: _ | [] => none

/-- The tokens behind an operator.  An implicit one has no token. -/
def behindOperator (implicit : Bool) (tokens : List SearchToken) : List SearchToken :=
  if implicit then tokens else tokens.tail

theorem length_behindOperator_le (implicit : Bool) (tokens : List SearchToken) :
    (behindOperator implicit tokens).length ≤ tokens.length := by
  cases implicit with
  | false => simp [behindOperator]
  | true => exact Nat.le_refl _

mutual

/-- `parse_expression`. -/
def parseExpression (minPrecedence : Nat) (tokens : List SearchToken) :
    Except String (ParsedBelow tokens.length) := do
  let ⟨(lhs, rest), hrest⟩ ← parsePrimary tokens
  let ⟨r, hr⟩ ← parseOperators minPrecedence lhs rest
  return ⟨r, Nat.lt_of_lt_of_le hr hrest⟩
termination_by (tokens.length, 1)

/-- `parse_primary`. -/
def parsePrimary (tokens : List SearchToken) : Except String (ParsedBelow tokens.length) :=
  match tokens with
  | .term value :: rest => .ok ⟨(.term value, rest), Nat.lt_succ_self _⟩
  | .openParen :: rest => do
    let ⟨(expression, behind), hbehind⟩ ← parseExpression 1 rest
    match behind, hbehind with
    | .closeParen :: behind, h => .ok ⟨(expression, behind),
        Nat.lt_of_lt_of_le (Nat.lt_of_succ_lt h) (Nat.le_succ _)⟩
    | _, _ => .error "missing closing parenthesis in ED2K search expression"
  | _ => .error "invalid ED2K search expression"
termination_by (tokens.length, 0)

/-- The loop of `parse_expression` behind its first operand. -/
def parseOperators (minPrecedence : Nat) (lhs : SearchExprNode) (tokens : List SearchToken) :
    Except String (ParsedBelow (tokens.length + 1)) :=
  match peekBinaryOperator tokens with
  | none => .ok ⟨(lhs, tokens), Nat.lt_succ_self _⟩
  | some (operator, implicit) =>
    if operator.precedence < minPrecedence then .ok ⟨(lhs, tokens), Nat.lt_succ_self _⟩
    else do
      let ⟨(rhs, rest), hrest⟩ ←
        parseExpression (operator.precedence + 1) (behindOperator implicit tokens)
      let ⟨r, hr⟩ ← parseOperators minPrecedence (operator.node lhs rhs) rest
      have hlt := Nat.lt_of_lt_of_le hrest (length_behindOperator_le implicit tokens)
      return ⟨r, Nat.lt_trans (Nat.lt_of_lt_of_le hr hlt) (Nat.lt_succ_self _)⟩
termination_by (tokens.length, 2)
decreasing_by
  · rcases Nat.lt_or_eq_of_le (length_behindOperator_le implicit tokens) with hlt | heq
    · exact Prod.Lex.left _ _ hlt
    · rw [heq]
      exact Prod.Lex.right _ (by decide)
  · exact Prod.Lex.left _ _ (Nat.lt_of_lt_of_le hrest (length_behindOperator_le implicit tokens))

end

/-- `parse_search_expression`. -/
def parseSearchExpression (input : String) : Except String (Option SearchExprNode) := do
  let tokens ← tokenizeSearchExpression input
  if tokens.isEmpty then return none
  let ⟨(expression, behind), _⟩ ← parseExpression 1 tokens
  if behind.isEmpty then return some expression
  throw "unexpected trailing ED2K search tokens"

/-! ## The encoder -/

/-- `encode_search_string_param`. -/
def encodeSearchStringParam (value : String) : Except String Bytes :=
  if (asBytes value).length < 2 ^ 16 then
    .ok (1 :: putU16 (UInt16.ofNat (asBytes value).length) ++ asBytes value)
  else .error "ED2K search term is too long"

/-- `encode_search_expression`. -/
def encodeSearchExpression : SearchExprNode → Except String Bytes
  | .term value => encodeSearchStringParam value
  | .and left right => do
    return 0 :: 0x00 :: (← encodeSearchExpression left) ++ (← encodeSearchExpression right)
  | .or left right => do
    return 0 :: 0x01 :: (← encodeSearchExpression left) ++ (← encodeSearchExpression right)
  | .not left right => do
    return 0 :: 0x02 :: (← encodeSearchExpression left) ++ (← encodeSearchExpression right)

/-- `flatten_and_terms`: the terms of a tree without `OR` and `NOT`. -/
def flattenAndTerms : SearchExprNode → Option (List String)
  | .term value => some [value]
  | .and left right => do return (← flattenAndTerms left) ++ (← flattenAndTerms right)
  | .or _ _ | .not _ _ => none

/-- `encode_search_request`. -/
def encodeSearchRequest (term : String) : Except String Bytes := do
  match ← parseSearchExpression term with
  | none => return []
  | some expression =>
    match flattenAndTerms expression with
    | some terms => encodeSearchStringParam (" ".intercalate terms)
    | none => encodeSearchExpression expression

/-! ## Printing -/

namespace SearchExprNode

/-- The terms of a tree, from left to right. -/
def terms : SearchExprNode → List String
  | term value => [value]
  | and left right | or left right | not left right => left.terms ++ right.terms

/-- A tree built from `AND` alone. -/
def isConjunction : SearchExprNode → Bool
  | term _ => true
  | and left right => left.isConjunction && right.isConjunction
  | or _ _ | not _ _ => false

/-- An operator between two operands, in parentheses. -/
def parenthesized (operator : SearchBinaryOperator) (left right : List Char) : List Char :=
  '(' :: (left ++ (' ' :: (operator.word ++ ' ' :: (right ++ [')']))))

/-- The tree as the user may type it: quoted terms, all parentheses. -/
def printChars : SearchExprNode → List Char
  | term value => '"' :: (value.toList ++ ['"'])
  | and left right => parenthesized .and left.printChars right.printChars
  | or left right => parenthesized .or left.printChars right.printChars
  | not left right => parenthesized .not left.printChars right.printChars

def print (t : SearchExprNode) : String := String.ofList t.printChars

/-- The tokens of the printed tree. -/
def tokens : SearchExprNode → List SearchToken
  | term value => [.term value]
  | and left right => .openParen :: (left.tokens ++ .and :: (right.tokens ++ [.closeParen]))
  | or left right => .openParen :: (left.tokens ++ .or :: (right.tokens ++ [.closeParen]))
  | not left right => .openParen :: (left.tokens ++ .not :: (right.tokens ++ [.closeParen]))

/-- A term that its quotes keep as it is: trimmed, not blank, without a quote. -/
structure QuotableTerm (value : String) : Prop where
  trim_eq : Text.trim value = value
  ne_empty : value ≠ ""
  quote_notMem : '"' ∉ value.toList

/-- Every term of the tree can be quoted. -/
def Quotable (t : SearchExprNode) : Prop := ∀ value ∈ t.terms, QuotableTerm value

/-- What the server is told: the terms of a conjunction as one string, any other tree as it is. -/
def sent (t : SearchExprNode) : SearchExprNode :=
  if t.isConjunction then .term (" ".intercalate t.terms) else t

end SearchExprNode

/-! ## Tokens of a printed tree -/

open SearchExprNode

theorem tokenizeExpression_quoted {value : String} (h : QuotableTerm value) (rest : List Char) :
    tokenizeExpression ('"' :: (value.toList ++ '"' :: rest)) =
      (.term value :: ·) <$> tokenizeExpression rest := by
  have hall : ∀ c ∈ value.toList, decide (c ≠ '"') = true := fun c hc =>
    decide_eq_true fun heq => h.quote_notMem (heq ▸ hc)
  have htake : (value.toList ++ '"' :: rest).takeWhile (fun c => decide (c ≠ '"')) =
      value.toList := by
    rw [List.takeWhile_append_of_pos hall]
    simp
  have hdrop : (value.toList ++ '"' :: rest).dropWhile (fun c => decide (c ≠ '"')) =
      '"' :: rest := by
    rw [List.dropWhile_append_of_pos hall]
    simp
  rw [tokenizeExpression, if_neg (by decide), if_neg (by decide), if_neg (by decide), if_pos rfl]
  simp only [htake, hdrop, List.isEmpty_cons, Bool.false_eq_true, if_false, List.tail_cons]
  rw [phraseTokens, String.ofList_toList, h.trim_eq, if_neg h.ne_empty]
  rfl

theorem tokenizeExpression_word {word : List Char} (hne : word ≠ [])
    (hword : ∀ c ∈ word, endsWord c = false) (rest : List Char) :
    tokenizeExpression (word ++ ' ' :: rest) =
      (wordToken word :: ·) <$> tokenizeExpression rest := by
  cases word with
  | nil => exact absurd rfl hne
  | cons c word =>
    have hc : endsWord c = false := hword c List.mem_cons_self
    have hall : ∀ d ∈ word, (!endsWord d) = true := fun d hd => by
      rw [hword d (List.mem_cons_of_mem c hd)]
      rfl
    simp only [endsWord, Bool.or_eq_false_iff, decide_eq_false_iff_not] at hc
    obtain ⟨⟨⟨hspace, hopen⟩, hclose⟩, hquote⟩ := hc
    rw [List.cons_append, tokenizeExpression, if_neg (by rw [hspace]; decide), if_neg hopen,
      if_neg hclose, if_neg hquote, List.takeWhile_append_of_pos hall,
      List.dropWhile_append_of_pos hall, List.takeWhile_cons_of_neg (by decide),
      List.dropWhile_cons_of_neg (by decide), List.append_nil, tokenizeExpression,
      if_pos (by decide)]

theorem tokenizeExpression_operator (operator : SearchBinaryOperator) (rest : List Char) :
    tokenizeExpression (' ' :: (operator.word ++ ' ' :: rest)) =
      (operator.token :: ·) <$> tokenizeExpression rest := by
  have hword : wordToken operator.word = operator.token := by
    cases operator <;> decide
  have hne : operator.word ≠ [] := by cases operator <;> decide
  have hends : ∀ c ∈ operator.word, endsWord c = false := by
    cases operator <;> simp [SearchBinaryOperator.word, endsWord, Text.isWhitespace]
  rw [tokenizeExpression, if_pos (by decide), tokenizeExpression_word hne hends, hword]

theorem tokenizeExpression_openParen (rest : List Char) :
    tokenizeExpression ('(' :: rest) = (.openParen :: ·) <$> tokenizeExpression rest := by
  rw [tokenizeExpression, if_neg (by decide), if_pos rfl]

theorem tokenizeExpression_closeParen (rest : List Char) :
    tokenizeExpression (')' :: rest) = (.closeParen :: ·) <$> tokenizeExpression rest := by
  rw [tokenizeExpression, if_neg (by decide), if_neg (by decide), if_pos rfl]

/-- The characters `cs` give the tokens `ts`, whatever comes after them. -/
def Tokenizes (cs : List Char) (ts : List SearchToken) : Prop :=
  ∀ rest, tokenizeExpression (cs ++ rest) = (ts ++ ·) <$> tokenizeExpression rest

theorem Tokenizes.parenthesized (operator : SearchBinaryOperator) {left right : List Char}
    {leftTokens rightTokens : List SearchToken} (hleft : Tokenizes left leftTokens)
    (hright : Tokenizes right rightTokens) :
    Tokenizes (parenthesized operator left right)
      (.openParen :: (leftTokens ++ operator.token :: (rightTokens ++ [.closeParen]))) := by
  intro rest
  simp only [SearchExprNode.parenthesized, List.cons_append, List.append_assoc, List.nil_append]
  rw [tokenizeExpression_openParen, hleft, tokenizeExpression_operator, hright,
    tokenizeExpression_closeParen]
  simp only [Functor.map_map]

theorem tokenizes_printChars (t : SearchExprNode) (ht : t.Quotable) :
    Tokenizes t.printChars t.tokens := by
  induction t with
  | term value =>
    intro rest
    rw [printChars, List.cons_append, List.append_assoc]
    exact tokenizeExpression_quoted (ht value List.mem_cons_self) rest
  | and left right ihl ihr | or left right ihl ihr | not left right ihl ihr =>
    exact .parenthesized _ (ihl fun v hv => ht v (List.mem_append_left _ hv))
      (ihr fun v hv => ht v (List.mem_append_right _ hv))

theorem tokenizeSearchExpression_print {t : SearchExprNode} (ht : t.Quotable) :
    tokenizeSearchExpression t.print = .ok t.tokens := by
  have h := tokenizes_printChars t ht []
  rw [List.append_nil, tokenizeExpression] at h
  rw [tokenizeSearchExpression, print, String.toList_ofList, h]
  simp only [Functor.map, Except.map, List.append_nil]

/-! ## Parsing a printed tree -/

/-- The tokens `ts` are an operand that gives the tree `t`, whatever comes after them. -/
def ParsesTo (ts : List SearchToken) (t : SearchExprNode) : Prop :=
  ∀ rest, ∃ h, parsePrimary (ts ++ rest) = .ok ⟨(t, rest), h⟩

theorem parseOperators_of_none {tokens : List SearchToken}
    (h : peekBinaryOperator tokens = none) (minPrecedence : Nat) (lhs : SearchExprNode) :
    parseOperators minPrecedence lhs tokens = .ok ⟨(lhs, tokens), Nat.lt_succ_self _⟩ := by
  rw [parseOperators, h]

/-- An operand behind which the expression ends. -/
theorem ParsesTo.parseExpression {ts rest : List SearchToken} {t : SearchExprNode}
    (ht : ParsesTo ts t) (hrest : peekBinaryOperator rest = none) (minPrecedence : Nat) :
    ∃ h, parseExpression minPrecedence (ts ++ rest) = .ok ⟨(t, rest), h⟩ := by
  obtain ⟨hlt, hprimary⟩ := ht rest
  refine ⟨hlt, ?_⟩
  rw [Emule.parseExpression, hprimary]
  simp only [bind, Except.bind, parseOperators_of_none hrest]
  rfl

theorem peekBinaryOperator_token (operator : SearchBinaryOperator) (rest : List SearchToken) :
    peekBinaryOperator (operator.token :: rest) = some (operator, false) := by
  cases operator <;> rfl

theorem ParsesTo.parseExpression_operator {left right rest : List SearchToken}
    {l r : SearchExprNode} (hl : ParsesTo left l) (hr : ParsesTo right r)
    (operator : SearchBinaryOperator) (hrest : peekBinaryOperator rest = none) :
    ∃ h, Emule.parseExpression 1 (left ++ operator.token :: (right ++ rest)) =
      .ok ⟨(operator.node l r, rest), h⟩ := by
  obtain ⟨_, hleft⟩ := hl (operator.token :: (right ++ rest))
  obtain ⟨hlt, hright⟩ := hr.parseExpression hrest (operator.precedence + 1)
  have hprecedence : ¬ operator.precedence < 1 := by cases operator <;> decide
  have hbehind : Emule.parseExpression (operator.precedence + 1)
      (behindOperator false (operator.token :: (right ++ rest))) = .ok ⟨(r, rest), hlt⟩ := hright
  refine ⟨by simp; omega, ?_⟩
  rw [Emule.parseExpression, hleft]
  simp only [bind, Except.bind]
  rw [parseOperators]
  simp only [peekBinaryOperator_token, hprecedence, if_false, hbehind, bind, Except.bind,
    parseOperators_of_none hrest]
  rfl

/-- **An operator in parentheses is an operand.** -/
theorem ParsesTo.parenthesized {left right : List SearchToken} {l r : SearchExprNode}
    (hl : ParsesTo left l) (hr : ParsesTo right r) (operator : SearchBinaryOperator) :
    ParsesTo (.openParen :: (left ++ operator.token :: (right ++ [.closeParen])))
      (operator.node l r) := by
  intro rest
  have happend : .openParen :: (left ++ operator.token :: (right ++ [.closeParen])) ++ rest =
      .openParen :: (left ++ operator.token :: (right ++ .closeParen :: rest)) := by simp
  have hclosed : peekBinaryOperator (.closeParen :: rest) = none := rfl
  obtain ⟨hlt, hinner⟩ := hl.parseExpression_operator hr operator hclosed
  rw [happend]
  refine ⟨by simp; omega, ?_⟩
  rw [parsePrimary]
  simp only [hinner, bind, Except.bind]

theorem parsesTo_tokens (t : SearchExprNode) : ParsesTo t.tokens t := by
  induction t with
  | term value =>
    intro rest
    refine ⟨Nat.lt_succ_self _, ?_⟩
    simp only [SearchExprNode.tokens, List.cons_append, List.nil_append, parsePrimary]
  | and left right ihl ihr => exact ihl.parenthesized ihr .and
  | or left right ihl ihr => exact ihl.parenthesized ihr .or
  | not left right ihl ihr => exact ihl.parenthesized ihr .not

theorem tokens_ne_nil (t : SearchExprNode) : t.tokens.isEmpty = false := by
  cases t <;> rfl

theorem parseSearchExpression_print {t : SearchExprNode} (ht : t.Quotable) :
    parseSearchExpression t.print = .ok (some t) := by
  have hend : peekBinaryOperator [] = none := rfl
  have hparse := (parsesTo_tokens t).parseExpression hend 1
  rw [List.append_nil] at hparse
  obtain ⟨hlt, hparse⟩ := hparse
  rw [parseSearchExpression, tokenizeSearchExpression_print ht]
  simp only [bind, Except.bind, tokens_ne_nil, Bool.false_eq_true, if_false, hparse]
  rfl

/-! ## Prefix notation -/

/-- The term with this text. -/
def termOfBytes (bytes : Bytes) : Get Unit SearchExprNode :=
  match fromUtf8? bytes with
  | some value => return .term value
  | none => throw ()

/-- A server reads a tree: a string, or an operator with its two operands.  The operands are given
the levels of nesting that are left. -/
def readPrefix : Nat → Get Unit SearchExprNode
  | 0 => throw ()
  | levels + 1 => do
    match ← getU8 () with
    | 0x01 => do
      let len ← getU16 ()
      let bytes ← getExact () len.toNat
      termOfBytes bytes
    | 0x00 => do
      let operator ← getU8 ()
      let left ← readPrefix levels
      let right ← readPrefix levels
      match operator with
      | 0x00 => return .and left right
      | 0x01 => return .or left right
      | 0x02 => return .not left right
      | _ => throw ()
    | _ => throw ()

/-- The tree that a whole payload denotes in prefix notation.  A payload has more bytes than levels
of nesting. -/
def denotes (payload : Bytes) : Option SearchExprNode :=
  match (readPrefix payload.length).run payload with
  | .ok (t, []) => some t
  | _ => none

/-- The levels of nesting of a tree. -/
def SearchExprNode.levels : SearchExprNode → Nat
  | term _ => 1
  | and left right | or left right | not left right => max left.levels right.levels + 1

theorem reads_stringParam {value : String} (h : (asBytes value).length < 2 ^ 16) (levels : Nat) :
    Reads (readPrefix (levels + 1))
      (1 :: putU16 (UInt16.ofNat (asBytes value).length) ++ asBytes value) (.term value) := by
  refine (reads_getU8 () 1).bind ?_
  refine (reads_getU16 () _).bind ?_
  rw [UInt16.toNat_ofNat_of_lt' h]
  have hterm : Reads (termOfBytes (asBytes value)) [] (term value) := by
    rw [termOfBytes, fromUtf8?_asBytes]
    exact Reads.pure _
  have hbytes := (reads_getExact () (asBytes value)).bind (f := termOfBytes) hterm
  rwa [List.append_nil] at hbytes

theorem encodeSearchExpression_node (operator : SearchBinaryOperator) (l r : SearchExprNode) :
    encodeSearchExpression (operator.node l r) = do
      return 0 :: operator.code :: (← encodeSearchExpression l) ++
        (← encodeSearchExpression r) := by
  cases operator <;> rfl

theorem reads_node (operator : SearchBinaryOperator) {l r : SearchExprNode} {bl br : Bytes}
    {levels : Nat} (hl : Reads (readPrefix levels) bl l) (hr : Reads (readPrefix levels) br r) :
    Reads (readPrefix (levels + 1)) (0 :: operator.code :: bl ++ br) (operator.node l r) := by
  refine (reads_getU8 () 0).bind ?_
  refine (reads_getU8 () operator.code).bind ?_
  refine hl.bind ?_
  cases operator <;> exact hr.bind_pure _

/-- The expression is encoded, and the bytes are read back as the expression. -/
def Encodes (t : SearchExprNode) : Prop :=
  ∃ bs, encodeSearchExpression t = .ok bs ∧ t.levels ≤ bs.length ∧
    ∀ levels, t.levels ≤ levels → Reads (readPrefix levels) bs t

theorem Encodes.node (operator : SearchBinaryOperator) {l r : SearchExprNode} (hl : Encodes l)
    (hr : Encodes r) : Encodes (operator.node l r) := by
  obtain ⟨bl, hencl, hlenl, hreadl⟩ := hl
  obtain ⟨br, hencr, hlenr, hreadr⟩ := hr
  have hlevels : (operator.node l r).levels = max l.levels r.levels + 1 := by
    cases operator <;> rfl
  refine ⟨0 :: operator.code :: bl ++ br, ?_, ?_, ?_⟩
  · rw [encodeSearchExpression_node, hencl, hencr]
    rfl
  · rw [hlevels]
    simp only [List.cons_append, List.length_cons, List.length_append]
    omega
  · intro levels hle
    rw [hlevels] at hle
    obtain ⟨levels, rfl⟩ : ∃ n, levels = n + 1 := Nat.exists_eq_add_one.mpr (by omega)
    exact reads_node operator (hreadl levels (by omega)) (hreadr levels (by omega))

theorem encodes_stringParam {value : String} (h : (asBytes value).length < 2 ^ 16) :
    Encodes (.term value) := by
  refine ⟨_, if_pos h, ?_, fun levels hle => ?_⟩
  · simp [SearchExprNode.levels]
  · obtain ⟨levels, rfl⟩ : ∃ n, levels = n + 1 := Nat.exists_eq_add_one.mpr hle
    exact reads_stringParam h levels

theorem encodes_of_fits (t : SearchExprNode)
    (h : ∀ value ∈ t.terms, (asBytes value).length < 2 ^ 16) : Encodes t := by
  induction t with
  | term value => exact encodes_stringParam (h value List.mem_cons_self)
  | and l r ihl ihr =>
    exact .node .and (ihl fun v hv => h v (List.mem_append_left _ hv))
      (ihr fun v hv => h v (List.mem_append_right _ hv))
  | or l r ihl ihr =>
    exact .node .or (ihl fun v hv => h v (List.mem_append_left _ hv))
      (ihr fun v hv => h v (List.mem_append_right _ hv))
  | not l r ihl ihr =>
    exact .node .not (ihl fun v hv => h v (List.mem_append_left _ hv))
      (ihr fun v hv => h v (List.mem_append_right _ hv))

theorem flattenAndTerms_eq (t : SearchExprNode) :
    flattenAndTerms t = if t.isConjunction then some t.terms else none := by
  induction t with
  | term value => rfl
  | and l r ihl ihr =>
    rw [flattenAndTerms, ihl, ihr, isConjunction, terms]
    cases l.isConjunction <;> cases r.isConjunction <;> rfl
  | or l r _ _ => rfl
  | not l r _ _ => rfl

/-- The request of a printed tree encodes what is sent for it. -/
theorem encodeSearchRequest_print {t : SearchExprNode} (ht : t.Quotable) :
    encodeSearchRequest t.print = encodeSearchExpression t.sent := by
  rw [encodeSearchRequest, parseSearchExpression_print ht]
  simp only [bind, Except.bind, flattenAndTerms_eq, sent]
  cases t.isConjunction <;> rfl

/-- **Search expressions survive printing, parsing and encoding.**  A tree of quotable terms that is
printed with all its parentheses is parsed to itself, and the payload of the printed text denotes,
in prefix notation, the tree; or, for a tree of `AND` alone, the one string of its terms joined by
spaces. -/
theorem search_expression_round_trip (t : SearchExprNode) (ht : t.Quotable)
    (hfits : ∀ value ∈ t.sent.terms, (asBytes value).length ≤ 65535) :
    parseSearchExpression t.print = .ok (some t) ∧
      ∃ payload, encodeSearchRequest t.print = .ok payload ∧ denotes payload = some t.sent := by
  refine ⟨parseSearchExpression_print ht, ?_⟩
  obtain ⟨payload, hencode, hlevels, hreads⟩ := encodes_of_fits t.sent fun value hvalue =>
    Nat.lt_succ_of_le (hfits value hvalue)
  refine ⟨payload, (encodeSearchRequest_print ht).trans hencode, ?_⟩
  rw [denotes, (hreads payload.length hlevels).run_nil]

/-- `("red fox" OR ("AND" AND "b"))`. -/
def sampleExpression : SearchExprNode := .or (.term "red fox") (.and (.term "AND") (.term "b"))

theorem search_expression_round_trip_sample :
    parseSearchExpression sampleExpression.print = .ok (some sampleExpression) ∧
      ∃ payload, encodeSearchRequest sampleExpression.print = .ok payload ∧
        denotes payload = some sampleExpression := by
  refine search_expression_round_trip sampleExpression ?_ (by decide)
  intro value hvalue
  simp only [sampleExpression, terms, List.cons_append, List.nil_append, List.mem_cons,
    List.not_mem_nil, or_false] at hvalue
  rcases hvalue with rfl | rfl | rfl
  · exact ⟨by decide, by decide, by decide⟩
  · exact ⟨by decide, by decide, by decide⟩
  · exact ⟨by decide, by decide, by decide⟩

end Overlord.Emule
