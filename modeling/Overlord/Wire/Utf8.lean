import Overlord.Wire.Get

/-!
# UTF-8, decoded the forgiving way

The decoder behind `str::from_utf8` and `String::from_utf8_lossy`.  At every position it either
finds one well-formed scalar value or an ill-formed part, which is the longest beginning of a
well-formed sequence found there, or one byte if there is none.  The strict decoder rejects the
text at the first ill-formed part and the lossy one puts U+FFFD in its place.

* `front` classifies what stands at the front of a non-empty text, reading past its end as zero.
* `units` runs `front` over a whole text, one entry for each scalar value or ill-formed part.
* `fromUtf8?` and `fromUtf8Lossy` are the two decoders, `asBytes` the encoder.
* `units_asBytes` says that an encoded string has no ill-formed part, so that both decoders
  return it unchanged (`fromUtf8?_asBytes`, `fromUtf8Lossy_asBytes`).
-/

set_option autoImplicit false

namespace Wire

/-! ## One position -/

/-- A continuation byte. -/
def isCont (b : UInt8) : Bool := 0x80 ≤ b && b ≤ 0xBF

/-- The number of bytes of a sequence that starts with `b`, zero when none does. -/
def charWidth (b : UInt8) : Nat :=
  if b < 0x80 then 1
  else if b < 0xC2 then 0
  else if b < 0xE0 then 2
  else if b < 0xF0 then 3
  else if b < 0xF5 then 4
  else 0

/-- The second bytes allowed after the lead byte of a long sequence: this is where overlong forms,
surrogates and values above U+10FFFF are kept out. -/
def secondOk (b₀ b₁ : UInt8) : Bool :=
  if b₀ == 0xE0 then 0xA0 ≤ b₁ && b₁ ≤ 0xBF
  else if b₀ == 0xED then 0x80 ≤ b₁ && b₁ ≤ 0x9F
  else if b₀ == 0xF0 then 0x90 ≤ b₁ && b₁ ≤ 0xBF
  else if b₀ == 0xF4 then 0x80 ≤ b₁ && b₁ ≤ 0x8F
  else isCont b₁

/-- What stands at the front of the text `b₀ :: s`: a scalar value or an ill-formed part, with the
number of bytes it takes. -/
def front (b₀ : UInt8) (s : Bytes) : Option Char × Nat :=
  let b₁ := s.getD 0 0
  let b₂ := s.getD 1 0
  let b₃ := s.getD 2 0
  match charWidth b₀ with
  | 1 => (some (Char.ofNat b₀.toNat), 1)
  | 2 =>
    if !isCont b₁ then (none, 1)
    else (some (Char.ofNat ((b₀.toNat - 0xC0) * 64 + (b₁.toNat - 0x80))), 2)
  | 3 =>
    if !secondOk b₀ b₁ then (none, 1)
    else if !isCont b₂ then (none, 2)
    else
      (some (Char.ofNat ((b₀.toNat - 0xE0) * 4096 + (b₁.toNat - 0x80) * 64
        + (b₂.toNat - 0x80))), 3)
  | 4 =>
    if !secondOk b₀ b₁ then (none, 1)
    else if !isCont b₂ then (none, 2)
    else if !isCont b₃ then (none, 3)
    else
      (some (Char.ofNat ((b₀.toNat - 0xF0) * 262144 + (b₁.toNat - 0x80) * 4096
        + (b₂.toNat - 0x80) * 64 + (b₃.toNat - 0x80))), 4)
  | _ => (none, 1)

/-- The scalar values and ill-formed parts of a text from its `skip`-th byte on. -/
def units : Nat → Bytes → List (Option Char)
  | _, [] => []
  | skip + 1, _ :: s => units skip s
  | 0, b :: s => (front b s).1 :: units ((front b s).2 - 1) s

/-! ## Whole texts -/

/-- The bytes of a string. -/
def asBytes (s : String) : Bytes := s.toList.flatMap String.utf8EncodeChar

/-- Strict decoding: the text must be well formed. -/
def fromUtf8? (bs : Bytes) : Option String :=
  if (units 0 bs).all Option.isSome then some (String.ofList ((units 0 bs).filterMap id)) else none

/-- Lossy decoding: every ill-formed part becomes U+FFFD. -/
def fromUtf8Lossy (bs : Bytes) : String :=
  String.ofList ((units 0 bs).map (·.getD (Char.ofNat 0xFFFD)))

/-! ## Decoding what was encoded -/

theorem units_skip (l s : Bytes) : units l.length (l ++ s) = units 0 s := by
  induction l with
  | nil => rfl
  | cons b l ih => exact ih

/-- A front part that `front` recognises as one scalar value is one entry of `units`. -/
theorem units_of_front {b : UInt8} {l s : Bytes} {u : Option Char}
    (h : front b (l ++ s) = (u, l.length + 1)) : units 0 (b :: l ++ s) = u :: units 0 s := by
  rw [List.cons_append, units, h]
  show u :: units (l.length + 1 - 1) (l ++ s) = _
  rw [Nat.add_sub_cancel, units_skip]

theorem toNat_ofNat_of_lt {n : Nat} (h : n < 256) : (UInt8.ofNat n).toNat = n := by
  rw [UInt8.toNat_ofNat']
  exact Nat.mod_eq_of_lt h

theorem isCont_ofNat {n : Nat} (h : n < 64) : isCont (UInt8.ofNat (n + 0x80)) = true := by
  simp only [isCont, Bool.and_eq_true, decide_eq_true_eq, UInt8.le_iff_toNat_le,
    toNat_ofNat_of_lt (show n + 0x80 < 256 by omega), UInt8.reduceToNat]
  omega

theorem charWidth_ofNat {n : Nat} (h : n < 256) :
    charWidth (UInt8.ofNat n) =
      if n < 0x80 then 1 else if n < 0xC2 then 0 else if n < 0xE0 then 2
      else if n < 0xF0 then 3 else if n < 0xF5 then 4 else 0 := by
  simp only [charWidth, UInt8.lt_iff_toNat_lt, toNat_ofNat_of_lt h]
  rfl

theorem secondOk_ofNat {m n : Nat} (hm : m < 256) (hn : n < 256) :
    secondOk (UInt8.ofNat m) (UInt8.ofNat n) = true ↔
      if m = 0xE0 then 0xA0 ≤ n ∧ n ≤ 0xBF else if m = 0xED then 0x80 ≤ n ∧ n ≤ 0x9F
      else if m = 0xF0 then 0x90 ≤ n ∧ n ≤ 0xBF else if m = 0xF4 then 0x80 ≤ n ∧ n ≤ 0x8F
      else 0x80 ≤ n ∧ n ≤ 0xBF := by
  simp only [secondOk, isCont, beq_iff_eq, ← UInt8.toNat_inj, UInt8.le_iff_toNat_le,
    toNat_ofNat_of_lt hm, toNat_ofNat_of_lt hn, UInt8.reduceToNat]
  split_ifs <;> simp

/-- **The decoder inverts the encoder.**  One case for each width; in each the byte ranges follow
from the range of the scalar value, surrogates excluded. -/
theorem front_utf8EncodeChar (c : Char) (s : Bytes) :
    ∃ b l, String.utf8EncodeChar c = b :: l ∧ front b (l ++ s) = (some c, l.length + 1) := by
  have hv : c.val.toNat < 0xD800 ∨ 0xDFFF < c.val.toNat ∧ c.val.toNat < 0x110000 := c.valid
  have hc : Char.ofNat c.val.toNat = c := Char.ofNat_toNat c
  generalize hn : c.val.toNat = n at *
  -- every byte after the first is a continuation byte carrying six bits
  have hcont : ∀ k, isCont (UInt8.ofNat (k % 0x40 + 0x80)) = true := fun k =>
    isCont_ofNat (by omega)
  have hlow : ∀ k, (UInt8.ofNat (k % 0x40 + 0x80)).toNat = k % 0x40 + 0x80 :=
    fun k => toNat_ofNat_of_lt (by omega)
  simp only [String.utf8EncodeChar, hn]
  split
  · refine ⟨_, _, rfl, ?_⟩
    have h1 : n < 256 := by omega
    rw [front, charWidth_ofNat h1, if_pos (by omega)]
    simp only [toNat_ofNat_of_lt h1, hc, List.length_nil]
  split
  · refine ⟨_, _, rfl, ?_⟩
    have h0 : n / 64 % 0x20 + 0xC0 < 256 := by omega
    have hval : (n / 64 % 0x20 + 0xC0 - 0xC0) * 64 + (n % 0x40 + 0x80 - 0x80) = n := by omega
    rw [front, charWidth_ofNat h0, if_neg (by omega), if_neg (by omega), if_pos (by omega)]
    simp only [List.cons_append, List.nil_append, List.getD_cons_zero, hcont, hlow,
      toNat_ofNat_of_lt h0, hval, hc]
    rfl
  split
  · refine ⟨_, _, rfl, ?_⟩
    have h0 : n / 4096 % 0x10 + 0xE0 < 256 := by omega
    have hval : (n / 4096 % 0x10 + 0xE0 - 0xE0) * 4096 + (n / 64 % 0x40 + 0x80 - 0x80) * 64
        + (n % 0x40 + 0x80 - 0x80) = n := by omega
    have hsec : secondOk (UInt8.ofNat (n / 4096 % 0x10 + 0xE0))
        (UInt8.ofNat (n / 64 % 0x40 + 0x80)) = true := by
      rw [secondOk_ofNat h0 (by omega)]
      split_ifs <;> omega
    rw [front, charWidth_ofNat h0, if_neg (by omega), if_neg (by omega), if_neg (by omega),
      if_pos (by omega)]
    simp only [List.cons_append, List.nil_append, List.getD_cons_zero, List.getD_cons_succ, hcont,
      hlow, hsec, toNat_ofNat_of_lt h0, hval, hc]
    rfl
  · refine ⟨_, _, rfl, ?_⟩
    have h0 : n / 262144 % 0x08 + 0xF0 < 256 := by omega
    have hval : (n / 262144 % 0x08 + 0xF0 - 0xF0) * 262144 + (n / 4096 % 0x40 + 0x80 - 0x80) * 4096
        + (n / 64 % 0x40 + 0x80 - 0x80) * 64 + (n % 0x40 + 0x80 - 0x80) = n := by omega
    have hsec : secondOk (UInt8.ofNat (n / 262144 % 0x08 + 0xF0))
        (UInt8.ofNat (n / 4096 % 0x40 + 0x80)) = true := by
      rw [secondOk_ofNat h0 (by omega)]
      split_ifs <;> omega
    rw [front, charWidth_ofNat h0, if_neg (by omega), if_neg (by omega), if_neg (by omega),
      if_neg (by omega), if_pos (by omega)]
    simp only [List.cons_append, List.nil_append, List.getD_cons_zero, List.getD_cons_succ, hcont,
      hlow, hsec, toNat_ofNat_of_lt h0, hval, hc]
    rfl

theorem units_asBytes (s : String) : units 0 (asBytes s) = s.toList.map some := by
  rw [asBytes]
  induction s.toList with
  | nil => rfl
  | cons c cs ih =>
    obtain ⟨b, l, hb, hf⟩ := front_utf8EncodeChar c (cs.flatMap String.utf8EncodeChar)
    rw [List.flatMap_cons, hb, units_of_front hf, ih, List.map_cons]

@[simp] theorem fromUtf8?_asBytes (s : String) : fromUtf8? (asBytes s) = some s := by
  rw [fromUtf8?, units_asBytes, if_pos (by simp), List.filterMap_map]
  simp [String.ofList_toList]

@[simp] theorem fromUtf8Lossy_asBytes (s : String) : fromUtf8Lossy (asBytes s) = s := by
  rw [fromUtf8Lossy, units_asBytes, List.map_map]
  simp [Function.comp_def, String.ofList_toList]

/-! ## Ill-formed text grows -/

theorem length_asBytes_ofList (cs : List Char) :
    (asBytes (String.ofList cs)).length = (cs.map Char.utf8Size).sum := by
  rw [asBytes, String.toList_ofList, List.length_flatMap]
  simp

/-- Bytes that start no sequence are replaced one by one, at three bytes each. -/
theorem length_asBytes_fromUtf8Lossy_replicate {b : UInt8} (hb : charWidth b = 0) (n : Nat) :
    (asBytes (fromUtf8Lossy (List.replicate n b))).length = 3 * n := by
  have hunits : units 0 (List.replicate n b) = List.replicate n none := by
    induction n with
    | zero => rfl
    | succ n ih =>
      have hf : front b (List.replicate n b) = (none, 1) := by rw [front, hb]; rfl
      rw [List.replicate_succ, units, hf, List.replicate_succ]
      exact congrArg _ ih
  rw [fromUtf8Lossy, hunits, length_asBytes_ofList, List.map_replicate, List.map_replicate]
  show (List.replicate n 3).sum = _
  simp [Nat.mul_comm]

end Wire
