import Mathlib.Tactic.Ring
import Overlord.Wire.Utf8

/-!
# Hexadecimal text

Numbers and bytes as hexadecimal digits, both ways.

* `digit?` is the value of a digit, in either case; `value` is the number that digits stand for.
* `pairs` takes the digits two by two.  The big-endian bytes of a number are the pairs of its
  digits (`toBe_value`), however many bytes the number has, so reading a text in chunks of several
  bytes is the same as reading it byte by byte.
* `padded` writes a number with a given number of digits, and `padded_toBe` takes that apart byte by
  byte as well.
* `pairs_text` and `text_pairs` say that the two directions are inverse, up to the case of the
  digits.
-/

set_option autoImplicit false

namespace Hex

open Wire (Bytes asBytes)

/-! ## Digits -/

/-- The value of a digit. -/
def digit? (b : UInt8) : Option Nat :=
  if 48 ≤ b ∧ b ≤ 57 then some (b.toNat - 48)
  else if 97 ≤ b ∧ b ≤ 102 then some (b.toNat - 87)
  else if 65 ≤ b ∧ b ≤ 70 then some (b.toNat - 55)
  else none

/-- A digit, in either case. -/
def IsDigit (b : UInt8) : Prop := (digit? b).isSome

instance (b : UInt8) : Decidable (IsDigit b) := inferInstanceAs (Decidable (_ = true))

/-- The value of a digit, zero for anything else. -/
def dval (b : UInt8) : Nat := (digit? b).getD 0

theorem dval_lt (b : UInt8) : dval b < 16 := by
  simp only [dval, digit?, UInt8.le_iff_toNat_le, UInt8.reduceToNat]
  split_ifs <;> simp only [Option.getD_some, Option.getD_none] <;> omega

/-- The number that digits stand for. -/
def value (bs : Bytes) : Nat := bs.foldl (fun acc b => acc * 16 + dval b) 0

theorem foldl_value (bs : Bytes) (acc : Nat) :
    bs.foldl (fun acc b => acc * 16 + dval b) acc = acc * 16 ^ bs.length + value bs := by
  induction bs generalizing acc with
  | nil => simp [value]
  | cons b bs ih =>
    rw [value, List.foldl_cons, ih, List.foldl_cons, ih, List.length_cons]
    ring

theorem value_cons (b : UInt8) (bs : Bytes) : value (b :: bs) =
    dval b * 16 ^ bs.length + value bs := by
  rw [value, List.foldl_cons, foldl_value, Nat.zero_mul, Nat.zero_add]

theorem value_lt (bs : Bytes) : value bs < 16 ^ bs.length := by
  induction bs with
  | nil => exact Nat.one_pos
  | cons b bs ih =>
    have hb := dval_lt b
    calc value (b :: bs) = dval b * 16 ^ bs.length + value bs := value_cons b bs
      _ < dval b * 16 ^ bs.length + 16 ^ bs.length := Nat.add_lt_add_left ih _
      _ = (dval b + 1) * 16 ^ bs.length := (Nat.succ_mul _ _).symm
      _ ≤ 16 * 16 ^ bs.length := Nat.mul_le_mul_right _ hb
      _ = 16 ^ (b :: bs).length := (Nat.pow_succ').symm

/-! ## Bytes -/

/-- The big-endian bytes of a number. -/
def toBe : Nat → Nat → Bytes
  | 0, _ => []
  | k + 1, v => UInt8.ofNat (v / 256 ^ k) :: toBe k v

@[simp] theorem length_toBe (k v : Nat) : (toBe k v).length = k := by
  induction k with
  | zero => rfl
  | succ k ih => rw [toBe, List.length_cons, ih]

/-- What is too large for the bytes is cut off. -/
theorem toBe_add_mul (k v x : Nat) : toBe k (x * 256 ^ k + v) = toBe k v := by
  induction k generalizing x with
  | zero => rfl
  | succ k ih =>
    have hhead : (x * 256 ^ (k + 1) + v) / 256 ^ k = v / 256 ^ k + x * 256 := by
      rw [Nat.pow_succ', ← Nat.mul_assoc, Nat.add_comm,
        Nat.add_mul_div_right _ _ (Nat.pow_pos (by decide))]
    have htail : toBe k (x * 256 ^ (k + 1) + v) = toBe k v := by
      rw [Nat.pow_succ', ← Nat.mul_assoc, ih]
    rw [toBe, hhead, htail, toBe]
    congr 1
    rw [← UInt8.toNat_inj, UInt8.toNat_ofNat', UInt8.toNat_ofNat']
    exact Nat.add_mul_mod_self_right _ _ _

/-- Digits, two by two. -/
def pairs : Bytes → Bytes
  | a :: b :: bs => UInt8.ofNat (dval a * 16 + dval b) :: pairs bs
  | _ => []

theorem pairs_append {k : Nat} {front bs : Bytes} (hlen : front.length = 2 * k) :
    pairs (front ++ bs) = pairs front ++ pairs bs := by
  induction k generalizing front with
  | zero =>
    rw [List.eq_nil_of_length_eq_zero hlen]
    rfl
  | succ k ih =>
    match front, hlen with
    | a :: b :: front, hlen =>
      simp only [List.length_cons] at hlen
      rw [List.cons_append, List.cons_append, pairs, pairs, ih (by omega), List.cons_append]

/-- **The bytes of a number are the pairs of its digits.** -/
theorem toBe_value {k : Nat} {bs : Bytes} (hlen : bs.length = 2 * k) :
    toBe k (value bs) = pairs bs := by
  induction k generalizing bs with
  | zero =>
    rw [List.eq_nil_of_length_eq_zero hlen]
    rfl
  | succ k ih =>
    match bs, hlen with
    | a :: b :: bs, hlen =>
      simp only [List.length_cons] at hlen
      have hrest : bs.length = 2 * k := by omega
      have hpow : 16 ^ bs.length = 256 ^ k := by rw [hrest, Nat.pow_mul]
      have hvalue : value (a :: b :: bs) = (dval a * 16 + dval b) * 256 ^ k + value bs := by
        rw [value_cons, value_cons, List.length_cons, Nat.pow_succ, hpow]
        ring
      have hlt : value bs < 256 ^ k := hpow ▸ value_lt bs
      rw [toBe, pairs, hvalue, toBe_add_mul, ih hrest, Nat.add_comm,
        Nat.add_mul_div_right _ _ (Nat.pow_pos (by decide)), Nat.div_eq_of_lt hlt, Nat.zero_add]

theorem length_pairs {k : Nat} {bs : Bytes} (hlen : bs.length = 2 * k) : (pairs bs).length = k := by
  rw [← toBe_value hlen, length_toBe]

/-! ## Text -/

/-- The `width` low digits of a number, most significant first. -/
def padded (width n : Nat) : List Char :=
  (List.range width).reverse.map fun i => Nat.digitChar (n / 16 ^ i % 16)

/-- `{:0width$x}` of a number that has no more digits. -/
def lower (width n : Nat) : String := String.ofList (padded width n)

/-- `{:0width$X}`. -/
def upper (width n : Nat) : String := String.ofList ((padded width n).map Char.toUpper)

theorem padded_succ (width n : Nat) :
    padded (width + 1) n = Nat.digitChar (n / 16 ^ width % 16) :: padded width n := by
  rw [padded, List.range_succ, List.reverse_append, List.reverse_singleton, List.singleton_append,
    List.map_cons, padded]

/-- The digits of bytes. -/
def text (bs : Bytes) : List Char := bs.flatMap fun b => padded 2 b.toNat

theorem text_cons (b : UInt8) (bs : Bytes) : text (b :: bs) = padded 2 b.toNat ++ text bs :=
  List.flatMap_cons

/-- **The digits of a number are those of its bytes.** -/
theorem padded_toBe (k n : Nat) : padded (2 * k) n = text (toBe k n) := by
  induction k with
  | zero => rfl
  | succ k ih =>
    have hpow : 16 ^ (2 * k) = 256 ^ k := Nat.pow_mul 16 2 k
    have hhigh : n / 16 ^ (2 * k + 1) % 16 = (n / 256 ^ k) % 256 / 16 % 16 := by
      rw [Nat.pow_succ, ← Nat.div_div_eq_div_mul, hpow]
      omega
    have hlow : n / 16 ^ (2 * k) % 16 = (n / 256 ^ k) % 256 % 16 := by
      rw [hpow]
      omega
    have hbyte : padded 2 (UInt8.ofNat (n / 256 ^ k)).toNat =
        [Nat.digitChar ((n / 256 ^ k) % 256 / 16 % 16),
          Nat.digitChar ((n / 256 ^ k) % 256 % 16)] := by
      rw [UInt8.toNat_ofNat', padded_succ, padded_succ, Nat.pow_zero, Nat.div_one, Nat.pow_one]
      rfl
    rw [Nat.mul_succ, padded_succ, padded_succ, ih, toBe, text_cons, hbyte, hhigh,
      hlow]
    rfl

/-- The character of a byte. -/
def charOf (b : UInt8) : Char := Char.ofNat b.toNat

/-- The digit of a value, as text. -/
theorem digitChar_dval {b : UInt8} (hb : IsDigit b) :
    Nat.digitChar (dval b) = (charOf b).toLower := by
  have h : ∀ n < 256, IsDigit (UInt8.ofNat n) → Nat.digitChar (dval (UInt8.ofNat n)) =
      (charOf (UInt8.ofNat n)).toLower := by decide +kernel
  have := h b.toNat b.toNat_lt
  rw [UInt8.ofNat_toNat] at this
  exact this hb

/-- The byte of a character of the text of a digit. -/
theorem dval_digitChar {d : Nat} (hd : d < 16) :
    dval (UInt8.ofNat (Nat.digitChar d).toNat) = d ∧ IsDigit (UInt8.ofNat (Nat.digitChar d).toNat) ∧
      (Nat.digitChar d).toNat < 128 := by
  have h : ∀ d < 16, dval (UInt8.ofNat (Nat.digitChar d).toNat) = d ∧
      IsDigit (UInt8.ofNat (Nat.digitChar d).toNat) ∧ (Nat.digitChar d).toNat < 128 := by
    decide +kernel
  exact h d hd

theorem padded_two (b : UInt8) :
    padded 2 b.toNat = [Nat.digitChar (b.toNat / 16), Nat.digitChar (b.toNat % 16)] := by
  have hlt := b.toNat_lt
  rw [padded_succ, padded_succ, Nat.pow_one, Nat.pow_zero, Nat.div_one,
    Nat.mod_eq_of_lt (show b.toNat / 16 < 16 by omega)]
  rfl

/-- **Writing what was read** gives the digits in lower case. -/
theorem text_pairs {k : Nat} {bs : Bytes} (hlen : bs.length = 2 * k) (hbs : ∀ b ∈ bs, IsDigit b) :
    text (pairs bs) = bs.map fun b => (charOf b).toLower := by
  induction k generalizing bs with
  | zero =>
    rw [List.eq_nil_of_length_eq_zero hlen]
    rfl
  | succ k ih =>
    match bs, hlen with
    | a :: b :: bs, hlen =>
      simp only [List.length_cons] at hlen
      simp only [List.mem_cons, forall_eq_or_imp] at hbs
      obtain ⟨ha, hb, hbs⟩ := hbs
      have hda := dval_lt a
      have hdb := dval_lt b
      have hbyte : (UInt8.ofNat (dval a * 16 + dval b)).toNat = dval a * 16 + dval b := by
        rw [UInt8.toNat_ofNat']
        exact Nat.mod_eq_of_lt (by omega)
      have hhigh : (dval a * 16 + dval b) / 16 = dval a := by omega
      have hlow : (dval a * 16 + dval b) % 16 = dval b := by omega
      have hrest := ih (show bs.length = 2 * k by omega) hbs
      rw [pairs, text_cons, padded_two, hbyte, hhigh, hlow, digitChar_dval ha,
        digitChar_dval hb, hrest]
      rfl

/-- **Reading what was written** gives the bytes back. -/
theorem pairs_text (bs : Bytes) : pairs ((text bs).map fun c => UInt8.ofNat c.toNat) = bs := by
  induction bs with
  | nil => rfl
  | cons b bs ih =>
    have hlt := b.toNat_lt
    have hhigh := dval_digitChar (show b.toNat / 16 < 16 by omega)
    have hlow := dval_digitChar (Nat.mod_lt b.toNat (show 0 < 16 by decide))
    rw [text_cons, padded_two, List.cons_append, List.cons_append, List.nil_append,
      List.map_cons, List.map_cons, pairs, ih, hhigh.1, hlow.1,
      show b.toNat / 16 * 16 + b.toNat % 16 = b.toNat by omega, UInt8.ofNat_toNat]

theorem mem_text {bs : Bytes} {c : Char} (hc : c ∈ text bs) :
    c.toNat < 128 ∧ IsDigit (UInt8.ofNat c.toNat) := by
  obtain ⟨b, -, hb⟩ := List.mem_flatMap.mp hc
  have hlt := b.toNat_lt
  rw [padded_two] at hb
  rcases List.mem_cons.mp hb with rfl | hb
  · have h := dval_digitChar (show b.toNat / 16 < 16 by omega)
    exact ⟨h.2.2, h.2.1⟩
  · obtain rfl := List.mem_singleton.mp hb
    have h := dval_digitChar (Nat.mod_lt b.toNat (show 0 < 16 by decide))
    exact ⟨h.2.2, h.2.1⟩

theorem length_text (bs : Bytes) : (text bs).length = 2 * bs.length := by
  induction bs with
  | nil => rfl
  | cons b bs ih =>
    rw [text_cons, List.length_append, ih, padded_two]
    simp only [List.length_cons, List.length_nil]
    omega

/-- `hex::decode`. -/
def decode (text : String) : Option Bytes :=
  let bytes := asBytes text
  if bytes.length % 2 = 0 ∧ bytes.all fun b => (digit? b).isSome then some (pairs bytes) else none

end Hex
