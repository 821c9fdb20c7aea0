import Overlord.Data.Hex
import Overlord.Wire.Get

/-!
# Kad identifiers and the XOR metric

`node_id.rs` and `hash.rs` of the wire crate.  A `NodeId` is sixteen bytes in the order they have
on the wire, which is four little-endian `u32` chunks with the most significant chunk first.  The
program never forms the 128-bit number these chunks stand for: it compares chunk by chunk (`cmp`),
XORs byte by byte (`distance`) and picks bits out of a chunk (`bit`).

`NodeId.toNat` is that number.  The three definitions are three readings of it — `compare`
(`cmp_eq_compare`), `^^^` (`toNat_distance`) and `testBit` (`bit_eq_testBit`) — and everything the
routing code relies on follows from there: `distance_lt_of_bit`, that an identifier which shares
the target's first deviating bit is the nearer one.
-/

set_option autoImplicit false

namespace Overlord.Kad

open Wire (ofLe)

/-- A 128-bit Kademlia node identifier, in wire order. -/
structure NodeId where
  /-- The sixteen bytes. -/
  bytes : Vector UInt8 16
deriving DecidableEq, Repr

/-- A 128-bit eD2k file hash. -/
structure Ed2kHash where
  /-- The sixteen bytes. -/
  bytes : Vector UInt8 16
deriving DecidableEq, Repr

/-- Per-sender anti-spoofing key of the obfuscated transport. -/
structure KadUdpKey where
  /-- The key. -/
  value : UInt32
deriving DecidableEq, Repr

/-- The key of a peer that has not announced one. -/
def KadUdpKey.ZERO : KadUdpKey := ⟨0⟩

/-- `Display` of a hash: two hexadecimal digits for each byte. -/
def Ed2kHash.display (h : Ed2kHash) : String :=
  String.join (h.bytes.toList.map fun b => Hex.lower 2 b.toNat)

namespace NodeId

/-- The all-zero identifier. -/
def ZERO : NodeId := ⟨Vector.replicate 16 0⟩

/-- Reverse the bytes inside each four-byte chunk. -/
def swapChunks (b : Vector UInt8 16) : Vector UInt8 16 :=
  Vector.ofFn fun i => b.get ⟨i.val / 4 * 4 + (3 - i.val % 4), by omega⟩

/-- An identifier from canonical big-endian chunk bytes, such as a file hash. -/
def fromBeBytes (bytes : Vector UInt8 16) : NodeId := ⟨swapChunks bytes⟩

/-- The canonical big-endian chunk bytes of an identifier. -/
def toBeBytes (id : NodeId) : Vector UInt8 16 := swapChunks id.bytes

/-- One little-endian chunk of the wire layout. -/
def chunkU32 (id : NodeId) (index : Fin 4) : UInt32 :=
  let start := index.val * 4
  UInt32.ofNat (ofLe [id.bytes.get ⟨start, by omega⟩, id.bytes.get ⟨start + 1, by omega⟩,
    id.bytes.get ⟨start + 2, by omega⟩, id.bytes.get ⟨start + 3, by omega⟩])

/-- XOR distance, byte by byte. -/
def distance (a b : NodeId) : NodeId :=
  ⟨Vector.ofFn fun i => a.bytes.get i ^^^ b.bytes.get i⟩

/-- `u32::leading_zeros`. -/
def leadingZeros (v : UInt32) : Nat := if v = 0 then 32 else 31 - v.toNat.log2

/-- Position of the first bit in which two identifiers differ, counted from the most significant
bit of the first chunk; `none` when they are equal. -/
def distanceExp (a b : NodeId) : Option Nat :=
  (List.finRange 4).findSome? fun i =>
    let chunk := (a.distance b).chunkU32 i
    if chunk ≠ 0 then some (i.val * 32 + leadingZeros chunk) else none

/-- The bit at position `pos`, again from the most significant bit of the first chunk. -/
def bit (id : NodeId) (pos : Nat) : Bool :=
  if h : pos / 32 < 4 then
    (id.chunkU32 ⟨pos / 32, h⟩ >>> UInt32.ofNat (31 - pos % 32)) &&& 1 == 1
  else false

/-- The order on identifiers: chunk by chunk, the first difference decides. -/
def cmp (a b : NodeId) : Ordering :=
  (compare (a.chunkU32 0) (b.chunkU32 0)).then
    ((compare (a.chunkU32 1) (b.chunkU32 1)).then
      ((compare (a.chunkU32 2) (b.chunkU32 2)).then
        (compare (a.chunkU32 3) (b.chunkU32 3))))

/-- `Display`: eight hexadecimal digits for each chunk. -/
def display (id : NodeId) : String :=
  String.join ((List.finRange 4).map fun i => Hex.lower 8 (id.chunkU32 i).toNat)

/-! ## The byte orders -/

theorem swapChunks_swapChunks (b : Vector UInt8 16) : swapChunks (swapChunks b) = b := by
  ext i hi
  have hidx : (i / 4 * 4 + (3 - i % 4)) / 4 * 4 + (3 - (i / 4 * 4 + (3 - i % 4)) % 4) = i := by
    omega
  simp only [swapChunks, Vector.getElem_ofFn, Vector.get_eq_getElem, hidx]

@[simp] theorem toBeBytes_fromBeBytes (b : Vector UInt8 16) : (fromBeBytes b).toBeBytes = b :=
  swapChunks_swapChunks b

@[simp] theorem fromBeBytes_toBeBytes (id : NodeId) : fromBeBytes id.toBeBytes = id := by
  rw [fromBeBytes, toBeBytes, swapChunks_swapChunks]

/-! ## The number behind the chunks -/

/-- The 128-bit number an identifier stands for. -/
def toNat (id : NodeId) : Nat :=
  ((((id.chunkU32 0).toNat * 2 ^ 32 + (id.chunkU32 1).toNat) * 2 ^ 32
    + (id.chunkU32 2).toNat) * 2 ^ 32) + (id.chunkU32 3).toNat

theorem toNat_lt (id : NodeId) : id.toNat < 2 ^ 128 := by
  have h0 := (id.chunkU32 0).toNat_lt
  have h1 := (id.chunkU32 1).toNat_lt
  have h2 := (id.chunkU32 2).toNat_lt
  have h3 := (id.chunkU32 3).toNat_lt
  rw [toNat]
  omega

/-- The value of a chunk before it is packed into a `u32`: four bytes never overflow it. -/
theorem toNat_chunkU32 (id : NodeId) (i : Fin 4) :
    (id.chunkU32 i).toNat = ofLe [id.bytes.get ⟨i.val * 4, by omega⟩,
      id.bytes.get ⟨i.val * 4 + 1, by omega⟩, id.bytes.get ⟨i.val * 4 + 2, by omega⟩,
      id.bytes.get ⟨i.val * 4 + 3, by omega⟩] := by
  rw [chunkU32, UInt32.toNat_ofNat']
  refine Nat.mod_eq_of_lt ?_
  have h0 := (id.bytes.get ⟨i.val * 4, by omega⟩).toNat_lt
  have h1 := (id.bytes.get ⟨i.val * 4 + 1, by omega⟩).toNat_lt
  have h2 := (id.bytes.get ⟨i.val * 4 + 2, by omega⟩).toNat_lt
  have h3 := (id.bytes.get ⟨i.val * 4 + 3, by omega⟩).toNat_lt
  simp only [ofLe]
  omega

theorem ofLe_cons_inj {b c : UInt8} {bs cs : List UInt8}
    (h : ofLe (b :: bs) = ofLe (c :: cs)) : b = c ∧ ofLe bs = ofLe cs := by
  have hb := b.toNat_lt
  have hc := c.toNat_lt
  simp only [ofLe] at h
  exact ⟨UInt8.toNat_inj.mp (by omega), by omega⟩

/-- Two identifiers with the same chunks have the same bytes. -/
theorem ext_chunks {a b : NodeId} (h : ∀ i, a.chunkU32 i = b.chunkU32 i) : a = b := by
  have hbytes : ∀ j : Fin 16, a.bytes.get j = b.bytes.get j := by
    intro j
    have hi := congrArg UInt32.toNat (h ⟨j.val / 4, by omega⟩)
    rw [toNat_chunkU32, toNat_chunkU32] at hi
    obtain ⟨h0, hi⟩ := ofLe_cons_inj hi
    obtain ⟨h1, hi⟩ := ofLe_cons_inj hi
    obtain ⟨h2, hi⟩ := ofLe_cons_inj hi
    obtain ⟨h3, -⟩ := ofLe_cons_inj hi
    -- the four bytes of the chunk `j / 4`, of which `j` is one
    obtain hj | hj | hj | hj : j.val % 4 = 0 ∨ j.val % 4 = 1 ∨ j.val % 4 = 2 ∨ j.val % 4 = 3 := by
      omega
    · convert h0 using 2 <;> exact Fin.ext (by simp; omega)
    · convert h1 using 2 <;> exact Fin.ext (by simp; omega)
    · convert h2 using 2 <;> exact Fin.ext (by simp; omega)
    · convert h3 using 2 <;> exact Fin.ext (by simp; omega)
  obtain ⟨va⟩ := a
  obtain ⟨vb⟩ := b
  congr 1
  ext i hi
  exact congrArg UInt8.toNat (hbytes ⟨i, hi⟩)

theorem toNat_injective {a b : NodeId} (h : a.toNat = b.toNat) : a = b := by
  have hlt : ∀ (id : NodeId) (i : Fin 4), (id.chunkU32 i).toNat < 2 ^ 32 :=
    fun id i => (id.chunkU32 i).toNat_lt
  have ha0 := hlt a 0
  have ha1 := hlt a 1
  have ha2 := hlt a 2
  have ha3 := hlt a 3
  have hb0 := hlt b 0
  have hb1 := hlt b 1
  have hb2 := hlt b 2
  have hb3 := hlt b 3
  rw [toNat, toNat] at h
  refine ext_chunks fun i => UInt32.toNat_inj.mp ?_
  fin_cases i
  · show (a.chunkU32 0).toNat = (b.chunkU32 0).toNat
    omega
  · show (a.chunkU32 1).toNat = (b.chunkU32 1).toNat
    omega
  · show (a.chunkU32 2).toNat = (b.chunkU32 2).toNat
    omega
  · show (a.chunkU32 3).toNat = (b.chunkU32 3).toNat
    omega

/-! ### The order -/

/-- Comparing two digits to a base, the high one first. -/
theorem compare_mul_add {B x y x' y' : Nat} (hy : y < B) (hy' : y' < B) :
    compare (x * B + y) (x' * B + y') = (compare x x').then (compare y y') := by
  rcases Nat.lt_trichotomy x x' with h | rfl | h
  · rw [Nat.compare_eq_lt.mpr h, Nat.compare_eq_lt.mpr (by nlinarith)]
    rfl
  · rw [compare_eq_iff_eq.mpr rfl, Ordering.then]
    rcases Nat.lt_trichotomy y y' with h | rfl | h
    · rw [Nat.compare_eq_lt.mpr h, Nat.compare_eq_lt.mpr (by omega)]
    · rw [compare_eq_iff_eq.mpr rfl, compare_eq_iff_eq.mpr rfl]
    · rw [Nat.compare_eq_gt.mpr h, Nat.compare_eq_gt.mpr (by omega)]
  · rw [Nat.compare_eq_gt.mpr h, Nat.compare_eq_gt.mpr (by nlinarith)]
    rfl

theorem compare_u32 (x y : UInt32) : compare x y = compare x.toNat y.toNat := by
  show compareOfLessAndEq x y = compareOfLessAndEq x.toNat y.toNat
  simp only [compareOfLessAndEq, UInt32.lt_iff_toNat_lt, UInt32.toNat_inj]

/-- **The chunk-wise order is the order of the numbers.** -/
theorem cmp_eq_compare (a b : NodeId) : a.cmp b = compare a.toNat b.toNat := by
  have hlt : ∀ (id : NodeId) (i : Fin 4), (id.chunkU32 i).toNat < 2 ^ 32 :=
    fun id i => (id.chunkU32 i).toNat_lt
  rw [toNat, toNat, compare_mul_add (hlt a 3) (hlt b 3), compare_mul_add (hlt a 2) (hlt b 2),
    compare_mul_add (hlt a 1) (hlt b 1), cmp]
  simp only [compare_u32, Ordering.then_assoc]

/-! ### The metric -/

/-- XOR works digit by digit in any power-of-two base. -/
theorem xor_mul_add {k x y x' y' : Nat} (hy : y < 2 ^ k) (hy' : y' < 2 ^ k) :
    (2 ^ k * x + y) ^^^ (2 ^ k * x' + y') = 2 ^ k * (x ^^^ x') + (y ^^^ y') := by
  apply Nat.eq_of_testBit_eq
  intro i
  rw [Nat.testBit_xor, Nat.testBit_two_pow_mul_add _ hy, Nat.testBit_two_pow_mul_add _ hy',
    Nat.testBit_two_pow_mul_add _ (Nat.xor_lt_two_pow hy hy')]
  split <;> simp

theorem ofLe_cons_xor (b c : UInt8) (bs cs : List UInt8) :
    ofLe (b :: bs) ^^^ ofLe (c :: cs) = (b ^^^ c).toNat + 256 * (ofLe bs ^^^ ofLe cs) := by
  rw [ofLe, ofLe, Nat.add_comm b.toNat, Nat.add_comm c.toNat]
  have h : (2 ^ 8 * ofLe bs + b.toNat) ^^^ (2 ^ 8 * ofLe cs + c.toNat) =
      2 ^ 8 * (ofLe bs ^^^ ofLe cs) + (b.toNat ^^^ c.toNat) := xor_mul_add b.toNat_lt c.toNat_lt
  rw [show (256 : Nat) = 2 ^ 8 from rfl, h, UInt8.toNat_xor, Nat.add_comm]

theorem chunkU32_distance (a b : NodeId) (i : Fin 4) :
    ((a.distance b).chunkU32 i).toNat = (a.chunkU32 i).toNat ^^^ (b.chunkU32 i).toNat := by
  rw [toNat_chunkU32, toNat_chunkU32, toNat_chunkU32, ofLe_cons_xor, ofLe_cons_xor, ofLe_cons_xor,
    ofLe_cons_xor]
  simp [distance, ofLe, Vector.get_eq_getElem]

/-- **The byte-wise distance is the XOR of the numbers.** -/
theorem toNat_distance (a b : NodeId) : (a.distance b).toNat = a.toNat ^^^ b.toNat := by
  have hlt : ∀ (id : NodeId) (i : Fin 4), (id.chunkU32 i).toNat < 2 ^ 32 :=
    fun id i => (id.chunkU32 i).toNat_lt
  simp only [toNat, chunkU32_distance, Nat.mul_comm _ (2 ^ 32)]
  rw [xor_mul_add (hlt a 3) (hlt b 3), xor_mul_add (hlt a 2) (hlt b 2),
    xor_mul_add (hlt a 1) (hlt b 1)]

theorem distance_comm (a b : NodeId) : a.distance b = b.distance a :=
  toNat_injective (by rw [toNat_distance, toNat_distance, Nat.xor_comm])

/-- Distinct identifiers are at distinct distances from any target. -/
theorem distance_injective {a b t : NodeId} (h : a.distance t = b.distance t) : a = b := by
  have h' := congrArg toNat h
  rw [toNat_distance, toNat_distance] at h'
  exact toNat_injective (Nat.xor_left_injective h')

/-! ### The bits -/

theorem testBit_toNat (id : NodeId) {p : Nat} (hp : p < 128) :
    id.toNat.testBit (127 - p) = (id.chunkU32 ⟨p / 32, by omega⟩).toNat.testBit (31 - p % 32) := by
  have hlt : ∀ i : Fin 4, (id.chunkU32 i).toNat < 2 ^ 32 := fun i => (id.chunkU32 i).toNat_lt
  simp only [toNat, Nat.mul_comm _ (2 ^ 32)]
  rw [Nat.testBit_two_pow_mul_add _ (hlt 3), Nat.testBit_two_pow_mul_add _ (hlt 2),
    Nat.testBit_two_pow_mul_add _ (hlt 1)]
  -- which of the four digits the bit lies in is decided by `p / 32`
  obtain h | h | h | h : p / 32 = 0 ∨ p / 32 = 1 ∨ p / 32 = 2 ∨ p / 32 = 3 := by omega
  all_goals simp only [h]
  · rw [if_neg (by omega), if_neg (by omega), if_neg (by omega)]
    exact congrArg _ (by omega)
  · rw [if_neg (by omega), if_neg (by omega), if_pos (by omega)]
    exact congrArg _ (by omega)
  · rw [if_neg (by omega), if_pos (by omega)]
    exact congrArg _ (by omega)
  · rw [if_pos (by omega)]
    exact congrArg _ (by omega)

theorem shiftRight_and_one (v : UInt32) {k : Nat} (hk : k < 32) :
    ((v >>> UInt32.ofNat k) &&& 1 == 1) = v.toNat.testBit k := by
  have hmod : k % 2 ^ 32 % 32 = k := by omega
  rw [Nat.testBit, Nat.and_comm, Nat.and_one_is_mod, Bool.eq_iff_iff, beq_iff_eq, bne_iff_ne,
    ← UInt32.toNat_inj, UInt32.toNat_and, UInt32.toNat_shiftRight, UInt32.toNat_ofNat', hmod]
  show _ &&& 1 = 1 ↔ _
  rw [Nat.and_one_is_mod]
  omega

/-- **A bit of an identifier is a bit of its number**, counted from the top. -/
theorem bit_eq_testBit (id : NodeId) {p : Nat} (hp : p < 128) :
    id.bit p = id.toNat.testBit (127 - p) := by
  rw [testBit_toNat id hp, bit, dif_pos (by omega), shiftRight_and_one _ (by omega)]

theorem bit_distance (a b : NodeId) {p : Nat} (hp : p < 128) :
    (a.distance b).bit p = (a.bit p ^^ b.bit p) := by
  rw [bit_eq_testBit _ hp, bit_eq_testBit _ hp, bit_eq_testBit _ hp, toNat_distance,
    Nat.testBit_xor]

/-! ## Nearer and farther -/

/-- `a` comes before `b`. -/
def lt (a b : NodeId) : Prop := a.cmp b = .lt

instance : LT NodeId := ⟨lt⟩

instance (a b : NodeId) : Decidable (a < b) := inferInstanceAs (Decidable (a.cmp b = .lt))

theorem lt_iff (a b : NodeId) : a < b ↔ a.toNat < b.toNat := by
  show a.cmp b = .lt ↔ _
  rw [cmp_eq_compare, Nat.compare_eq_lt]

theorem isLE_cmp (a b : NodeId) : (a.cmp b).isLE = decide (a.toNat ≤ b.toNat) := by
  rw [cmp_eq_compare, Bool.eq_iff_iff, Nat.isLE_compare, decide_eq_true_eq]

/-- **The first differing bit decides.**  If `a` and `b` agree before position `p` and `a` is the
one that agrees with the target there, then `a` is strictly nearer. -/
theorem distance_lt_of_bit {a b t : NodeId} {p : Nat} (hp : p < 128)
    (hpre : ∀ q < p, a.bit q = b.bit q) (ha : a.bit p = t.bit p) (hb : b.bit p ≠ t.bit p) :
    a.distance t < b.distance t := by
  rw [lt_iff]
  refine Nat.lt_of_testBit (127 - p) ?_ ?_ ?_
  · rw [← bit_eq_testBit _ hp, bit_distance _ _ hp, ha, Bool.xor_self]
  · rw [← bit_eq_testBit _ hp, bit_distance _ _ hp]
    cases hbp : b.bit p <;> cases htp : t.bit p <;> simp_all
  · intro j hj
    rcases Nat.lt_or_ge j 128 with hj' | hj'
    · have hq : 127 - (127 - j) = j := by omega
      have h := hpre (127 - j) (by omega)
      rw [← hq, ← bit_eq_testBit _ (by omega), ← bit_eq_testBit _ (by omega),
        bit_distance _ _ (by omega), bit_distance _ _ (by omega), h]
    · have hpow : 2 ^ 128 ≤ 2 ^ j := Nat.pow_le_pow_right (by omega) hj'
      rw [Nat.testBit_eq_false_of_lt ((toNat_lt _).trans_le hpow),
        Nat.testBit_eq_false_of_lt ((toNat_lt _).trans_le hpow)]

/-! ## The first differing bit -/

/-- Position `p` is the first in which `a` and `b` differ. -/
structure FirstDiff (a b : NodeId) (p : Nat) : Prop where
  /-- It is a position of an identifier. -/
  lt : p < 128
  /-- The identifiers differ there. -/
  ne : a.bit p ≠ b.bit p
  /-- They agree everywhere before it. -/
  agree : ∀ q < p, a.bit q = b.bit q

theorem FirstDiff.unique {a b : NodeId} {p q : Nat} (hp : FirstDiff a b p)
    (hq : FirstDiff a b q) : p = q := by
  rcases Nat.lt_trichotomy p q with h | h | h
  · exact absurd (hq.agree p h) hp.ne
  · exact h
  · exact absurd (hp.agree q h) hq.ne

theorem FirstDiff.symm {a b : NodeId} {p : Nat} (h : FirstDiff a b p) : FirstDiff b a p :=
  ⟨h.lt, h.ne.symm, fun q hq => (h.agree q hq).symm⟩

/-- The bits of a distance are where two identifiers differ, so a first set bit of the distance is
a first difference. -/
theorem firstDiff_of_distance {a b : NodeId} {p : Nat} (hp : p < 128)
    (hset : (a.distance b).bit p = true) (hclear : ∀ q < p, (a.distance b).bit q = false) :
    FirstDiff a b p := by
  refine ⟨hp, ?_, fun q hq => ?_⟩
  · rw [bit_distance _ _ hp] at hset
    exact bne_iff_ne.mp hset
  · have h := hclear q hq
    rw [bit_distance _ _ (hq.trans hp)] at h
    exact bne_eq_false_iff_eq.mp h

theorem bit_eq_chunk (id : NodeId) {p : Nat} (hp : p < 128) :
    id.bit p = (id.chunkU32 ⟨p / 32, by omega⟩).toNat.testBit (31 - p % 32) := by
  rw [bit_eq_testBit id hp, testBit_toNat id hp]

/-- What `leading_zeros` counts: the bit below the zeros is set, those above it are not. -/
theorem leadingZeros_spec {v : UInt32} (hv : v ≠ 0) :
    leadingZeros v < 32 ∧ v.toNat.testBit (31 - leadingZeros v) = true ∧
      ∀ j < leadingZeros v, v.toNat.testBit (31 - j) = false := by
  have hne : v.toNat ≠ 0 := fun h => hv (UInt32.toNat_inj.mp h)
  have hlog : v.toNat.log2 < 32 := (Nat.log2_lt hne).mpr v.toNat_lt
  rw [leadingZeros, if_neg hv]
  refine ⟨by omega, ?_, fun j hj => ?_⟩
  · rw [show 31 - (31 - v.toNat.log2) = v.toNat.log2 by omega]
    exact Nat.testBit_log2 hne
  · exact Nat.testBit_eq_false_of_lt ((Nat.log2_lt hne).mp (by omega))

/-- The first non-zero chunk of the distance holds the first difference, at its highest set bit. -/
theorem firstDiff_of_chunk {a b : NodeId} {i : Fin 4}
    (hzero : ∀ j < i, (a.distance b).chunkU32 j = 0) (hne : (a.distance b).chunkU32 i ≠ 0) :
    FirstDiff a b (i.val * 32 + leadingZeros ((a.distance b).chunkU32 i)) := by
  obtain ⟨hlt, hset, hclear⟩ := leadingZeros_spec hne
  generalize leadingZeros ((a.distance b).chunkU32 i) = k at hlt hset hclear
  have hp : i.val * 32 + k < 128 := by omega
  refine firstDiff_of_distance hp ?_ fun q hq => ?_
  · have hi : (⟨(i.val * 32 + k) / 32, by omega⟩ : Fin 4) = i := Fin.ext (by simp; omega)
    rw [bit_eq_chunk _ hp, hi, show (i.val * 32 + k) % 32 = k by omega]
    exact hset
  · rw [bit_eq_chunk _ (hq.trans hp)]
    -- an earlier position is in an earlier chunk, which is zero, or above the zeros of this one
    rcases Nat.lt_or_ge (q / 32) i.val with hlow | hsame
    · rw [hzero ⟨q / 32, by omega⟩ hlow]
      exact Nat.zero_testBit _
    · have hi : (⟨q / 32, by omega⟩ : Fin 4) = i := Fin.ext (by simp; omega)
      rw [hi]
      exact hclear (q % 32) (by omega)

/-- **`distance_exp` is a first differing bit.**  The loop stops at the first chunk of the distance
that is not zero. -/
theorem firstDiff_of_distanceExp {a b : NodeId} {p : Nat} (h : a.distanceExp b = some p) :
    FirstDiff a b p := by
  obtain ⟨l₁, i, l₂, hl, hi, hbefore⟩ := List.findSome?_eq_some_iff.mp h
  dsimp only at hi
  split at hi
  case isFalse => cases hi
  case isTrue hne =>
    obtain rfl := Option.some.inj hi
    refine firstDiff_of_chunk (fun j hj => ?_) hne
    have hsorted : (l₁ ++ i :: l₂).Pairwise (· < ·) := hl ▸ List.pairwise_lt_finRange 4
    have hmem : j ∈ l₁ ++ i :: l₂ := hl ▸ List.mem_finRange j
    rcases List.mem_append.mp hmem with hj₁ | hj₂
    · exact not_not.mp fun hj₀ => Option.some_ne_none _ ((if_pos hj₀).symm.trans (hbefore j hj₁))
    · have hle : i ≤ j := by
        rcases List.mem_cons.mp hj₂ with rfl | hj₂
        · exact le_rfl
        · exact (List.rel_of_pairwise_cons (List.pairwise_append.mp hsorted).2.1 hj₂).le
      exact absurd hj (not_lt.mpr hle)

theorem distanceExp_eq_none_iff (a b : NodeId) : a.distanceExp b = none ↔ a = b := by
  have hzero : ∀ i, (a.distance b).chunkU32 i = 0 ↔ a.chunkU32 i = b.chunkU32 i := by
    intro i
    rw [← UInt32.toNat_inj, chunkU32_distance, ← UInt32.toNat_inj]
    exact Nat.xor_eq_zero_iff
  rw [distanceExp, List.findSome?_eq_none_iff]
  constructor
  · intro h
    refine ext_chunks fun i => (hzero i).mp (not_not.mp fun hi => ?_)
    exact Option.some_ne_none _ ((if_pos hi).symm.trans (h i (List.mem_finRange i)))
  · rintro rfl i -
    exact if_neg (not_not.mpr ((hzero i).mpr rfl))

theorem distanceExp_eq_some_iff (a b : NodeId) (p : Nat) :
    a.distanceExp b = some p ↔ FirstDiff a b p := by
  refine ⟨firstDiff_of_distanceExp, fun hp => ?_⟩
  cases h : a.distanceExp b with
  | none =>
    obtain rfl := (distanceExp_eq_none_iff a b).mp h
    exact absurd rfl hp.ne
  | some q => rw [(firstDiff_of_distanceExp h).unique hp]

/-- **Nearer is agreeing with the target at the first difference.** -/
theorem distance_lt_iff (a b t : NodeId) :
    a.distance t < b.distance t ↔ ∃ p, FirstDiff a b p ∧ a.bit p = t.bit p := by
  constructor
  · intro hlt
    cases h : a.distanceExp b with
    | none =>
      obtain rfl := (distanceExp_eq_none_iff a b).mp h
      exact absurd ((lt_iff _ _).mp hlt) (Nat.lt_irrefl _)
    | some p =>
      have hp := firstDiff_of_distanceExp h
      refine ⟨p, hp, not_not.mp fun hat => ?_⟩
      -- of two different bits one is the target's, so `b` would be the nearer one
      have hbt : b.bit p = t.bit p := by
        rw [Bool.eq_not.mpr hp.ne.symm, Bool.eq_not.mpr (Ne.symm hat)]
      have hgt := distance_lt_of_bit hp.lt hp.symm.agree hbt hat
      exact lt_asymm ((lt_iff _ _).mp hlt) ((lt_iff _ _).mp hgt)
  · rintro ⟨p, hp, hat⟩
    exact distance_lt_of_bit hp.lt hp.agree hat fun hbt => hp.ne (hat.trans hbt.symm)

/-- **The four readings of an identifier agree.**  The order of the distances, the bits,
`distance_exp` and the two byte orders each take their own way through the chunks. -/
theorem metric_coherent :
    (∀ a b t : NodeId,
      a.distance t < b.distance t ↔ ∃ p, FirstDiff a b p ∧ a.bit p = t.bit p) ∧
    (∀ (a b : NodeId) (p : Nat), a.distanceExp b = some p ↔ FirstDiff a b p) ∧
    (∀ a b : NodeId, a.distanceExp b = none ↔ a = b) ∧
    (∀ b : Vector UInt8 16, (fromBeBytes b).toBeBytes = b) ∧
    ∀ id : NodeId, fromBeBytes id.toBeBytes = id :=
  ⟨distance_lt_iff, distanceExp_eq_some_iff, distanceExp_eq_none_iff, toBeBytes_fromBeBytes,
    fromBeBytes_toBeBytes⟩

end NodeId

end Overlord.Kad
