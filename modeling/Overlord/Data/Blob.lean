import Mathlib

/-!
# Contents of a random-access file

A file as the list of its bytes.  `writeAt` overwrites a range, and fills the gap when the range
starts beyond the end of the file; `readAt` reads a range, and fails when the file ends inside it.

* `readAt_eq_some_iff` says what a successful read has read, offset by offset.
* `readAt_writeAt_of_disjoint` and `readAt_writeAt_append` are what a write does to a range beside
  it and to a range that it extends.
-/

set_option autoImplicit false

namespace Blob

variable {α : Type}

/-- Overwrite the range that starts at `offset`; `fill` is what a gap is filled with. -/
def writeAt (fill : α) (offset : Nat) (data blob : List α) : List α :=
  if data.isEmpty then blob
  else (blob ++ List.replicate (offset - blob.length) fill).take offset ++
    (data ++ blob.drop (offset + data.length))

/-- The range of `len` bytes that starts at `offset`, if the file has it. -/
def readAt (offset len : Nat) (blob : List α) : Option (List α) :=
  if len = 0 ∨ offset + len ≤ blob.length then some ((blob.drop offset).take len) else none

variable {fill : α} {offset len : Nat} {data blob bytes : List α}

theorem readAt_eq_some_iff :
    readAt offset len blob = some bytes ↔
      bytes.length = len ∧ ∀ i < len, blob[offset + i]? = bytes[i]? := by
  rw [readAt]
  split
  next hfits =>
    rw [Option.some.injEq]
    constructor
    · rintro rfl
      refine ⟨by simp; omega, fun i hi => ?_⟩
      rw [List.getElem?_take_of_lt hi, List.getElem?_drop]
    · rintro ⟨rfl, hbytes⟩
      refine List.ext_getElem? fun i => ?_
      rcases Nat.lt_or_ge i bytes.length with hi | hi
      · rw [List.getElem?_take_of_lt hi, List.getElem?_drop, hbytes i hi]
      · rw [List.getElem?_take_eq_none hi, List.getElem?_eq_none hi]
  next hshort =>
    refine iff_of_false nofun ?_
    rintro ⟨rfl, hbytes⟩
    -- the last byte of the range is beyond the end of the file
    have hlast := hbytes (bytes.length - 1) (by omega)
    rw [List.getElem?_eq_none (by omega), eq_comm, List.getElem?_eq_none_iff] at hlast
    omega

/-- The bytes a write has written. -/
theorem getElem?_writeAt_inside {i : Nat} (hi : i < data.length) :
    (writeAt fill offset data blob)[offset + i]? = data[i]? := by
  have hdata : data.isEmpty = false := by
    rw [List.isEmpty_eq_false_iff_exists_mem]
    exact ⟨data[i], List.getElem_mem hi⟩
  have hfront : ((blob ++ List.replicate (offset - blob.length) fill).take offset).length =
      offset := by
    simp
    omega
  rw [writeAt, if_neg (by simp [hdata]), List.getElem?_append_right (by omega), hfront,
    Nat.add_sub_cancel_left, List.getElem?_append_left hi]

/-- The bytes a write has left alone. -/
theorem getElem?_writeAt_outside {i : Nat} (hi : i < blob.length)
    (hout : i < offset ∨ offset + data.length ≤ i) :
    (writeAt fill offset data blob)[i]? = blob[i]? := by
  rw [writeAt]
  split
  · rfl
  · have hfront : ((blob ++ List.replicate (offset - blob.length) fill).take offset).length =
        offset := by
      simp
      omega
    rcases hout with hbefore | hafter
    · rw [List.getElem?_append_left (by omega), List.getElem?_take_of_lt hbefore,
        List.getElem?_append_left hi]
    · rw [List.getElem?_append_right (by omega), hfront,
        List.getElem?_append_right (by omega), List.getElem?_drop]
      congr 1
      omega

theorem lt_length_of_readAt {i : Nat} (h : readAt offset len blob = some bytes) (hi : i < len) :
    offset + i < blob.length := by
  obtain ⟨hlength, hbytes⟩ := readAt_eq_some_iff.mp h
  have hi' := hbytes i hi
  rw [List.getElem?_eq_getElem (by omega : i < bytes.length)] at hi'
  exact (List.getElem?_eq_some_iff.mp hi').1

/-- **A range beside the one written.** -/
theorem readAt_writeAt_of_disjoint {start : Nat} (h : readAt offset len blob = some bytes)
    (hdisjoint : offset + len ≤ start ∨ start + data.length ≤ offset) :
    readAt offset len (writeAt fill start data blob) = some bytes := by
  obtain ⟨hlength, hbytes⟩ := readAt_eq_some_iff.mp h
  refine readAt_eq_some_iff.mpr ⟨hlength, fun i hi => ?_⟩
  rw [getElem?_writeAt_outside (lt_length_of_readAt h hi) (by omega), hbytes i hi]

/-- **A range extended by what is written at its end.** -/
theorem readAt_writeAt_append {front : List α} (h : readAt offset len blob = some front) :
    readAt offset (len + data.length) (writeAt fill (offset + len) data blob) =
      some (front ++ data) := by
  obtain ⟨hlength, hfront⟩ := readAt_eq_some_iff.mp h
  refine readAt_eq_some_iff.mpr ⟨by simp [hlength], fun i hi => ?_⟩
  rcases Nat.lt_or_ge i len with hbefore | hafter
  · rw [getElem?_writeAt_outside (lt_length_of_readAt h hbefore) (by omega), hfront i hbefore,
      List.getElem?_append_left (by omega)]
  · obtain ⟨j, rfl⟩ := Nat.exists_eq_add_of_le hafter
    rw [← Nat.add_assoc, getElem?_writeAt_inside (by omega),
      List.getElem?_append_right (by omega), hlength, Nat.add_sub_cancel_left]

/-- **A write in two parts.** -/
theorem writeAt_append (first second : List α) :
    writeAt fill (offset + first.length) second (writeAt fill offset first blob) =
      writeAt fill offset (first ++ second) blob := by
  by_cases hfirst : first = []
  · simp [hfirst, writeAt]
  by_cases hsecond : second = []
  · simp [hsecond, writeAt]
  generalize hfront : (blob ++ List.replicate (offset - blob.length) fill).take offset = front
  have hoffset : front.length = offset := by
    rw [← hfront]
    simp
    omega
  have hwrite : ∀ {data : List α}, data ≠ [] →
      writeAt fill offset data blob = front ++ (data ++ blob.drop (offset + data.length)) := by
    intro data hne
    rw [writeAt, if_neg (by simpa using hne), hfront]
  have hpad : offset + first.length -
      (front ++ (first ++ blob.drop (offset + first.length))).length = 0 := by
    simp
    omega
  have hrest : (front ++ (first ++ blob.drop (offset + first.length))).drop
      (offset + first.length + second.length) =
      blob.drop (offset + (first ++ second).length) := by
    rw [← List.append_assoc, List.drop_append, List.drop_eq_nil_of_le (by simp; omega),
      List.nil_append, List.drop_drop]
    congr 1
    simp
    omega
  rw [hwrite hfirst, hwrite (by simp [hfirst]), writeAt, if_neg (by simpa using hsecond), hpad,
    hrest, List.replicate_zero, List.append_nil, ← List.append_assoc front,
    List.take_left' (by simp [hoffset])]
  simp

end Blob
