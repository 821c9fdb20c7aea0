import Overlord.Emule.Transfer.Store

/-!
# What a manifest says about the payload

`ResumeManifest.Wf` is what every manifest of the runtime satisfies on its own: its pieces are in
order, a piece is verified exactly if all its bytes are written, and the ranges offered for upload
and the `completed` flag are those of the verified pieces.  `ResumeManifest.Sound` ties it to the
payload: a verified piece has the recorded digest.

The operations change a manifest in two ways only.  Most leave the verified pieces as they are
(`Wf.of_outline`, through `PieceState.outline`, which is all that ranges and completion look at);
the last block of a piece makes the piece verified or empties it (`Wf.judgePiece`).

* `Wf.covered_iff` — the ranges of a manifest cover exactly the bytes of its verified pieces.
* `Advances` relates a manifest to one that still has all its verified pieces, and every change the
  runtime makes advances it (`Good.claimNext`, …).
-/

set_option autoImplicit false

namespace List

variable {α : Type}

theorem mem_modify_iff {l : List α} {i : Nat} {f : α → α} {b : α} (h : b ∈ l.modify i f) :
    b ∈ l ∨ ∃ a, l[i]? = some a ∧ b = f a := by
  obtain ⟨j, hj, rfl⟩ := List.mem_iff_getElem.mp h
  rw [List.getElem_modify]
  rw [List.length_modify] at hj
  split
  next heq => exact .inr ⟨l[j], by rw [heq, List.getElem?_eq_getElem hj], rfl⟩
  next => exact .inl (List.getElem_mem hj)

theorem map_modify_eq {β : Type} {l : List α} {i : Nat} {f : α → α} {g : α → β}
    (h : ∀ a, l[i]? = some a → g (f a) = g a) : (l.modify i f).map g = l.map g := by
  refine List.ext_getElem? fun j => ?_
  rw [List.getElem?_map, List.getElem?_map, List.getElem?_modify]
  cases hj : l[j]? with
  | none => rfl
  | some a =>
    split
    next heq => exact congrArg some (h a (heq ▸ hj))
    next => rfl

end List

namespace Overlord.Emule

open Kad (Ed2kHash)

/-! ## Lengths of pieces -/

theorem expectedPieceLength_pos {fileSize i : Nat}
    (hi : i < pieceCount fileSize ED2K_PART_SIZE) :
    0 < expectedPieceLength fileSize ED2K_PART_SIZE i := by
  rw [pieceCount] at hi
  split at hi
  · exact absurd hi (Nat.not_lt_zero i)
  · have hi' := Nat.lt_of_lt_of_le hi (Nat.min_le_left _ _)
    rw [Nat.lt_div_iff_mul_lt ED2K_PART_SIZE_pos] at hi'
    have hpos := ED2K_PART_SIZE_pos
    rw [expectedPieceLength]
    omega

theorem expectedMd4HashCount_le (fileSize : Nat) : expectedMd4HashCount fileSize ≤ 2 ^ 16 - 1 := by
  rw [expectedMd4HashCount]
  split
  · exact Nat.zero_le _
  · exact Nat.min_le_right _ _

/-- Only a file of less than one part has no hashset. -/
theorem fileSize_lt_of_expectedMd4HashCount {fileSize : Nat} (hsize : fileSize ≠ 0)
    (hcount : expectedMd4HashCount fileSize = 0) : fileSize < ED2K_PART_SIZE := by
  by_contra hle
  have hwhole : 0 < fileSize / ED2K_PART_SIZE :=
    Nat.div_pos (Nat.not_lt.mp hle) ED2K_PART_SIZE_pos
  simp only [expectedMd4HashCount, if_neg hsize, if_pos hwhole] at hcount
  omega

/-- The index of a piece and whether it is verified. -/
def PieceState.outline (piece : PieceState) : Nat × Bool :=
  (piece.pieceIndex, piece.state = .verified)

namespace ResumeManifest

variable {m m' : ResumeManifest} {d : Digests} {payload : List UInt8}

/-- Length of a piece. -/
def lengthOf (m : ResumeManifest) (i : Nat) : Nat := expectedPieceLength m.fileSize m.pieceSize i

/-- The piece with an index is verified. -/
def VerifiedAt (m : ResumeManifest) (i : Nat) : Prop :=
  ∃ piece ∈ m.pieces, piece.pieceIndex = i ∧ piece.state = .verified

/-- An offset belongs to a piece. -/
def InPiece (m : ResumeManifest) (i offset : Nat) : Prop :=
  i * m.pieceSize ≤ offset ∧ offset < i * m.pieceSize + m.lengthOf i

/-- The bytes of a piece, if the payload has them all. -/
def pieceBytes (m : ResumeManifest) (i : Nat) (payload : List UInt8) : Option (List UInt8) :=
  Blob.readAt (i * m.pieceSize) (m.lengthOf i) payload

/-- The pieces of a manifest are those of a file of its size, in order. -/
structure Shape (m : ResumeManifest) : Prop where
  pieceSize : m.pieceSize = ED2K_PART_SIZE
  indices : m.pieces.map (·.pieceIndex) = List.range (pieceCount m.fileSize m.pieceSize)

/-- What a manifest satisfies on its own. -/
structure Wf (m : ResumeManifest) : Prop extends Shape m where
  /-- A piece has all its bytes exactly if it is verified. -/
  bytes : ∀ piece ∈ m.pieces, piece.bytesWritten ≤ m.lengthOf piece.pieceIndex ∧
    (piece.bytesWritten = m.lengthOf piece.pieceIndex ↔ piece.state = .verified)
  hashset : m.md4HashsetAcquired = true → m.md4Hashset.length = expectedMd4HashCount m.fileSize
  /-- A verified piece has been compared with a digest. -/
  digest : ∀ piece ∈ m.pieces, piece.state = .verified →
    m.md4HashsetAcquired = true ∧ (m.recordedDigest piece.pieceIndex).isSome
  ranges : m.verifiedRanges = verifiedRangesLoop m.fileSize m.pieceSize m.pieces none
  completed : m.completed = (!m.pieces.isEmpty && m.isFullyVerified)

/-- Every verified piece has the recorded digest. -/
def Sound (d : Digests) (m : ResumeManifest) (payload : List UInt8) : Prop :=
  ∀ i, m.VerifiedAt i → ∃ data, m.pieceBytes i payload = some data ∧
    m.recordedDigest i = some (d.md4 data)

/-- A manifest that can be trusted about a payload. -/
structure Good (d : Digests) (m : ResumeManifest) (payload : List UInt8) : Prop where
  wf : m.Wf
  sound : m.Sound d payload

/-- One manifest may follow another: a known size stays, and so do the verified pieces, in the same
place. -/
structure Advances (m m' : ResumeManifest) : Prop where
  fileSize : m.fileSize ≠ 0 → m'.fileSize = m.fileSize
  verified : ∀ i, m.VerifiedAt i →
    m'.VerifiedAt i ∧ ∀ payload, m'.pieceBytes i payload = m.pieceBytes i payload

theorem Advances.refl (m : ResumeManifest) : Advances m m :=
  ⟨fun _ => rfl, fun _ hi => ⟨hi, fun _ => rfl⟩⟩

/-! ## Pieces by their index -/

theorem verifiedAt_iff_outline {i : Nat} :
    m.VerifiedAt i ↔ (i, true) ∈ m.pieces.map PieceState.outline := by
  simp [VerifiedAt, PieceState.outline]

theorem Shape.index_lt (h : m.Shape) {piece : PieceState} (hpiece : piece ∈ m.pieces) :
    piece.pieceIndex < pieceCount m.fileSize m.pieceSize := by
  have := List.mem_map_of_mem (f := (·.pieceIndex)) hpiece
  rw [h.indices] at this
  exact List.mem_range.mp this

theorem Shape.pieceIndex_eq (h : m.Shape) {i : Nat} {piece : PieceState}
    (hi : m.pieces[i]? = some piece) : piece.pieceIndex = i := by
  have hmap := congrArg (·[i]?) h.indices
  rw [List.getElem?_map, hi, Option.map_some, eq_comm, List.getElem?_eq_some_iff] at hmap
  obtain ⟨hlt, hi'⟩ := hmap
  rw [List.getElem_range] at hi'
  exact hi'.symm

theorem Shape.getElem?_pieceIndex (h : m.Shape) {piece : PieceState} (hpiece : piece ∈ m.pieces) :
    m.pieces[piece.pieceIndex]? = some piece := by
  obtain ⟨i, hi⟩ := List.mem_iff_getElem?.mp hpiece
  rw [h.pieceIndex_eq hi, hi]

/-- The first piece with an index is the one at that position. -/
theorem Shape.findPiece_eq (h : m.Shape) (i : Nat) : m.findPiece i = m.pieces[i]? := by
  rw [findPiece]
  cases hi : m.pieces[i]? with
  | some piece =>
    obtain ⟨hlt, hget⟩ := List.getElem?_eq_some_iff.mp hi
    refine List.find?_eq_some_iff_getElem.mpr ⟨?_, i, hlt, hget, fun j hj => ?_⟩
    · exact decide_eq_true (h.pieceIndex_eq hi)
    · rw [h.pieceIndex_eq (List.getElem?_eq_getElem (Nat.lt_trans hj hlt))]
      simp [Nat.ne_of_lt hj]
  | none =>
    rw [List.find?_eq_none]
    intro piece hpiece
    rw [decide_eq_true_eq]
    rintro rfl
    rw [h.getElem?_pieceIndex hpiece] at hi
    exact absurd hi nofun

/-- Changing the first piece with an index is changing the one at that position. -/
theorem Shape.modifyPiece_eq (h : m.Shape) (i : Nat) (f : PieceState → PieceState) :
    m.modifyPiece (·.pieceIndex = i) f = { m with pieces := m.pieces.modify i f } := by
  rw [modifyPiece]
  cases hi : m.pieces[i]? with
  | some piece =>
    obtain ⟨hlt, hget⟩ := List.getElem?_eq_some_iff.mp hi
    have hidx : m.pieces.findIdx (·.pieceIndex = i) = i := by
      rw [List.findIdx_eq hlt]
      refine ⟨decide_eq_true (h.pieceIndex_eq (List.getElem?_eq_getElem hlt)), fun j hj => ?_⟩
      rw [h.pieceIndex_eq (List.getElem?_eq_getElem (Nat.lt_trans hj hlt))]
      exact decide_eq_false (Nat.ne_of_lt hj)
    rw [hidx]
  | none =>
    have hlength := List.getElem?_eq_none_iff.mp hi
    have hidx : m.pieces.findIdx (·.pieceIndex = i) = m.pieces.length := by
      refine List.findIdx_eq_length.mpr fun piece hpiece => decide_eq_false ?_
      rintro rfl
      rw [h.getElem?_pieceIndex hpiece] at hi
      exact absurd hi nofun
    rw [hidx, List.modify_eq_self (Nat.le_refl _), List.modify_eq_self hlength]

/-! ## Ranges -/

/-- An offset lies in one of the ranges. -/
def Covered (ranges : List SharedRange) (offset : Nat) : Prop :=
  ∃ range ∈ ranges, range.start ≤ offset ∧ offset < range.stop

theorem covered_cons {range : SharedRange} {ranges : List SharedRange} {offset : Nat} :
    Covered (range :: ranges) offset ↔
      (range.start ≤ offset ∧ offset < range.stop) ∨ Covered ranges offset := by
  simp [Covered]

/-- **The loop over the pieces.**  From the piece `k` on, the ranges it makes cover the range that
is being built, up to that piece, and the verified pieces to come.  A range is left open only if
more pieces follow, because the last piece is not verified or ends the file. -/
theorem covered_verifiedRangesLoop {fileSize pieceSize : Nat} {pieces : List PieceState}
    {active : Option Nat} {k offset : Nat}
    (hindices : pieces.map (·.pieceIndex) = List.range' k pieces.length)
    (hopen : pieces = [] → active = none)
    (hlast : ∀ piece, pieces.getLast? = some piece → piece.state = .verified →
      fileSize ≤ piece.pieceIndex * pieceSize + pieceSize)
    (hinside : ∀ piece ∈ pieces, piece.pieceIndex * pieceSize ≤ fileSize)
    (hactive : ∀ start, active = some start → start ≤ k * pieceSize) :
    Covered (verifiedRangesLoop fileSize pieceSize pieces active) offset ↔
      (∃ start, active = some start ∧ start ≤ offset ∧ offset < k * pieceSize) ∨
      ∃ piece ∈ pieces, piece.state = .verified ∧ piece.pieceIndex * pieceSize ≤ offset ∧
        offset < min (piece.pieceIndex * pieceSize + pieceSize) fileSize := by
  induction pieces generalizing active k with
  | nil => simp [verifiedRangesLoop, hopen rfl, Covered]
  | cons piece rest ih =>
    obtain ⟨rfl, hindices⟩ : piece.pieceIndex = k ∧
        rest.map (·.pieceIndex) = List.range' (k + 1) rest.length := by
      simpa [List.range'_succ] using hindices
    have hrest : ∀ last, rest.getLast? = some last → last.state = .verified →
        fileSize ≤ last.pieceIndex * pieceSize + pieceSize := by
      intro last hmem
      exact hlast last (by rw [List.getLast?_cons, hmem]; rfl)
    have hnext : (piece.pieceIndex + 1) * pieceSize = piece.pieceIndex * pieceSize + pieceSize :=
      Nat.succ_mul _ _
    have hinside' : ∀ other ∈ rest, other.pieceIndex * pieceSize ≤ fileSize :=
      fun other hother => hinside other (List.mem_cons_of_mem _ hother)
    have hpiece : piece.pieceIndex * pieceSize ≤
        min (piece.pieceIndex * pieceSize + pieceSize) fileSize :=
      Nat.le_min.mpr ⟨Nat.le_add_right _ _, hinside piece List.mem_cons_self⟩
    have hclosed := @ih none (piece.pieceIndex + 1) hindices (fun _ => rfl) hrest hinside' nofun
    simp only [reduceCtorEq, false_and, exists_false, false_or] at hclosed
    simp only [verifiedRangesLoop, List.exists_mem_cons_iff]
    by_cases hverified : piece.state = .verified
    · rw [if_pos hverified]
      simp only [hverified, true_and]
      -- the open range and this piece are one range
      have hjoin : (active.getD (piece.pieceIndex * pieceSize) ≤ offset ∧
            offset < min (piece.pieceIndex * pieceSize + pieceSize) fileSize) ↔
          (∃ start, active = some start ∧ start ≤ offset ∧
            offset < piece.pieceIndex * pieceSize) ∨
          piece.pieceIndex * pieceSize ≤ offset ∧
            offset < min (piece.pieceIndex * pieceSize + pieceSize) fileSize := by
        cases active with
        | none => simp
        | some start =>
          have := hactive start rfl
          simp only [Option.getD_some, Option.some.injEq, exists_eq_left']
          omega
      split
      next hend => rw [covered_cons, hclosed, hjoin, or_assoc]
      next hend =>
        have hmin : min (piece.pieceIndex * pieceSize + pieceSize) fileSize =
            (piece.pieceIndex + 1) * pieceSize := by
          rw [hnext]
          exact (min_choice _ _).resolve_right hend
        have hstart : active.getD (piece.pieceIndex * pieceSize) ≤
            (piece.pieceIndex + 1) * pieceSize := by
          cases active with
          | none => exact Nat.mul_le_mul_right _ (Nat.le_succ _)
          | some start =>
            exact Nat.le_trans (hactive start rfl) (Nat.mul_le_mul_right _ (Nat.le_succ _))
        have hmore : rest ≠ [] := by
          rintro rfl
          exact hend (Nat.min_eq_right (hlast piece rfl hverified))
        rw [@ih (some _) (piece.pieceIndex + 1) hindices (fun hnil => absurd hnil hmore) hrest
          hinside' fun start hsome => Option.some.inj hsome ▸ hstart]
        simp only [Option.some.injEq, exists_eq_left']
        rw [← hmin, hjoin, or_assoc]
    · rw [if_neg hverified]
      simp only [hverified, false_and, false_or]
      cases active with
      | none => simpa using hclosed
      | some start =>
        simp only [Option.some.injEq, exists_eq_left']
        rw [covered_cons, hclosed]

theorem Shape.length_pieces (h : m.Shape) :
    m.pieces.length = pieceCount m.fileSize m.pieceSize := by
  rw [← List.length_map (f := (·.pieceIndex)), h.indices, List.length_range]

/-- A verified piece has one of the at most 65535 digests of the hashset, or is the only piece; so
the bound on the number of pieces does not matter to it. -/
theorem Wf.fileSize_le_of_last (h : m.Wf) {piece : PieceState}
    (hlast : m.pieces.getLast? = some piece) (hverified : piece.state = .verified) :
    m.fileSize ≤ piece.pieceIndex * m.pieceSize + m.pieceSize := by
  have hmem : piece ∈ m.pieces := List.mem_of_getLast? hlast
  have hpieces : 0 < m.pieces.length := List.length_pos_of_mem hmem
  rw [List.getLast?_eq_getElem?] at hlast
  have hindex := h.pieceIndex_eq hlast
  obtain ⟨hacquired, hdigest⟩ := h.digest piece hmem hverified
  have hhashset := h.hashset hacquired
  have hcount := h.length_pieces
  rw [h.pieceSize] at hcount ⊢
  rw [pieceCount] at hcount
  split at hcount
  · omega
  next hsize =>
    have hpos := ED2K_PART_SIZE_pos
    have hexact : m.pieces.length = (m.fileSize + ED2K_PART_SIZE - 1) / ED2K_PART_SIZE := by
      rw [recordedDigest] at hdigest
      split at hdigest
      next hempty =>
        rw [List.isEmpty_iff.mp hempty, List.length_nil] at hhashset
        have hsmall := fileSize_lt_of_expectedMd4HashCount hsize hhashset.symm
        have hone : (m.fileSize + ED2K_PART_SIZE - 1) / ED2K_PART_SIZE < 2 := by
          rw [Nat.div_lt_iff_lt_mul hpos]
          omega
        omega
      next hempty =>
        have hlt : piece.pieceIndex < m.md4Hashset.length := by simpa using hdigest
        have := expectedMd4HashCount_le m.fileSize
        omega
    have hceil := Nat.lt_mul_div_succ (m.fileSize + ED2K_PART_SIZE - 1) hpos
    rw [← hexact, Nat.mul_add, Nat.mul_one] at hceil
    calc m.fileSize ≤ ED2K_PART_SIZE * m.pieces.length := by omega
      _ = ED2K_PART_SIZE * (piece.pieceIndex + 1) := by rw [hindex, Nat.sub_add_cancel hpieces]
      _ = piece.pieceIndex * ED2K_PART_SIZE + ED2K_PART_SIZE := by
        rw [Nat.mul_comm, Nat.add_mul, Nat.one_mul]

theorem Wf.inPiece_iff (h : m.Wf) {piece : PieceState} (hpiece : piece ∈ m.pieces) {offset : Nat} :
    m.InPiece piece.pieceIndex offset ↔ piece.pieceIndex * m.pieceSize ≤ offset ∧
      offset < min (piece.pieceIndex * m.pieceSize + m.pieceSize) m.fileSize := by
  have hpos := expectedPieceLength_pos (h.pieceSize ▸ h.index_lt hpiece)
  rw [← h.pieceSize] at hpos
  rw [InPiece, lengthOf]
  rw [expectedPieceLength] at hpos ⊢
  omega

theorem Shape.indices_eq (h : m.Shape) :
    m.pieces.map (·.pieceIndex) = List.range' 0 m.pieces.length := by
  rw [h.indices, h.length_pieces, List.range_eq_range']

theorem Shape.start_le (h : m.Shape) {piece : PieceState} (hpiece : piece ∈ m.pieces) :
    piece.pieceIndex * m.pieceSize ≤ m.fileSize := by
  have hpos := expectedPieceLength_pos (h.pieceSize ▸ h.index_lt hpiece)
  rw [← h.pieceSize, expectedPieceLength] at hpos
  omega

/-- **The ranges of a manifest cover exactly the bytes of its verified pieces.** -/
theorem Wf.covered_iff (h : m.Wf) {offset : Nat} :
    Covered m.verifiedRanges offset ↔ ∃ i, m.VerifiedAt i ∧ m.InPiece i offset := by
  rw [h.ranges, covered_verifiedRangesLoop h.indices_eq (fun _ => rfl)
    (fun _ => h.fileSize_le_of_last) (fun _ => h.start_le) nofun]
  simp only [reduceCtorEq, false_and, exists_false, false_or]
  constructor
  · rintro ⟨piece, hpiece, hverified, hoffset⟩
    exact ⟨piece.pieceIndex, ⟨piece, hpiece, rfl, hverified⟩, (h.inPiece_iff hpiece).mpr hoffset⟩
  · rintro ⟨_, ⟨piece, hpiece, rfl, hverified⟩, hoffset⟩
    exact ⟨piece, hpiece, hverified, (h.inPiece_iff hpiece).mp hoffset⟩

/-! ## Changes that leave the verified pieces alone -/

theorem verifiedRangesLoop_congr {fileSize pieceSize : Nat} {pieces pieces' : List PieceState}
    (h : pieces.map PieceState.outline = pieces'.map PieceState.outline) (active : Option Nat) :
    verifiedRangesLoop fileSize pieceSize pieces active =
      verifiedRangesLoop fileSize pieceSize pieces' active := by
  induction pieces generalizing pieces' active with
  | nil => rw [List.map_nil, eq_comm, List.map_eq_nil_iff] at h; rw [h]
  | cons piece rest ih =>
    obtain ⟨piece', rest', rfl, hpiece, hrest⟩ := List.map_eq_cons_iff.mp h.symm
    obtain ⟨hindex, hstate⟩ := Prod.mk.inj hpiece
    have hstate : piece'.state = .verified ↔ piece.state = .verified := by simpa using hstate
    simp only [verifiedRangesLoop, ih hrest.symm, hindex, hstate]

theorem isFullyVerified_eq (m : ResumeManifest) :
    m.isFullyVerified = (m.pieces.map PieceState.outline).all (·.2) := by
  rw [isFullyVerified, List.all_map]
  rfl

/-- **Another list of pieces of which the same ones are verified.** -/
theorem Good.of_outline (h : m.Good d payload) {pieces : List PieceState}
    (houtline : pieces.map PieceState.outline = m.pieces.map PieceState.outline)
    (hbytes : ∀ piece ∈ pieces, piece.bytesWritten ≤ m.lengthOf piece.pieceIndex ∧
      (piece.bytesWritten = m.lengthOf piece.pieceIndex ↔ piece.state = .verified)) :
    Good d { m with pieces := pieces } payload ∧ Advances m { m with pieces := pieces } := by
  have hverified : ∀ i, VerifiedAt { m with pieces := pieces } i ↔ m.VerifiedAt i := by
    intro i
    rw [verifiedAt_iff_outline, verifiedAt_iff_outline, houtline]
  refine ⟨⟨⟨⟨h.wf.pieceSize, ?_⟩, hbytes, h.wf.hashset, ?_, ?_, ?_⟩, ?_⟩, ?_⟩
  · have := congrArg (List.map Prod.fst) houtline
    rw [List.map_map, List.map_map] at this
    exact this.trans h.wf.indices
  · intro piece hpiece hstate
    obtain ⟨old, hold, hindex, hstate⟩ := (hverified _).mp ⟨piece, hpiece, rfl, hstate⟩
    exact hindex ▸ h.wf.digest old hold hstate
  · exact h.wf.ranges.trans (verifiedRangesLoop_congr houtline.symm none)
  · have hempty : pieces.isEmpty = m.pieces.isEmpty := by
      have := congrArg List.isEmpty houtline
      simpa using this
    rw [isFullyVerified_eq, houtline, ← isFullyVerified_eq, hempty]
    exact h.wf.completed
  · exact fun i hi => h.sound i ((hverified i).mp hi)
  · exact ⟨fun _ => rfl, fun i hi => ⟨(hverified i).mpr hi, fun _ => rfl⟩⟩

/-- A piece that is not verified stays so. -/
theorem Good.modify (h : m.Good d payload) {i : Nat} {f : PieceState → PieceState}
    (hf : ∀ piece, m.pieces[i]? = some piece → (f piece).pieceIndex = piece.pieceIndex ∧
      piece.state ≠ .verified ∧ (f piece).state ≠ .verified ∧
      (f piece).bytesWritten < m.lengthOf piece.pieceIndex) :
    Good d { m with pieces := m.pieces.modify i f } payload ∧
      Advances m { m with pieces := m.pieces.modify i f } := by
  refine h.of_outline (List.map_modify_eq fun piece hpiece => ?_) fun piece hpiece => ?_
  · obtain ⟨hindex, hold, hnew, -⟩ := hf piece hpiece
    simp [PieceState.outline, hindex, hold, hnew]
  · rcases List.mem_modify_iff hpiece with hpiece | ⟨old, hold, rfl⟩
    · exact h.wf.bytes piece hpiece
    · obtain ⟨hindex, -, hnew, hlt⟩ := hf old hold
      rw [hindex]
      exact ⟨Nat.le_of_lt hlt, iff_of_false (Nat.ne_of_lt hlt) hnew⟩

/-- A piece that is not verified has fewer bytes than it will. -/
theorem Wf.bytesWritten_lt (h : m.Wf) {piece : PieceState} (hpiece : piece ∈ m.pieces)
    (hstate : piece.state ≠ .verified) : piece.bytesWritten < m.lengthOf piece.pieceIndex := by
  obtain ⟨hle, hiff⟩ := h.bytes piece hpiece
  exact Nat.lt_of_le_of_ne hle fun heq => hstate (hiff.mp heq)

/-- What the runtime does to a manifest it writes: it stays good and keeps its verified pieces. -/
def Preserves {β : Type} (d : Digests)
    (change : ResumeManifest → Except String (β × Option ResumeManifest)) (m : ResumeManifest) :
    Prop :=
  ∀ payload b m', m.Good d payload → change m = .ok (b, some m') →
    m'.Good d payload ∧ Advances m m'

theorem eq_of_changed {β : Type} {b b' : β} {m m' : ResumeManifest}
    (h : (.ok (b, some m) : Except String (β × Option ResumeManifest)) = .ok (b', some m')) :
    m = m' :=
  Option.some.inj (Prod.mk.inj (Except.ok.inj h)).2

theorem preserves_claimNext (m : ResumeManifest) : Preserves d claimNext m := by
  intro payload b m' h hchange
  rw [claimNext] at hchange
  split at hchange
  · exact absurd hchange nofun
  next first hfirst =>
    obtain rfl := eq_of_changed hchange
    refine h.modify fun piece hpiece => ?_
    have hmem := List.mem_of_getElem? hpiece
    have hmissing : piece.state = .missing := by
      obtain ⟨hlt, rfl⟩ := List.getElem?_eq_some_iff.mp hpiece
      simpa using List.findIdx_getElem (w := hlt)
    have hstate : piece.state ≠ .verified := by rw [hmissing]; decide
    have hlt := h.wf.bytesWritten_lt hmem hstate
    exact ⟨rfl, hstate, nofun, hlt⟩

theorem preserves_releasePiece (i : Nat) (m : ResumeManifest) :
    Preserves d (·.releasePiece i) m := by
  intro payload b m' h hchange
  simp only [releasePiece, h.wf.findPiece_eq] at hchange
  split at hchange
  · exact absurd hchange nofun
  next piece hpiece =>
    split at hchange
    next hrequested =>
      obtain rfl := eq_of_changed hchange
      rw [h.wf.modifyPiece_eq]
      refine h.modify fun other hother => ?_
      obtain rfl := Option.some.inj (hother.symm.trans hpiece)
      have hstate : other.state ≠ .verified := by rw [hrequested]; decide
      have hlt := h.wf.bytesWritten_lt (List.mem_of_getElem? hother) hstate
      exact ⟨rfl, hstate, nofun, hlt⟩
    next => exact absurd hchange nofun

theorem preserves_reclaimStale (m : ResumeManifest) : Preserves d reclaimStale m := by
  intro payload b m' h hchange
  rw [reclaimStale] at hchange
  split at hchange
  · obtain rfl := eq_of_changed hchange
    refine h.of_outline ?_ fun piece hpiece => ?_
    · rw [List.map_map]
      refine List.map_congr_left fun piece _ => ?_
      rw [Function.comp_apply]
      split
      next hrequested => simp [PieceState.outline, hrequested]
      next => rfl
    · obtain ⟨old, hold, rfl⟩ := List.mem_map.mp hpiece
      split
      next hrequested =>
        have hlt := h.wf.bytesWritten_lt hold (by rw [hrequested]; decide)
        exact ⟨Nat.le_of_lt hlt, iff_of_false (Nat.ne_of_lt hlt) (by simp)⟩
      next => exact h.wf.bytes old hold
  · exact absurd hchange nofun

/-! ## Metadata -/

/-- The fields that say nothing about the payload. -/
theorem Good.of_metadata (h : m.Good d payload) (canonicalName : String)
    (sources : List SourceHint) (aichRoot : Option AichHash) (aichHashset : List AichHash)
    (aichHashsetAcquired : Bool) :
    Good d { m with
      canonicalName := canonicalName, sources := sources, aichRoot := aichRoot
      aichHashset := aichHashset, aichHashsetAcquired := aichHashsetAcquired } payload :=
  ⟨⟨⟨h.wf.pieceSize, h.wf.indices⟩, h.wf.bytes, h.wf.hashset, h.wf.digest, h.wf.ranges,
    h.wf.completed⟩, h.sound⟩

theorem preserves_rememberSource (source : SourceHint) (m : ResumeManifest) :
    Preserves d (·.rememberSource source) m := by
  intro payload b m' h hchange
  simp only [rememberSource] at hchange
  split at hchange
  · exact absurd hchange nofun
  · obtain rfl := eq_of_changed hchange
    exact ⟨h.of_metadata _ _ _ _ _, fun _ => rfl, fun i hi => ⟨hi, fun _ => rfl⟩⟩

theorem preserves_reconcileRoot (aichRoot : Option AichHash) (m : ResumeManifest) :
    Preserves d (·.reconcileRoot aichRoot) m := by
  intro payload b m' h hchange
  simp only [reconcileRoot] at hchange
  split at hchange
  · cases hchange
  · split at hchange
    · split at hchange <;> cases hchange
    · obtain rfl := eq_of_changed hchange
      exact ⟨h.of_metadata _ _ _ _ _, fun _ => rfl, fun i hi => ⟨hi, fun _ => rfl⟩⟩

theorem preserves_acquireAichHashset (aichHashset : AichHashset) (m : ResumeManifest) :
    Preserves d (·.acquireAichHashset d aichHashset) m := by
  intro payload b m' h hchange
  simp only [acquireAichHashset] at hchange
  split at hchange
  · exact absurd hchange nofun
  · cases hvalid : validateAichHashset d m.fileSize aichHashset with
    | error e => rw [hvalid] at hchange; exact absurd hchange nofun
    | ok u =>
      rw [hvalid] at hchange
      obtain rfl := eq_of_changed hchange
      exact ⟨h.of_metadata _ _ _ _ _, fun _ => rfl, fun i hi => ⟨hi, fun _ => rfl⟩⟩

/-- Nothing is verified before there is a hashset. -/
theorem Wf.not_verifiedAt (h : m.Wf) (hacquired : m.md4HashsetAcquired = false) (i : Nat) :
    ¬ m.VerifiedAt i := by
  rintro ⟨piece, hpiece, -, hstate⟩
  rw [(h.digest piece hpiece hstate).1] at hacquired
  exact absurd hacquired nofun

theorem verifiedRangesLoop_missingPieces (fileSize pieceSize count : Nat) :
    verifiedRangesLoop fileSize pieceSize (missingPieces count) none = [] := by
  have hloop : ∀ pieces : List PieceState, (∀ piece ∈ pieces, piece.state = .missing) →
      verifiedRangesLoop fileSize pieceSize pieces none = [] := by
    intro pieces hmissing
    induction pieces with
    | nil => rfl
    | cons piece rest ih =>
      obtain ⟨hpiece, hrest⟩ := List.forall_mem_cons.mp hmissing
      simp [verifiedRangesLoop, hpiece, ih hrest]
  refine hloop _ fun piece hpiece => ?_
  obtain ⟨i, -, rfl⟩ := List.mem_map.mp hpiece
  rfl

theorem not_verified_of_missing {count : Nat} (hpieces : m.pieces = missingPieces count)
    {piece : PieceState} (hpiece : piece ∈ m.pieces) : piece.state ≠ .verified := by
  rw [hpieces] at hpiece
  obtain ⟨i, -, rfl⟩ := List.mem_map.mp hpiece
  exact nofun

/-- **A manifest of which nothing has been written.** -/
theorem wf_of_missing (hsize : m.pieceSize = ED2K_PART_SIZE)
    (hpieces : m.pieces = missingPieces (pieceCount m.fileSize m.pieceSize))
    (hranges : m.verifiedRanges = []) (hcompleted : m.completed = false)
    (hhashset : m.md4HashsetAcquired = true →
      m.md4Hashset.length = expectedMd4HashCount m.fileSize) : m.Wf := by
  refine ⟨⟨hsize, ?_⟩, ?_, hhashset, ?_, ?_, ?_⟩
  · rw [hpieces, missingPieces, List.map_map]
    exact List.map_id _
  · intro piece hpiece
    have hverified := not_verified_of_missing hpieces hpiece
    rw [hpieces] at hpiece
    obtain ⟨i, hi, rfl⟩ := List.mem_map.mp hpiece
    have hpos : 0 < m.lengthOf i := by
      rw [lengthOf, hsize]
      exact expectedPieceLength_pos (hsize ▸ List.mem_range.mp hi)
    exact ⟨Nat.zero_le _, iff_of_false (Nat.ne_of_lt hpos) hverified⟩
  · exact fun piece hpiece hstate => absurd hstate (not_verified_of_missing hpieces hpiece)
  · rw [hranges, hpieces, verifiedRangesLoop_missingPieces]
  · rw [hcompleted, isFullyVerified, eq_comm]
    cases hlist : m.pieces with
    | nil => rfl
    | cons piece rest =>
      have := not_verified_of_missing hpieces (hlist ▸ List.mem_cons_self : piece ∈ m.pieces)
      simp [this]

theorem good_of_missing (hsize : m.pieceSize = ED2K_PART_SIZE)
    (hpieces : m.pieces = missingPieces (pieceCount m.fileSize m.pieceSize))
    (hranges : m.verifiedRanges = []) (hcompleted : m.completed = false)
    (hhashset : m.md4HashsetAcquired = true →
      m.md4Hashset.length = expectedMd4HashCount m.fileSize) : m.Good d payload := by
  refine ⟨wf_of_missing hsize hpieces hranges hcompleted hhashset, ?_⟩
  rintro i ⟨piece, hpiece, -, hstate⟩
  exact absurd hstate (not_verified_of_missing hpieces hpiece)

theorem not_hasStructuralProgress_iff :
    m.hasStructuralProgress = false ↔ m.completed = false ∧ m.md4HashsetAcquired = false ∧
      m.aichHashsetAcquired = false ∧ m.aichRoot = none ∧ m.verifiedRanges = [] ∧
      ∀ piece ∈ m.pieces, piece.bytesWritten = 0 := by
  simp [hasStructuralProgress, and_assoc]

theorem preserves_reconcileJob (canonicalName : Option String) (fileSize : Option Nat)
    (m : ResumeManifest) : Preserves d (·.reconcileJob canonicalName fileSize) m := by
  intro payload b m' h hchange
  have hnamed : ∀ {result}, (.ok (result,
        if { m with canonicalName := m.learnName canonicalName } = m
        then none else some { m with canonicalName := m.learnName canonicalName }) :
        Except String (ResumeManifest × Option ResumeManifest)) = .ok (b, some m') →
      m'.Good d payload ∧ Advances m m' := by
    intro result hresult
    split at hresult
    · exact absurd hresult nofun
    · obtain rfl := eq_of_changed hresult
      exact ⟨h.of_metadata _ _ _ _ _, fun _ => rfl, fun i hi => ⟨hi, fun _ => rfl⟩⟩
  simp only [reconcileJob] at hchange
  split at hchange
  · exact hnamed hchange
  · split at hchange
    · split at hchange
      · exact absurd hchange nofun
      next hprogress =>
        obtain rfl := eq_of_changed hchange
        obtain ⟨hcompleted, hacquired, -, -, hranges, -⟩ :=
          not_hasStructuralProgress_iff.mp (Bool.eq_false_iff.mpr hprogress)
        refine ⟨good_of_missing h.wf.pieceSize rfl hranges hcompleted fun hacquired' => ?_,
          fun hsize => absurd ‹m.fileSize = 0› hsize,
          fun i hi => absurd hi (h.wf.not_verifiedAt hacquired i)⟩
        exact absurd (hacquired.symm.trans hacquired') nofun
    · split at hchange
      · exact absurd hchange nofun
      · exact hnamed hchange

theorem acquireMd4Hashset_eq_ok {md4Hashset : List Ed2kHash} {b : ResumeManifest}
    {changed : Option ResumeManifest} (h : m.acquireMd4Hashset d md4Hashset = .ok (b, changed)) :
    md4Hashset.length = expectedMd4HashCount m.fileSize ∧
      validateMd4Hashset d m.fileHash md4Hashset = .ok () ∧
      b = { m with md4Hashset := md4Hashset, md4HashsetAcquired := true } ∧ changed = some b := by
  simp only [acquireMd4Hashset] at h
  split at h
  · exact absurd h nofun
  next hlength =>
    cases hvalid : validateMd4Hashset d m.fileHash md4Hashset with
    | error e => rw [hvalid] at h; exact absurd h nofun
    | ok u =>
      rw [hvalid] at h
      obtain ⟨rfl, rfl⟩ := Prod.mk.inj (Except.ok.inj h)
      exact ⟨not_not.mp hlength, rfl, rfl, rfl⟩

/-- A hashset that is stored again is the same one, unless MD4 collides. -/
theorem preserves_acquireMd4Hashset {md4Hashset : List Ed2kHash} {m : ResumeManifest}
    (hsame : m.md4HashsetAcquired = true → md4Hashset = m.md4Hashset) :
    Preserves d (·.acquireMd4Hashset d md4Hashset) m := by
  intro payload b m' h hchange
  obtain ⟨hlength, -, rfl, hm'⟩ := acquireMd4Hashset_eq_ok hchange
  obtain rfl := Option.some.inj hm'
  cases hacquired : m.md4HashsetAcquired with
  | true =>
    have heq : ({ m with md4Hashset := md4Hashset, md4HashsetAcquired := true } :
        ResumeManifest) = m := by
      rw [hsame hacquired, ← hacquired]
    rw [heq]
    exact ⟨h, Advances.refl m⟩
  | false =>
    have hnone := h.wf.not_verifiedAt hacquired
    refine ⟨⟨⟨⟨h.wf.pieceSize, h.wf.indices⟩, h.wf.bytes, fun _ => hlength, ?_, h.wf.ranges,
      h.wf.completed⟩, fun i hi => absurd hi (hnone i)⟩, fun _ => rfl,
      fun i hi => absurd hi (hnone i)⟩
    exact fun piece hpiece hstate => absurd ⟨piece, hpiece, rfl, hstate⟩ (hnone _)

/-! ## Blocks -/

theorem checkBlock_eq_ok (h : m.Shape) {i start stop dataLen bytesWritten : Nat}
    (hcheck : checkBlock m i start stop dataLen = .ok bytesWritten) :
    ∃ piece, m.pieces[i]? = some piece ∧ piece.bytesWritten = bytesWritten ∧
      start = i * m.pieceSize + bytesWritten ∧ stop = start + dataLen ∧
      bytesWritten + dataLen ≤ m.lengthOf i := by
  simp only [checkBlock, h.findPiece_eq] at hcheck
  split at hcheck
  · exact absurd hcheck nofun
  next piece hpiece =>
    split at hcheck
    · exact absurd hcheck nofun
    next hrange =>
      obtain rfl := Except.ok.inj hcheck
      rw [lengthOf]
      exact ⟨piece, hpiece, rfl, by omega, by omega, by omega⟩

/-- What becomes of a piece that has been compared with its digest. -/
def judgement (length : Nat) (verified : Bool) (piece : PieceState) : PieceState :=
  if verified then { piece with bytesWritten := length, state := .verified }
  else { piece with state := .missing, bytesWritten := 0 }

theorem judgement_pieceIndex {length : Nat} {verified : Bool} {piece : PieceState} :
    (judgement length verified piece).pieceIndex = piece.pieceIndex := by
  cases verified <;> rfl

theorem judgement_verified {length : Nat} {verified : Bool} {piece : PieceState} :
    (judgement length verified piece).state = .verified ↔ verified = true := by
  cases verified <;> simp [judgement]

theorem judgePiece_eq (h : m.Shape) (i : Nat) (verified : Bool) :
    m.judgePiece i verified =
      { m with
        pieces := m.pieces.modify i (judgement (m.lengthOf i) verified)
        verifiedRanges := verifiedRangesLoop m.fileSize m.pieceSize
          (m.pieces.modify i (judgement (m.lengthOf i) verified)) none
        completed := (m.pieces.modify i (judgement (m.lengthOf i) verified)).all
          (·.state = .verified) } := by
  rw [judgePiece, h.modifyPiece_eq]
  rfl

/-- **The verdict on a complete piece.**  The bytes read back decide it; a piece that was verified
before passes again. -/
theorem Good.judgePiece (h : m.Good d payload) {i : Nat} {piece : PieceState}
    (hpiece : m.pieces[i]? = some piece) {data : List UInt8}
    (hread : m.pieceBytes i payload = some data) {verified : Bool}
    (hverify : m.verifyPiece d i data = .ok verified) :
    Good d (m.judgePiece i verified) payload ∧ Advances m (m.judgePiece i verified) := by
  have hmem := List.mem_of_getElem? hpiece
  have hindex := h.wf.pieceIndex_eq hpiece
  -- the digest comparison, both ways
  have hverdict : verified = true ↔
      m.md4HashsetAcquired = true ∧ m.recordedDigest i = some (d.md4 data) := by
    rw [verifyPiece] at hverify
    split at hverify
    next hacquired =>
      split at hverify
      next expected hexpected =>
        rw [← Except.ok.inj hverify, hexpected, decide_eq_true_eq, Option.some.injEq]
        exact ⟨fun heq => ⟨hacquired, heq.symm⟩, fun heq => heq.2.symm⟩
      next => exact absurd hverify nofun
    next hacquired =>
      rw [← Except.ok.inj hverify]
      exact iff_of_false nofun fun hv => hacquired hv.1
  have hverified_before : m.VerifiedAt i → verified = true := by
    intro hi
    obtain ⟨other, hother, hotherIndex, hstate⟩ := hi
    obtain ⟨data', hread', hdigest⟩ := h.sound i ⟨other, hother, hotherIndex, hstate⟩
    obtain rfl := Option.some.inj (hread.symm.trans hread')
    exact hverdict.mpr ⟨(h.wf.digest other hother hstate).1, hdigest⟩
  have hpos : 0 < m.lengthOf i := by
    rw [lengthOf, h.wf.pieceSize]
    exact expectedPieceLength_pos (h.wf.pieceSize ▸ hindex ▸ h.wf.index_lt hmem)
  rw [judgePiece_eq h.wf.toShape]
  have hmodified : ∀ other ∈ m.pieces.modify i (judgement (m.lengthOf i) verified),
      other ∈ m.pieces ∨ other = judgement (m.lengthOf i) verified piece := by
    intro other hother
    refine (List.mem_modify_iff hother).imp_right ?_
    rintro ⟨old, hold, rfl⟩
    rw [Option.some.inj (hold.symm.trans hpiece)]
  have hjudged : judgement (m.lengthOf i) verified piece ∈
      m.pieces.modify i (judgement (m.lengthOf i) verified) := by
    refine List.mem_of_getElem? (i := i) ?_
    rw [List.getElem?_modify_eq, hpiece]
    rfl
  refine ⟨⟨⟨⟨h.wf.pieceSize, ?_⟩, ?_, h.wf.hashset, ?_, rfl, ?_⟩, ?_⟩, ?_⟩
  · rw [List.map_modify_eq fun _ _ => judgement_pieceIndex]
    exact h.wf.indices
  · intro other hother
    rcases hmodified other hother with hold | rfl
    · exact h.wf.bytes other hold
    · rw [judgement_pieceIndex, hindex]
      cases verified with
      | true => exact ⟨Nat.le_refl _, iff_of_true rfl rfl⟩
      | false => exact ⟨Nat.zero_le _, iff_of_false (Nat.ne_of_lt hpos) nofun⟩
  · intro other hother hstate
    rcases hmodified other hother with hold | rfl
    · exact h.wf.digest other hold hstate
    · obtain ⟨hacquired, hdigest⟩ := hverdict.mp (judgement_verified.mp hstate)
      rw [judgement_pieceIndex, hindex]
      exact ⟨hacquired, Option.isSome_iff_exists.mpr ⟨_, hdigest⟩⟩
  · have hsome : (m.pieces.modify i (judgement (m.lengthOf i) verified)).isEmpty = false :=
      List.isEmpty_eq_false_iff_exists_mem.mpr ⟨_, hjudged⟩
    rw [hsome]
    rfl
  · rintro j ⟨other, hother, rfl, hstate⟩
    rcases hmodified other hother with hold | rfl
    · exact h.sound _ ⟨other, hold, rfl, hstate⟩
    · rw [judgement_pieceIndex, hindex]
      exact ⟨data, hread, (hverdict.mp (judgement_verified.mp hstate)).2⟩
  · refine ⟨fun _ => rfl, fun j hj => ⟨?_, fun _ => rfl⟩⟩
    by_cases hij : i = j
    · subst hij
      exact ⟨_, hjudged, judgement_pieceIndex.trans hindex,
        judgement_verified.mpr (hverified_before hj)⟩
    · obtain ⟨other, hother, rfl, hstate⟩ := hj
      refine ⟨other, List.mem_of_getElem? (i := other.pieceIndex) ?_, rfl, hstate⟩
      exact (List.getElem?_modify_ne _ _ hij).trans (h.wf.getElem?_pieceIndex hother)

/-- **A block that does not complete its piece.** -/
theorem Good.extendPiece (h : m.Good d payload) {i start stop dataLen bytesWritten : Nat}
    (hcheck : checkBlock m i start stop dataLen = .ok bytesWritten)
    (hincomplete : bytesWritten + dataLen ≠ m.lengthOf i) :
    Good d (m.extendPiece i (bytesWritten + dataLen)) payload ∧
      Advances m (m.extendPiece i (bytesWritten + dataLen)) := by
  obtain ⟨piece, hpiece, rfl, -, -, hle⟩ := checkBlock_eq_ok h.wf.toShape hcheck
  have hlt := Nat.lt_of_le_of_ne hle hincomplete
  rw [ResumeManifest.extendPiece, h.wf.modifyPiece_eq]
  refine h.modify fun other hother => ?_
  obtain rfl := Option.some.inj (hother.symm.trans hpiece)
  have hindex := h.wf.pieceIndex_eq hother
  refine ⟨rfl, fun hstate => ?_, nofun, by rwa [hindex]⟩
  have := (h.wf.bytes other (List.mem_of_getElem? hother)).2.mpr hstate
  rw [hindex] at this
  omega

end ResumeManifest

end Overlord.Emule
