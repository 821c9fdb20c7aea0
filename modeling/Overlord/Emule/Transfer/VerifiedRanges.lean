import Overlord.Emule.Transfer.Manifest

/-!
# The ranges that may be uploaded

`rebuild_verified_ranges` walks over the pieces and gathers neighbouring verified ones into ranges.
A range that is being built is closed by a piece that is not verified, or by a piece that reaches
the end of the file.  Nothing closes it after the loop.

So everything depends on the last piece.  If the pieces lead up to the end of the file, the ranges
are exactly the verified bytes, in order and with gaps between them (`verifiedRanges_iff`).  But
`piece_count` stops at the largest `u32`; in a file that is longer than that many pieces the last
piece closes no range.  And the end of a piece is computed in 64 bits, which may be too few for the
last one (`rebuildVerifiedRangesChecked`).

* `rebuildVerifiedRangesChecked` — the loop in 64 bits; where the numbers fit it is the loop of the
  manifest (`verifiedRangesLoopChecked_eq`).
* `IsVerifiedUnion` — what the ranges are for: sorted, with gaps, and covering the verified bytes.
* `LoopSpec` — what the loop yields from any piece on and with any range under way; the induction
  is on the pieces that are left.
-/

set_option autoImplicit false

namespace Overlord.Emule

/-! ## In 64 bits -/

/-- An addition or multiplication of `u64`s that has to fit. -/
def fitsU64 (n : Nat) : Option Nat := if n < 2 ^ 64 then some n else none

namespace ResumeManifest

/-- The loop of `rebuild_verified_ranges`, with overflow checks. -/
def verifiedRangesLoopChecked (fileSize pieceSize : Nat) :
    List PieceState → Option Nat → Option (List SharedRange)
  | [], _ => some []
  | piece :: rest, active => do
    let pieceStart ← fitsU64 (piece.pieceIndex * pieceSize)
    let pieceEnd := min (← fitsU64 (pieceStart + pieceSize)) fileSize
    if piece.state = .verified then
      let start := active.getD pieceStart
      if pieceEnd = fileSize then
        return ⟨start, pieceEnd⟩ :: (← verifiedRangesLoopChecked fileSize pieceSize rest none)
      else verifiedRangesLoopChecked fileSize pieceSize rest (some start)
    else
      match active with
      | some start =>
        return ⟨start, pieceStart⟩ :: (← verifiedRangesLoopChecked fileSize pieceSize rest none)
      | none => verifiedRangesLoopChecked fileSize pieceSize rest none

/-- `rebuild_verified_ranges`, with overflow checks. -/
def rebuildVerifiedRangesChecked (m : ResumeManifest) : Option ResumeManifest := do
  let ranges ← verifiedRangesLoopChecked m.fileSize m.pieceSize m.pieces none
  return { m with verifiedRanges := ranges }

variable {fileSize pieceSize : Nat}

/-- The checks are all the checked loop adds. -/
theorem verifiedRangesLoopChecked_eq (pieces : List PieceState) (active : Option Nat) :
    verifiedRangesLoopChecked fileSize pieceSize pieces active =
      if ∀ piece ∈ pieces, piece.pieceIndex * pieceSize + pieceSize < 2 ^ 64
      then some (verifiedRangesLoop fileSize pieceSize pieces active) else none := by
  induction pieces generalizing active with
  | nil => simp [verifiedRangesLoopChecked, verifiedRangesLoop]
  | cons piece rest ih =>
    rw [verifiedRangesLoopChecked, verifiedRangesLoop.eq_def]
    by_cases hfits : piece.pieceIndex * pieceSize + pieceSize < 2 ^ 64
    · have hstart : fitsU64 (piece.pieceIndex * pieceSize) =
          some (piece.pieceIndex * pieceSize) := if_pos (by omega)
      have hend : fitsU64 (piece.pieceIndex * pieceSize + pieceSize) =
          some (piece.pieceIndex * pieceSize + pieceSize) := if_pos hfits
      simp only [hstart, hend, Option.bind_eq_bind, Option.bind_some, ih, List.forall_mem_cons,
        hfits, true_and]
      split_ifs <;> cases active <;> rfl
    · have hnone : ¬ ∀ other ∈ piece :: rest,
          other.pieceIndex * pieceSize + pieceSize < 2 ^ 64 :=
        fun h => hfits (h piece List.mem_cons_self)
      have hend : fitsU64 (piece.pieceIndex * pieceSize + pieceSize) = none := if_neg hfits
      rw [if_neg hnone]
      cases hstart : fitsU64 (piece.pieceIndex * pieceSize) with
      | none => rfl
      | some pieceStart =>
        obtain rfl : piece.pieceIndex * pieceSize = pieceStart := by
          rw [fitsU64] at hstart
          split_ifs at hstart
          exact Option.some.inj hstart
        rw [Option.bind_eq_bind, Option.bind_some, hend]
        rfl

end ResumeManifest

/-! ## What the ranges should be -/

/-- The offsets of a piece, up to the end of the file. -/
def PieceState.Covers (fileSize pieceSize : Nat) (piece : PieceState) (offset : Nat) : Prop :=
  piece.pieceIndex * pieceSize ≤ offset ∧
    offset < min (piece.pieceIndex * pieceSize + pieceSize) fileSize

/-- The ranges are in order, with gaps between them, and cover exactly the verified pieces. -/
structure IsVerifiedUnion (fileSize pieceSize : Nat) (pieces : List PieceState)
    (ranges : List SharedRange) : Prop where
  nonempty : ∀ range ∈ ranges, range.start < range.stop
  apart : ranges.Pairwise fun range range' => range.stop < range'.start
  bytes : ∀ offset, (∃ range ∈ ranges, range.start ≤ offset ∧ offset < range.stop) ↔
    ∃ piece ∈ pieces, piece.state = .verified ∧ piece.Covers fileSize pieceSize offset

/-! ## The loop -/

namespace ResumeManifest

variable {fileSize pieceSize : Nat}

/-- The pieces from an index on, each of which starts inside the file. -/
structure PiecesFrom (fileSize pieceSize : Nat) (first : Nat) (pieces : List PieceState) :
    Prop where
  indices : pieces.map (·.pieceIndex) = List.range' first pieces.length
  inside : ∀ piece ∈ pieces, piece.pieceIndex * pieceSize < fileSize

theorem PiecesFrom.tail {first : Nat} {piece : PieceState} {rest : List PieceState}
    (h : PiecesFrom fileSize pieceSize first (piece :: rest)) :
    piece.pieceIndex = first ∧ PiecesFrom fileSize pieceSize (first + 1) rest := by
  have hindices := h.indices
  rw [List.map_cons, List.length_cons, List.range'_succ, List.cons.injEq] at hindices
  exact ⟨hindices.1, hindices.2, fun other hother => h.inside other (List.mem_cons_of_mem _ hother)⟩

/-- The piece that reaches the end of the file is the last one. -/
theorem PiecesFrom.eq_nil {first : Nat} {piece : PieceState} {rest : List PieceState}
    (h : PiecesFrom fileSize pieceSize first (piece :: rest))
    (hend : fileSize ≤ piece.pieceIndex * pieceSize + pieceSize) : rest = [] := by
  obtain ⟨hfirst, hrest⟩ := h.tail
  cases rest with
  | nil => rfl
  | cons next rest =>
    have hnext := hrest.inside next List.mem_cons_self
    rw [hrest.tail.1, Nat.succ_mul, ← hfirst] at hnext
    omega

/-- If the last piece is verified, it reaches the end of the file, and if there is no piece left,
no range is being built. -/
def Closes (fileSize pieceSize : Nat) (pieces : List PieceState) (active : Option Nat) : Prop :=
  match pieces.getLast? with
  | some piece => piece.state = .verified → fileSize ≤ piece.pieceIndex * pieceSize + pieceSize
  | none => active = none

/-- What the loop yields from the piece `first` on, when a range from `active` on is being built. -/
structure LoopSpec (fileSize pieceSize first : Nat) (pieces : List PieceState)
    (active : Option Nat) (ranges : List SharedRange) : Prop where
  nonempty : ∀ range ∈ ranges, range.start < range.stop
  apart : ranges.Pairwise fun range range' => range.stop < range'.start
  start : ∀ range ∈ ranges, active.getD (first * pieceSize) ≤ range.start
  bytes : ∀ offset, (∃ range ∈ ranges, range.start ≤ offset ∧ offset < range.stop) ↔
    (∃ start ∈ active, start ≤ offset ∧ offset < first * pieceSize) ∨
      ∃ piece ∈ pieces, piece.state = .verified ∧ piece.Covers fileSize pieceSize offset

theorem Closes.tail {piece : PieceState} {rest : List PieceState} {active active' : Option Nat}
    (h : Closes fileSize pieceSize (piece :: rest) active) (hnil : rest = [] → active' = none) :
    Closes fileSize pieceSize rest active' := by
  cases rest with
  | nil => exact hnil rfl
  | cons next rest =>
    rw [Closes, List.getLast?_cons_cons] at h
    cases hlast : (next :: rest).getLast? with
    | none => exact absurd (List.getLast?_eq_none_iff.mp hlast) (List.cons_ne_nil _ _)
    | some last =>
      rw [hlast] at h
      rwa [Closes, hlast]

/-- A range that has been closed, and those of the pieces behind it. -/
theorem LoopSpec.cons {first : Nat} {piece : PieceState} {rest : List PieceState}
    {ranges : List SharedRange} (hpos : 0 < pieceSize)
    (h : LoopSpec fileSize pieceSize (first + 1) rest none ranges)
    (hstate : piece.state ≠ .verified) {start : Nat} (hstart : start < first * pieceSize) :
    LoopSpec fileSize pieceSize first (piece :: rest) (some start)
      (⟨start, first * pieceSize⟩ :: ranges) := by
  have hlater : ∀ range ∈ ranges, first * pieceSize < range.start := by
    intro range hrange
    have := h.start range hrange
    rw [Option.getD_none, Nat.succ_mul] at this
    omega
  refine ⟨List.forall_mem_cons.mpr ⟨hstart, h.nonempty⟩, .cons hlater h.apart,
    List.forall_mem_cons.mpr ⟨le_refl start, fun range hrange => ?_⟩, fun offset => ?_⟩
  · exact (hstart.trans (hlater range hrange)).le
  · rw [List.exists_mem_cons_iff, h.bytes offset, List.exists_mem_cons_iff]
    simp [hstate]

/-- **What the loop yields.**  By induction on the pieces that are left, with the range that is
being built. -/
theorem loopSpec (hpos : 0 < pieceSize) {first : Nat} {pieces : List PieceState}
    (hpieces : PiecesFrom fileSize pieceSize first pieces) (active : Option Nat)
    (hactive : ∀ start ∈ active, start < first * pieceSize)
    (hcloses : Closes fileSize pieceSize pieces active) :
    LoopSpec fileSize pieceSize first pieces active
      (verifiedRangesLoop fileSize pieceSize pieces active) := by
  induction pieces generalizing first active with
  | nil =>
    obtain rfl : active = none := hcloses
    exact ⟨nofun, .nil, nofun, fun offset => by simp [verifiedRangesLoop]⟩
  | cons piece rest ih =>
    obtain ⟨hfirst, hrest⟩ := hpieces.tail
    have hinside := hpieces.inside piece List.mem_cons_self
    have hnext : (first + 1) * pieceSize = first * pieceSize + pieceSize := Nat.succ_mul _ _
    have hgetD : active.getD (first * pieceSize) ≤ first * pieceSize := by
      cases active with
      | none => exact le_refl _
      | some start => exact (hactive start rfl).le
    rw [hfirst] at hinside
    rw [verifiedRangesLoop.eq_def]
    dsimp only
    rw [hfirst]
    split_ifs with hverified hend
    · -- the piece is the last one and closes the range
      obtain rfl : rest = [] := hpieces.eq_nil (by rw [hfirst]; omega)
      rw [verifiedRangesLoop, hend]
      refine ⟨?_, List.pairwise_singleton _ _, ?_, fun offset => ?_⟩
      · simpa using hgetD.trans_lt hinside
      · simp
      · simp only [List.mem_singleton, exists_eq_left, hverified, true_and, PieceState.Covers,
          hfirst, hend]
        cases active with
        | none => simp
        | some start =>
          have := hactive start rfl
          simp only [Option.getD_some, Option.mem_some_iff, exists_eq_left']
          omega
    · -- the range goes on
      have hlt : first * pieceSize + pieceSize < fileSize := by omega
      have hspec := ih hrest (some (active.getD (first * pieceSize)))
        (by rintro start ⟨⟩; omega) (hcloses.tail fun hnil => by
          rw [hnil] at hcloses
          have hlast : fileSize ≤ piece.pieceIndex * pieceSize + pieceSize := hcloses hverified
          rw [hfirst] at hlast
          omega)
      refine ⟨hspec.nonempty, hspec.apart, hspec.start, fun offset => ?_⟩
      rw [hspec.bytes offset, List.exists_mem_cons_iff, ← or_assoc]
      refine or_congr_left ?_
      simp only [hverified, true_and, PieceState.Covers, hfirst]
      cases active with
      | none =>
        simp only [Option.getD_none, Option.mem_some_iff, exists_eq_left', Option.not_mem_none,
          false_and, exists_false, false_or]
        omega
      | some start =>
        have := hactive start rfl
        simp only [Option.getD_some, Option.mem_some_iff, exists_eq_left']
        omega
    · have hspec := ih hrest none nofun (hcloses.tail fun _ => rfl)
      cases active with
      | some start => exact hspec.cons hpos hverified (hactive start rfl)
      | none =>
        refine ⟨hspec.nonempty, hspec.apart, fun range hrange => ?_, fun offset => ?_⟩
        · have := hspec.start range hrange
          rw [Option.getD_none] at this ⊢
          omega
        · dsimp only
          rw [hspec.bytes offset, List.exists_mem_cons_iff]
          simp [hverified]

/-- No range reaches further than to the start of the last piece. -/
theorem stop_le_of_mem {first : Nat} {pieces : List PieceState}
    (hindices : pieces.map (·.pieceIndex) = List.range' first pieces.length)
    (hshort : ∀ piece ∈ pieces, piece.pieceIndex * pieceSize + pieceSize < fileSize)
    {active : Option Nat} {range : SharedRange}
    (hrange : range ∈ verifiedRangesLoop fileSize pieceSize pieces active) :
    range.stop ≤ (first + pieces.length - 1) * pieceSize := by
  induction pieces generalizing first active with
  | nil => exact absurd hrange List.not_mem_nil
  | cons piece rest ih =>
    rw [List.map_cons, List.length_cons, List.range'_succ, List.cons.injEq] at hindices
    rw [List.forall_mem_cons] at hshort
    have hlater : ∀ {active}, range ∈ verifiedRangesLoop fileSize pieceSize rest active →
        range.stop ≤ (first + (piece :: rest).length - 1) * pieceSize := by
      intro active hmem
      have hstop := ih hindices.2 hshort.2 hmem
      rwa [List.length_cons, show first + (rest.length + 1) - 1 = first + 1 + rest.length - 1
        by omega]
    have hnot : min (piece.pieceIndex * pieceSize + pieceSize) fileSize ≠ fileSize := by omega
    rw [verifiedRangesLoop.eq_def] at hrange
    dsimp only at hrange
    rw [if_neg hnot] at hrange
    split_ifs at hrange with hverified
    · exact hlater hrange
    · cases active with
      | none => exact hlater hrange
      | some start =>
        rcases List.mem_cons.mp hrange with rfl | hmem
        · dsimp only
          rw [hindices.1, List.length_cons]
          exact Nat.mul_le_mul_right _ (by omega)
        · exact hlater hmem

end ResumeManifest

/-! ## All pieces -/

/-- The bytes of the pieces fit into 64 bits, and the last piece reaches the end of the file or is
not verified. -/
def RangesFit (fileSize pieceSize : Nat) (pieces : List PieceState) : Prop :=
  pieces.length * pieceSize < 2 ^ 64 ∧
    (fileSize ≤ pieces.length * pieceSize ∨
      ∀ piece ∈ pieces.getLast?, piece.state ≠ .verified)

instance (fileSize pieceSize : Nat) (pieces : List PieceState) :
    Decidable (RangesFit fileSize pieceSize pieces) :=
  inferInstanceAs (Decidable (_ ∧ (_ ∨ ∀ piece ∈ pieces.getLast?, _)))

section

variable {fileSize pieceSize : Nat} {pieces : List PieceState}

theorem pieceIndex_getLast? (hindices : pieces.map (·.pieceIndex) = List.range pieces.length)
    {last : PieceState} (hlast : pieces.getLast? = some last) :
    last.pieceIndex + 1 = pieces.length := by
  have hmap : (pieces.map (·.pieceIndex)).getLast? = some last.pieceIndex := by
    rw [List.getLast?_map, hlast, Option.map_some]
  rw [hindices, List.getLast?_range] at hmap
  split_ifs at hmap with hzero
  have := Option.some.inj hmap
  omega

/-- A piece of a file starts inside it. -/
theorem mul_lt_of_lt_pieceCount (hpos : 0 < pieceSize) {i : Nat}
    (hi : i < pieceCount fileSize pieceSize) : i * pieceSize < fileSize := by
  rw [pieceCount] at hi
  split_ifs at hi with hzero
  · exact absurd hi (Nat.not_lt_zero i)
  · have hdiv : i < (fileSize + pieceSize - 1) / pieceSize := hi.trans_le (Nat.min_le_left _ _)
    rw [Nat.lt_div_iff_mul_lt hpos] at hdiv
    have hcomm : pieceSize * i = i * pieceSize := Nat.mul_comm _ _
    omega

theorem forall_fits_iff (hindices : pieces.map (·.pieceIndex) = List.range pieces.length) :
    (∀ piece ∈ pieces, piece.pieceIndex * pieceSize + pieceSize < 2 ^ 64) ↔
      pieces.length * pieceSize < 2 ^ 64 := by
  constructor
  · intro h
    cases hlast : pieces.getLast? with
    | none =>
      rw [List.getLast?_eq_none_iff.mp hlast, List.length_nil, Nat.zero_mul]
      decide
    | some last =>
      have hfits := h last (List.mem_of_getLast? hlast)
      rwa [← Nat.succ_mul, Nat.succ_eq_add_one, pieceIndex_getLast? hindices hlast] at hfits
  · intro h piece hpiece
    have hmem : piece.pieceIndex ∈ List.range pieces.length :=
      hindices ▸ List.mem_map_of_mem hpiece
    rw [← Nat.succ_mul]
    exact (Nat.mul_le_mul_right _ (List.mem_range.mp hmem)).trans_lt h

theorem isVerifiedUnion_loop_iff (hpos : 0 < pieceSize)
    (hindices : pieces.map (·.pieceIndex) = List.range pieces.length)
    (hinside : ∀ piece ∈ pieces, piece.pieceIndex * pieceSize < fileSize) :
    IsVerifiedUnion fileSize pieceSize pieces
        (ResumeManifest.verifiedRangesLoop fileSize pieceSize pieces none) ↔
      fileSize ≤ pieces.length * pieceSize ∨
        ∀ piece ∈ pieces.getLast?, piece.state ≠ .verified := by
  have hrange : pieces.map (·.pieceIndex) = List.range' 0 pieces.length := by
    rw [hindices, List.range_eq_range']
  constructor
  · intro h
    by_contra hopen
    push Not at hopen
    obtain ⟨hshort, last, hlast, hverified⟩ := hopen
    have hindex := pieceIndex_getLast? hindices hlast
    have hmul : last.pieceIndex * pieceSize + pieceSize = pieces.length * pieceSize := by
      rw [← hindex, Nat.succ_mul]
    -- the first byte of the last piece is in no range
    obtain ⟨range, hmem, -, hlt⟩ := (h.bytes (last.pieceIndex * pieceSize)).mpr
      ⟨last, List.mem_of_getLast? hlast, hverified, le_refl _, by omega⟩
    have hstop := ResumeManifest.stop_le_of_mem hrange (fun piece hpiece => ?_) hmem
    · rw [Nat.zero_add, ← hindex, Nat.add_sub_cancel] at hstop
      omega
    · have hmemRange : piece.pieceIndex ∈ List.range pieces.length :=
        hindices ▸ List.mem_map_of_mem hpiece
      rw [← Nat.succ_mul]
      exact (Nat.mul_le_mul_right _ (List.mem_range.mp hmemRange)).trans_lt hshort
  · intro h
    have hspec := ResumeManifest.loopSpec hpos ⟨hrange, hinside⟩ none nofun ?_
    · refine ⟨hspec.nonempty, hspec.apart, fun offset => ?_⟩
      rw [hspec.bytes offset]
      simp
    · rw [ResumeManifest.Closes]
      cases hlast : pieces.getLast? with
      | none => rfl
      | some last =>
        intro hverified
        rcases h with hend | hopen
        · rwa [← pieceIndex_getLast? hindices hlast, Nat.succ_mul] at hend
        · exact absurd hverified (hopen last hlast)

/-- **The verified ranges are the verified bytes**, sorted and with gaps between them, exactly if
the numbers fit and the last piece, if it is verified, reaches the end of the file. -/
theorem verifiedRanges_iff (m : ResumeManifest) (hpos : 0 < m.pieceSize)
    (hpieces : m.pieces.map (·.pieceIndex) = List.range (pieceCount m.fileSize m.pieceSize)) :
    (∃ m', m.rebuildVerifiedRangesChecked = some m' ∧
        IsVerifiedUnion m.fileSize m.pieceSize m.pieces m'.verifiedRanges) ↔
      RangesFit m.fileSize m.pieceSize m.pieces := by
  have hlength : m.pieces.length = pieceCount m.fileSize m.pieceSize := by
    have := congrArg List.length hpieces
    rwa [List.length_map, List.length_range] at this
  have hindices : m.pieces.map (·.pieceIndex) = List.range m.pieces.length := by
    rw [hpieces, hlength]
  have hinside : ∀ piece ∈ m.pieces, piece.pieceIndex * m.pieceSize < m.fileSize := by
    intro piece hpiece
    have hmem : piece.pieceIndex ∈ List.range (pieceCount m.fileSize m.pieceSize) :=
      hpieces ▸ List.mem_map_of_mem hpiece
    exact mul_lt_of_lt_pieceCount hpos (List.mem_range.mp hmem)
  rw [ResumeManifest.rebuildVerifiedRangesChecked, ResumeManifest.verifiedRangesLoopChecked_eq,
    RangesFit, ← forall_fits_iff hindices, ← isVerifiedUnion_loop_iff hpos hindices hinside]
  split_ifs with hfits
  · constructor
    · rintro ⟨m', hsome, hunion⟩
      obtain rfl := Option.some.inj hsome
      exact ⟨hfits, hunion⟩
    · exact fun h => ⟨_, rfl, h.2⟩
  · exact iff_of_false (fun ⟨_, hsome, _⟩ => nomatch hsome) fun h => hfits h.1

end

/-- A file whose pieces have the given states. -/
def sampleVerified (fileSize pieceSize : Nat) (states : List TransferState) : ResumeManifest :=
  { ResumeManifest.new ⟨⟨Vector.replicate 16 0⟩, "sample", fileSize, pieceSize⟩ with
    pieces := states.mapIdx fun i state => ⟨i, state, 0⟩ }

/-- Two neighbours and the short last piece. -/
theorem verifiedRanges_iff_sample :
    let m := sampleVerified 35 10 [.verified, .verified, .missing, .verified]
    ∃ m', m.rebuildVerifiedRangesChecked = some m' ∧
      IsVerifiedUnion 35 10 m.pieces m'.verifiedRanges := by
  intro m
  exact (verifiedRanges_iff m (by decide) (by decide)).mpr (by decide)

/-- The end of the second of two pieces does not fit into 64 bits. -/
theorem verifiedRanges_overflow :
    let m := sampleVerified (2 ^ 64 - 1) (2 ^ 64 - 2) [.missing, .verified]
    m.pieces.map (·.pieceIndex) = List.range (pieceCount m.fileSize m.pieceSize) ∧
      m.rebuildVerifiedRangesChecked = none := by
  decide

end Overlord.Emule
