import Overlord.Emule.Transfer.Manifest

/-!
# Hashsets

`ed2k_transfer/hashset.rs`.  The MD4 hashset of a file is the list of the hashes of its parts; the
file hash is the hash of that list.  The AICH hashes form a binary tree: the leaves are the hashes
of the blocks, a subtree over each part, and above them a tree over the parts.  Both trees split in
the same way (`aichTreeRoot`), the left branch taking the odd chunk if it is itself a left branch.

The recursion over a tree is on its size, and `aichLeftSize_bounds` says that both branches are
smaller.  `exists_buildAichHashset` follows the same recursion: a payload that is not empty has a
hashset, so that building it never fails for want of a hash.
-/

set_option autoImplicit false

namespace Overlord.Emule

open Kad (Ed2kHash)

/-! ## MD4 -/

/-- `expected_md4_hash_count`, a `u16`. -/
def expectedMd4HashCount (fileSize : Nat) : Nat :=
  if fileSize = 0 then 0
  else
    let wholeParts := fileSize / ED2K_PART_SIZE
    min (wholeParts + if 0 < wholeParts then 1 else 0) (2 ^ 16 - 1)

/-- `validate_md4_hashset`. -/
def validateMd4Hashset (d : Digests) (fileHash : Ed2kHash) (md4Hashset : List Ed2kHash) :
    Except String Unit :=
  if md4Hashset.isEmpty then .ok ()
  else if d.md4 (md4Hashset.flatMap fun hash => hash.bytes.toList) = fileHash then .ok ()
  else .error s!"MD4 hashset does not reconstruct ED2K file hash {fileHash.display}"

/-! ## AICH -/

/-- `chunk_count_for_size`. -/
def chunkCountForSize (size chunkSize : Nat) : Nat :=
  size / chunkSize + if size % chunkSize = 0 then 0 else 1

/-- Size of the left branch over `size` bytes. -/
def aichLeftSize (chunkSize size : Nat) (isLeftBranch : Bool) : Nat :=
  (chunkCountForSize size chunkSize + if isLeftBranch then 1 else 0) / 2 * chunkSize

/-- Both branches over more than one chunk are smaller than the whole. -/
theorem aichLeftSize_bounds {chunkSize size : Nat} (hchunk : 0 < chunkSize)
    (hsize : ¬ size ≤ chunkSize) (isLeftBranch : Bool) :
    0 < aichLeftSize chunkSize size isLeftBranch ∧
      aichLeftSize chunkSize size isLeftBranch < size := by
  have hdiv := Nat.div_add_mod size chunkSize
  have hmod := Nat.mod_lt size hchunk
  have hone : 1 ≤ size / chunkSize := (Nat.one_le_div_iff hchunk).mpr (by omega)
  generalize hq : size / chunkSize = q at *
  obtain ⟨half, hhalf, hcount⟩ : ∃ half, aichLeftSize chunkSize size isLeftBranch =
      half * chunkSize ∧ 1 ≤ half ∧ (half < q ∨ half = q ∧ 0 < size % chunkSize) := by
    refine ⟨_, rfl, ?_⟩
    rw [chunkCountForSize, hq]
    rcases Nat.eq_zero_or_pos (size % chunkSize) with hzero | hpos
    · have htwo : 2 ≤ q := by
        by_contra hlt
        obtain rfl : q = 1 := by omega
        rw [hzero] at hdiv
        omega
      cases isLeftBranch <;> simp [hzero] <;> omega
    · have hne : size % chunkSize ≠ 0 := by omega
      cases isLeftBranch <;> simp [hne] <;> omega
  rw [hhalf]
  refine ⟨Nat.mul_pos hcount.1 hchunk, ?_⟩
  rcases hcount.2 with hlt | ⟨rfl, hpos⟩
  · calc half * chunkSize < q * chunkSize := Nat.mul_lt_mul_of_pos_right hlt hchunk
      _ = chunkSize * q := Nat.mul_comm _ _
      _ ≤ size := by omega
  · rw [Nat.mul_comm]
    omega

/-- `build_part_root` and `build_aich_block_tree_root`: the root of the tree over `size` bytes whose
first leaf is the one at `index`.  The source counts parts in bytes and blocks in leaves; a left
branch is a whole number of chunks, so that the two agree. -/
def aichTreeRoot (d : Digests) (what : String) {chunkSize : Nat} (hchunk : 0 < chunkSize)
    (leaves : List AichHash) (size : Nat) (isLeftBranch : Bool) (index : Nat) :
    Except String AichHash :=
  if hsize : size ≤ chunkSize then
    match leaves[index]? with
    | some leaf => .ok leaf
    | none => .error s!"missing AICH {what} hash at index {index}"
  else do
    have := aichLeftSize_bounds hchunk hsize isLeftBranch
    let leftSize := aichLeftSize chunkSize size isLeftBranch
    let left ← aichTreeRoot d what hchunk leaves leftSize true index
    let right ← aichTreeRoot d what hchunk leaves (size - leftSize) false
      (index + chunkCountForSize leftSize chunkSize)
    .ok (d.sha1 (left.bytes.toList ++ right.bytes.toList))
termination_by size

/-- `expected_aich_hash_count`, a `u16`. -/
def expectedAichHashCount (fileSize : Nat) : Nat :=
  if fileSize ≤ ED2K_PART_SIZE then 0
  else min (chunkCountForSize fileSize ED2K_PART_SIZE) (2 ^ 16 - 1)

/-- `reconstruct_aich_root_from_part_hashes`. -/
def reconstructAichRootFromPartHashes (d : Digests) (fileSize : Nat)
    (partHashes : List AichHash) : Except String AichHash :=
  aichTreeRoot d "part" ED2K_PART_SIZE_pos partHashes fileSize true 0

/-- `validate_aich_hashset`. -/
def validateAichHashset (d : Digests) (fileSize : Nat) (aichHashset : AichHashset) :
    Except String Unit :=
  let expected := expectedAichHashCount fileSize
  let count := aichHashset.partHashes.length
  if count ≠ expected then
    .error s!"unexpected AICH hashset length {count} expected {expected} for file size {fileSize}"
  else if expected = 0 then .ok ()
  else do
    let reconstructed ← reconstructAichRootFromPartHashes d fileSize aichHashset.partHashes
    if reconstructed = aichHashset.masterHash then .ok ()
    else .error "AICH hashset does not reconstruct the advertised master hash"

/-- `build_aich_part_root_from_reader`, on the bytes of the part. -/
def buildAichPartRoot (d : Digests) (bytes : List UInt8) (isLeftBranch : Bool) :
    Except String AichHash :=
  let blockHashes := (bytes.toChunks ED2K_EMBLOCK_SIZE).map d.sha1
  aichTreeRoot d "block" ED2K_EMBLOCK_SIZE_pos blockHashes bytes.length isLeftBranch 0

/-- `collect_aich_part_hashes_from_reader`, on the bytes of the parts. -/
def collectAichPartHashes (d : Digests) (bytes : List UInt8) (isLeftBranch : Bool) :
    Except String (List AichHash) :=
  if hsize : bytes.length ≤ ED2K_PART_SIZE then do
    let root ← buildAichPartRoot d bytes isLeftBranch
    .ok [root]
  else do
    have := aichLeftSize_bounds ED2K_PART_SIZE_pos hsize isLeftBranch
    let leftSize := aichLeftSize ED2K_PART_SIZE bytes.length isLeftBranch
    let left ← collectAichPartHashes d (bytes.take leftSize) true
    let right ← collectAichPartHashes d (bytes.drop leftSize) false
    .ok (left ++ right)
termination_by bytes.length
decreasing_by
  · rw [List.length_take]
    omega
  · rw [List.length_drop]
    omega

/-- `build_aich_hashset_from_payload`, on the bytes of the payload. -/
def buildAichHashset (d : Digests) (bytes : List UInt8) : Except String AichHashset :=
  if bytes.length ≤ ED2K_PART_SIZE then do
    let masterHash ← buildAichPartRoot d bytes true
    .ok ⟨masterHash, []⟩
  else do
    let partHashes ← collectAichPartHashes d bytes true
    let masterHash ← reconstructAichRootFromPartHashes d bytes.length partHashes
    .ok ⟨masterHash, partHashes⟩

/-! ## Every file has a hashset -/

theorem chunkCountForSize_mul_add {chunkSize : Nat} (hchunk : 0 < chunkSize) (count size : Nat) :
    chunkCountForSize (count * chunkSize + size) chunkSize =
      count + chunkCountForSize size chunkSize := by
  rw [chunkCountForSize, chunkCountForSize, Nat.add_comm (count * chunkSize),
    Nat.add_mul_div_right _ _ hchunk, Nat.add_mul_mod_self_right]
  omega

theorem chunkCountForSize_of_le {chunkSize size : Nat} (hpos : 0 < size) (hle : size ≤ chunkSize) :
    chunkCountForSize size chunkSize = 1 := by
  rw [chunkCountForSize]
  rcases Nat.lt_or_eq_of_le hle with hlt | rfl
  · rw [Nat.div_eq_of_lt hlt, Nat.mod_eq_of_lt hlt, if_neg (by omega)]
  · rw [Nat.div_self hpos, Nat.mod_self, if_pos rfl]

/-- The chunks of a tree are those of its two branches. -/
theorem chunkCountForSize_branches {chunkSize size : Nat} (hchunk : 0 < chunkSize)
    (hsize : ¬ size ≤ chunkSize) (isLeftBranch : Bool) :
    chunkCountForSize (aichLeftSize chunkSize size isLeftBranch) chunkSize +
      chunkCountForSize (size - aichLeftSize chunkSize size isLeftBranch) chunkSize =
        chunkCountForSize size chunkSize := by
  obtain ⟨-, hlt⟩ := aichLeftSize_bounds hchunk hsize isLeftBranch
  obtain ⟨half, hhalf⟩ : ∃ half, aichLeftSize chunkSize size isLeftBranch = half * chunkSize :=
    ⟨_, rfl⟩
  rw [hhalf] at hlt ⊢
  obtain ⟨rest, rfl⟩ := Nat.exists_eq_add_of_lt hlt
  have hleft := chunkCountForSize_mul_add hchunk half 0
  have hwhole := chunkCountForSize_mul_add hchunk half (rest + 1)
  have hzero : chunkCountForSize 0 chunkSize = 0 := by simp [chunkCountForSize]
  rw [Nat.add_zero, hzero] at hleft
  rw [Nat.add_assoc, hwhole, hleft, Nat.add_sub_cancel_left]
  omega

/-- A tree with enough leaves has a root. -/
theorem exists_aichTreeRoot (d : Digests) (what : String) {chunkSize : Nat} (hchunk : 0 < chunkSize)
    {leaves : List AichHash} {size : Nat} (isLeftBranch : Bool) (index : Nat) (hpos : 0 < size)
    (hleaves : index + chunkCountForSize size chunkSize ≤ leaves.length) :
    ∃ root, aichTreeRoot d what hchunk leaves size isLeftBranch index = .ok root := by
  induction size using Nat.strong_induction_on generalizing isLeftBranch index with
  | _ size ih =>
    rw [aichTreeRoot]
    split
    next hsize =>
      rw [chunkCountForSize_of_le hpos hsize] at hleaves
      rw [List.getElem?_eq_getElem (by omega : index < leaves.length)]
      exact ⟨_, rfl⟩
    next hsize =>
      obtain ⟨hleft, hlt⟩ := aichLeftSize_bounds hchunk hsize isLeftBranch
      have hcount := chunkCountForSize_branches hchunk hsize isLeftBranch
      obtain ⟨left, hroot⟩ := ih _ hlt true index hleft (by omega)
      obtain ⟨right, hroot'⟩ := ih (size - aichLeftSize chunkSize size isLeftBranch) (by omega)
        false (index + chunkCountForSize (aichLeftSize chunkSize size isLeftBranch) chunkSize)
        (by omega) (by omega)
      simp only [hroot, hroot', bind, Except.bind]
      exact ⟨_, rfl⟩

theorem length_toChunks_go {α : Type} {n : Nat} (hn : 0 < n) (xs : List α) {front : Array α}
    {done : Array (List α)} (hpos : 0 < front.size) (hle : front.size ≤ n) :
    (List.toChunks.go n xs front done).length =
      done.size + chunkCountForSize (front.size + xs.length) n := by
  induction xs generalizing front done with
  | nil => simp [List.toChunks.go, chunkCountForSize_of_le hpos hle]
  | cons x xs ih =>
    rw [List.toChunks.go]
    split
    next hfull =>
      have hfull : front.size = n := by simpa using hfull
      rw [ih (by simp) (by simp; omega), hfull]
      have hcount := chunkCountForSize_mul_add hn 1 (1 + xs.length)
      rw [Nat.one_mul] at hcount
      rw [List.length_cons, Nat.add_comm xs.length, hcount]
      simp
      omega
    next hfull =>
      have hfull : front.size ≠ n := by simpa using hfull
      rw [ih (by simp) (by simp; omega), Array.size_push, List.length_cons, Nat.add_assoc,
        Nat.add_comm 1]

theorem length_toChunks {α : Type} {n : Nat} (hn : 0 < n) (xs : List α) :
    (xs.toChunks n).length = chunkCountForSize xs.length n := by
  cases xs with
  | nil => simp [List.toChunks, chunkCountForSize]
  | cons x xs =>
    obtain ⟨n, rfl⟩ := Nat.exists_eq_succ_of_ne_zero (Nat.pos_iff_ne_zero.mp hn)
    rw [List.toChunks, length_toChunks_go hn xs (by simp) (by simp)]
    · simp [Nat.add_comm]
    · exact nofun

/-- The tree over the chunks of some bytes has a root. -/
theorem exists_aichTreeRoot_toChunks (d : Digests) (what : String) {chunkSize : Nat}
    (hchunk : 0 < chunkSize) {bytes : List UInt8} (hbytes : bytes ≠ []) (isLeftBranch : Bool) :
    ∃ root, aichTreeRoot d what hchunk ((bytes.toChunks chunkSize).map d.sha1) bytes.length
      isLeftBranch 0 = .ok root := by
  refine exists_aichTreeRoot d what hchunk isLeftBranch 0 (List.length_pos_of_ne_nil hbytes) ?_
  rw [List.length_map, length_toChunks hchunk, Nat.zero_add]

theorem exists_buildAichPartRoot (d : Digests) {bytes : List UInt8} (hbytes : bytes ≠ [])
    (isLeftBranch : Bool) : ∃ root, buildAichPartRoot d bytes isLeftBranch = .ok root :=
  exists_aichTreeRoot_toChunks d "block" ED2K_EMBLOCK_SIZE_pos hbytes isLeftBranch

theorem exists_collectAichPartHashes (d : Digests) {bytes : List UInt8} (hbytes : bytes ≠ [])
    (isLeftBranch : Bool) : ∃ hashes, collectAichPartHashes d bytes isLeftBranch = .ok hashes ∧
      hashes.length = chunkCountForSize bytes.length ED2K_PART_SIZE := by
  induction hlength : bytes.length using Nat.strong_induction_on
    generalizing bytes isLeftBranch with
  | _ size ih =>
    subst hlength
    rw [collectAichPartHashes]
    split
    next hsize =>
      obtain ⟨root, hroot⟩ := exists_buildAichPartRoot d hbytes isLeftBranch
      rw [hroot, chunkCountForSize_of_le (List.length_pos_of_ne_nil hbytes) hsize]
      exact ⟨_, rfl, rfl⟩
    next hsize =>
      obtain ⟨hpos, hlt⟩ := aichLeftSize_bounds ED2K_PART_SIZE_pos hsize isLeftBranch
      have hcount := chunkCountForSize_branches ED2K_PART_SIZE_pos hsize isLeftBranch
      dsimp only
      generalize aichLeftSize ED2K_PART_SIZE bytes.length isLeftBranch = leftSize at *
      have hleft : (bytes.take leftSize).length = leftSize := by
        rw [List.length_take]
        omega
      have hright : (bytes.drop leftSize).length = bytes.length - leftSize := List.length_drop
      obtain ⟨left, hl, hlcount⟩ := ih (bytes.take leftSize).length (by omega)
        (List.ne_nil_of_length_pos (by omega)) true rfl
      obtain ⟨right, hr, hrcount⟩ := ih (bytes.drop leftSize).length (by omega)
        (List.ne_nil_of_length_pos (by omega)) false rfl
      refine ⟨left ++ right, ?_, ?_⟩
      · rw [hl, hr]
        rfl
      · rw [List.length_append, hlcount, hrcount, hleft, hright, hcount]

/-- **The hashset of a payload can always be built.** -/
theorem exists_buildAichHashset (d : Digests) {bytes : List UInt8} (hbytes : bytes ≠ []) :
    ∃ hashset, buildAichHashset d bytes = .ok hashset := by
  rw [buildAichHashset]
  split
  · obtain ⟨root, hroot⟩ := exists_buildAichPartRoot d hbytes true
    rw [hroot]
    exact ⟨_, rfl⟩
  · obtain ⟨hashes, hhashes, hcount⟩ := exists_collectAichPartHashes d hbytes true
    have hleaves : 0 + chunkCountForSize bytes.length ED2K_PART_SIZE ≤ hashes.length := by omega
    obtain ⟨root, hroot⟩ := exists_aichTreeRoot d "part" ED2K_PART_SIZE_pos true 0
      (List.length_pos_of_ne_nil hbytes) hleaves
    rw [hhashes]
    simp only [bind, Except.bind]
    rw [reconstructAichRootFromPartHashes, hroot]
    exact ⟨_, rfl⟩

end Overlord.Emule
