import Overlord.Emule.Transfer.Learning
import Overlord.Emule.Transfer.VerifiedRanges

/-!
# Building a hashset, and accepting it

The builders of `ed2k_transfer/hashset.rs` read a payload from front to back; the validators count
hashes and look them up by index.  This file shows that they agree.

* `buildMd4HashsetFromPayload` gives as many hashes as `expectedMd4HashCount` asks for, the manifest
  of the file accepts them, and with them each piece of the payload is verified at its own index.
* `collectAichPartHashes` gives at index `i` the root of the tree over the blocks of part `i`;
  whether the part hangs on a left branch is `aichLeafBranch`.
* `buildPartRoot` is the recursion of the source over the parts, which counts in bytes; it is the
  recursion `aichTreeRoot`, which counts in leaves.
-/

set_option autoImplicit false

namespace Overlord.Emule

open Kad (Ed2kHash)
open Machine

/-! ## The parts of a payload -/

/-- The bytes of the chunk at an index. -/
def chunkAt (chunkSize : Nat) (bytes : List UInt8) (index : Nat) : List UInt8 :=
  (bytes.drop (index * chunkSize)).take chunkSize

section

variable {chunkSize : Nat} {bytes : List UInt8}

theorem chunkAt_of_le (hle : bytes.length ≤ chunkSize) : chunkAt chunkSize bytes 0 = bytes := by
  rw [chunkAt, Nat.zero_mul, List.drop_zero, List.take_of_length_le hle]

theorem chunkAt_drop (chunkSize : Nat) (bytes : List UInt8) (count index : Nat) :
    chunkAt chunkSize (bytes.drop (count * chunkSize)) index =
      chunkAt chunkSize bytes (count + index) := by
  rw [chunkAt, chunkAt, List.drop_drop, Nat.add_mul]

theorem chunkAt_take {count index : Nat} (hindex : index < count) :
    chunkAt chunkSize (bytes.take (count * chunkSize)) index = chunkAt chunkSize bytes index := by
  have hroom : index * chunkSize + chunkSize ≤ count * chunkSize := by
    calc index * chunkSize + chunkSize = (index + 1) * chunkSize := (Nat.succ_mul _ _).symm
      _ ≤ count * chunkSize := Nat.mul_le_mul_right _ hindex
  rw [chunkAt, chunkAt, List.drop_take, List.take_take, Nat.min_eq_left (by omega)]

theorem chunkCountForSize_add_self (hchunk : 0 < chunkSize) (size : Nat) :
    chunkCountForSize (chunkSize + size) chunkSize = chunkCountForSize size chunkSize + 1 := by
  have hcount := chunkCountForSize_mul_add hchunk 1 size
  rw [Nat.one_mul] at hcount
  rw [hcount, Nat.add_comm]

theorem le_chunkCountForSize_mul (hchunk : 0 < chunkSize) (size : Nat) :
    size ≤ chunkCountForSize size chunkSize * chunkSize := by
  have hdiv := Nat.div_add_mod size chunkSize
  have hmod := Nat.mod_lt size hchunk
  rw [chunkCountForSize, Nat.add_mul, Nat.mul_comm]
  split_ifs <;> omega

theorem lt_chunkCountForSize (hchunk : 0 < chunkSize) {index size : Nat}
    (hindex : index * chunkSize < size) : index < chunkCountForSize size chunkSize :=
  Nat.lt_of_mul_lt_mul_right (hindex.trans_le (le_chunkCountForSize_mul hchunk size))

/-- A chunk of a file is what a read of the piece with that index returns. -/
theorem readAt_expectedPieceLength {index : Nat} (hindex : index * chunkSize < bytes.length) :
    Blob.readAt (index * chunkSize) (expectedPieceLength bytes.length chunkSize index) bytes =
      some (chunkAt chunkSize bytes index) := by
  rw [Blob.readAt, if_pos (by rw [expectedPieceLength]; omega), chunkAt]
  refine congrArg some ?_
  rw [expectedPieceLength]
  rcases Nat.le_total (index * chunkSize + chunkSize) bytes.length with hle | hle
  · rw [Nat.min_eq_left hle, Nat.add_sub_cancel_left]
  · rw [Nat.min_eq_right hle, List.take_of_length_le (by rw [List.length_drop]),
      List.take_of_length_le (by rw [List.length_drop]; omega)]

end

/-! ## The MD4 hashset -/

/-- `read_md4_digest_from_reader`, where the file still has the bytes `rest`. -/
def readMd4Digest (d : Digests) (size : Nat) (rest : List UInt8) :
    Except String (Ed2kHash × List UInt8) :=
  if size ≤ rest.length then .ok (d.md4 (rest.take size), rest.drop size)
  else .error "failed to read ED2K MD4 payload data"

/-- The loop of `build_md4_hashset_from_payload`. -/
def md4PartHashesLoop (d : Digests) (remaining : Nat) (rest : List UInt8) :
    Except String (List Ed2kHash × List UInt8) :=
  if 0 < remaining then do
    let partSize := min remaining ED2K_PART_SIZE
    let (hash, rest) ← readMd4Digest d partSize rest
    let (hashes, rest) ← md4PartHashesLoop d (remaining - partSize) rest
    .ok (hash :: hashes, rest)
  else .ok ([], rest)
termination_by remaining
decreasing_by
  have := ED2K_PART_SIZE_pos
  omega

/-- `build_md4_hashset_from_payload`, on the bytes of the payload. -/
def buildMd4HashsetFromPayload (d : Digests) (payload : List UInt8) (fileSize : Nat) :
    Except String (Ed2kHash × List Ed2kHash) :=
  if fileSize = 0 then .error "cannot build ED2K MD4 hashset for zero-sized file"
  else if fileSize < ED2K_PART_SIZE then do
    let (digest, _) ← readMd4Digest d fileSize payload
    .ok (digest, [])
  else do
    let (partHashes, rest) ← md4PartHashesLoop d fileSize payload
    let partHashes ←
      if fileSize % ED2K_PART_SIZE = 0 then do
        let (terminator, _) ← readMd4Digest d 0 rest
        .ok (partHashes ++ [terminator])
      else .ok partHashes
    .ok (d.md4 (partHashes.flatMap fun hash => hash.bytes.toList), partHashes)

/-- The digests of the parts of a payload. -/
def md4PartHashes (d : Digests) (payload : List UInt8) : List Ed2kHash :=
  (List.range (chunkCountForSize payload.length ED2K_PART_SIZE)).map fun i =>
    d.md4 (chunkAt ED2K_PART_SIZE payload i)

section

variable (d : Digests) {payload : List UInt8}

theorem length_md4PartHashes :
    (md4PartHashes d payload).length = chunkCountForSize payload.length ED2K_PART_SIZE := by
  rw [md4PartHashes, List.length_map, List.length_range]

theorem getElem?_md4PartHashes {i : Nat}
    (hi : i < chunkCountForSize payload.length ED2K_PART_SIZE) :
    (md4PartHashes d payload)[i]? = some (d.md4 (chunkAt ED2K_PART_SIZE payload i)) := by
  rw [md4PartHashes, List.getElem?_map, List.getElem?_range hi, Option.map_some]

/-- The digests of a longer payload are that of its first part and those of the rest. -/
theorem md4PartHashes_cons (hlt : ED2K_PART_SIZE < payload.length) :
    md4PartHashes d payload =
      d.md4 (payload.take ED2K_PART_SIZE) :: md4PartHashes d (payload.drop ED2K_PART_SIZE) := by
  obtain ⟨size, hsize⟩ := Nat.exists_eq_add_of_lt hlt
  have hcount := chunkCountForSize_add_self ED2K_PART_SIZE_pos (payload.drop ED2K_PART_SIZE).length
  rw [List.length_drop, Nat.add_sub_cancel' hlt.le] at hcount
  rw [md4PartHashes, md4PartHashes, hcount, List.range_succ_eq_map, List.map_cons, List.map_map,
    List.length_drop]
  refine congrArg₂ List.cons ?_ (List.map_congr_left fun i _ => ?_)
  · rw [chunkAt, Nat.zero_mul, List.drop_zero]
  · have hdrop := chunkAt_drop ED2K_PART_SIZE payload 1 i
    rw [Nat.one_mul] at hdrop
    rw [Function.comp, hdrop, Nat.succ_eq_one_add]

/-- The loop reads the whole payload. -/
theorem md4PartHashesLoop_eq (payload : List UInt8) :
    md4PartHashesLoop d payload.length payload = .ok (md4PartHashes d payload, []) := by
  induction hlength : payload.length using Nat.strong_induction_on generalizing payload with
  | _ size ih =>
    subst hlength
    rw [md4PartHashesLoop]
    split_ifs with hpos
    · have hread : readMd4Digest d (min payload.length ED2K_PART_SIZE) payload =
          .ok (d.md4 (payload.take ED2K_PART_SIZE), payload.drop ED2K_PART_SIZE) := by
        rw [readMd4Digest, if_pos (Nat.min_le_left _ _), Nat.min_comm, ← List.take_eq_take_min,
          ← List.drop_eq_drop_min]
      have hrest : payload.length - min payload.length ED2K_PART_SIZE =
          (payload.drop ED2K_PART_SIZE).length := by
        rw [List.length_drop]
        omega
      have := ED2K_PART_SIZE_pos
      have hloop := ih (payload.drop ED2K_PART_SIZE).length (by rw [List.length_drop]; omega) _ rfl
      simp only [hread, hrest, hloop, bind, Except.bind]
      refine congrArg (fun hashes => Except.ok (hashes, [])) ?_
      rcases Nat.lt_or_ge ED2K_PART_SIZE payload.length with hlt | hle
      · rw [md4PartHashes_cons d hlt]
      · rw [md4PartHashes, md4PartHashes, List.length_drop, Nat.sub_eq_zero_of_le hle,
          chunkCountForSize_of_le hpos hle]
        simp [chunkCountForSize, chunkAt]
    · have hnil : payload = [] := List.length_eq_zero_iff.mp (by omega)
      subst hnil
      simp [md4PartHashes, chunkCountForSize]

/-- The hashset of a file of at least one whole part: where the last part is full, the hash of an
empty one follows. -/
def md4TerminatedHashes (payload : List UInt8) : List Ed2kHash :=
  md4PartHashes d payload ++ if payload.length % ED2K_PART_SIZE = 0 then [d.md4 []] else []

theorem buildMd4HashsetFromPayload_eq (hpayload : payload ≠ []) :
    buildMd4HashsetFromPayload d payload payload.length =
      if payload.length < ED2K_PART_SIZE then .ok (d.md4 payload, [])
      else .ok (d.md4 ((md4TerminatedHashes d payload).flatMap fun hash => hash.bytes.toList),
        md4TerminatedHashes d payload) := by
  have hpos := List.length_pos_of_ne_nil hpayload
  rw [buildMd4HashsetFromPayload, if_neg (by omega), md4TerminatedHashes]
  split_ifs
  · simp [readMd4Digest, bind, Except.bind]
  · simp [md4PartHashesLoop_eq, readMd4Digest, bind, Except.bind]
  · simp [md4PartHashesLoop_eq, bind, Except.bind]

theorem length_md4TerminatedHashes (hge : ED2K_PART_SIZE ≤ payload.length)
    (hparts : chunkCountForSize payload.length ED2K_PART_SIZE < 65535) :
    (md4TerminatedHashes d payload).length = expectedMd4HashCount payload.length := by
  have hwhole : 0 < payload.length / ED2K_PART_SIZE := Nat.div_pos hge ED2K_PART_SIZE_pos
  have hpos : payload.length ≠ 0 := (ED2K_PART_SIZE_pos.trans_le hge).ne'
  rw [md4TerminatedHashes, List.length_append, length_md4PartHashes, expectedMd4HashCount,
    if_neg hpos]
  dsimp only
  rw [chunkCountForSize] at hparts ⊢
  rw [if_pos hwhole, Nat.min_eq_left (by omega)]
  split_ifs <;> rfl

theorem getElem?_md4TerminatedHashes {i : Nat} (hi : i * ED2K_PART_SIZE < payload.length) :
    (md4TerminatedHashes d payload)[i]? = some (d.md4 (chunkAt ED2K_PART_SIZE payload i)) := by
  have hcount := lt_chunkCountForSize ED2K_PART_SIZE_pos hi
  rw [md4TerminatedHashes, List.getElem?_append_left (by rw [length_md4PartHashes]; exact hcount),
    getElem?_md4PartHashes d hcount]

/-- A manifest that has learned what the builder returns verifies every piece of the payload. -/
theorem verifyPiece_of_built {m : ResumeManifest} (hpayload : payload ≠ [])
    {fileHash : Ed2kHash} {hashes : List Ed2kHash}
    (hbuilt : buildMd4HashsetFromPayload d payload payload.length = .ok (fileHash, hashes))
    (hhash : m.fileHash = fileHash) (hhashes : m.md4Hashset = hashes)
    (hacquired : m.md4HashsetAcquired = true) {i : Nat}
    (hi : i * ED2K_PART_SIZE < payload.length) :
    m.verifyPiece d i (chunkAt ED2K_PART_SIZE payload i) = .ok true := by
  rw [ResumeManifest.verifyPiece, if_pos hacquired, ResumeManifest.recordedDigest, hhashes, hhash]
  rw [buildMd4HashsetFromPayload_eq d hpayload] at hbuilt
  split_ifs at hbuilt with hlt
  · -- the only piece is the whole payload
    obtain ⟨rfl, rfl⟩ := Prod.mk.inj (Except.ok.inj hbuilt)
    obtain rfl : i = 0 := by
      by_contra hne
      have := Nat.le_mul_of_pos_left ED2K_PART_SIZE (Nat.pos_of_ne_zero hne)
      omega
    rw [chunkAt_of_le hlt.le]
    simp
  · obtain ⟨-, rfl⟩ := Prod.mk.inj (Except.ok.inj hbuilt)
    have hget := getElem?_md4TerminatedHashes d hi
    rw [if_neg fun hempty => ?_, hget]
    · simp
    · rw [List.isEmpty_iff.mp hempty] at hget
      cases hget

/-- What the builder returns passes the checks of `store_md4_hashset`. -/
theorem exists_buildMd4HashsetFromPayload (hpayload : payload ≠ [])
    (hparts : chunkCountForSize payload.length ED2K_PART_SIZE < 65535) :
    ∃ fileHash hashes,
      buildMd4HashsetFromPayload d payload payload.length = .ok (fileHash, hashes) ∧
        hashes.length = expectedMd4HashCount payload.length ∧
        validateMd4Hashset d fileHash hashes = .ok () := by
  rw [buildMd4HashsetFromPayload_eq d hpayload]
  split_ifs with hlt
  · refine ⟨_, _, rfl, ?_, rfl⟩
    rw [expectedMd4HashCount, Nat.div_eq_of_lt hlt]
    simp
  · refine ⟨_, _, rfl, length_md4TerminatedHashes d (Nat.not_lt.mp hlt) hparts, ?_⟩
    rw [validateMd4Hashset]
    split
    · rfl
    · rw [if_pos rfl]

end

/-- `store_md4_hashset` with a hashset of the right length and root. -/
theorem interp_storeMd4Hashset {env : TransferEnv} {s : Store} {m : ResumeManifest}
    (hs : s.current = some m) (now : Nat) {hashes : List Ed2kHash}
    (hlength : hashes.length = expectedMd4HashCount m.fileSize)
    (hvalid : validateMd4Hashset env.digests m.fileHash hashes = .ok ()) :
    ∃ s', (storeMd4Hashset env hashes).interp (fun s c => s.perform now c) s =
        (.ok { m with md4Hashset := hashes, md4HashsetAcquired := true }, s') ∧
      s'.current = some { m with md4Hashset := hashes, md4HashsetAcquired := true } := by
  have hchange : m.acquireMd4Hashset env.digests hashes =
      .ok ({ m with md4Hashset := hashes, md4HashsetAcquired := true },
        some { m with md4Hashset := hashes, md4HashsetAcquired := true }) := by
    rw [ResumeManifest.acquireMd4Hashset]
    dsimp only
    rw [if_neg (not_not.mpr hlength), hvalid]
    rfl
  obtain ⟨s', hinterp, hcurrent⟩ := interp_updateManifest hs now
  refine ⟨s', hinterp.trans ?_, hcurrent.trans ?_⟩
  · rw [hchange]
    rfl
  · rw [hchange]
    rfl

/-- **What is built is accepted, and then every piece is verified.**  The manifest is any one of the
file: of its hash, its size and the part size that every job has. -/
theorem md4_builder_agrees (env : TransferEnv) {payload : List UInt8} (hpayload : payload ≠ [])
    (hparts : chunkCountForSize payload.length ED2K_PART_SIZE < 65535) :
    ∃ fileHash hashes,
      buildMd4HashsetFromPayload env.digests payload payload.length = .ok (fileHash, hashes) ∧
      hashes.length = expectedMd4HashCount payload.length ∧
      ∀ (s : Store) (m : ResumeManifest) (now : Nat), s.current = some m →
        m.fileHash = fileHash → m.fileSize = payload.length → m.pieceSize = ED2K_PART_SIZE →
        ∃ m' s', (storeMd4Hashset env hashes).interp (fun s c => s.perform now c) s = (.ok m', s') ∧
          s'.current = some m' ∧ m'.fileSize = m.fileSize ∧ m'.pieceSize = m.pieceSize ∧
          ∀ i < pieceCount m'.fileSize m'.pieceSize,
            ∃ bytes, Blob.readAt (i * m'.pieceSize)
                (expectedPieceLength m'.fileSize m'.pieceSize i) payload = some bytes ∧
              m'.verifyPiece env.digests i bytes = .ok true := by
  obtain ⟨fileHash, hashes, hbuilt, hlength, hvalid⟩ :=
    exists_buildMd4HashsetFromPayload env.digests hpayload hparts
  refine ⟨fileHash, hashes, hbuilt, hlength, fun s m now hs hhash hsize hpiece => ?_⟩
  rw [← hsize] at hlength
  rw [← hhash] at hvalid
  obtain ⟨s', hinterp, hcurrent⟩ := interp_storeMd4Hashset hs now hlength hvalid
  refine ⟨_, s', hinterp, hcurrent, rfl, rfl, fun i hi => ?_⟩
  dsimp only at hi ⊢
  rw [hsize, hpiece] at hi
  have hinside := mul_lt_of_lt_pieceCount ED2K_PART_SIZE_pos hi
  refine ⟨chunkAt ED2K_PART_SIZE payload i, ?_, ?_⟩
  · rw [hsize, hpiece]
    exact readAt_expectedPieceLength hinside
  · exact verifyPiece_of_built (m := { m with md4Hashset := hashes, md4HashsetAcquired := true })
      env.digests hpayload hbuilt hhash rfl rfl hinside

/-- A file of one whole part, before anything has been written. -/
def partManifest (fileHash : Ed2kHash) : ResumeManifest :=
  .new (newTransferJob fileHash "part" ED2K_PART_SIZE)

def partStore (fileHash : Ed2kHash) : Store :=
  ⟨some (partManifest fileHash), none, [], .holds (partManifest fileHash), none⟩

/-- The hashset of a whole part has the digest of the part and that of the empty part after it. -/
theorem md4_builder_agrees_sample :
    ∃ fileHash hashes m' s',
      buildMd4HashsetFromPayload Store.sampleEnv.digests (List.replicate ED2K_PART_SIZE 7)
        (List.replicate ED2K_PART_SIZE (7 : UInt8)).length = .ok (fileHash, hashes) ∧
      hashes.length = 2 ∧
      (storeMd4Hashset Store.sampleEnv hashes).interp (fun s c => s.perform 5 c)
        (partStore fileHash) = (.ok m', s') ∧
      m'.verifyPiece Store.sampleEnv.digests 0 (List.replicate ED2K_PART_SIZE 7) = .ok true := by
  have hlength : (List.replicate ED2K_PART_SIZE (7 : UInt8)).length = ED2K_PART_SIZE :=
    List.length_replicate
  obtain ⟨fileHash, hashes, hbuilt, hcount, hstore⟩ := md4_builder_agrees Store.sampleEnv
    (List.ne_nil_of_length_pos (hlength ▸ ED2K_PART_SIZE_pos)) (by rw [hlength]; decide)
  obtain ⟨m', s', hinterp, -, hsize, hpiece, hpieces⟩ :=
    hstore (partStore fileHash) (partManifest fileHash) 5 rfl rfl hlength.symm rfl
  replace hsize : m'.fileSize = ED2K_PART_SIZE := hsize
  replace hpiece : m'.pieceSize = ED2K_PART_SIZE := hpiece
  rw [hsize, hpiece] at hpieces
  obtain ⟨bytes, hread, hverify⟩ := hpieces 0 (by decide)
  have hwhole : expectedPieceLength ED2K_PART_SIZE ED2K_PART_SIZE 0 = ED2K_PART_SIZE := by decide
  rw [hwhole, Blob.readAt, if_pos (.inr (by rw [hlength, Nat.zero_mul, Nat.zero_add])),
    Nat.zero_mul, List.drop_zero, List.take_of_length_le hlength.le] at hread
  obtain rfl := Option.some.inj hread
  refine ⟨fileHash, hashes, m', s', hbuilt, ?_, hinterp, hverify⟩
  rw [hcount, hlength]
  decide

/-! ## The AICH hashset -/

/-- The recursion of `reconstruct_aich_root_from_part_hashes`, which counts in bytes. -/
def buildPartRoot (d : Digests) (partHashes : List AichHash) (start size : Nat)
    (isLeftBranch : Bool) : Except String AichHash :=
  if hsize : size ≤ ED2K_PART_SIZE then
    match partHashes[start / ED2K_PART_SIZE]? with
    | some hash => .ok hash
    | none => .error s!"missing AICH part hash at index {start / ED2K_PART_SIZE}"
  else do
    have := aichLeftSize_bounds ED2K_PART_SIZE_pos hsize isLeftBranch
    let leftSize := aichLeftSize ED2K_PART_SIZE size isLeftBranch
    let left ← buildPartRoot d partHashes start leftSize true
    let right ← buildPartRoot d partHashes (start + leftSize) (size - leftSize) false
    .ok (d.sha1 (left.bytes.toList ++ right.bytes.toList))
termination_by size

/-- A left branch is a whole number of chunks. -/
theorem aichLeftSize_eq {chunkSize : Nat} (hchunk : 0 < chunkSize) (size : Nat)
    (isLeftBranch : Bool) :
    aichLeftSize chunkSize size isLeftBranch =
      chunkCountForSize (aichLeftSize chunkSize size isLeftBranch) chunkSize * chunkSize := by
  rw [aichLeftSize]
  generalize (chunkCountForSize size chunkSize + if isLeftBranch then 1 else 0) / 2 = half
  have hcount := chunkCountForSize_mul_add hchunk half 0
  rw [Nat.add_zero] at hcount
  rw [hcount]
  simp [chunkCountForSize]

/-- Counting in bytes or in leaves is the same. -/
theorem buildPartRoot_eq (d : Digests) (partHashes : List AichHash) (size : Nat)
    (isLeftBranch : Bool) (index : Nat) :
    buildPartRoot d partHashes (index * ED2K_PART_SIZE) size isLeftBranch =
      aichTreeRoot d "part" ED2K_PART_SIZE_pos partHashes size isLeftBranch index := by
  induction size using Nat.strong_induction_on generalizing isLeftBranch index with
  | _ size ih =>
    rw [buildPartRoot, aichTreeRoot]
    split
    next hsize => rw [Nat.mul_div_cancel _ ED2K_PART_SIZE_pos]; rfl
    next hsize =>
      obtain ⟨hpos, hlt⟩ := aichLeftSize_bounds ED2K_PART_SIZE_pos hsize isLeftBranch
      have hleft := aichLeftSize_eq ED2K_PART_SIZE_pos size isLeftBranch
      dsimp only
      generalize aichLeftSize ED2K_PART_SIZE size isLeftBranch = leftSize at *
      have hstart : index * ED2K_PART_SIZE + leftSize =
          (index + chunkCountForSize leftSize ED2K_PART_SIZE) * ED2K_PART_SIZE := by
        rw [Nat.add_mul, ← hleft]
      rw [hstart, ih leftSize hlt, ih (size - leftSize) (by omega)]

/-- Whether the leaf at an index hangs on a left branch. -/
def aichLeafBranch {chunkSize : Nat} (hchunk : 0 < chunkSize) (size : Nat) (isLeftBranch : Bool)
    (index : Nat) : Bool :=
  if hsize : size ≤ chunkSize then isLeftBranch
  else
    have := aichLeftSize_bounds hchunk hsize isLeftBranch
    let leftSize := aichLeftSize chunkSize size isLeftBranch
    let leftCount := chunkCountForSize leftSize chunkSize
    if index < leftCount then aichLeafBranch hchunk leftSize true index
    else aichLeafBranch hchunk (size - leftSize) false (index - leftCount)
termination_by size

/-- The hashes that are collected are those of the parts, in the order of the parts. -/
theorem buildAichPartRoot_of_collected (d : Digests) {bytes : List UInt8} (hbytes : bytes ≠ [])
    {isLeftBranch : Bool} {hashes : List AichHash}
    (hcollect : collectAichPartHashes d bytes isLeftBranch = .ok hashes) {i : Nat} {hash : AichHash}
    (hhash : hashes[i]? = some hash) :
    buildAichPartRoot d (chunkAt ED2K_PART_SIZE bytes i)
      (aichLeafBranch ED2K_PART_SIZE_pos bytes.length isLeftBranch i) = .ok hash := by
  induction hlength : bytes.length using Nat.strong_induction_on
    generalizing bytes isLeftBranch hashes i with
  | _ size ih =>
    subst hlength
    rw [collectAichPartHashes] at hcollect
    rw [aichLeafBranch]
    split at hcollect
    next hsize =>
      obtain ⟨root, hroot, hpure⟩ := Wire.bind_ok hcollect
      obtain rfl := Except.ok.inj hpure
      obtain rfl : i = 0 := by
        by_contra hne
        rw [List.getElem?_eq_none (by simp; omega)] at hhash
        cases hhash
      obtain rfl := Option.some.inj hhash
      rw [dif_pos hsize, chunkAt_of_le hsize, hroot]
    next hsize =>
      obtain ⟨hpos, hlt⟩ := aichLeftSize_bounds ED2K_PART_SIZE_pos hsize isLeftBranch
      have hleft := aichLeftSize_eq ED2K_PART_SIZE_pos bytes.length isLeftBranch
      rw [dif_neg hsize]
      dsimp only at hcollect ⊢
      generalize aichLeftSize ED2K_PART_SIZE bytes.length isLeftBranch = leftSize at *
      generalize hparts : chunkCountForSize leftSize ED2K_PART_SIZE = half at *
      have htake : (bytes.take leftSize).length = leftSize := by
        rw [List.length_take]
        omega
      have hdrop : (bytes.drop leftSize).length = bytes.length - leftSize := List.length_drop
      have hfront : bytes.take leftSize ≠ [] := List.ne_nil_of_length_pos (by omega)
      have hback : bytes.drop leftSize ≠ [] := List.ne_nil_of_length_pos (by omega)
      obtain ⟨left, hl, hcollect⟩ := Wire.bind_ok hcollect
      obtain ⟨right, hr, hpure⟩ := Wire.bind_ok hcollect
      obtain rfl := Except.ok.inj hpure
      -- the branch on the left has as many hashes as parts
      have hcount : left.length = half := by
        obtain ⟨left', hl', hcount⟩ := exists_collectAichPartHashes d hfront true
        rw [← Except.ok.inj (hl'.symm.trans hl), hcount, htake, hparts]
      split_ifs with hi
      · rw [List.getElem?_append_left (by omega)] at hhash
        have hroot := ih (bytes.take leftSize).length (by omega) hfront hl hhash rfl
        have hpart : chunkAt ED2K_PART_SIZE (bytes.take leftSize) i =
            chunkAt ED2K_PART_SIZE bytes i := by
          rw [hleft]
          exact chunkAt_take hi
        rwa [htake, hpart] at hroot
      · rw [List.getElem?_append_right (by omega), hcount] at hhash
        have hroot := ih (bytes.drop leftSize).length (by omega) hback hr hhash rfl
        have hpart : chunkAt ED2K_PART_SIZE (bytes.drop leftSize) (i - half) =
            chunkAt ED2K_PART_SIZE bytes i := by
          rw [hleft, chunkAt_drop, Nat.add_sub_cancel' (Nat.not_lt.mp hi)]
        rwa [hdrop, hpart] at hroot

/-- **The hashset of a payload is built, and it is valid.** -/
theorem aich_builder_agrees (d : Digests) {bytes : List UInt8} (hbytes : bytes ≠ [])
    (hparts : chunkCountForSize bytes.length ED2K_PART_SIZE ≤ 65535) :
    ∃ hashset, buildAichHashset d bytes = .ok hashset ∧
      hashset.partHashes.length = expectedAichHashCount bytes.length ∧
      (∀ i hash, hashset.partHashes[i]? = some hash →
        buildAichPartRoot d (chunkAt ED2K_PART_SIZE bytes i)
          (aichLeafBranch ED2K_PART_SIZE_pos bytes.length true i) = .ok hash) ∧
      (if bytes.length ≤ ED2K_PART_SIZE then buildAichPartRoot d bytes true
        else buildPartRoot d hashset.partHashes 0 bytes.length true) = .ok hashset.masterHash ∧
      validateAichHashset d bytes.length hashset = .ok () := by
  rw [buildAichHashset]
  split
  next hsize =>
    obtain ⟨root, hroot⟩ := exists_buildAichPartRoot d hbytes true
    rw [hroot]
    refine ⟨⟨root, []⟩, rfl, ?_, fun _ _ h => (by cases h), rfl, ?_⟩
    · rw [expectedAichHashCount, if_pos hsize]
      rfl
    · rw [validateAichHashset, expectedAichHashCount, if_pos hsize]
      rfl
  next hsize =>
    obtain ⟨hashes, hhashes, hcount⟩ := exists_collectAichPartHashes d hbytes true
    have hleaves : 0 + chunkCountForSize bytes.length ED2K_PART_SIZE ≤ hashes.length := by omega
    obtain ⟨root, hroot⟩ := exists_aichTreeRoot d "part" ED2K_PART_SIZE_pos true 0
      (List.length_pos_of_ne_nil hbytes) hleaves
    have hrebuilt : reconstructAichRootFromPartHashes d bytes.length hashes = .ok root := hroot
    have hexpected : hashes.length = expectedAichHashCount bytes.length := by
      rw [expectedAichHashCount, if_neg hsize, hcount]
      exact (Nat.min_eq_left hparts).symm
    refine ⟨⟨root, hashes⟩, ?_, hexpected, ?_, ?_, ?_⟩
    · simp only [hhashes, hrebuilt, bind, Except.bind]
    · intro i hash hhash
      exact buildAichPartRoot_of_collected d hbytes hhashes hhash
    · have heq := buildPartRoot_eq d hashes bytes.length true 0
      rw [Nat.zero_mul, hroot] at heq
      exact heq
    · rw [validateAichHashset, ← hexpected]
      simp only [ne_eq, not_true_eq_false, if_false, hrebuilt, bind, Except.bind, if_true]
      split <;> rfl

/-- A file of a part and one byte: there are two digests of parts, and the root is built from
them. -/
theorem aich_builder_agrees_sample :
    ∃ hashset, buildAichHashset Store.sampleEnv.digests (List.replicate (ED2K_PART_SIZE + 1) 7) =
        .ok hashset ∧
      hashset.partHashes.length = 2 ∧
      buildPartRoot Store.sampleEnv.digests hashset.partHashes 0 (ED2K_PART_SIZE + 1) true =
        .ok hashset.masterHash ∧
      validateAichHashset Store.sampleEnv.digests (ED2K_PART_SIZE + 1) hashset = .ok () := by
  have hlength : (List.replicate (ED2K_PART_SIZE + 1) (7 : UInt8)).length = ED2K_PART_SIZE + 1 :=
    List.length_replicate
  obtain ⟨hashset, hbuilt, hcount, -, hroot, hvalid⟩ := aich_builder_agrees
    Store.sampleEnv.digests (List.ne_nil_of_length_pos (by rw [hlength]; exact Nat.succ_pos _))
    (by rw [hlength]; decide)
  rw [hlength] at hcount hroot hvalid
  rw [if_neg (Nat.not_succ_le_self ED2K_PART_SIZE)] at hroot
  exact ⟨hashset, hbuilt, hcount.trans (by decide), hroot, hvalid⟩

end Overlord.Emule
