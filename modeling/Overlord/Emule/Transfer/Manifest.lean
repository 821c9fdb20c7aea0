import Overlord.Kad.Proto.NodeId

/-!
# Resume manifests

The data of `ed2k_transfer/model.rs` and the pure functions of `manifest.rs`.  A manifest is what
the agent knows about a file it downloads or shares: its size, the hashes it learned, and for each
piece whether it is missing, requested by some session, or verified, and how many of its bytes have
been written.

Hashes are modelled by their bytes, not by the hexadecimal digits the manifest stores.  MD4 and
SHA-1 are parameters (`Digests`).

* `ResumeManifest`, `TransferJob`, `PieceState` and the shared catalog's `SharedEntry`.
* `expectedPieceLength`, `verifyPieceAgainstManifest`, `rebuildVerifiedRanges`.
-/

set_option autoImplicit false

namespace Overlord.Emule

open Kad (Ed2kHash)

def ED2K_PART_SIZE : Nat := 9728000

/-- Block size used inside one part request. -/
def ED2K_EMBLOCK_SIZE : Nat := 184320

theorem ED2K_PART_SIZE_pos : 0 < ED2K_PART_SIZE := by decide

theorem ED2K_EMBLOCK_SIZE_pos : 0 < ED2K_EMBLOCK_SIZE := by decide

/-- A node of an AICH tree. -/
structure AichHash where
  /-- The twenty bytes. -/
  bytes : Vector UInt8 20
deriving DecidableEq, Repr

/-- The digest functions. -/
structure Digests where
  md4 : List UInt8 → Ed2kHash
  sha1 : List UInt8 → AichHash

/-! ## Data -/

/-- What `new_transfer_job` says about a file. -/
structure TransferJob where
  fileHash : Ed2kHash
  canonicalName : String
  /-- Zero when the size is not known yet. -/
  fileSize : Nat
  pieceSize : Nat
deriving DecidableEq, Repr

/-- Where a piece is in its life. -/
inductive TransferState where
  | missing
  | requested
  | written
  | verified
deriving DecidableEq, Repr

structure PieceState where
  pieceIndex : Nat
  state : TransferState
  /-- Length of the prefix of the piece that has been written. -/
  bytesWritten : Nat
deriving DecidableEq, Repr

/-- A claimed piece and the length of the prefix it already has. -/
structure ClaimedPart where
  pieceIndex : Nat
  bytesWritten : Nat
deriving DecidableEq, Repr

/-- A source remembered across restarts. -/
structure SourceHint where
  ip : String
  tcpPort : UInt16
  userHash : Option String
deriving DecidableEq, Repr

/-- The root of an AICH tree and the hashes of the parts. -/
structure AichHashset where
  masterHash : AichHash
  partHashes : List AichHash
deriving DecidableEq, Repr

/-- The offsets from `start` up to `stop`, which is exclusive. -/
structure SharedRange where
  start : Nat
  stop : Nat
deriving DecidableEq, Repr

/-- The manifest of a file. -/
structure ResumeManifest where
  fileHash : Ed2kHash
  canonicalName : String
  fileSize : Nat
  pieceSize : Nat
  completed : Bool
  md4HashsetAcquired : Bool
  /-- Empty for a file of one part, whose hash is the file hash. -/
  md4Hashset : List Ed2kHash
  aichHashsetAcquired : Bool
  aichRoot : Option AichHash
  aichHashset : List AichHash
  /-- Ranges that may be uploaded. -/
  verifiedRanges : List SharedRange
  pieces : List PieceState
  sources : List SourceHint
deriving DecidableEq, Repr

/-- A file of the shared catalog. -/
structure SharedEntry where
  fileHash : Ed2kHash
  canonicalName : String
  fileSize : Nat
  verifiedComplete : Bool
  verifiedRanges : List SharedRange
  /-- Whether the entry is only a hint for the offer to servers. -/
  compatibilityHint : Bool
  sourceCountHint : Option Nat
  aichRoot : Option AichHash
deriving DecidableEq, Repr

/-! ## Pieces -/

/-- `piece_count`, a `u32`. -/
def pieceCount (fileSize pieceSize : Nat) : Nat :=
  if fileSize = 0 then 0 else min ((fileSize + pieceSize - 1) / pieceSize) (2 ^ 32 - 1)

/-- `expected_piece_length`. -/
def expectedPieceLength (fileSize pieceSize pieceIndex : Nat) : Nat :=
  let start := pieceIndex * pieceSize
  min (start + pieceSize) fileSize - start

/-- The pieces of a file of which nothing has been written. -/
def missingPieces (count : Nat) : List PieceState :=
  (List.range count).map fun pieceIndex => ⟨pieceIndex, .missing, 0⟩

/-- `new_transfer_job`. -/
def newTransferJob (fileHash : Ed2kHash) (canonicalName : String) (fileSize : Nat) : TransferJob :=
  ⟨fileHash, canonicalName, fileSize, ED2K_PART_SIZE⟩

namespace ResumeManifest

/-- `Ed2kResumeManifest::new`. -/
def new (job : TransferJob) : ResumeManifest where
  fileHash := job.fileHash
  canonicalName := job.canonicalName
  fileSize := job.fileSize
  pieceSize := job.pieceSize
  completed := false
  md4HashsetAcquired := false
  md4Hashset := []
  aichHashsetAcquired := false
  aichRoot := none
  aichHashset := []
  verifiedRanges := []
  pieces := missingPieces (pieceCount job.fileSize job.pieceSize)
  sources := []

/-- `is_fully_verified`. -/
def isFullyVerified (m : ResumeManifest) : Bool := m.pieces.all (·.state = .verified)

/-- `manifest_progress_bytes`. -/
def progressBytes (m : ResumeManifest) : Nat := (m.pieces.map (·.bytesWritten)).sum

/-- `manifest_has_structural_progress`. -/
def hasStructuralProgress (m : ResumeManifest) : Bool :=
  m.completed || m.md4HashsetAcquired || m.aichHashsetAcquired || m.aichRoot.isSome ||
    !m.verifiedRanges.isEmpty || m.pieces.any (·.bytesWritten ≠ 0)

/-- The first piece with an index, as `iter().find` finds it. -/
def findPiece (m : ResumeManifest) (pieceIndex : Nat) : Option PieceState :=
  m.pieces.find? (·.pieceIndex = pieceIndex)

/-- Change the first piece that satisfies a predicate, as `iter_mut().find` does. -/
def modifyPiece (m : ResumeManifest) (p : PieceState → Bool) (f : PieceState → PieceState) :
    ResumeManifest :=
  { m with pieces := m.pieces.modify (m.pieces.findIdx p) f }

/-- The digest the bytes of a piece are compared with, when the manifest has one. -/
def recordedDigest (m : ResumeManifest) (pieceIndex : Nat) : Option Ed2kHash :=
  if m.md4Hashset.isEmpty then some m.fileHash else m.md4Hashset[pieceIndex]?

/-- `verify_piece_against_manifest`. -/
def verifyPiece (d : Digests) (m : ResumeManifest) (pieceIndex : Nat) (data : List UInt8) :
    Except String Bool :=
  if m.md4HashsetAcquired then
    match m.recordedDigest pieceIndex with
    | some expected => .ok (d.md4 data = expected)
    | none => .error s!"missing MD4 hashset entry for part {pieceIndex}"
  else .ok false

/-- The loop of `rebuild_verified_ranges`; `active` is where the range that is being built starts.
-/
def verifiedRangesLoop (fileSize pieceSize : Nat) :
    List PieceState → Option Nat → List SharedRange
  | [], _ => []
  | piece :: rest, active =>
    let pieceStart := piece.pieceIndex * pieceSize
    let pieceEnd := min (pieceStart + pieceSize) fileSize
    if piece.state = .verified then
      let start := active.getD pieceStart
      if pieceEnd = fileSize then
        ⟨start, pieceEnd⟩ :: verifiedRangesLoop fileSize pieceSize rest none
      else verifiedRangesLoop fileSize pieceSize rest (some start)
    else
      match active with
      | some start => ⟨start, pieceStart⟩ :: verifiedRangesLoop fileSize pieceSize rest none
      | none => verifiedRangesLoop fileSize pieceSize rest none

/-- `rebuild_verified_ranges`. -/
def rebuildVerifiedRanges (m : ResumeManifest) : ResumeManifest :=
  { m with verifiedRanges := verifiedRangesLoop m.fileSize m.pieceSize m.pieces none }

end ResumeManifest

/-! ## The shared catalog -/

/-- `Ed2kSharedEntry::from_manifest`. -/
def SharedEntry.fromManifest (m : ResumeManifest) : SharedEntry where
  fileHash := m.fileHash
  canonicalName := m.canonicalName
  fileSize := m.fileSize
  verifiedComplete := m.completed
  verifiedRanges := m.verifiedRanges
  compatibilityHint := false
  sourceCountHint := none
  aichRoot := m.aichRoot

/-- `dedupe_entries`: of several entries with one hash and one kind, the last stays. -/
def dedupeEntries (entries : List SharedEntry) : List SharedEntry :=
  entries.foldr (fun entry deduped =>
    if deduped.any fun other => other.fileHash = entry.fileHash ∧
        other.compatibilityHint = entry.compatibilityHint
    then deduped else entry :: deduped) []

/-- `upsert_verified_catalog_entry`. -/
def upsertVerifiedCatalogEntry (m : ResumeManifest) (entries : List SharedEntry) :
    List SharedEntry :=
  let kept := entries.filter fun entry => entry.fileHash ≠ m.fileHash ∨ entry.compatibilityHint
  dedupeEntries <|
    if m.completed || !m.verifiedRanges.isEmpty then kept ++ [.fromManifest m] else kept

end Overlord.Emule
