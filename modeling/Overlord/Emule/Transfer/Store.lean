import Overlord.Data.Blob
import Overlord.Data.Text
import Overlord.Emule.Transfer.Hashset
import Overlord.Machine.Prog

/-!
# The transfer runtime

The operations of `Ed2kTransferRuntime` on one file: `store.rs`, `piece_store.rs` and `metadata.rs`.
Every operation takes the lock `manifest_io`, loads the manifest, from memory if it is there, and
writes it back when it has changed.  The bytes of the file are in a second file, the payload.

An operation is a program (`Op`) whose commands are the accesses to memory and to the file system.
What they do to the `Store` of the file is the handler `Store.step`, where every file-system step
may also fail; `tokio::fs::write` is two steps, one that truncates the file and one that writes it.

* `updateManifest` is what most operations have in common; `claimNextMissingPart`,
  `releasePieceRequest`, `reclaimStalePieceRequests` and the operations on metadata are instances.
* `appendPieceBlock` writes a block, and reads the piece back and verifies it when it is complete.
* `ensureJob` creates the manifest, or replaces one that cannot be read.
-/

set_option autoImplicit false

namespace Overlord.Emule

open Kad (Ed2kHash)
open Machine

/-- Period between two checkpoints, in nanoseconds. -/
def ED2K_RESUME_CHECKPOINT_INTERVAL : Nat := 2 * 10 ^ 9

def ED2K_RESUME_CHECKPOINT_BYTES : Nat := ED2K_EMBLOCK_SIZE * 16

/-- When the manifest was last written, and with how much progress. -/
structure CheckpointState where
  persistedBytesWritten : Nat
  lastPersistedAt : Nat
deriving DecidableEq, Repr

/-- What the operations on a file are about. -/
structure TransferEnv where
  digests : Digests
  rootDir : String
  fileHash : Ed2kHash

namespace TransferEnv

variable (env : TransferEnv)

/-- `transfer_dir`. -/
def transferDir : String := s!"{env.rootDir}/{env.fileHash.display}"

def manifestPath : String := s!"{env.transferDir}/resume-manifest.json"

def payloadPath : String := s!"{env.transferDir}/pieces.bin"

end TransferEnv

/-! ## Commands -/

/-- The accesses to memory and to the file system. -/
inductive Cmd where
  | getCache
  | setCache (m : ResumeManifest)
  | getCheckpoint
  | setCheckpoint (checkpoint : CheckpointState)
  | upsertCatalog (m : ResumeManifest)
  | now
  | createDirAll
  | manifestExists
  | readManifest
  | truncateManifest
  | writeManifest (m : ResumeManifest)
  | renameManifest
  | openPayload (create : Bool)
  | writePayload (handle start : Nat) (data : List UInt8)
  | flushPayload (handle : Nat)
  | dropPayload (handle : Nat)
  | readPayload (handle start len : Nat)

/-- The reply to a command; a file-system command replies with an error of the system or with a
value.  The contents of a manifest file may fail to decode. -/
@[reducible] def Cmd.Reply : Cmd → Type
  | .getCache => Option ResumeManifest
  | .setCache _ | .setCheckpoint _ | .upsertCatalog _ | .dropPayload _ => Unit
  | .getCheckpoint => Option CheckpointState
  | .now => Nat
  | .createDirAll | .truncateManifest | .writeManifest _ | .renameManifest => Except String Unit
  | .writePayload _ _ _ | .flushPayload _ => Except String Unit
  | .manifestExists => Except String Bool
  | .readManifest => Except String (Option ResumeManifest)
  | .openPayload _ => Except String Nat
  | .readPayload _ _ _ => Except String (List UInt8)

/-- An operation of the runtime; its error is the outermost message. -/
abbrev Op (α : Type) : Type := Prog Cmd Cmd.Reply String α

namespace Op

open Prog (fail)

/-- One command. -/
def sys (c : Cmd) : Op c.Reply := Prog.command c

/-- `?` on the reply to a file-system command. -/
def raise {α : Type} : Except String α → Op α := .done

/-- `with_context(..)?` on the reply to a file-system command. -/
def context {α : Type} (message : String) : Except String α → Op α
  | .ok a => pure a
  | .error _ => fail message

end Op

/-! ## Loading and storing the manifest -/

open Prog (fail)
open Op

variable (env : TransferEnv)

/-- `mark_manifest_persisted_unlocked`. -/
def markManifestPersisted (m : ResumeManifest) : Op Unit := do
  sys (.setCache m)
  let now ← sys .now
  sys (.setCheckpoint ⟨m.progressBytes, now⟩)

/-- `load_manifest_unlocked`. -/
def loadManifest : Op ResumeManifest := do
  match ← sys .getCache with
  | some m => pure m
  | none =>
    match ← context s!"failed to read ED2K manifest {env.manifestPath}" (← sys .readManifest) with
    | none => fail s!"failed to decode ED2K manifest {env.manifestPath}"
    | some m =>
      markManifestPersisted m
      pure m

/-- `store_manifest_unlocked`. -/
def storeManifest (m : ResumeManifest) : Op Unit := do
  context s!"failed to create ED2K transfer directory {env.transferDir}" (← sys .createDirAll)
  context s!"failed to write ED2K manifest {env.manifestPath}" (← sys .truncateManifest)
  context s!"failed to write ED2K manifest {env.manifestPath}" (← sys (.writeManifest m))
  markManifestPersisted m

/-- `entry(..).or_insert_with(..)` on the checkpoint states. -/
def checkpointState (currentProgress : Nat) : Op CheckpointState := do
  match ← sys .getCheckpoint with
  | some state => pure state
  | none =>
    let now ← sys .now
    sys (.setCheckpoint ⟨currentProgress, now⟩)
    pure ⟨currentProgress, now⟩

/-- `should_checkpoint_manifest_unlocked`. -/
def shouldCheckpointManifest (m : ResumeManifest) : Op Bool := do
  let state ← checkpointState m.progressBytes
  let dirtyBytes := m.progressBytes - state.persistedBytesWritten
  if ED2K_RESUME_CHECKPOINT_BYTES ≤ dirtyBytes then pure true
  else if dirtyBytes = 0 then pure false
  else
    let now ← sys .now
    pure (decide (ED2K_RESUME_CHECKPOINT_INTERVAL ≤ now - state.lastPersistedAt))

/-- `quarantine_corrupt_manifest`. -/
def quarantineCorruptManifest : Op Unit := do
  if ← raise (← sys .manifestExists) then
    let now ← sys .now
    let quarantinePath := s!"{env.manifestPath}.corrupt-{now / 10 ^ 9}"
    context s!"failed to quarantine corrupt ED2K manifest {env.manifestPath} -> {quarantinePath}"
      (← sys .renameManifest)
  else pure ()

/-- `load_manifest_or_rebuild_unlocked`. -/
def loadManifestOrRebuild (job : TransferJob) : Op ResumeManifest := do
  match ← (loadManifest env).attempt with
  | .ok m => pure m
  | .error _ =>
    quarantineCorruptManifest env
    let m := ResumeManifest.new job
    storeManifest env m
    pure m

/-- `ensure_job`. -/
def ensureJob (job : TransferJob) : Op ResumeManifest := do
  context s!"failed to create ED2K transfer directory {env.transferDir}" (← sys .createDirAll)
  if ← raise (← sys .manifestExists) then loadManifestOrRebuild env job
  else
    let m := ResumeManifest.new job
    storeManifest env m
    pure m

/-- `manifest`. -/
def manifest : Op ResumeManifest := loadManifest env

/-! ## Operations that change the manifest -/

/-- `upsert_verified_catalog_entry`, under a condition. -/
def upsertWhen (condition : Bool) (m : ResumeManifest) : Op Unit :=
  if condition then sys (.upsertCatalog m) else pure ()

/-- What most operations do: load the manifest, compute a result and perhaps a new manifest, and
write that one; some then put it into the shared catalog. -/
def updateManifest {β : Type} (upsert : Bool)
    (change : ResumeManifest → Except String (β × Option ResumeManifest)) : Op β := do
  let m ← loadManifest env
  let (result, changed) ← raise (change m)
  match changed with
  | none => pure result
  | some m' =>
    storeManifest env m'
    upsertWhen upsert m'
    pure result

namespace ResumeManifest

variable (m : ResumeManifest)

/-- The change of `claim_next_missing_part`. -/
def claimNext : Except String (Option ClaimedPart × Option ResumeManifest) :=
  match m.pieces.find? (·.state = .missing) with
  | none => .ok (none, none)
  | some piece => .ok (some ⟨piece.pieceIndex, piece.bytesWritten⟩,
      some (m.modifyPiece (·.state = .missing) fun piece => { piece with state := .requested }))

/-- The change of `release_piece_request`. -/
def releasePiece (pieceIndex : Nat) : Except String (Unit × Option ResumeManifest) :=
  match m.findPiece pieceIndex with
  | none => .error s!"missing piece index {pieceIndex} in {m.fileHash.display}"
  | some piece =>
    if piece.state = .requested then
      .ok ((), some (m.modifyPiece (·.pieceIndex = pieceIndex) fun piece =>
        { piece with state := .missing }))
    else .ok ((), none)

/-- The change of `reclaim_stale_piece_requests`. -/
def reclaimStale : Except String (Bool × Option ResumeManifest) :=
  let reclaim (piece : PieceState) : PieceState :=
    if piece.state = .requested then { piece with state := .missing } else piece
  if m.pieces.any (·.state = .requested) then
    .ok (true, some { m with pieces := m.pieces.map reclaim })
  else .ok (false, none)

/-- The change of `remember_source`. -/
def rememberSource (source : SourceHint) : Except String (Unit × Option ResumeManifest) :=
  if source ∈ m.sources then .ok ((), none)
  else .ok ((), some { m with sources := m.sources ++ [source] })

/-- The name `reconcile_job_metadata` leaves: a learned name replaces the old one unless it is
blank. -/
def learnName (canonicalName : Option String) : String :=
  match canonicalName.map Text.trim with
  | some name => if name = "" then m.canonicalName else name
  | none => m.canonicalName

/-- The change of `reconcile_job_metadata`; a size of zero counts as none. -/
def reconcileJob (canonicalName : Option String) (fileSize : Option Nat) :
    Except String (ResumeManifest × Option ResumeManifest) :=
  let named := { m with canonicalName := m.learnName canonicalName }
  let changed := if named = m then none else some named
  match fileSize.filter (· ≠ 0) with
  | none => .ok (named, changed)
  | some size =>
    if m.fileSize = 0 then
      if m.hasStructuralProgress then
        .error <| s!"cannot adopt ED2K file size {size} for {m.fileHash.display} " ++
          "after transfer progress already exists"
      else
        let sized := { named with
          fileSize := size, pieces := missingPieces (pieceCount size m.pieceSize) }
        .ok (sized, some sized)
    else if m.fileSize ≠ size then
      .error <| s!"refusing to change ED2K file size for {m.fileHash.display} " ++
        s!"from {m.fileSize} to {size}"
    else .ok (named, changed)

/-- The change of `store_md4_hashset`. -/
def acquireMd4Hashset (d : Digests) (md4Hashset : List Ed2kHash) :
    Except String (ResumeManifest × Option ResumeManifest) :=
  let expected := expectedMd4HashCount m.fileSize
  if md4Hashset.length ≠ expected then
    .error <| s!"unexpected MD4 hashset length {md4Hashset.length} " ++
      s!"expected {expected} for {m.fileHash.display}"
  else do
    validateMd4Hashset d m.fileHash md4Hashset
    let m' := { m with md4Hashset := md4Hashset, md4HashsetAcquired := true }
    .ok (m', some m')

/-- The change of `store_aich_hashset`. -/
def acquireAichHashset (d : Digests) (aichHashset : AichHashset) :
    Except String (ResumeManifest × Option ResumeManifest) :=
  if m.aichRoot.any (· ≠ aichHashset.masterHash) then
    .error s!"refusing to replace AICH root for {m.fileHash.display} with conflicting data"
  else do
    validateAichHashset d m.fileSize aichHashset
    let m' := { m with
      aichRoot := some aichHashset.masterHash
      aichHashset := aichHashset.partHashes
      aichHashsetAcquired := true }
    .ok (m', some m')

/-- The change of `reconcile_aich_root`. -/
def reconcileRoot (aichRoot : Option AichHash) :
    Except String (ResumeManifest × Option ResumeManifest) :=
  match aichRoot with
  | none => .ok (m, none)
  | some root =>
    match m.aichRoot with
    | some existing =>
      if existing ≠ root then
        .error s!"refusing to replace AICH root for {m.fileHash.display} with conflicting metadata"
      else .ok (m, none)
    | none =>
      let m' := { m with aichRoot := some root }
      .ok (m', some m')

end ResumeManifest

/-- `claim_next_missing_part`. -/
def claimNextMissingPart : Op (Option ClaimedPart) :=
  updateManifest env false ResumeManifest.claimNext

/-- `release_piece_request`. -/
def releasePieceRequest (pieceIndex : Nat) : Op Unit :=
  updateManifest env false (·.releasePiece pieceIndex)

/-- `reclaim_stale_piece_requests`. -/
def reclaimStalePieceRequests : Op Bool := updateManifest env false ResumeManifest.reclaimStale

/-- `remember_source`. -/
def rememberSource (source : SourceHint) : Op Unit :=
  updateManifest env false (·.rememberSource source)

/-- `reconcile_job_metadata`. -/
def reconcileJobMetadata (canonicalName : Option String) (fileSize : Option Nat) :
    Op ResumeManifest :=
  updateManifest env true (·.reconcileJob canonicalName fileSize)

/-- `store_md4_hashset`. -/
def storeMd4Hashset (md4Hashset : List Ed2kHash) : Op ResumeManifest :=
  updateManifest env false (·.acquireMd4Hashset env.digests md4Hashset)

/-- `store_aich_hashset`. -/
def storeAichHashset (aichHashset : AichHashset) : Op ResumeManifest :=
  updateManifest env true (·.acquireAichHashset env.digests aichHashset)

/-- `reconcile_aich_root`. -/
def reconcileAichRoot (aichRoot : Option AichHash) : Op ResumeManifest :=
  updateManifest env true (·.reconcileRoot aichRoot)

/-! ## The payload -/

/-- `refresh_completed_manifest_aich_hashset`, for a manifest that is completed: a root that was
learned before stays. -/
def refreshCompletedManifestAichHashset (m : ResumeManifest) : Op ResumeManifest := do
  if !m.completed || m.aichRoot.isSome then pure m
  else if m.fileSize = 0 then fail "cannot build AICH hashset for zero-sized file"
  else
    let file ← context s!"failed to open AICH payload {env.payloadPath}"
      (← sys (.openPayload false))
    let bytes ← context "failed to read AICH block data from payload"
      (← sys (.readPayload file 0 m.fileSize))
    let aichHashset ← raise (buildAichHashset env.digests bytes)
    pure { m with
      aichRoot := some aichHashset.masterHash
      aichHashset := aichHashset.partHashes
      aichHashsetAcquired := true }

namespace ResumeManifest

variable (m : ResumeManifest)

/-- A piece whose bytes have been compared with the recorded digest. -/
def judgePiece (pieceIndex : Nat) (verified : Bool) : ResumeManifest :=
  let expected := expectedPieceLength m.fileSize m.pieceSize pieceIndex
  let judged := (m.modifyPiece (·.pieceIndex = pieceIndex) fun piece =>
    if verified then { piece with bytesWritten := expected, state := .verified }
    else { piece with state := .missing, bytesWritten := 0 }).rebuildVerifiedRanges
  { judged with completed := judged.isFullyVerified }

/-- A piece of which more bytes have been written, but not all. -/
def extendPiece (pieceIndex bytesWritten : Nat) : ResumeManifest :=
  m.modifyPiece (·.pieceIndex = pieceIndex) fun piece =>
    { piece with bytesWritten := bytesWritten, state := .requested }

end ResumeManifest

/-- The check at the start of `append_piece_block`: the block must be the next one of its piece.
The bytes the piece has so far. -/
def checkBlock (m : ResumeManifest) (pieceIndex start stop dataLen : Nat) : Except String Nat :=
  let pieceStart := pieceIndex * m.pieceSize
  let pieceEnd := pieceStart + expectedPieceLength m.fileSize m.pieceSize pieceIndex
  match m.findPiece pieceIndex with
  | none => .error s!"missing piece index {pieceIndex} in {m.fileHash.display}"
  | some piece =>
    let expectedStart := pieceStart + piece.bytesWritten
    let expectedEnd := expectedStart + dataLen
    if start ≠ expectedStart ∨ stop ≠ expectedEnd ∨ pieceEnd < stop then
      .error <| s!"piece {pieceIndex} for {m.fileHash.display} received unexpected block " ++
        s!"{start}..{stop} expected {expectedStart}..{expectedEnd} " ++
        s!"within {pieceStart}..{pieceEnd}"
    else .ok piece.bytesWritten

/-- The end of `append_piece_block` for the last block of a piece: read the piece back and compare
it with the recorded digest. -/
def completePiece (m : ResumeManifest) (file pieceIndex : Nat) : Op Bool := do
  raise (← sys (.flushPayload file))
  sys (.dropPayload file)
  let readFile ← context s!"failed to reopen piece store {env.payloadPath}"
    (← sys (.openPayload false))
  let pieceBytes ← raise (← sys (.readPayload readFile (pieceIndex * m.pieceSize)
    (expectedPieceLength m.fileSize m.pieceSize pieceIndex)))
  let verified ← raise (m.verifyPiece env.digests pieceIndex pieceBytes)
  let refreshed ← refreshCompletedManifestAichHashset env (m.judgePiece pieceIndex verified)
  upsertWhen verified refreshed
  storeManifest env refreshed
  pure verified

/-- The end of `append_piece_block` for any other block: write the manifest if a checkpoint is due,
else only remember it.  In the second case nothing waits for the bytes to reach the file. -/
def keepProgress (m : ResumeManifest) (file : Nat) : Op Bool := do
  if ← shouldCheckpointManifest m then
    raise (← sys (.flushPayload file))
    sys (.dropPayload file)
    storeManifest env m
    pure false
  else
    sys (.dropPayload file)
    sys (.setCache m)
    pure false

/-- `append_piece_block`. -/
def appendPieceBlock (pieceIndex start stop : Nat) (data : List UInt8) : Op Bool := do
  let m ← loadManifest env
  let bytesWritten ← raise (checkBlock m pieceIndex start stop data.length)
  let file ← context s!"failed to open piece store {env.payloadPath}"
    (← sys (.openPayload true))
  raise (← sys (.writePayload file start data))
  let nextBytesWritten := bytesWritten + data.length
  if nextBytesWritten = expectedPieceLength m.fileSize m.pieceSize pieceIndex then
    completePiece env m file pieceIndex
  else keepProgress env (m.extendPiece pieceIndex nextBytesWritten) file

/-- `read_verified_range`. -/
def readVerifiedRange (start stop : Nat) : Op (Option (List UInt8)) := do
  let m ← loadManifest env
  if m.verifiedRanges.any fun range => range.start ≤ start ∧ stop ≤ range.stop then
    let file ← context s!"failed to open piece store {env.payloadPath}"
      (← sys (.openPayload false))
    let bytes ← raise (← sys (.readPayload file start (stop - start)))
    pure (some bytes)
  else pure none

/-! ## The store -/

/-- The file that holds the manifest. -/
inductive ManifestFile where
  | absent
  /-- Truncated, or written in part. -/
  | unreadable
  | holds (m : ResumeManifest)
deriving DecidableEq, Repr

/-- The memory of the runtime and the files of one transfer. -/
structure Store where
  cache : Option ResumeManifest
  checkpoint : Option CheckpointState
  catalog : List SharedEntry
  manifestFile : ManifestFile
  payload : Option (List UInt8)
deriving DecidableEq, Repr

/-- What the environment decides about a command. -/
inductive Choice where
  /-- It succeeds, at some time. -/
  | ok (now : Nat)
  /-- It fails with an error of the system; a write may have put a part of its bytes there. -/
  | fail (message : String) (landed : Nat)
deriving DecidableEq, Repr

namespace Store

/-- The bytes of the payload file. -/
def bytes (s : Store) : List UInt8 := s.payload.getD []

/-- Write into the payload file. -/
def write (s : Store) (start : Nat) (data : List UInt8) : Store :=
  { s with payload := some (Blob.writeAt 0 start data s.bytes) }

/-- What a command does when it succeeds. -/
def perform (s : Store) (now : Nat) : (c : Cmd) → c.Reply × Store
  | .getCache => (s.cache, s)
  | .setCache m => ((), { s with cache := some m })
  | .getCheckpoint => (s.checkpoint, s)
  | .setCheckpoint checkpoint => ((), { s with checkpoint := some checkpoint })
  | .upsertCatalog m => ((), { s with catalog := upsertVerifiedCatalogEntry m s.catalog })
  | .now => (now, s)
  | .createDirAll => (.ok (), s)
  | .manifestExists => (.ok (s.manifestFile ≠ .absent), s)
  | .readManifest =>
    match s.manifestFile with
    | .absent => (.error "No such file or directory (os error 2)", s)
    | .unreadable => (.ok none, s)
    | .holds m => (.ok (some m), s)
  | .truncateManifest => (.ok (), { s with manifestFile := .unreadable })
  | .writeManifest m => (.ok (), { s with manifestFile := .holds m })
  | .renameManifest => (.ok (), { s with manifestFile := .absent })
  | .openPayload create =>
    if create then (.ok 0, { s with payload := some s.bytes })
    else if s.payload.isNone then (.error "No such file or directory (os error 2)", s)
    else (.ok 0, s)
  | .writePayload _ start data => (.ok (), s.write start data)
  | .flushPayload _ => (.ok (), s)
  | .dropPayload _ => ((), s)
  | .readPayload _ start len =>
    match Blob.readAt start len s.bytes with
    | some bytes => (.ok bytes, s)
    | none => (.error "early eof", s)

/-- What a file-system command leaves when it fails; memory does not fail. -/
def falter (s : Store) (message : String) (landed : Nat) : (c : Cmd) → Option (c.Reply × Store)
  | .createDirAll => some (.error message, s)
  | .manifestExists => some (.error message, s)
  | .readManifest => some (.error message, s)
  | .truncateManifest => some (.error message, s)
  | .writeManifest _ => some (.error message, { s with manifestFile := .unreadable })
  | .renameManifest => some (.error message, s)
  | .openPayload _ => some (.error message, s)
  | .writePayload _ start data => some (.error message, s.write start (data.take landed))
  | .flushPayload _ => some (.error message, s)
  | .readPayload _ _ _ => some (.error message, s)
  | .getCache | .setCache _ | .getCheckpoint | .setCheckpoint _ | .upsertCatalog _ | .now
  | .dropPayload _ => none

/-- A command on the store, where each write has taken effect when the command returns. -/
def step : Handler Cmd Cmd.Reply Store Choice := fun s c choice =>
  match choice with
  | .ok now => some (s.perform now c)
  | .fail message landed => s.falter message landed c

end Store

/-! ## Calls -/

/-- Run an operation for its effect. -/
def Op.forget {α : Type} (op : Op α) : Op Unit := op >>= fun _ => pure ()

/-- The operations that sessions use on the pieces of a file. -/
inductive PieceCall where
  | claimNextMissingPart
  | releasePieceRequest (pieceIndex : Nat)
  | reclaimStalePieceRequests
  | appendPieceBlock (pieceIndex start stop : Nat) (data : List UInt8)
deriving DecidableEq, Repr

/-- What a call runs. -/
def PieceCall.body (env : TransferEnv) : PieceCall → Op Unit
  | .claimNextMissingPart => (Emule.claimNextMissingPart env).forget
  | .releasePieceRequest pieceIndex => Emule.releasePieceRequest env pieceIndex
  | .reclaimStalePieceRequests => (Emule.reclaimStalePieceRequests env).forget
  | .appendPieceBlock pieceIndex start stop data =>
    (Emule.appendPieceBlock env pieceIndex start stop data).forget

/-- What sessions and searches ask of the runtime about a file they are after.  `ingest_local_file`,
which puts a complete file in the place of whatever is there, is not among it. -/
inductive TransferCall where
  | ensureJob (canonicalName : String) (fileSize : Nat)
  | manifest
  | piece (call : PieceCall)
  | readVerifiedRange (start stop : Nat)
  | rememberSource (source : SourceHint)
  | reconcileJobMetadata (canonicalName : Option String) (fileSize : Option Nat)
  | storeMd4Hashset (md4Hashset : List Ed2kHash)
  | storeAichHashset (aichHashset : AichHashset)
  | reconcileAichRoot (aichRoot : Option AichHash)
deriving DecidableEq

/-- What a call runs. -/
def TransferCall.body (env : TransferEnv) : TransferCall → Op Unit
  | .ensureJob canonicalName fileSize =>
    (Emule.ensureJob env (newTransferJob env.fileHash canonicalName fileSize)).forget
  | .manifest => (Emule.manifest env).forget
  | .piece call => call.body env
  | .readVerifiedRange start stop => (Emule.readVerifiedRange env start stop).forget
  | .rememberSource source => Emule.rememberSource env source
  | .reconcileJobMetadata canonicalName fileSize =>
    (Emule.reconcileJobMetadata env canonicalName fileSize).forget
  | .storeMd4Hashset md4Hashset => (Emule.storeMd4Hashset env md4Hashset).forget
  | .storeAichHashset aichHashset => (Emule.storeAichHashset env aichHashset).forget
  | .reconcileAichRoot aichRoot => (Emule.reconcileAichRoot env aichRoot).forget

end Overlord.Emule
