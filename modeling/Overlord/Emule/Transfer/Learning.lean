import Overlord.Emule.Transfer.StoreInvariant

/-!
# Learning what a file is

A download can start from a hash alone.  The size and the name, the AICH root and the MD4 hashset
are then learned from peers, one operation each, in the order the answers happen to come.

The order matters.  `reconcile_job_metadata` adopts a size only while the manifest shows no
structural progress, and an AICH root counts as progress.  A root that comes first therefore blocks
the size for good, however often the operation is tried again (`Fact.apply_of_progress`).  With the
size first, everything is learned (`learned_iff`), and a fact that is learned again changes nothing.

* `Fact` — what there is to learn.  `Fact.op` is the operation of the runtime and `Fact.apply` what
  it does to the manifest.
* `Fact.apply_stage` — from a known size on, an operation adds what it brings and nothing else, so
  that the order leaves no trace.
-/

set_option autoImplicit false

namespace Overlord.Emule

open Kad (Ed2kHash)
open Machine (Prog)
open Store (sampleEnv)

/-- The true facts about a file of known hash. -/
structure TrueFile (d : Digests) (fileHash : Ed2kHash) where
  name : String
  size : Nat
  aichRoot : AichHash
  md4Hashset : List Ed2kHash
  size_ne_zero : size ≠ 0
  hashset_length : md4Hashset.length = expectedMd4HashCount size
  hashset_valid : validateMd4Hashset d fileHash md4Hashset = .ok ()

/-- The manifest in which everything is learned. -/
def TrueFile.learned {d : Digests} {fileHash : Ed2kHash} (file : TrueFile d fileHash)
    (m : ResumeManifest) : ResumeManifest :=
  { m with
    canonicalName := m.learnName (some file.name)
    fileSize := file.size
    pieces := missingPieces (pieceCount file.size m.pieceSize)
    aichRoot := some file.aichRoot
    md4Hashset := file.md4Hashset
    md4HashsetAcquired := true }

/-- What is learned by one operation. -/
inductive Fact where
  | job
  | aichRoot
  | md4Hashset
deriving DecidableEq, Repr

section

variable (env : TransferEnv) (file : TrueFile env.digests env.fileHash)

/-- The operation that learns a fact. -/
def Fact.op : Fact → Op ResumeManifest
  | .job => reconcileJobMetadata env (some file.name) (some file.size)
  | .aichRoot => reconcileAichRoot env (some file.aichRoot)
  | .md4Hashset => storeMd4Hashset env file.md4Hashset

/-- The store after a list of attempts, each at some time; no file-system step fails. -/
def learn (s : Store) (attempts : List (Fact × Nat)) : Store :=
  attempts.foldl (fun s attempt =>
    ((attempt.1.op env file).interp (fun s c => s.perform attempt.2 c) s).2) s

/-- The change an attempt asks for. -/
def Fact.change : Fact → ResumeManifest → Except String (ResumeManifest × Option ResumeManifest)
  | .job, m => m.reconcileJob (some file.name) (some file.size)
  | .aichRoot, m => m.reconcileRoot (some file.aichRoot)
  | .md4Hashset, m => m.acquireMd4Hashset env.digests file.md4Hashset

/-- The manifest after an attempt; a failed one leaves it as it was. -/
def Fact.apply (fact : Fact) (m : ResumeManifest) : ResumeManifest :=
  match fact.change env file m with
  | .ok (_, changed) => changed.getD m
  | .error _ => m

end

variable {env : TransferEnv} {file : TrueFile env.digests env.fileHash} {m : ResumeManifest}
  {s : Store}

/-! ## From the store to the manifest -/

/-- Without failing steps, the manifest is loaded. -/
theorem interp_loadManifest (hs : s.current = some m) (now : Nat) :
    ∃ s', (loadManifest env).interp (fun s c => s.perform now c) s = (.ok m, s') ∧
      s'.cache = some m := by
  obtain ⟨cache, checkpoint, catalog, manifestFile, payload⟩ := s
  cases cache with
  | some m' =>
    obtain rfl := Option.some.inj hs
    exact ⟨_, rfl, rfl⟩
  | none =>
    cases manifestFile with
    | absent => exact absurd hs nofun
    | unreadable => exact absurd hs nofun
    | holds m' =>
      obtain rfl := Option.some.inj hs
      exact ⟨_, rfl, rfl⟩

/-- Without failing steps, an operation returns what its change does, and leaves the manifest the
change asks for. -/
theorem interp_updateManifest {β : Type} {upsert : Bool}
    {change : ResumeManifest → Except String (β × Option ResumeManifest)}
    (hs : s.current = some m) (now : Nat) :
    ∃ s', (updateManifest env upsert change).interp (fun s c => s.perform now c) s =
        (Prod.fst <$> change m, s') ∧
      s'.current = some (match change m with
        | .ok (_, changed) => changed.getD m
        | .error _ => m) := by
  obtain ⟨s₁, hload, hcache⟩ := interp_loadManifest hs now
  have hkept : s₁.current = some m := by rw [Store.current, hcache, Option.some_or]
  rw [updateManifest, Prog.interp_bind, hload]
  dsimp only
  rw [Prog.interp_bind]
  cases change m with
  | error message => exact ⟨s₁, rfl, hkept⟩
  | ok result =>
    obtain ⟨b, changed⟩ := result
    cases changed with
    | none => exact ⟨s₁, rfl, hkept⟩
    | some m' => cases upsert <;> exact ⟨_, rfl, rfl⟩

theorem current_updateManifest {β : Type} {upsert : Bool}
    {change : ResumeManifest → Except String (β × Option ResumeManifest)}
    (hs : s.current = some m) (now : Nat) :
    ((updateManifest env upsert change).interp (fun s c => s.perform now c) s).2.current =
      some (match change m with
        | .ok (_, changed) => changed.getD m
        | .error _ => m) := by
  obtain ⟨s', hinterp, hcurrent⟩ := interp_updateManifest hs now
  rw [hinterp]
  exact hcurrent

theorem Fact.exists_op_eq (file : TrueFile env.digests env.fileHash) (fact : Fact) :
    ∃ upsert, fact.op env file = updateManifest env upsert (fact.change env file) := by
  cases fact <;> exact ⟨_, rfl⟩

theorem current_learn (hs : s.current = some m) (attempts : List (Fact × Nat)) :
    (learn env file s attempts).current =
      some ((attempts.map Prod.fst).foldl (fun m fact => fact.apply env file m) m) := by
  induction attempts generalizing s m with
  | nil => exact hs
  | cons attempt attempts ih =>
    obtain ⟨upsert, hop⟩ := attempt.1.exists_op_eq file
    refine ih ?_
    dsimp only
    rw [hop, current_updateManifest hs, Fact.apply]
    cases attempt.1.change env file m <;> rfl

/-! ## A size for a manifest -/

namespace ResumeManifest

variable {size : Nat} (canonicalName : Option String)

/-- A manifest that shows progress refuses a size. -/
theorem reconcileJob_of_progress (hsize : size ≠ 0) (hunknown : m.fileSize = 0)
    (hprogress : m.hasStructuralProgress = true) :
    ∃ message, m.reconcileJob canonicalName (some size) = .error message := by
  have hsome : (some size).filter (· ≠ 0) = some size := by simp [hsize]
  rw [reconcileJob, hsome]
  dsimp only
  rw [if_pos hunknown, if_pos hprogress]
  exact ⟨_, rfl⟩

/-- A manifest that shows none adopts it. -/
theorem reconcileJob_adopt (hsize : size ≠ 0) (hunknown : m.fileSize = 0)
    (hprogress : m.hasStructuralProgress = false) :
    ∃ b, m.reconcileJob canonicalName (some size) = .ok (b, some { m with
      canonicalName := m.learnName canonicalName, fileSize := size
      pieces := missingPieces (pieceCount size m.pieceSize) }) := by
  have hsome : (some size).filter (· ≠ 0) = some size := by simp [hsize]
  rw [reconcileJob, hsome]
  dsimp only
  rw [if_pos hunknown, hprogress]
  exact ⟨_, rfl⟩

/-- A manifest that has the size and the name already is left alone. -/
theorem reconcileJob_known {canonicalName : Option String} (hsize : m.fileSize ≠ 0)
    (hname : m.learnName canonicalName = m.canonicalName) :
    m.reconcileJob canonicalName (some m.fileSize) = .ok (m, none) := by
  have hsome : (some m.fileSize).filter (· ≠ 0) = some m.fileSize := by simp [hsize]
  rw [reconcileJob, hsome]
  dsimp only
  rw [if_neg hsize, if_neg (not_not.mpr rfl), hname, if_pos rfl]

end ResumeManifest

/-! ## Blocked -/

/-- **Progress blocks the size.**  A manifest of unknown size that shows progress stays one. -/
theorem Fact.apply_of_progress (file : TrueFile env.digests env.fileHash) (fact : Fact)
    (hsize : m.fileSize = 0)
    (hprogress : m.hasStructuralProgress = true) :
    (fact.apply env file m).fileSize = 0 ∧
      (fact.apply env file m).hasStructuralProgress = true := by
  cases fact with
  | job =>
    obtain ⟨message, herror⟩ :=
      ResumeManifest.reconcileJob_of_progress (some file.name) file.size_ne_zero hsize hprogress
    rw [Fact.apply, Fact.change, herror]
    exact ⟨hsize, hprogress⟩
  | aichRoot =>
    rw [Fact.apply, Fact.change, ResumeManifest.reconcileRoot]
    cases hroot : m.aichRoot with
    | some existing =>
      by_cases hsame : existing = file.aichRoot <;> simp [hsame, hsize, hprogress]
    | none => simp [hsize, ResumeManifest.hasStructuralProgress]
  | md4Hashset =>
    rw [Fact.apply]
    split
    next b changed hchange =>
      obtain ⟨-, -, rfl, rfl⟩ := ResumeManifest.acquireMd4Hashset_eq_ok hchange
      simp [hsize, ResumeManifest.hasStructuralProgress]
    next => exact ⟨hsize, hprogress⟩

theorem foldl_apply_of_progress (facts : List Fact) (hsize : m.fileSize = 0)
    (hprogress : m.hasStructuralProgress = true) :
    (facts.foldl (fun m fact => fact.apply env file m) m).fileSize = 0 := by
  induction facts generalizing m with
  | nil => exact hsize
  | cons fact facts ih =>
    obtain ⟨hsize, hprogress⟩ := fact.apply_of_progress file hsize hprogress
    exact ih hsize hprogress

/-! ## Learned -/

/-- The manifest once the size is known, and perhaps the root and the hashset. -/
def TrueFile.stage (file : TrueFile env.digests env.fileHash) (m : ResumeManifest)
    (root hashset : Bool) : ResumeManifest :=
  { m with
    canonicalName := m.learnName (some file.name)
    fileSize := file.size
    pieces := missingPieces (pieceCount file.size m.pieceSize)
    aichRoot := if root then some file.aichRoot else m.aichRoot
    md4Hashset := if hashset then file.md4Hashset else m.md4Hashset
    md4HashsetAcquired := hashset || m.md4HashsetAcquired }

/-- A name that has been learned is not learned again. -/
theorem learnName_stage (root hashset : Bool) :
    (file.stage m root hashset).learnName (some file.name) =
      (file.stage m root hashset).canonicalName := by
  simp only [ResumeManifest.learnName, TrueFile.stage, Option.map_some]
  split <;> rfl

/-- **Once the size is known, every order will do.** -/
theorem Fact.apply_stage (fact : Fact) (hhash : m.fileHash = env.fileHash)
    (hroot : m.aichRoot = none) (root hashset : Bool) :
    fact.apply env file (file.stage m root hashset) =
      file.stage m (root || fact = .aichRoot) (hashset || fact = .md4Hashset) := by
  cases fact with
  | job =>
    have hknown : (file.stage m root hashset).reconcileJob (some file.name) (some file.size) =
        .ok (file.stage m root hashset, none) :=
      ResumeManifest.reconcileJob_known file.size_ne_zero (learnName_stage root hashset)
    rw [Fact.apply, Fact.change, hknown]
    simp
  | aichRoot =>
    cases root with
    | true => simp [Fact.apply, Fact.change, ResumeManifest.reconcileRoot, TrueFile.stage]
    | false =>
      simp [Fact.apply, Fact.change, ResumeManifest.reconcileRoot, TrueFile.stage, hroot]
  | md4Hashset =>
    have hvalid : validateMd4Hashset env.digests (file.stage m root hashset).fileHash
        file.md4Hashset = .ok () := by
      rw [TrueFile.stage, hhash]
      exact file.hashset_valid
    have hlength : file.md4Hashset.length =
        expectedMd4HashCount (file.stage m root hashset).fileSize := file.hashset_length
    rw [Fact.apply, Fact.change, ResumeManifest.acquireMd4Hashset]
    dsimp only
    rw [if_neg (not_not.mpr hlength), hvalid]
    simp [TrueFile.stage, bind, Except.bind]

theorem foldl_apply_stage (facts : List Fact) (hhash : m.fileHash = env.fileHash)
    (hroot : m.aichRoot = none) (root hashset : Bool) :
    facts.foldl (fun m fact => fact.apply env file m) (file.stage m root hashset) =
      file.stage m (root || decide (.aichRoot ∈ facts))
        (hashset || decide (.md4Hashset ∈ facts)) := by
  induction facts generalizing root hashset with
  | nil => simp
  | cons fact facts ih =>
    rw [List.foldl_cons, fact.apply_stage hhash hroot, ih]
    simp [Bool.or_assoc, eq_comm]

/-- The first attempt to learn the size succeeds when there is no progress. -/
theorem apply_job (hsize : m.fileSize = 0) (hprogress : m.hasStructuralProgress = false) :
    Fact.job.apply env file m = file.stage m false false := by
  obtain ⟨b, hadopt⟩ :=
    ResumeManifest.reconcileJob_adopt (some file.name) file.size_ne_zero hsize hprogress
  rw [Fact.apply, Fact.change, hadopt]
  simp [TrueFile.stage]

/-- **Everything is learned exactly when the size comes first.**  Take a manifest of unknown size
and a list of attempts in which every fact is tried at least once and the hashset is not the first.
The attempts end in the manifest with all of them if the manifest shows no progress and the first
attempt is that of the size and the name; otherwise they do not. -/
theorem learned_iff (env : TransferEnv) (file : TrueFile env.digests env.fileHash)
    {s : Store} {m : ResumeManifest} (hs : s.current = some m) (hhash : m.fileHash = env.fileHash)
    (hsize : m.fileSize = 0) {attempts : List (Fact × Nat)}
    (hall : ∀ fact, fact ∈ attempts.map Prod.fst)
    (hlater : (attempts.map Prod.fst).head? ≠ some .md4Hashset) :
    (learn env file s attempts).current = some (file.learned m) ↔
      m.hasStructuralProgress = false ∧ (attempts.map Prod.fst).head? = some .job := by
  rw [current_learn hs]
  generalize attempts.map Prod.fst = facts at hall hlater
  constructor
  · intro hlearned
    have hlearned := congrArg ResumeManifest.fileSize (Option.some.inj hlearned)
    have hknown : (file.learned m).fileSize ≠ 0 := file.size_ne_zero
    have hprogress : m.hasStructuralProgress = false := by
      by_contra hprogress
      exact hknown (hlearned ▸ foldl_apply_of_progress facts hsize (by simpa using hprogress))
    refine ⟨hprogress, ?_⟩
    cases facts with
    | nil => exact absurd (hall .job) List.not_mem_nil
    | cons fact facts =>
      cases fact with
      | job => rfl
      | md4Hashset => exact absurd rfl hlater
      | aichRoot =>
        -- the root is stored, and counts as progress from then on
        have hroot : m.aichRoot = none :=
          (ResumeManifest.not_hasStructuralProgress_iff.mp hprogress).2.2.2.1
        have hstored : Fact.aichRoot.apply env file m =
            { m with aichRoot := some file.aichRoot } := by
          simp [Fact.apply, Fact.change, ResumeManifest.reconcileRoot, hroot]
        rw [List.foldl_cons, hstored] at hlearned
        refine absurd (hlearned ▸ foldl_apply_of_progress facts hsize ?_) hknown
        simp [ResumeManifest.hasStructuralProgress]
  · rintro ⟨hprogress, hhead⟩
    obtain ⟨facts, rfl⟩ : ∃ rest, facts = .job :: rest := List.head?_eq_some_iff.mp hhead
    have hroot : m.aichRoot = none :=
      (ResumeManifest.not_hasStructuralProgress_iff.mp hprogress).2.2.2.1
    rw [List.foldl_cons, apply_job hsize hprogress, foldl_apply_stage facts hhash hroot]
    have hrootMem : Fact.aichRoot ∈ facts := by simpa using hall .aichRoot
    have hhashsetMem : Fact.md4Hashset ∈ facts := by simpa using hall .md4Hashset
    simp [TrueFile.stage, TrueFile.learned, hrootMem, hhashsetMem]

/-! ## A sample -/

/-- A file of two bytes, which has no hashset of its own. -/
def sampleFile : TrueFile sampleEnv.digests sampleEnv.fileHash where
  name := "sample"
  size := 2
  aichRoot := ⟨Vector.replicate 20 7⟩
  md4Hashset := []
  size_ne_zero := by decide
  hashset_length := by decide
  hashset_valid := rfl

/-- The manifest of a download that starts from the hash alone. -/
def sampleUnknown : ResumeManifest := .new (newTransferJob sampleEnv.fileHash "sample" 0)

/-- With the size first, a sample file is learned. -/
theorem learned_iff_sample :
    (learn sampleEnv sampleFile ⟨some sampleUnknown, none, [], .absent, none⟩
      [(.job, 0), (.aichRoot, 1), (.md4Hashset, 2)]).current =
        some (sampleFile.learned sampleUnknown) :=
  (learned_iff sampleEnv sampleFile rfl rfl rfl (fun fact => by cases fact <;> decide)
    (by decide)).mpr (by decide)

/-- With the root first, it is not, although the size is tried twice after it. -/
theorem not_learned_sample :
    (learn sampleEnv sampleFile ⟨some sampleUnknown, none, [], .absent, none⟩
      [(.aichRoot, 0), (.job, 1), (.job, 2), (.md4Hashset, 3)]).current ≠
        some (sampleFile.learned sampleUnknown) := by
  decide +kernel

end Overlord.Emule
