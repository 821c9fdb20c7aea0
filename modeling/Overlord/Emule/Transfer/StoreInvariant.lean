import Overlord.Emule.Transfer.Effects

/-!
# Verified bytes are safe

What the operations of the runtime guarantee, command by command, whatever the peers send and
whatever file-system steps fail.  Between two operations the store is `Idle`: the manifest in memory
and the one in the file are both good, and every piece that is verified in the file is verified in
memory.  While an operation runs, only the first half of this holds (`Mid`), because the file is
written before the memory.

`Guarantee` is what each command keeps: a piece that is verified stays so and its bytes do not
change (`Keeps`), and a piece that was once verified in the file is found there again, or, while the
file is truncated, in memory (`Steady`).

* `safe_loadManifest`, `safe_storeManifest`, `safe_updateManifest` and `safe_appendPieceBlock` are
  the specifications of the operations.
* `verified_bytes_safe` — the invariant of the four operations on pieces, at every point of every
  run.
-/

set_option autoImplicit false

namespace Overlord.Emule

open Kad (Ed2kHash)
open Machine (Prog Process run)
open Machine.Prog (Safe)
open ResumeManifest (Good Advances Preserves Covered)

namespace Store

variable {d : Digests} {s s' s'' : Store}

/-- Both manifests are good, and one in memory has a file. -/
structure Mid (d : Digests) (s : Store) : Prop where
  cache : ∀ m, s.cache = some m → m.Good d s.bytes
  filed : ∀ m, s.filed = some m → m.Good d s.bytes
  absent : s.manifestFile = .absent → s.cache = none

/-- The store between two operations. -/
structure Idle (d : Digests) (s : Store) : Prop extends Mid d s where
  /-- The memory is not behind the file. -/
  agree : ∀ m m', s.cache = some m → s.filed = some m' → ∀ i, m'.VerifiedAt i → m.VerifiedAt i

/-- A known size stays; verified pieces stay verified, and their bytes stay as they are. -/
def Keeps (s s' : Store) : Prop :=
  ∀ m, s.current = some m → ∃ m', s'.current = some m' ∧
    (m.fileSize ≠ 0 → m'.fileSize = m.fileSize) ∧ ∀ i, m.VerifiedAt i →
      m'.VerifiedAt i ∧ m'.pieceBytes i s'.bytes = m.pieceBytes i s.bytes

/-- A piece is on record as verified: in the file, or in memory while the file is truncated. -/
def Recorded (i : Nat) (s : Store) : Prop :=
  match s.manifestFile with
  | .absent => False
  | .unreadable => ∃ m, s.cache = some m ∧ m.VerifiedAt i
  | .holds m => m.VerifiedAt i

/-- No record of a verified piece is lost. -/
def Steady (s s' : Store) : Prop := ∀ i, Recorded i s → Recorded i s'

/-- What every command keeps. -/
structure Guarantee (d : Digests) (s s' : Store) : Prop where
  mid : Mid d s'
  keeps : Keeps s s'
  steady : Steady s s'

theorem Keeps.refl (s : Store) : Keeps s s :=
  fun m hm => ⟨m, hm, fun _ => rfl, fun _ hi => ⟨hi, rfl⟩⟩

theorem Keeps.trans (h : Keeps s s') (h' : Keeps s' s'') : Keeps s s'' := by
  intro m hm
  obtain ⟨m₁, hm₁, hsize₁, hkeep₁⟩ := h m hm
  obtain ⟨m₂, hm₂, hsize₂, hkeep₂⟩ := h' m₁ hm₁
  refine ⟨m₂, hm₂, fun hsize => ?_, fun i hi => ?_⟩
  · exact (hsize₂ (by rwa [hsize₁ hsize])).trans (hsize₁ hsize)
  obtain ⟨hi₁, hbytes₁⟩ := hkeep₁ i hi
  obtain ⟨hi₂, hbytes₂⟩ := hkeep₂ i hi₁
  exact ⟨hi₂, hbytes₂.trans hbytes₁⟩

theorem Steady.refl (s : Store) : Steady s s := fun _ hi => hi

theorem Steady.trans (h : Steady s s') (h' : Steady s' s'') : Steady s s'' :=
  fun i hi => h' i (h i hi)

/-! ## Commands that change neither manifest nor bytes -/

theorem Quiet.mid (h : Quiet s s') (hs : Mid d s) : Mid d s' := by
  constructor
  · rw [h.cache, h.bytes]
    exact hs.cache
  · rw [h.filed, h.bytes]
    exact hs.filed
  · rw [h.manifestFile, h.cache]
    exact hs.absent

theorem Quiet.idle (h : Quiet s s') (hs : Idle d s) : Idle d s' := by
  refine ⟨h.mid hs.toMid, ?_⟩
  rw [h.cache, h.filed]
  exact hs.agree

theorem Quiet.guarantee (h : Quiet s s') (hs : Mid d s) : Guarantee d s s' := by
  refine ⟨h.mid hs, fun m hm => ⟨m, h.current ▸ hm, fun _ => rfl, fun i hi => ⟨hi, ?_⟩⟩, ?_⟩
  · rw [h.bytes]
  · intro i hi
    rw [Recorded, h.manifestFile, h.cache]
    exact hi

variable {α : Type} {Q : Except String α → Store → Prop}

theorem guarantee_of_quiet {op : Op α} (hop : Safe step Quiet Q op s) (hs : Mid d s) :
    Safe step (Guarantee d) Q op s :=
  hop.strengthen hs fun _ _ hmid hquiet => ⟨hquiet.mid hmid, hquiet.guarantee hmid⟩

/-! ## Loading and storing -/

section Manifests

variable (env : TransferEnv)

/-- Remembering a manifest that is in the file. -/
theorem safe_markManifestPersisted {m : ResumeManifest} (hs : Mid d s)
    (hfiled : s.filed = some m) (hcache : ∀ m', s.cache = some m' → Advances m' m)
    {Q : Except String Unit → Store → Prop}
    (hQ : ∀ s', Idle d s' → s'.cache = some m → s'.manifestFile = s.manifestFile →
      s'.bytes = s.bytes → Q (.ok ()) s') :
    Safe step (Guarantee d) Q (markManifestPersisted m) s := by
  have hidle : Idle d { s with cache := some m } := by
    refine ⟨⟨fun m' hm' => Option.some.inj hm' ▸ hs.filed m hfiled, hs.filed,
      fun habsent => ?_⟩, ?_⟩
    · rw [filed, habsent] at hfiled
      cases hfiled
    · intro m₁ m₂ hm₁ hm₂ i hi
      obtain rfl := Option.some.inj hm₁
      obtain rfl := Option.some.inj (hfiled.symm.trans hm₂)
      exact hi
  intro e reply s₁ hstep
  obtain rfl := step_setCache hstep
  refine ⟨⟨hidle.toMid, ?_, ?_⟩, ?_⟩
  · intro m' hm'
    have hadvances : Advances m' m := by
      rw [current] at hm'
      cases hcached : s.cache with
      | some m₁ =>
        rw [hcached, Option.some_or, Option.some.injEq] at hm'
        exact hm' ▸ hcache m₁ hcached
      | none =>
        rw [hcached, Option.none_or, hfiled, Option.some.injEq] at hm'
        exact hm' ▸ Advances.refl m
    refine ⟨m, rfl, hadvances.fileSize, fun i hi => ?_⟩
    obtain ⟨hi', hbytes⟩ := hadvances.verified i hi
    exact ⟨hi', hbytes _⟩
  · intro i hi
    rw [Recorded] at hi ⊢
    rw [filed] at hfiled
    split at hfiled
    next m₁ hfile =>
      rw [hfile] at hi ⊢
      exact hi
    · cases hfiled
  · refine safe_quiet rfl (·.guarantee hidle.toMid) fun e now s₂ _ hq₂ => ?_
    refine safe_quiet rfl (·.guarantee (hq₂.mid hidle.toMid)) fun e reply s₃ _ hq₃ => ?_
    have hq := hq₂.trans hq₃
    exact hQ s₃ (hq.idle hidle) hq.cache hq.manifestFile hq.bytes

/-- The store after a manifest has been loaded. -/
structure Loaded (d : Digests) (s : Store) (m : ResumeManifest) (s' : Store) : Prop where
  idle : Idle d s'
  current : s.current = some m
  cache : s'.cache = some m
  manifestFile : s'.manifestFile = s.manifestFile
  bytes : s'.bytes = s.bytes

/-- **Loading.**  A failure leaves everything as it was. -/
theorem safe_loadManifest (hs : Idle d s) :
    Safe step (Guarantee d)
      (fun r s' => match r with
        | .ok m => Loaded d s m s'
        | .error _ => Quiet s s') (loadManifest env) s := by
  refine safe_quiet rfl (·.guarantee hs.toMid) fun e cache s₁ hstep hq₁ => ?_
  obtain ⟨rfl, rfl⟩ := step_getCache hstep
  cases hcached : s₁.cache with
  | some m => exact ⟨hs, by rw [current, hcached]; rfl, hcached, rfl, rfl⟩
  | none =>
    refine safe_quiet rfl (·.guarantee hs.toMid) fun e reply s₂ hstep hq₂ => ?_
    cases reply with
    | error message => exact hq₂
    | ok decoded =>
      cases decoded with
      | none => exact hq₂
      | some m =>
        have hfiled := step_readManifest hstep rfl
        have hmark : Safe step (Guarantee d) (fun r s' => r = .ok () ∧ Loaded d s₁ m s')
            (markManifestPersisted m) s₂ := by
          refine safe_markManifestPersisted (hq₂.mid hs.toMid) (hq₂.filed.trans hfiled)
            (fun m' hm' => ?_) fun s' hidle hcache hfile hbytes => ?_
          · rw [hq₂.cache, hcached] at hm'
            cases hm'
          · refine ⟨rfl, hidle, ?_, hcache, hfile.trans hq₂.manifestFile, hbytes.trans hq₂.bytes⟩
            rw [current, hcached, Option.none_or, hfiled]
        exact hmark.bind (fun _ _ h => h.2) fun _ _ h => by cases h.1

/-- The store after a manifest has been written, or the attempt has failed. -/
structure Stored (d : Digests) (s : Store) (m : ResumeManifest) (s' : Store) : Prop where
  idle : Idle d s'
  cache : s'.cache = some m
  bytes : s'.bytes = s.bytes

/-- A truncated file, with its manifest still in memory. -/
theorem Idle.truncate (hs : Idle d s) {m : ResumeManifest} (hcache : s.cache = some m) :
    Idle d { s with manifestFile := .unreadable } ∧
      Guarantee d s { s with manifestFile := .unreadable } := by
  have hidle : Idle d { s with manifestFile := .unreadable } := ⟨⟨hs.cache, nofun, nofun⟩, nofun⟩
  refine ⟨hidle, hidle.toMid, fun m' hm' => ⟨m', ?_, fun _ => rfl, fun i hi => ⟨hi, rfl⟩⟩,
    fun i hi => ?_⟩
  · rw [current, hcache] at hm' ⊢
    exact hm'
  · refine ⟨m, hcache, ?_⟩
    rw [Recorded] at hi
    split at hi
    · exact hi.elim
    · obtain ⟨m', hm', hi⟩ := hi
      exact Option.some.inj (hm'.symm.trans hcache) ▸ hi
    next m' hfile => exact hs.agree m m' hcache (by rw [filed, hfile]) i hi

/-- **Storing.**  A manifest that advances the one in memory takes its place, in the file and then
in memory; if a step fails, the memory keeps the old one. -/
theorem safe_storeManifest (hs : Idle d s) {m m' : ResumeManifest} (hcache : s.cache = some m)
    (hgood : m'.Good d s.bytes) (hadvances : Advances m m') :
    Safe step (Guarantee d)
      (fun r s' => match r with
        | .ok _ => Stored d s m' s' ∧ s'.filed = some m'
        | .error _ => Stored d s m s') (storeManifest env m') s := by
  refine safe_quiet rfl (·.guarantee hs.toMid) fun e reply s₁ hstep hq₁ => ?_
  have hs₁ := hq₁.idle hs
  have hcache₁ := hq₁.cache.trans hcache
  cases reply with
  | error message => exact ⟨hs₁, hcache₁, hq₁.bytes⟩
  | ok =>
    intro e reply s₂ hstep
    obtain ⟨rfl, rfl⟩ | ⟨⟨message, rfl⟩, rfl⟩ := step_truncateManifest hstep
    · obtain ⟨hs₂, hguarantee⟩ := hs₁.truncate hcache₁
      refine ⟨hguarantee, ?_⟩
      intro e reply s₃ hstep
      obtain ⟨rfl, rfl⟩ | ⟨⟨message, rfl⟩, rfl⟩ := step_writeManifest hstep
      · have hmid : Mid d { s₁ with manifestFile := .holds m' } := by
          refine ⟨hs₁.cache, fun m₁ hm₁ => ?_, nofun⟩
          obtain rfl := Option.some.inj hm₁
          exact hq₁.bytes ▸ hgood
        refine ⟨⟨hmid, fun m₁ hm₁ => ⟨m₁, ?_, fun _ => rfl, fun i hi => ⟨hi, rfl⟩⟩, ?_⟩, ?_⟩
        · rw [current, hcache₁] at hm₁ ⊢
          exact hm₁
        · rintro i ⟨m₁, hm₁, hi⟩
          obtain rfl := Option.some.inj (hm₁.symm.trans hcache₁)
          exact (hadvances.verified i hi).1
        · refine safe_markManifestPersisted hmid rfl (fun m₁ hm₁ => ?_)
            fun s' hidle hcache' hfile hbytes => ?_
          · exact Option.some.inj (hcache₁.symm.trans hm₁) ▸ hadvances
          · exact ⟨⟨hidle, hcache', hbytes.trans hq₁.bytes⟩, by rw [filed, hfile]⟩
      · exact ⟨(hs₂.truncate hcache₁).2, hs₂, hcache₁, hq₁.bytes⟩
    · exact ⟨(⟨rfl, rfl, rfl⟩ : Quiet s₂ s₂).guarantee hs₁.toMid, hs₁, hcache₁, hq₁.bytes⟩

/-- **The operations that change the manifest.** -/
theorem safe_updateManifest {β : Type} {upsert : Bool}
    {change : ResumeManifest → Except String (β × Option ResumeManifest)} (hs : Idle d s)
    (hchange : ∀ m, s.current = some m → Preserves d change m) :
    Safe step (Guarantee d) (fun _ s' => Idle d s') (updateManifest env upsert change) s := by
  refine (safe_loadManifest env hs).bind (fun m s₁ hload => ?_) fun message s₁ hq => hq.idle hs
  refine safe_raise_bind (fun result hresult => ?_) fun _ _ => hload.idle
  obtain ⟨b, changed⟩ := result
  cases changed with
  | none => exact hload.idle
  | some m' =>
    have hgood : m.Good d s₁.bytes := hload.idle.cache m hload.cache
    obtain ⟨hgood', hadvances⟩ := hchange m hload.current _ b m' hgood hresult
    refine (safe_storeManifest env hload.idle hload.cache hgood' hadvances).bind
      (fun _ s₂ hstored => ?_) fun message s₂ hstored => hstored.idle
    have hidle₂ := hstored.1.idle
    exact (guarantee_of_quiet (quiet_upsertWhen upsert) hidle₂.toMid).bind
      (fun _ s₃ h₃ => h₃.1.idle hidle₂) fun _ s₃ h₃ => h₃.1.idle hidle₂

/-! ## Writing a block -/

/-- A write beside the verified pieces of a manifest. -/
theorem good_write {m : ResumeManifest} (hgood : m.Good d s.bytes) {start : Nat}
    {data : List UInt8}
    (hdisjoint : ∀ i, m.VerifiedAt i → i * m.pieceSize + m.lengthOf i ≤ start ∨
      start + data.length ≤ i * m.pieceSize) :
    m.Good d (s.write start data).bytes ∧
      ∀ i, m.VerifiedAt i → m.pieceBytes i (s.write start data).bytes = m.pieceBytes i s.bytes := by
  have hkept : ∀ i, m.VerifiedAt i →
      m.pieceBytes i (s.write start data).bytes = m.pieceBytes i s.bytes := by
    intro i hi
    obtain ⟨bytes, hread, -⟩ := hgood.sound i hi
    rw [hread]
    exact Blob.readAt_writeAt_of_disjoint hread (hdisjoint i hi)
  refine ⟨⟨hgood.wf, fun i hi => ?_⟩, hkept⟩
  rw [hkept i hi]
  exact hgood.sound i hi

/-- **A block for the manifest in memory.**  It lies in a piece that is not verified, there or in
the file; or else it is empty. -/
theorem Idle.write (hs : Idle d s) {m : ResumeManifest} (hcache : s.cache = some m)
    {i start stop dataLen bytesWritten : Nat}
    (hcheck : checkBlock m i start stop dataLen = .ok bytesWritten) {data : List UInt8}
    (hdata : data.length ≤ dataLen) :
    Idle d (s.write start data) ∧ Guarantee d s (s.write start data) := by
  have hgood := hs.cache m hcache
  obtain ⟨piece, hpiece, rfl, rfl, -, hle⟩ :=
    ResumeManifest.checkBlock_eq_ok hgood.wf.toShape hcheck
  have hmem := List.mem_of_getElem? hpiece
  have hindex := hgood.wf.pieceIndex_eq hpiece
  -- a verified piece of either manifest does not meet the block
  have hdisjoint : ∀ m' : ResumeManifest, m'.Good d s.bytes →
      (∀ j, m'.VerifiedAt j → m.VerifiedAt j) →
      data ≠ [] → ∀ j, m'.VerifiedAt j → j * m'.pieceSize + m'.lengthOf j ≤
        i * m.pieceSize + piece.bytesWritten ∨
        i * m.pieceSize + piece.bytesWritten + data.length ≤ j * m'.pieceSize := by
    intro m' hgood' hverified hne j hj
    have hdata' : 0 < data.length := List.length_pos_of_ne_nil hne
    have hij : j ≠ i := by
      rintro rfl
      obtain ⟨other, hother, hotherIndex, hstate⟩ := hverified j hj
      have hfull := (hgood.wf.bytes other hother).2.mpr hstate
      have hsame := hgood.wf.getElem?_pieceIndex hother
      rw [hotherIndex] at hsame hfull
      obtain rfl := Option.some.inj (hsame.symm.trans hpiece)
      omega
    have hlength : m'.lengthOf j ≤ m'.pieceSize := by
      rw [ResumeManifest.lengthOf, expectedPieceLength]
      omega
    have hlength' : m.lengthOf i ≤ m.pieceSize := by
      rw [ResumeManifest.lengthOf, expectedPieceLength]
      omega
    rw [hgood'.wf.pieceSize] at hlength ⊢
    rw [hgood.wf.pieceSize] at hlength' ⊢
    rcases Nat.lt_or_gt_of_ne hij with hlt | hgt
    · have := Nat.mul_le_mul_right ED2K_PART_SIZE hlt
      rw [Nat.succ_mul] at this
      omega
    · have := Nat.mul_le_mul_right ED2K_PART_SIZE hgt
      rw [Nat.succ_mul] at this
      omega
  have hwrite : ∀ m' : ResumeManifest, m'.Good d s.bytes → (∀ j, m'.VerifiedAt j → m.VerifiedAt j) →
      m'.Good d (s.write (i * m.pieceSize + piece.bytesWritten) data).bytes ∧
      ∀ j, m'.VerifiedAt j →
        m'.pieceBytes j (s.write (i * m.pieceSize + piece.bytesWritten) data).bytes =
          m'.pieceBytes j s.bytes := by
    intro m' hgood' hverified
    by_cases hne : data = []
    · subst hne
      exact ⟨hgood', fun _ _ => rfl⟩
    · exact good_write hgood' (hdisjoint m' hgood' hverified hne)
  have hmid : Mid d (s.write (i * m.pieceSize + piece.bytesWritten) data) := by
    refine ⟨fun m' hm' => ?_, fun m' hm' => ?_, hs.absent⟩
    · obtain rfl := Option.some.inj (hcache.symm.trans hm')
      exact (hwrite m hgood fun _ hj => hj).1
    · exact (hwrite m' (hs.filed m' hm') (hs.agree m m' hcache hm')).1
  refine ⟨⟨hmid, hs.agree⟩, hmid, fun m' hm' => ?_, fun j hj => hj⟩
  have hm : s.current = some m := by rw [current, hcache, Option.some_or]
  obtain rfl := Option.some.inj (hm.symm.trans hm')
  exact ⟨m, hm, fun _ => rfl, fun j hj => ⟨hj, (hwrite m hgood fun _ hj => hj).2 j hj⟩⟩

theorem safe_completePiece (hs : Idle d s) (henv : env.digests = d) {m : ResumeManifest}
    (hcache : s.cache = some m) {file i : Nat} {piece : PieceState}
    (hpiece : m.pieces[i]? = some piece) :
    Safe step (Guarantee d) (fun _ s' => Idle d s') (completePiece env m file i) s := by
  have hfail : ∀ {s'}, Quiet s s' → Idle d s' := fun hq => hq.idle hs
  refine safe_quiet rfl (·.guarantee hs.toMid) fun e reply s₁ _ hq₁ => ?_
  refine safe_raise_bind (fun _ _ => ?_) fun _ _ => hfail hq₁
  refine safe_quiet rfl (·.guarantee (hq₁.mid hs.toMid)) fun e reply s₂ _ hq₂ => ?_
  have hq₂ := hq₁.trans hq₂
  refine safe_quiet rfl (·.guarantee (hq₂.mid hs.toMid)) fun e reply s₃ _ hq₃ => ?_
  have hq₃ := hq₂.trans hq₃
  refine safe_context_bind (fun readFile _ => ?_) (hfail hq₃)
  refine safe_quiet rfl (·.guarantee (hq₃.mid hs.toMid)) fun e reply s₄ hread hq₄ => ?_
  have hq₄ := hq₃.trans hq₄
  refine safe_raise_bind (fun data hdata => ?_) fun _ _ => hfail hq₄
  refine safe_raise_bind (fun verified hverified => ?_) fun _ _ => hfail hq₄
  have hidle := hfail hq₄
  have hcache₄ := hq₄.cache.trans hcache
  have hbytes : m.pieceBytes i s₄.bytes = some data := by
    subst hdata
    rw [hq₄.bytes, ← hq₃.bytes]
    exact step_readPayload hread
  obtain ⟨hgood, hadvances⟩ := (hidle.cache m hcache₄).judgePiece hpiece hbytes (henv ▸ hverified)
  refine (guarantee_of_quiet (quiet_refreshCompletedManifestAichHashset env) hidle.toMid).bind
    (fun refreshed s₅ h₅ => ?_) fun _ s₅ h₅ => hfail (hq₄.trans h₅.1)
  obtain ⟨hq₅, hrefreshed⟩ := h₅
  obtain ⟨root, hashset, acquired, rfl⟩ := hrefreshed refreshed rfl
  have hq₅ := hq₄.trans hq₅
  refine (guarantee_of_quiet (quiet_upsertWhen verified) (hq₅.mid hs.toMid)).bind
    (fun _ s₆ h₆ => ?_) fun _ s₆ h₆ => absurd h₆.2 nofun
  have hq₆ := hq₅.trans h₆.1
  have hgood₆ : Good d (withAich (m.judgePiece i verified) root hashset acquired) s₆.bytes := by
    rw [hq₆.bytes, ← hq₄.bytes]
    exact hgood.of_metadata _ _ _ _ _
  exact (safe_storeManifest env (hfail hq₆) (hq₆.cache.trans hcache) hgood₆
    ⟨hadvances.fileSize, hadvances.verified⟩).bind (fun _ s₇ h₇ => h₇.1.idle)
    fun _ s₇ h₇ => h₇.idle

/-- Progress that is only remembered. -/
theorem Idle.setCache (hs : Idle d s) {m m' : ResumeManifest} (hcache : s.cache = some m)
    (hgood : m'.Good d s.bytes) (hadvances : Advances m m') :
    Idle d { s with cache := some m' } ∧ Guarantee d s { s with cache := some m' } := by
  have hidle : Idle d { s with cache := some m' } := by
    refine ⟨⟨fun m₁ hm₁ => Option.some.inj hm₁ ▸ hgood, hs.filed, fun habsent => ?_⟩,
      fun m₁ m₂ hm₁ hm₂ i hi => ?_⟩
    · exact absurd (hcache.symm.trans (hs.absent habsent)) nofun
    · obtain rfl := Option.some.inj hm₁
      exact (hadvances.verified i (hs.agree m m₂ hcache hm₂ i hi)).1
  refine ⟨hidle, hidle.toMid, fun m₁ hm₁ => ⟨m', rfl, ?_⟩, fun i hi => ?_⟩
  · rw [current, hcache, Option.some_or, Option.some.injEq] at hm₁
    subst hm₁
    refine ⟨hadvances.fileSize, fun i hi => ?_⟩
    obtain ⟨hi', hbytes⟩ := hadvances.verified i hi
    exact ⟨hi', hbytes _⟩
  · rw [Recorded] at hi ⊢
    cases hfile : s.manifestFile with
    | absent => rw [hfile] at hi; exact hi.elim
    | unreadable =>
      rw [hfile] at hi
      obtain ⟨m₁, hm₁, hi⟩ := hi
      obtain rfl := Option.some.inj (hm₁.symm.trans hcache)
      exact ⟨m', rfl, (hadvances.verified i hi).1⟩
    | holds m₁ => rw [hfile] at hi; exact hi

theorem safe_keepProgress (hs : Idle d s) {m m' : ResumeManifest} (hcache : s.cache = some m)
    (hgood : m'.Good d s.bytes) (hadvances : Advances m m') (file : Nat) :
    Safe step (Guarantee d) (fun _ s' => Idle d s') (keepProgress env m' file) s := by
  have hquiet : ∀ {s'}, Quiet s s' → Idle d s' ∧ s'.cache = some m ∧ m'.Good d s'.bytes :=
    fun hq => ⟨hq.idle hs, hq.cache.trans hcache, hq.bytes ▸ hgood⟩
  refine (guarantee_of_quiet quiet_shouldCheckpointManifest hs.toMid).bind
    (fun due s₁ h₁ => ?_) fun _ s₁ h₁ => absurd h₁.2 nofun
  obtain ⟨hq₁, -⟩ := h₁
  obtain ⟨hidle₁, -⟩ := hquiet hq₁
  cases due with
  | true =>
    refine safe_quiet rfl (·.guarantee hidle₁.toMid) fun e reply s₂ _ hq₂ => ?_
    have hq₂ := hq₁.trans hq₂
    obtain ⟨hidle₂, -⟩ := hquiet hq₂
    refine safe_raise_bind (fun _ _ => ?_) fun _ _ => hidle₂
    refine safe_quiet rfl (·.guarantee hidle₂.toMid) fun e reply s₃ _ hq₃ => ?_
    obtain ⟨hidle₃, hcache₃, hgood₃⟩ := hquiet (hq₂.trans hq₃)
    exact (safe_storeManifest env hidle₃ hcache₃ hgood₃ hadvances).bind
      (fun _ s₄ h₄ => h₄.1.idle) fun _ s₄ h₄ => h₄.idle
  | false =>
    refine safe_quiet rfl (·.guarantee hidle₁.toMid) fun e reply s₂ _ hq₂ => ?_
    obtain ⟨hidle, hcache', hgood'⟩ := hquiet (hq₁.trans hq₂)
    intro e reply s₃ hstep
    obtain rfl := step_setCache hstep
    obtain ⟨hidle₃, hguarantee⟩ := hidle.setCache hcache' hgood' hadvances
    exact ⟨hguarantee, hidle₃⟩

/-- **Appending.** -/
theorem safe_appendPieceBlock (hs : Idle d s) (henv : env.digests = d) (i start stop : Nat)
    (data : List UInt8) :
    Safe step (Guarantee d) (fun _ s' => Idle d s') (appendPieceBlock env i start stop data) s := by
  refine (safe_loadManifest env hs).bind (fun m s₁ hload => ?_) fun message s₁ hq => hq.idle hs
  refine safe_raise_bind (fun bytesWritten hcheck => ?_) fun _ _ => hload.idle
  refine safe_quiet rfl (·.guarantee hload.idle.toMid) fun e reply s₂ _ hq₂ => ?_
  have hidle₂ := hq₂.idle hload.idle
  have hcache₂ := hq₂.cache.trans hload.cache
  refine safe_context_bind (fun file _ => ?_) hidle₂
  refine safe_sys fun e reply s₃ hstep => ?_
  obtain ⟨rfl, rfl⟩ | ⟨⟨message, rfl⟩, landed, rfl⟩ := step_writePayload hstep
  · obtain ⟨hidle₃, hguarantee⟩ := hidle₂.write hcache₂ hcheck (Nat.le_refl _)
    refine ⟨hguarantee, safe_raise_bind (fun _ _ => ?_) nofun⟩
    have hgood₃ := hidle₃.cache m hcache₂
    dsimp only
    split
    next =>
      obtain ⟨piece, hpiece, -⟩ := ResumeManifest.checkBlock_eq_ok hgood₃.wf.toShape hcheck
      exact safe_completePiece env hidle₃ henv hcache₂ hpiece
    next hincomplete =>
      obtain ⟨hgood', hadvances⟩ := hgood₃.extendPiece hcheck hincomplete
      exact safe_keepProgress env hidle₃ hcache₂ hgood' hadvances file
  · obtain ⟨hidle₃, hguarantee⟩ :=
      hidle₂.write hcache₂ hcheck (List.length_take_le' landed data)
    exact ⟨hguarantee, hidle₃⟩

/-- **Reading.**  What is returned are bytes of verified pieces. -/
theorem safe_readVerifiedRange (hs : Idle d s) (start stop : Nat) :
    Safe step (Guarantee d)
      (fun r s' => Idle d s' ∧ s'.current = s.current ∧ s'.bytes = s.bytes ∧
        ∀ bytes, r = .ok (some bytes) → ∃ m, s.current = some m ∧
          Blob.readAt start (stop - start) s.bytes = some bytes ∧
          ∀ offset, start ≤ offset → offset < stop → Covered m.verifiedRanges offset)
      (readVerifiedRange env start stop) s := by
  refine (safe_loadManifest env hs).bind (fun m s₁ hload => ?_) fun message s₁ hq =>
    ⟨hq.idle hs, hq.current, hq.bytes, fun _ h => by cases h⟩
  have hloaded : s₁.current = s.current := by
    rw [hload.current, current, hload.cache]
    rfl
  split
  next hrange =>
    obtain ⟨range, hmem, hbounds⟩ := List.any_eq_true.mp hrange
    obtain ⟨hstart, hstop⟩ := of_decide_eq_true hbounds
    refine safe_quiet rfl (·.guarantee hload.idle.toMid) fun e reply s₂ _ hq₂ => ?_
    have hidle₂ := hq₂.idle hload.idle
    refine safe_context_bind (fun file _ => ?_)
      ⟨hidle₂, hq₂.current.trans hloaded, hq₂.bytes.trans hload.bytes, fun _ h => by cases h⟩
    refine safe_quiet rfl (·.guarantee hidle₂.toMid) fun e reply s₃ hread hq₃ => ?_
    have hend : Idle d s₃ ∧ s₃.current = s.current ∧ s₃.bytes = s.bytes :=
      ⟨hq₃.idle hidle₂, hq₃.current.trans (hq₂.current.trans hloaded),
        hq₃.bytes.trans (hq₂.bytes.trans hload.bytes)⟩
    refine safe_raise_bind (fun bytes hbytes => ?_) fun _ _ =>
      ⟨hend.1, hend.2.1, hend.2.2, fun _ h => by cases h⟩
    refine ⟨hend.1, hend.2.1, hend.2.2, fun bytes' hbytes' => ?_⟩
    obtain rfl := Option.some.inj (Except.ok.inj hbytes')
    subst hbytes
    refine ⟨m, hload.current, ?_, fun offset hlow hhigh => ?_⟩
    · rw [← hload.bytes, ← hq₂.bytes]
      exact step_readPayload hread
    · exact ⟨range, hmem, Nat.le_trans hstart hlow, Nat.lt_of_lt_of_le hhigh hstop⟩
  next => exact ⟨hload.idle, hloaded, hload.bytes, fun _ h => by cases h⟩

end Manifests

end Store

/-! ## Runs of the operations on pieces -/

namespace Store

/-- Every call keeps the invariant. -/
theorem safe_pieceCall (env : TransferEnv) (call : PieceCall) {s : Store}
    (hs : Idle env.digests s) :
    Safe step (Guarantee env.digests) (fun _ => Idle env.digests) (call.body env) s := by
  cases call with
  | claimNextMissingPart =>
    exact (safe_updateManifest env hs fun m _ => ResumeManifest.preserves_claimNext m).bind
      (fun _ _ h => h) fun _ _ h => h
  | releasePieceRequest i =>
    exact safe_updateManifest env hs fun m _ => ResumeManifest.preserves_releasePiece i m
  | reclaimStalePieceRequests =>
    exact (safe_updateManifest env hs fun m _ => ResumeManifest.preserves_reclaimStale m).bind
      (fun _ _ h => h) fun _ _ h => h
  | appendPieceBlock i start stop data =>
    exact (safe_appendPieceBlock env hs rfl i start stop data).bind (fun _ _ h => h) fun _ _ h => h

theorem idle_of_filed {d : Digests} {s : Store} {m : ResumeManifest}
    (hfile : s.manifestFile = .holds m) (hcache : s.cache = none ∨ s.cache = some m)
    (hgood : m.Good d s.bytes) : Idle d s ∧ s.current = some m := by
  have hfiled : s.filed = some m := by rw [filed, hfile]
  rcases hcache with hnone | hsome
  · refine ⟨⟨⟨?_, ?_, fun _ => hnone⟩, ?_⟩, by rw [current, hnone, hfiled]; rfl⟩
    · simp [hnone]
    · simpa [hfiled] using hgood
    · simp [hnone]
  · refine ⟨⟨⟨?_, ?_, fun habsent => ?_⟩, ?_⟩, by rw [current, hsome]; rfl⟩
    · simpa [hsome] using hgood
    · simpa [hfiled] using hgood
    · cases hfile.symm.trans habsent
    · simp [hsome, hfiled]

/-- **Verified bytes are safe.**  Take any calls of the four operations on pieces, from any number
of sessions, and stop anywhere, also inside a call; any file-system step may have failed.  Then
every verified piece has the recorded digest, and whatever happens later, it stays verified and its
bytes stay the same; no piece has more bytes than its length; the ranges offered for upload cover
exactly the verified pieces; the file is completed exactly if all its pieces are verified; and a
read returns bytes of verified pieces only. -/
theorem verified_bytes_safe (env : TransferEnv) {s₀ : Store} {m₀ : ResumeManifest}
    (hfile : s₀.manifestFile = .holds m₀) (hcache : s₀.cache = none ∨ s₀.cache = some m₀)
    (hsize : m₀.fileSize ≠ 0) (hgood : m₀.Good env.digests s₀.bytes)
    {events : List (Process.Event PieceCall Choice)}
    {p : Process Cmd Cmd.Reply String Unit Store}
    (hrun : run (Process.step step (PieceCall.body env)) (.idle s₀ (.ok ())) events = some p) :
    ∃ m, p.state.current = some m ∧
      (∀ i, m.VerifiedAt i → ∃ data, m.pieceBytes i p.state.bytes = some data ∧
        m.recordedDigest i = some (env.digests.md4 data)) ∧
      (∀ later p', run (Process.step step (PieceCall.body env)) p later = some p' →
        ∃ m', p'.state.current = some m' ∧ ∀ i, m.VerifiedAt i →
          m'.VerifiedAt i ∧ m'.pieceBytes i p'.state.bytes = m.pieceBytes i p.state.bytes) ∧
      (∀ piece ∈ m.pieces, piece.bytesWritten ≤
        expectedPieceLength m.fileSize m.pieceSize piece.pieceIndex) ∧
      (∀ offset, Covered m.verifiedRanges offset ↔ ∃ i, m.VerifiedAt i ∧ m.InPiece i offset) ∧
      (m.completed = true ↔ ∀ piece ∈ m.pieces, piece.state = .verified) ∧
      (∀ result, p.task = .done result → ∀ start stop choices bytes s',
        (readVerifiedRange env start stop).exec step p.state choices =
          some (.ok (some bytes), s') →
        ∀ k < bytes.length, bytes[k]? = p.state.bytes[start + k]? ∧
          ∃ i, m.VerifiedAt i ∧ m.InPiece i (start + k)) := by
  obtain ⟨hidle, hcurrent⟩ := idle_of_filed hfile hcache hgood
  have hall : ∀ {p p' : Process Cmd Cmd.Reply String Unit Store} {events},
      Process.Safe step (Guarantee env.digests) (Idle env.digests) p →
      run (Process.step step (PieceCall.body env)) p events = some p' →
      ((Mid env.digests p.state → Mid env.digests p'.state) ∧ Keeps p.state p'.state) ∧
        Process.Safe step (Guarantee env.digests) (Idle env.digests) p' := by
    intro p p' events hp hrun
    refine Process.safe_run (H := fun s s' => (Mid env.digests s → Mid env.digests s') ∧ Keeps s s')
      (fun call s hs => safe_pieceCall env call hs) ?_ ?_ ?_ hp hrun
    · exact fun s s' hG => ⟨fun _ => hG.mid, hG.keeps⟩
    · exact fun s => ⟨id, Keeps.refl s⟩
    · exact fun s s' s'' h h' => ⟨h'.1 ∘ h.1, h.2.trans h'.2⟩
  obtain ⟨⟨hmid, hkeeps⟩, hsafe⟩ := hall (Process.safe_idle hidle) hrun
  have hmid := hmid hidle.toMid
  obtain ⟨m, hm, hfileSize, -⟩ := hkeeps m₀ hcurrent
  have hgood' : m.Good env.digests p.state.bytes := by
    rw [current, Option.or_eq_some_iff] at hm
    exact hm.elim (hmid.cache m) fun hfiled => hmid.filed m hfiled.2
  refine ⟨m, hm, hgood'.sound, ?_, fun piece hpiece => (hgood'.wf.bytes piece hpiece).1,
    fun offset => hgood'.wf.covered_iff, ?_, ?_⟩
  · intro later p' hlater
    obtain ⟨⟨-, hkeeps'⟩, -⟩ := hall hsafe hlater
    obtain ⟨m', hm', -, hverified⟩ := hkeeps' m hm
    exact ⟨m', hm', hverified⟩
  · have hpieces : m.pieces.isEmpty = false := by
      rw [List.isEmpty_eq_false_iff, ← List.length_pos_iff, hgood'.wf.length_pieces,
        hgood'.wf.pieceSize, hfileSize hsize, pieceCount, if_neg hsize]
      have := ED2K_PART_SIZE_pos
      exact Nat.lt_min.mpr ⟨Nat.div_pos (by omega) this, by decide⟩
    rw [hgood'.wf.completed, hpieces, ResumeManifest.isFullyVerified]
    simp
  · intro result htask start stop choices bytes s' hexec k hk
    have hidle' : Idle env.digests p.state := by
      rw [Process.Safe, htask] at hsafe
      exact hsafe
    obtain ⟨-, -, -, hread⟩ := (safe_readVerifiedRange env hidle' start stop).of_exec hexec
    obtain ⟨m', hm', hbytes, hcovered⟩ := hread bytes rfl
    obtain rfl := Option.some.inj (hm.symm.trans hm')
    obtain ⟨hlength, hget⟩ := Blob.readAt_eq_some_iff.mp hbytes
    refine ⟨(hget k (hlength ▸ hk)).symm, hgood'.wf.covered_iff.mp (hcovered _ ?_ ?_)⟩ <;> omega

/-- A file of two bytes; the digest of a list of bytes repeats the first one. -/
def sampleEnv : TransferEnv where
  digests :=
    { md4 := fun bytes => ⟨Vector.replicate 16 (bytes.headD 0)⟩
      sha1 := fun bytes => ⟨Vector.replicate 20 (bytes.headD 0)⟩ }
  rootDir := "transfers"
  fileHash := ⟨Vector.replicate 16 1⟩

/-- Its manifest, before anything has been written. -/
def sampleManifest : ResumeManifest :=
  { ResumeManifest.new (newTransferJob sampleEnv.fileHash "sample" 2) with
    md4HashsetAcquired := true
    aichRoot := some ⟨Vector.replicate 20 0⟩ }

def sampleStore : Store := ⟨some sampleManifest, none, [], .holds sampleManifest, none⟩

theorem sampleManifest_good (payload : List UInt8) :
    sampleManifest.Good sampleEnv.digests payload :=
  ResumeManifest.good_of_missing rfl rfl rfl rfl fun _ => rfl

/-- The piece of the sample is claimed and its two bytes are appended. -/
theorem verified_bytes_safe_sample :
    ∃ p, run (Process.step step (PieceCall.body sampleEnv)) (.idle sampleStore (.ok ()))
        (.call .claimNextMissingPart :: List.replicate 7 (.tick (.ok 0)) ++
          .call (.appendPieceBlock 0 0 2 [1, 2]) :: List.replicate 14 (.tick (.ok 1))) = some p ∧
      ∃ m, p.state.current = some m ∧ m.VerifiedAt 0 ∧
        ∃ data, m.pieceBytes 0 p.state.bytes = some data ∧
          m.recordedDigest 0 = some (sampleEnv.digests.md4 data) := by
  have hstate : (run (Process.step step (PieceCall.body sampleEnv)) (.idle sampleStore (.ok ()))
      (.call .claimNextMissingPart :: List.replicate 7 (.tick (.ok 0)) ++
        .call (.appendPieceBlock 0 0 2 [1, 2]) :: List.replicate 14 (.tick (.ok 1)))).bind
      (·.state.cache) = some (sampleManifest.judgePiece 0 true) := by decide +kernel
  obtain ⟨p, hrun, hcache⟩ := Option.bind_eq_some_iff.mp hstate
  obtain ⟨m, hm, hsound, -⟩ := verified_bytes_safe sampleEnv
    (rfl : sampleStore.manifestFile = .holds sampleManifest) (.inr rfl) (by decide)
    (sampleManifest_good _) hrun
  rw [current, hcache, Option.some_or, Option.some.injEq] at hm
  subst hm
  have hverified : (sampleManifest.judgePiece 0 true).VerifiedAt 0 := by
    rw [ResumeManifest.VerifiedAt]
    decide +kernel
  exact ⟨p, hrun, _, by rw [current, hcache]; rfl, hverified, hsound 0 hverified⟩

end Store

end Overlord.Emule
