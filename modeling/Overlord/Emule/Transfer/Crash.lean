import Overlord.Emule.Transfer.StoreInvariant

/-!
# Crashes

The process that runs the transfer operations may die at any point, also in the middle of an
operation.  Its memory is lost, the files stay as they are, and the next process starts with
`ensure_job`.

`store_manifest_unlocked` overwrites the manifest in place.  Between the two halves of the write the
file is empty; a process that dies there leaves a file that does not decode, and `ensure_job` moves
it away and starts with an empty manifest.  Every piece that was on record as verified is forgotten
(`not_verified_after_crash`).  At any other point nothing is lost (`verified_after_crash`).

* `lifeStep` — the machine: the events of a process, and its death at any of them.
* `Blank` — a store without a manifest, where nothing can be lost; `ensure_job` starts from one.
* `readable_transferCall` — every call keeps the invariant of `StoreInvariant`, on a store whose
  manifest can be read if it is there.
* `Living.step`, `living_run` — no step that is undisturbed loses a record of a verified piece.
-/

set_option autoImplicit false

namespace Overlord.Emule

open Kad (Ed2kHash)
open Machine (Prog Process Handler Meets run)
open Machine.Prog (Safe)

namespace Store

/-- A command on a store whose manifest can be read as long as it is there.  Any other step may
fail, as a step does that a crash interrupts. -/
def readable : Handler Cmd Cmd.Reply Store Choice := fun s c choice =>
  match c, choice with
  | .manifestExists, .fail _ _ => none
  | .readManifest, .fail _ _ => none
  | c, choice => s.step c choice

/-- The store in front of a new process. -/
def lose (s : Store) : Store := { s with cache := none, checkpoint := none, catalog := [] }

/-- An empty directory. -/
def fresh : Store := ⟨none, none, [], .absent, none⟩

end Store

/-- What can happen to the process. -/
inductive LifeEvent where
  | event (event : Process.Event TransferCall Choice)
  /-- It dies, and another one takes its place. -/
  | crash
deriving DecidableEq

/-- One step of the process and its successors. -/
def lifeStep (env : TransferEnv) (p : Process Cmd Cmd.Reply String Unit Store) :
    LifeEvent → Option (Process Cmd Cmd.Reply String Unit Store)
  | .event event => Process.step Store.readable (TransferCall.body env) p event
  | .crash => some (.idle p.state.lose (.ok ()))

/-- The condition under which nothing is lost: no crash while the manifest is being overwritten, and
no hashset for a file that has another one. -/
def Undisturbed (p : Process Cmd Cmd.Reply String Unit Store) : LifeEvent → Prop
  | .crash => p.state.manifestFile ≠ .unreadable
  | .event (.call (.storeMd4Hashset md4Hashset)) => ∀ m, p.state.current = some m →
    m.md4HashsetAcquired = true → md4Hashset = m.md4Hashset
  | .event _ => True

instance (p : Process Cmd Cmd.Reply String Unit Store) :
    ∀ event, Decidable (Undisturbed p event)
  | .crash => inferInstanceAs (Decidable (_ ≠ _))
  | .event (.call (.storeMd4Hashset md4Hashset)) =>
    decidable_of_iff (∀ m ∈ p.state.current,
      m.md4HashsetAcquired = true → md4Hashset = m.md4Hashset) Iff.rfl
  | .event (.call (.ensureJob _ _)) | .event (.call .manifest) | .event (.call (.piece _))
  | .event (.call (.readVerifiedRange _ _)) | .event (.call (.rememberSource _))
  | .event (.call (.reconcileJobMetadata _ _)) | .event (.call (.storeAichHashset _))
  | .event (.call (.reconcileAichRoot _)) | .event (.tick _) => .isTrue trivial

namespace Store

variable {d : Digests} {s s' : Store} {α : Type} {Q : Except String α → Store → Prop}

theorem step_of_readable {c : Cmd} {e : Choice} {result : c.Reply × Store}
    (h : readable s c e = some result) : s.step c e = some result := by
  cases c <;> cases e <;> first | exact h | exact absurd h nofun

/-- What is safe on any store is safe on one that can be read. -/
theorem safe_readable {op : Op α} (h : Safe step (Guarantee d) Q op s) :
    Safe readable (Guarantee d) Q op s :=
  h.of_handler fun _ _ e _ _ hstep => ⟨e, step_of_readable hstep⟩

/-! ## A store without a manifest -/

/-- Neither memory nor file hold a manifest. -/
structure Blank (s : Store) : Prop where
  cache : s.cache = none
  filed : s.filed = none

theorem Quiet.blank (h : Quiet s s') (hs : Blank s) : Blank s' :=
  ⟨h.cache.trans hs.cache, h.filed.trans hs.filed⟩

theorem Blank.idle (hs : Blank s) : Idle d s where
  cache _ hm := absurd (hs.cache.symm.trans hm) nofun
  filed _ hm := absurd (hs.filed.symm.trans hm) nofun
  agree _ _ hm := absurd (hs.cache.symm.trans hm) nofun
  absent _ := hs.cache

/-- Where there is no manifest, none can be lost. -/
theorem Blank.guarantee (hs : Blank s) (hmid : Mid d s') : Guarantee d s s' := by
  refine ⟨hmid, fun m hm => ?_, fun i hi => ?_⟩
  · rw [current, hs.cache, hs.filed] at hm
    cases hm
  · rw [Recorded] at hi
    have hfiled := hs.filed
    rw [Store.filed] at hfiled
    cases hfile : s.manifestFile with
    | absent => rw [hfile] at hi; exact hi.elim
    | unreadable =>
      rw [hfile] at hi
      obtain ⟨m, hm, -⟩ := hi
      cases hs.cache.symm.trans hm
    | holds m => rw [hfile] at hfiled; cases hfiled

/-! ## The operations -/

section Operations

variable (env : TransferEnv)

/-- The first manifest of a file. -/
theorem safe_storeManifest_of_blank (hs : Blank s) {m : ResumeManifest}
    (hgood : ∀ payload, m.Good d payload) :
    Safe step (Guarantee d) (fun _ => Idle d) (storeManifest env m) s := by
  refine safe_quiet rfl (·.guarantee hs.idle.toMid) fun e reply s₁ _ hq₁ => ?_
  have hs₁ := hq₁.blank hs
  cases reply with
  | error message => exact hs₁.idle
  | ok =>
    intro e reply s₂ hstep
    have hs₂ : Blank { s₁ with manifestFile := .unreadable } := ⟨hs₁.cache, rfl⟩
    obtain ⟨rfl, rfl⟩ | ⟨⟨message, rfl⟩, rfl⟩ := step_truncateManifest hstep
    · refine ⟨hs₁.guarantee hs₂.idle.toMid, ?_⟩
      intro e reply s₃ hstep
      obtain ⟨rfl, rfl⟩ | ⟨⟨message, rfl⟩, rfl⟩ := step_writeManifest hstep
      · have hmid : Mid d { s₁ with manifestFile := .holds m } := by
          refine ⟨hs₂.idle.cache, fun m₁ hm₁ => ?_, nofun⟩
          obtain rfl := Option.some.inj hm₁
          exact hgood _
        refine ⟨hs₂.guarantee hmid, ?_⟩
        refine safe_markManifestPersisted hmid rfl
          (fun m₁ hm₁ => absurd (hs₁.cache.symm.trans hm₁) nofun)
          fun s' hidle _ _ _ => hidle
      · exact ⟨hs₂.guarantee hs₂.idle.toMid, hs₂.idle⟩
    · exact ⟨hs₁.guarantee hs₁.idle.toMid, hs₁.idle⟩

theorem readable_manifestExists {e : Choice} {reply : Except String Bool}
    (hstep : readable s .manifestExists e = some (reply, s')) :
    s' = s ∧ (reply = .ok true ∨ reply = .ok false ∧ s.manifestFile = .absent) := by
  cases e with
  | ok now =>
    obtain ⟨hreply, rfl⟩ := Prod.mk.inj (Option.some.inj hstep)
    refine ⟨rfl, ?_⟩
    by_cases hfile : s.manifestFile = .absent
    · exact .inr ⟨by simpa [hfile] using hreply.symm, hfile⟩
    · exact .inl (by simpa [hfile] using hreply.symm)
  | fail message landed => exact absurd hstep nofun

/-- The rule for a quiet command. -/
theorem readable_quiet {c : Cmd} (hc : c.quiet = true) {f : c.Reply → Op α} (hs : Mid d s)
    (hf : ∀ e reply s', readable s c e = some (reply, s') → Quiet s s' →
      Safe readable (Guarantee d) Q (f reply) s') :
    Safe readable (Guarantee d) Q (Op.sys c >>= f) s := by
  intro e reply s' hstep
  have hquiet := quiet_of_step hc (step_of_readable hstep)
  exact ⟨hquiet.guarantee hs, hf e reply s' hstep hquiet⟩

/-- The store after an attempt to load the manifest. -/
def Attempted (d : Digests) (r : Except String (Except String ResumeManifest)) (s : Store) : Prop :=
  match r with
  | .ok (.ok _) => Idle d s
  | .ok (.error _) => Blank s
  | .error _ => False

/-- **Loading from a store that can be read.**  It fails only if there is no manifest. -/
theorem readable_loadManifest (hs : Idle d s) :
    Safe readable (Guarantee d) (fun r => Attempted d (.ok r)) (loadManifest env) s := by
  refine readable_quiet rfl hs.toMid fun e cache s₁ hstep hq₁ => ?_
  obtain ⟨rfl, rfl⟩ := step_getCache (step_of_readable hstep)
  cases hcached : s₁.cache with
  | some m => exact hs
  | none =>
    refine readable_quiet rfl hs.toMid fun e reply s₂ hstep hq₂ => ?_
    cases e with
    | fail message landed => cases hstep
    | ok now =>
      have hperform : s₁.perform now .readManifest = (reply, s₂) := Option.some.inj hstep
      rw [perform] at hperform
      split at hperform
      next hfile =>
        obtain ⟨rfl, rfl⟩ := Prod.mk.inj hperform
        exact ⟨hcached, by rw [filed, hfile]⟩
      next hfile =>
        obtain ⟨rfl, rfl⟩ := Prod.mk.inj hperform
        exact ⟨hcached, by rw [filed, hfile]⟩
      next m hfile =>
        obtain ⟨rfl, rfl⟩ := Prod.mk.inj hperform
        have hmark : Safe step (Guarantee d) (fun r s' => r = .ok () ∧ Idle d s')
            (markManifestPersisted m) s₁ :=
          safe_markManifestPersisted hs.toMid (by rw [filed, hfile])
            (fun m' hm' => by cases hcached.symm.trans hm') fun s' hidle _ _ _ => ⟨rfl, hidle⟩
        exact (safe_readable hmark).bind (fun _ _ h => h.2) fun _ _ h => by cases h.1

theorem readable_quarantineCorruptManifest (hs : Blank s) :
    Safe readable (Guarantee d) (fun _ => Blank) (quarantineCorruptManifest env) s := by
  refine readable_quiet rfl hs.idle.toMid fun e reply s₁ hstep hq₁ => ?_
  obtain ⟨rfl, rfl | ⟨rfl, -⟩⟩ := readable_manifestExists hstep
  · refine readable_quiet rfl hs.idle.toMid fun e now s₂ _ hq₂ => ?_
    have hs₂ := hq₂.blank hs
    intro e reply s₃ hstep
    cases e with
    | ok now =>
      obtain ⟨rfl, rfl⟩ := Prod.mk.inj (Option.some.inj hstep)
      have hs₃ : Blank { s₂ with manifestFile := .absent } := ⟨hs₂.cache, rfl⟩
      exact ⟨hs₂.guarantee hs₃.idle.toMid, hs₃⟩
    | fail message landed =>
      obtain ⟨rfl, rfl⟩ := Prod.mk.inj (Option.some.inj hstep)
      exact ⟨hs₂.guarantee hs₂.idle.toMid, hs₂⟩
  · exact hs

theorem good_new (canonicalName : String) (fileSize : Nat) (payload : List UInt8) :
    (ResumeManifest.new (newTransferJob env.fileHash canonicalName fileSize)).Good d payload :=
  ResumeManifest.good_of_missing rfl rfl rfl rfl nofun

/-- **Starting.**  A manifest is replaced only if it cannot be read. -/
theorem readable_ensureJob (hs : Idle d s) (canonicalName : String) (fileSize : Nat) :
    Safe readable (Guarantee d) (fun _ => Idle d)
      (ensureJob env (newTransferJob env.fileHash canonicalName fileSize)) s := by
  have hfirst : ∀ {s' : Store}, Blank s' → Safe readable (Guarantee d) (fun _ => Idle d)
      (do
        storeManifest env (.new (newTransferJob env.fileHash canonicalName fileSize))
        pure (ResumeManifest.new (newTransferJob env.fileHash canonicalName fileSize))) s' := by
    intro s' hs'
    have hstore := safe_storeManifest_of_blank env hs'
      (good_new (d := d) env canonicalName fileSize)
    exact (safe_readable hstore).bind (fun _ _ h => h) fun _ _ h => h
  refine readable_quiet rfl hs.toMid fun e reply s₁ _ hq₁ => ?_
  have hs₁ := hq₁.idle hs
  cases reply with
  | error message => exact hs₁
  | ok =>
    refine readable_quiet rfl hs₁.toMid fun e reply s₂ hstep hq₂ => ?_
    obtain ⟨rfl, rfl | ⟨rfl, hfile⟩⟩ := readable_manifestExists hstep
    · refine ((readable_loadManifest env hs₁).attempt (Q := Attempted d)).bind
        (fun r s₃ h => ?_) fun _ _ h => h.elim
      cases r with
      | ok m => exact h
      | error message =>
        exact (readable_quarantineCorruptManifest env h).bind (fun _ _ h => hfirst h)
          fun _ _ h => h.idle
    · exact hfirst ⟨hs₁.absent hfile, by rw [filed, hfile]⟩

theorem safe_forget {β : Type} {op : Op β} {J : Store → Prop}
    (h : Safe readable (Guarantee d) (fun _ => J) op s) :
    Safe readable (Guarantee d) (fun _ => J) op.forget s :=
  h.bind (fun _ _ hJ => hJ) fun _ _ hJ => hJ

/-- **Every call keeps the invariant**, unless it brings another hashset. -/
theorem readable_transferCall {p : Process Cmd Cmd.Reply String Unit Store}
    (hs : Idle env.digests p.state) (call : TransferCall)
    (hcall : Undisturbed p (.event (.call call))) :
    Safe readable (Guarantee env.digests) (fun _ => Idle env.digests) (call.body env) p.state := by
  have hupdate : ∀ {β : Type} {upsert : Bool}
      {change : ResumeManifest → Except String (β × Option ResumeManifest)},
      (∀ m, p.state.current = some m → ResumeManifest.Preserves env.digests change m) →
      Safe readable (Guarantee env.digests) (fun _ => Idle env.digests)
        (updateManifest env upsert change) p.state := fun hchange =>
    safe_readable (safe_updateManifest env hs hchange)
  cases call with
  | ensureJob canonicalName fileSize =>
    exact safe_forget (readable_ensureJob env hs canonicalName fileSize)
  | manifest =>
    refine safe_forget (safe_readable ((safe_loadManifest env hs).post fun r s' h => ?_))
    cases r with
    | ok m => exact h.idle
    | error message => exact h.idle hs
  | piece call => exact safe_readable (safe_pieceCall env call hs)
  | readVerifiedRange start stop =>
    exact safe_forget (safe_readable ((safe_readVerifiedRange env hs start stop).post
      fun _ _ h => h.1))
  | rememberSource source =>
    exact hupdate fun m _ => ResumeManifest.preserves_rememberSource source m
  | reconcileJobMetadata canonicalName fileSize =>
    exact safe_forget (hupdate fun m _ =>
      ResumeManifest.preserves_reconcileJob canonicalName fileSize m)
  | storeMd4Hashset md4Hashset =>
    exact safe_forget (hupdate fun m hm =>
      ResumeManifest.preserves_acquireMd4Hashset (hcall m hm))
  | storeAichHashset aichHashset =>
    exact safe_forget (hupdate fun m _ =>
      ResumeManifest.preserves_acquireAichHashset aichHashset m)
  | reconcileAichRoot aichRoot =>
    exact safe_forget (hupdate fun m _ => ResumeManifest.preserves_reconcileRoot aichRoot m)

end Operations

/-! ## Lives -/

variable {env : TransferEnv} {p p' : Process Cmd Cmd.Reply String Unit Store}

/-- The invariant of the process and its successors. -/
structure Living (d : Digests) (p : Process Cmd Cmd.Reply String Unit Store) : Prop where
  mid : Mid d p.state
  safe : Process.Safe readable (Guarantee d) (Idle d) p

theorem living_fresh : Living d (.idle fresh (.ok ())) :=
  have hblank : Blank fresh := ⟨rfl, rfl⟩
  ⟨hblank.idle.toMid, hblank.idle⟩

theorem Mid.lose (hs : Mid d s) : Idle d s.lose :=
  ⟨⟨nofun, hs.filed, fun _ => rfl⟩, nofun⟩

/-- **One step.**  If it is undisturbed, no record of a verified piece is lost. -/
theorem Living.step {event : LifeEvent} (hp : Living env.digests p) (hC : Undisturbed p event)
    (hstep : lifeStep env p event = some p') :
    Living env.digests p' ∧ Steady p.state p'.state := by
  cases event with
  | crash =>
    obtain rfl := Option.some.inj hstep
    refine ⟨⟨hp.mid.lose.toMid, hp.mid.lose⟩, fun i hi => ?_⟩
    rw [Recorded] at hi
    cases hfile : p.state.manifestFile with
    | absent => rw [hfile] at hi; exact hi.elim
    | unreadable => exact absurd hfile hC
    | holds m =>
      rw [hfile] at hi
      change Recorded i p.state.lose
      rw [Recorded, Store.lose, hfile]
      exact hi
  | event event =>
    have hbody : ∀ call, event = .call call → Idle env.digests p.state →
        Safe readable (Guarantee env.digests) (fun _ => Idle env.digests) (call.body env) p.state :=
      fun call hcall hs => readable_transferCall env hs call (hcall ▸ hC)
    obtain ⟨hstate, hsafe⟩ := hp.safe.step hbody hstep
    rcases hstate with hsame | hG
    · exact ⟨⟨hsame ▸ hp.mid, hsafe⟩, hsame ▸ Steady.refl _⟩
    · exact ⟨⟨hG.mid, hsafe⟩, hG.steady⟩

theorem living_run {events : List LifeEvent} (hp : Living env.digests p)
    (hmeets : Meets (lifeStep env) Undisturbed p events)
    (hrun : run (lifeStep env) p events = some p') :
    Living env.digests p' ∧ Steady p.state p'.state :=
  Machine.run_of_meets (H := fun p p' => Steady p.state p'.state) (fun _ => Steady.refl _)
    (fun _ _ _ => Steady.trans) (fun _ _ _ hs hC hstep => hs.step hC hstep) hp hmeets hrun

/-- **What was verified before a crash is verified after it.**  Take any run of operations, crashes
and restarts, and a piece that is verified in the manifest file at some point of it.  Let the run
end with a crash.  If no crash hits while the manifest is being overwritten, and no hashset is
stored for a file that has another one, the next process finds a manifest in which the piece is
verified. -/
theorem verified_after_crash (env : TransferEnv) {events before : List LifeEvent}
    (hrun : run (lifeStep env) (.idle fresh (.ok ())) (events ++ [.crash]) = some p')
    (hmeets : Meets (lifeStep env) Undisturbed (.idle fresh (.ok ())) (events ++ [.crash]))
    (hbefore : before <+: events)
    (hpoint : run (lifeStep env) (.idle fresh (.ok ())) before = some p)
    {m : ResumeManifest} (hfile : p.state.manifestFile = .holds m) {i : Nat} (hi : m.VerifiedAt i)
    (job : TransferJob) (now : Nat) :
    ∃ m' s', (ensureJob env job).interp (fun s c => s.perform now c) p'.state = (.ok m', s') ∧
      (loadManifest env).interp (fun s c => s.perform now c) s' = (.ok m', s') ∧
      m'.VerifiedAt i := by
  obtain ⟨after, rfl⟩ := hbefore
  rw [List.append_assoc] at hrun hmeets
  obtain ⟨p₁, hp₁, hrest⟩ := Machine.run_append hrun
  obtain rfl := Option.some.inj (hpoint.symm.trans hp₁)
  have hliving := (living_run living_fresh (hmeets.of_prefix (List.prefix_append _ _)) hpoint).1
  obtain ⟨-, hsteady⟩ := living_run hliving (hmeets.of_append hpoint) hrest
  have hrecorded : Recorded i p'.state := hsteady i (by rw [Recorded, hfile]; exact hi)
  -- the last step was a crash, so that the memory is empty
  obtain ⟨p₂, -, hcrash⟩ := Machine.run_append hrest
  obtain rfl := Option.some.inj hcrash
  obtain ⟨⟨cache, checkpoint, catalog, manifestFile, payload⟩, task⟩ := p₂
  cases manifestFile with
  | absent => exact hrecorded.elim
  | unreadable =>
    obtain ⟨m', hm', -⟩ := hrecorded
    cases hm'
  | holds m' => exact ⟨m', _, rfl, rfl, hrecorded⟩

/-- A call and the ticks it takes. -/
def ticking (call : TransferCall) (ticks : Nat) : List LifeEvent :=
  .event (.call call) :: List.replicate ticks (.event (.tick (.ok 0)))

/-- The job of the sample file. -/
def sampleJob : TransferJob := newTransferJob sampleEnv.fileHash "sample" 2

/-- The sample file is downloaded. -/
def sampleDownload : List LifeEvent :=
  ticking (.ensureJob "sample" 2) 8 ++ ticking (.storeMd4Hashset []) 7 ++
    ticking (.reconcileAichRoot (some ⟨Vector.replicate 20 0⟩)) 8 ++
    ticking (.piece .claimNextMissingPart) 7 ++
    ticking (.piece (.appendPieceBlock 0 0 2 [1, 2])) 14

theorem exists_sampleDownload : ∃ p,
    run (lifeStep sampleEnv) (.idle fresh (.ok ())) sampleDownload = some p ∧
      p.state.manifestFile = .holds (sampleManifest.judgePiece 0 true) ∧
      (sampleManifest.judgePiece 0 true).VerifiedAt 0 := by
  have hstate : (run (lifeStep sampleEnv) (.idle fresh (.ok ())) sampleDownload).map
      (·.state.manifestFile) = some (.holds (sampleManifest.judgePiece 0 true)) := by
    decide +kernel
  obtain ⟨p, hrun, hfile⟩ := Option.map_eq_some_iff.mp hstate
  refine ⟨p, hrun, hfile, ?_⟩
  rw [ResumeManifest.VerifiedAt]
  decide +kernel

/-- A crash between two operations. -/
theorem verified_after_crash_sample : ∃ p',
    run (lifeStep sampleEnv) (.idle fresh (.ok ())) (sampleDownload ++ [.crash]) = some p' ∧
      ∃ m' s', (ensureJob sampleEnv sampleJob).interp (fun s c => s.perform 0 c) p'.state =
          (.ok m', s') ∧ m'.VerifiedAt 0 := by
  obtain ⟨p, hpoint, hfile, hverified⟩ := exists_sampleDownload
  obtain ⟨p', hrun⟩ := Option.isSome_iff_exists.mp (by decide +kernel :
    (run (lifeStep sampleEnv) (.idle fresh (.ok ())) (sampleDownload ++ [.crash])).isSome = true)
  have hmeets : Meets (lifeStep sampleEnv) Undisturbed (.idle fresh (.ok ()))
      (sampleDownload ++ [.crash]) := by decide +kernel
  obtain ⟨m', s', hjob, -, hverified'⟩ := verified_after_crash sampleEnv hrun hmeets
    (List.prefix_refl _) hpoint hfile hverified sampleJob 0
  exact ⟨p', hrun, m', s', hjob, hverified'⟩

/-- **A crash in the middle of a write forgets everything.**  The piece of the sample file is
verified and on record.  Then a source is remembered, and the process dies when the manifest file
has been truncated; the next process starts with an empty manifest. -/
theorem not_verified_after_crash : ∃ p p' m,
    run (lifeStep sampleEnv) (.idle fresh (.ok ())) sampleDownload = some p ∧
      p.state.manifestFile = .holds m ∧ m.VerifiedAt 0 ∧
      run (lifeStep sampleEnv) (.idle fresh (.ok ()))
        (sampleDownload ++ ticking (.rememberSource ⟨"10.0.0.1", 4662, none⟩) 3 ++ [.crash]) =
          some p' ∧
      ((ensureJob sampleEnv sampleJob).interp (fun s c => s.perform 0 c) p'.state).1 =
        .ok (.new sampleJob) ∧
      ¬ (ResumeManifest.new sampleJob).VerifiedAt 0 := by
  obtain ⟨p, hpoint, hfile, hverified⟩ := exists_sampleDownload
  have hend : (run (lifeStep sampleEnv) (.idle fresh (.ok ()))
      (sampleDownload ++ ticking (.rememberSource ⟨"10.0.0.1", 4662, none⟩) 3 ++ [.crash])).map
        (fun p => ((ensureJob sampleEnv sampleJob).interp (fun s c => s.perform 0 c) p.state).1) =
      some (.ok (.new sampleJob)) := by decide +kernel
  obtain ⟨p', hrun, hjob⟩ := Option.map_eq_some_iff.mp hend
  refine ⟨p, p', _, hpoint, hfile, hverified, hrun, hjob, ?_⟩
  rw [ResumeManifest.VerifiedAt]
  decide +kernel

end Store

end Overlord.Emule
