import Overlord.Emule.Transfer.ManifestInvariant

/-!
# What the operations do to the manifest

The effect of the operations of the runtime on the manifest that the next one will load, whatever
the manifest is and whatever file-system steps fail.  An operation that returns has replaced it by
the manifest its change asks for; one that fails has left it alone.  `Effect` is the assertion for
this.

* `Quiet` — a command that touches neither manifest nor bytes; `quiet_of_step` finds these commands
  by their name (`Cmd.quiet`), so that proofs about programs pass over them in one step.
* `step_readManifest`, `step_writePayload`, … — the reply of each of the other commands.
* `effect_loadManifest`, `effect_storeManifest` — the two ends of every operation.
* `effect_appendPieceBlock` — the operation that is not of this form.
-/

set_option autoImplicit false

namespace Overlord.Emule

open Machine (Prog Handler)
open Machine.Prog (Safe)

namespace Store

/-- The manifest in the file, if it can be read. -/
def filed (s : Store) : Option ResumeManifest :=
  match s.manifestFile with
  | .holds m => some m
  | _ => none

/-- The manifest the next operation will load. -/
def current (s : Store) : Option ResumeManifest := s.cache.or s.filed

/-! ## Commands that change neither manifest nor bytes -/

variable {s s' s'' : Store}

/-- Nothing has changed that the invariant is about. -/
structure Quiet (s s' : Store) : Prop where
  cache : s'.cache = s.cache
  manifestFile : s'.manifestFile = s.manifestFile
  bytes : s'.bytes = s.bytes

theorem Quiet.filed (h : Quiet s s') : s'.filed = s.filed := by
  rw [Store.filed, Store.filed, h.manifestFile]

theorem Quiet.current (h : Quiet s s') : s'.current = s.current := by
  rw [Store.current, Store.current, h.cache, h.filed]

theorem Quiet.refl (s : Store) : Quiet s s := ⟨rfl, rfl, rfl⟩

theorem Quiet.trans (h : Quiet s s') (h' : Quiet s' s'') : Quiet s s'' :=
  ⟨h'.cache.trans h.cache, h'.manifestFile.trans h.manifestFile, h'.bytes.trans h.bytes⟩

end Store

/-- The commands that change neither manifest nor the bytes of the payload. -/
def Cmd.quiet : Cmd → Bool
  | .setCache _ | .truncateManifest | .writeManifest _ | .renameManifest | .writePayload _ _ _ =>
    false
  | _ => true

namespace Store

variable {s s' : Store}

theorem quiet_of_step {c : Cmd} (hc : c.quiet = true) {e : Choice} {reply : c.Reply}
    (hstep : step s c e = some (reply, s')) : Quiet s s' := by
  have hsame : Quiet s s := ⟨rfl, rfl, rfl⟩
  cases e with
  | ok now =>
    obtain rfl : (s.perform now c).2 = s' := by rw [Option.some.inj hstep]
    cases c with
    | setCache _ | truncateManifest | writeManifest _ | renameManifest | writePayload _ _ _ =>
      exact absurd hc nofun
    | readManifest =>
      rw [perform]
      split <;> exact hsame
    | openPayload create =>
      rw [perform]
      split
      · exact ⟨rfl, rfl, rfl⟩
      · split <;> exact hsame
    | readPayload _ start len =>
      rw [perform]
      split <;> exact hsame
    | _ => exact ⟨rfl, rfl, rfl⟩
  | fail message landed =>
    cases c with
    | setCache _ | truncateManifest | writeManifest _ | renameManifest | writePayload _ _ _ =>
      exact absurd hc nofun
    | createDirAll | manifestExists | readManifest | openPayload _ | flushPayload _
    | readPayload _ _ _ =>
      obtain ⟨-, rfl⟩ := Prod.mk.inj (Option.some.inj hstep)
      exact hsame
    | _ => exact absurd hstep nofun

/-! ## Replies -/

/-- Memory replies with what it holds. -/
theorem step_getCache {e : Choice} {reply : Option ResumeManifest}
    (hstep : step s .getCache e = some (reply, s')) : reply = s.cache ∧ s' = s := by
  cases e with
  | ok now =>
    obtain ⟨rfl, rfl⟩ := Prod.mk.inj (Option.some.inj hstep)
    exact ⟨rfl, rfl⟩
  | fail message landed => exact absurd hstep nofun

theorem step_setCache {m : ResumeManifest} {e : Choice} {reply : Unit}
    (hstep : step s (.setCache m) e = some (reply, s')) : s' = { s with cache := some m } := by
  cases e with
  | ok now => exact (Prod.mk.inj (Option.some.inj hstep)).2.symm
  | fail message landed => exact absurd hstep nofun

theorem step_readManifest {e : Choice} {reply : Except String (Option ResumeManifest)}
    {m : ResumeManifest} (hstep : step s .readManifest e = some (reply, s'))
    (hreply : reply = .ok (some m)) : s.filed = some m := by
  cases e with
  | ok now =>
    have hreply' : (s.perform now .readManifest).1 = .ok (some m) := by
      rw [Option.some.inj hstep]
      exact hreply
    rw [perform] at hreply'
    rw [filed]
    split at hreply'
    · exact absurd hreply' nofun
    · exact absurd hreply' nofun
    next m₁ hfile =>
      rw [hfile]
      exact Except.ok.inj hreply'
  | fail message landed =>
    obtain ⟨hfail, -⟩ := Prod.mk.inj (Option.some.inj hstep)
    exact absurd (hfail.trans hreply) nofun

theorem step_truncateManifest {e : Choice} {reply : Except String Unit}
    (hstep : step s .truncateManifest e = some (reply, s')) :
    reply = .ok () ∧ s' = { s with manifestFile := .unreadable } ∨
      (∃ message, reply = .error message) ∧ s' = s := by
  cases e with
  | ok now =>
    obtain ⟨rfl, rfl⟩ := Prod.mk.inj (Option.some.inj hstep)
    exact .inl ⟨rfl, rfl⟩
  | fail message landed =>
    obtain ⟨rfl, rfl⟩ := Prod.mk.inj (Option.some.inj hstep)
    exact .inr ⟨⟨message, rfl⟩, rfl⟩

theorem step_writeManifest {m : ResumeManifest} {e : Choice} {reply : Except String Unit}
    (hstep : step s (.writeManifest m) e = some (reply, s')) :
    reply = .ok () ∧ s' = { s with manifestFile := .holds m } ∨
      (∃ message, reply = .error message) ∧ s' = { s with manifestFile := .unreadable } := by
  cases e with
  | ok now =>
    obtain ⟨rfl, rfl⟩ := Prod.mk.inj (Option.some.inj hstep)
    exact .inl ⟨rfl, rfl⟩
  | fail message landed =>
    obtain ⟨rfl, rfl⟩ := Prod.mk.inj (Option.some.inj hstep)
    exact .inr ⟨⟨message, rfl⟩, rfl⟩

theorem step_writePayload {handle start : Nat} {data : List UInt8} {e : Choice}
    {reply : Except String Unit}
    (hstep : step s (.writePayload handle start data) e = some (reply, s')) :
    reply = .ok () ∧ s' = s.write start data ∨
      (∃ message, reply = .error message) ∧ ∃ landed, s' = s.write start (data.take landed) := by
  cases e with
  | ok now =>
    obtain ⟨rfl, rfl⟩ := Prod.mk.inj (Option.some.inj hstep)
    exact .inl ⟨rfl, rfl⟩
  | fail message landed =>
    obtain ⟨rfl, rfl⟩ := Prod.mk.inj (Option.some.inj hstep)
    exact .inr ⟨⟨message, rfl⟩, landed, rfl⟩

theorem step_readPayload {handle start len : Nat} {e : Choice} {data : List UInt8}
    (hstep : step s (.readPayload handle start len) e = some (.ok data, s')) :
    Blob.readAt start len s.bytes = some data := by
  cases e with
  | ok now =>
    have hreply : (s.perform now (.readPayload handle start len)).1 = .ok data := by
      rw [Option.some.inj hstep]
    rw [perform] at hreply
    split at hreply
    next bytes hread => rw [hread, Except.ok.inj hreply]
    · exact absurd hreply nofun
  | fail message landed => exact absurd hstep nofun

/-! ## Effects -/

section

variable {α β E : Type} {h : Handler Cmd Cmd.Reply Store E} {G : Store → Store → Prop}
  {Q : Except String α → Store → Prop}

/-- The rule for a command. -/
theorem safe_sys {c : Cmd} {f : c.Reply → Op α}
    (hf : ∀ e reply s', h s c e = some (reply, s') → G s s' ∧ Safe h G Q (f reply) s') :
    Safe h G Q (Op.sys c >>= f) s :=
  hf

/-- The rule for `?` on a result that is at hand. -/
theorem safe_raise_bind {r : Except String β} {f : β → Op α}
    (hok : ∀ b, r = .ok b → Safe h G Q (f b) s)
    (herror : ∀ message, r = .error message → Q (.error message) s) :
    Safe h G Q (Op.raise r >>= f) s := by
  cases r with
  | ok b => exact hok b rfl
  | error message => exact herror message rfl

/-- The rule for `with_context(..)?`. -/
theorem safe_context_bind {message : String} {r : Except String β} {f : β → Op α}
    (hok : ∀ b, r = .ok b → Safe h G Q (f b) s) (herror : Q (.error message) s) :
    Safe h G Q (Op.context message r >>= f) s := by
  cases r with
  | ok b => exact hok b rfl
  | error _ => exact herror

/-- The rule for a quiet command. -/
theorem safe_quiet {c : Cmd} (hc : c.quiet = true) (hG : ∀ {s'}, Quiet s s' → G s s')
    {f : c.Reply → Op α}
    (hf : ∀ e reply s', step s c e = some (reply, s') → Quiet s s' →
      Safe step G Q (f reply) s') : Safe step G Q (Op.sys c >>= f) s := by
  refine safe_sys fun e reply s' hstep => ?_
  have hquiet := quiet_of_step hc hstep
  exact ⟨hG hquiet, hf e reply s' hstep hquiet⟩

/-- A manifest that is in memory stays there, and one that has a file keeps it. -/
structure Stays (s s' : Store) : Prop where
  cache : s'.cache = none → s.cache = none
  manifestFile : s'.manifestFile = .absent → s.manifestFile = .absent

theorem Stays.refl (s : Store) : Stays s s := ⟨id, id⟩

theorem Quiet.stays (h : Quiet s s') : Stays s s' :=
  ⟨fun hnone => h.cache ▸ hnone, fun habsent => h.manifestFile ▸ habsent⟩

/-- What becomes of the store when a program has run, whatever file-system steps fail. -/
def Effect (Q : Except String α → Store → Prop) (op : Op α) (s : Store) : Prop :=
  Safe step Stays Q op s

theorem effect_quiet {c : Cmd} (hc : c.quiet = true) {f : c.Reply → Op α}
    (hf : ∀ e reply s', step s c e = some (reply, s') → Quiet s s' → Effect Q (f reply) s') :
    Effect Q (Op.sys c >>= f) s :=
  safe_quiet hc Quiet.stays hf

theorem effect_of_quiet {op : Op α} (hop : Safe step Quiet Q op s) : Effect Q op s :=
  hop.mono (fun _ _ hquiet => hquiet.stays) fun _ _ hQ => hQ

end

variable (env : TransferEnv) {m m' : ResumeManifest}

theorem effect_markManifestPersisted :
    Effect (fun r s' => r = .ok () ∧ s'.cache = some m) (markManifestPersisted m) s := by
  intro e reply s₁ hstep
  obtain rfl := step_setCache hstep
  refine ⟨⟨nofun, id⟩, effect_quiet rfl fun e now s₂ _ hq₂ => ?_⟩
  refine effect_quiet rfl fun e reply s₃ _ hq₃ => ⟨rfl, ?_⟩
  exact (hq₂.trans hq₃).cache

theorem current_of_cache (h : s.cache = some m) : s.current = some m := by
  rw [current, h, Option.some_or]

/-- **Loading.** -/
theorem effect_loadManifest (hs : s.current = some m) :
    Effect (fun r s' => match r with
      | .ok m' => m' = m ∧ s'.cache = some m
      | .error _ => Quiet s s') (loadManifest env) s := by
  refine effect_quiet rfl fun e cache s₁ hstep hq₁ => ?_
  obtain ⟨rfl, rfl⟩ := step_getCache hstep
  cases hcached : s₁.cache with
  | some m₁ =>
    have hm₁ : m₁ = m := Option.some.inj ((current_of_cache hcached).symm.trans hs)
    exact ⟨hm₁, hm₁ ▸ hcached⟩
  | none =>
    refine effect_quiet rfl fun e reply s₂ hstep hq₂ => ?_
    refine safe_context_bind (fun decoded hdecoded => ?_) hq₂
    cases decoded with
    | none => exact hq₂
    | some m₁ =>
      have hfiled := step_readManifest hstep hdecoded
      have hm₁ : m₁ = m := by
        rw [current, hcached, Option.none_or, hfiled] at hs
        exact Option.some.inj hs
      subst hm₁
      exact effect_markManifestPersisted.bind (fun _ _ h => ⟨rfl, h.2⟩) fun _ _ h =>
        absurd h.1 nofun

/-- **Storing.** -/
theorem effect_storeManifest (hs : s.cache = some m) :
    Effect (fun r s' => match r with
      | .ok _ => s'.cache = some m'
      | .error _ => s'.cache = some m) (storeManifest env m') s := by
  refine effect_quiet rfl fun e reply s₁ _ hq₁ => ?_
  have hs₁ := hq₁.cache.trans hs
  refine safe_context_bind (fun _ _ => ?_) hs₁
  intro e reply s₂ hstep
  obtain ⟨rfl, rfl⟩ | ⟨⟨message, rfl⟩, rfl⟩ := step_truncateManifest hstep
  · refine ⟨⟨id, nofun⟩, ?_⟩
    intro e reply s₃ hstep
    obtain ⟨rfl, rfl⟩ | ⟨⟨message, rfl⟩, rfl⟩ := step_writeManifest hstep
    · refine ⟨⟨id, nofun⟩, ?_⟩
      refine effect_markManifestPersisted.post fun r s₄ h => ?_
      obtain ⟨rfl, hcache⟩ := h
      exact hcache
    · exact ⟨⟨id, nofun⟩, hs₁⟩
  · exact ⟨.refl s₂, hs₁⟩

theorem quiet_upsertWhen (condition : Bool) :
    Safe step Quiet (fun r s' => Quiet s s' ∧ r = .ok ()) (upsertWhen condition m) s := by
  cases condition with
  | false => exact ⟨.refl s, rfl⟩
  | true => exact safe_quiet rfl id fun e reply s₁ _ hq₁ => ⟨hq₁, rfl⟩

/-- A manifest with other AICH data. -/
def withAich (m : ResumeManifest) (aichRoot : Option AichHash) (aichHashset : List AichHash)
    (aichHashsetAcquired : Bool) : ResumeManifest :=
  { m with
    aichRoot := aichRoot, aichHashset := aichHashset, aichHashsetAcquired := aichHashsetAcquired }

/-- What an append that returns has done to the manifest. -/
def Appended (m : ResumeManifest) (i bytesWritten : Nat) (completed : Bool) (m' : ResumeManifest) :
    Prop :=
  if bytesWritten = m.lengthOf i then
    ∃ root hashset acquired, m' = withAich (m.judgePiece i completed) root hashset acquired
  else completed = false ∧ m' = m.extendPiece i bytesWritten

theorem quiet_refreshCompletedManifestAichHashset :
    Safe step Quiet (fun r s' => Quiet s s' ∧ ∀ m', r = .ok m' → ∃ root hashset acquired,
      m' = withAich m root hashset acquired) (refreshCompletedManifestAichHashset env m) s := by
  rw [refreshCompletedManifestAichHashset]
  split
  · exact ⟨.refl s, fun m' hm' => ⟨_, _, _, (Except.ok.inj hm').symm⟩⟩
  · split
    · exact ⟨.refl s, nofun⟩
    · refine safe_quiet rfl id fun e reply s₁ _ hq₁ => ?_
      refine safe_context_bind (fun file _ => ?_) ⟨hq₁, nofun⟩
      refine safe_quiet rfl id fun e reply s₂ _ hq₂ => ?_
      refine safe_context_bind (fun bytes _ => ?_) ⟨hq₁.trans hq₂, nofun⟩
      refine safe_raise_bind (fun hashset _ => ?_) fun message _ => ⟨hq₁.trans hq₂, nofun⟩
      exact ⟨hq₁.trans hq₂, fun m' hm' => ⟨_, _, _, (Except.ok.inj hm').symm⟩⟩

theorem effect_completePiece (hs : s.cache = some m) (file i : Nat) :
    Effect (fun r s' => match r with
      | .ok completed => ∃ root hashset acquired,
          s'.cache = some (withAich (m.judgePiece i completed) root hashset acquired)
      | .error _ => s'.cache = some m) (completePiece env m file i) s := by
  have hfail : ∀ {s' : Store}, Quiet s s' → s'.cache = some m := fun hq => hq.cache.trans hs
  refine effect_quiet rfl fun e reply s₁ _ hq₁ => ?_
  refine safe_raise_bind (fun _ _ => ?_) fun _ _ => hfail hq₁
  refine effect_quiet rfl fun e reply s₂ _ hq₂ => effect_quiet rfl fun e reply s₃ _ hq₃ => ?_
  have hq₃ := (hq₁.trans hq₂).trans hq₃
  refine safe_context_bind (fun readFile _ => ?_) (hfail hq₃)
  refine effect_quiet rfl fun e reply s₄ _ hq₄ => ?_
  have hq₄ := hq₃.trans hq₄
  refine safe_raise_bind (fun data _ => ?_) fun _ _ => hfail hq₄
  refine safe_raise_bind (fun verified _ => ?_) fun _ _ => hfail hq₄
  refine (effect_of_quiet (quiet_refreshCompletedManifestAichHashset env)).bind
    (fun refreshed s₅ h₅ => ?_)
    fun _ s₅ h₅ => hfail (hq₄.trans h₅.1)
  obtain ⟨root, hashset, acquired, rfl⟩ := h₅.2 refreshed rfl
  refine (effect_of_quiet (quiet_upsertWhen verified)).bind (fun _ s₆ h₆ => ?_)
    fun _ s₆ h₆ => absurd h₆.2 nofun
  have hq₆ := (hq₄.trans h₅.1).trans h₆.1
  refine (effect_storeManifest env (hfail hq₆)).bind (fun _ s₇ h₇ => ?_) fun _ s₇ h₇ => h₇
  exact ⟨root, hashset, acquired, h₇⟩

theorem quiet_shouldCheckpointManifest :
    Safe step Quiet (fun r s' => Quiet s s' ∧ ∃ due, r = .ok due)
      (shouldCheckpointManifest m) s := by
  have hstate : Safe step Quiet (fun r s' => Quiet s s' ∧ ∃ state, r = .ok state)
      (checkpointState m.progressBytes) s := by
    refine safe_quiet rfl id fun e reply s₁ _ hq₁ => ?_
    cases reply with
    | some state => exact ⟨hq₁, state, rfl⟩
    | none =>
      refine safe_quiet rfl id fun e now s₂ _ hq₂ => safe_quiet rfl id fun e reply s₃ _ hq₃ => ?_
      exact ⟨(hq₁.trans hq₂).trans hq₃, _, rfl⟩
  refine hstate.bind (fun state s₁ h₁ => ?_) fun _ s₁ h₁ => absurd h₁.2 nofun
  obtain ⟨hq₁, -⟩ := h₁
  dsimp only
  split
  · exact ⟨hq₁, _, rfl⟩
  · split
    · exact ⟨hq₁, _, rfl⟩
    · exact safe_quiet rfl id fun e now s₂ _ hq₂ => ⟨hq₁.trans hq₂, _, rfl⟩

theorem effect_keepProgress (hs : s.cache = some m) (file : Nat) :
    Effect (fun r s' => match r with
      | .ok completed => completed = false ∧ s'.cache = some m'
      | .error _ => s'.cache = some m) (keepProgress env m' file) s := by
  refine (effect_of_quiet quiet_shouldCheckpointManifest).bind (fun due s₁ h₁ => ?_) fun _ s₁ h₁ =>
    absurd h₁.2 nofun
  obtain ⟨hq₁, -⟩ := h₁
  cases due with
  | true =>
    refine effect_quiet rfl fun e reply s₂ _ hq₂ => ?_
    refine safe_raise_bind (fun _ _ => ?_) fun _ _ => (hq₁.trans hq₂).cache.trans hs
    refine effect_quiet rfl fun e reply s₃ _ hq₃ => ?_
    refine (effect_storeManifest env (((hq₁.trans hq₂).trans hq₃).cache.trans hs)).bind
      (fun _ s₄ h₄ => ⟨rfl, h₄⟩) fun _ s₄ h₄ => h₄
  | false =>
    refine effect_quiet rfl fun e reply s₂ _ hq₂ => ?_
    intro e reply s₃ hstep
    obtain rfl := step_setCache hstep
    exact ⟨⟨nofun, id⟩, rfl, rfl⟩

/-- **Appending.** -/
theorem effect_appendPieceBlock (hs : s.current = some m) (i start stop : Nat)
    (data : List UInt8) :
    Effect (fun r s' => match r with
      | .ok completed => ∃ bytesWritten m', checkBlock m i start stop data.length =
          .ok bytesWritten ∧ s'.current = some m' ∧
            Appended m i (bytesWritten + data.length) completed m'
      | .error _ => s'.current = some m) (appendPieceBlock env i start stop data) s := by
  refine (effect_loadManifest env hs).bind (fun m₁ s₁ h₁ => ?_) fun _ s₁ hq => hq.current.trans hs
  obtain ⟨rfl, hcache⟩ := h₁
  refine safe_raise_bind (fun bytesWritten hcheck => ?_) fun _ _ => current_of_cache hcache
  refine effect_quiet rfl fun e reply s₂ _ hq₂ => ?_
  have hcache₂ := hq₂.cache.trans hcache
  refine safe_context_bind (fun file _ => ?_) (current_of_cache hcache₂)
  refine safe_sys fun e reply s₃ hstep => ?_
  obtain ⟨rfl, rfl⟩ | ⟨⟨message, rfl⟩, landed, rfl⟩ := step_writePayload hstep
  · refine ⟨⟨id, id⟩, ?_⟩
    have hcache₃ : (s₂.write start data).cache = some m₁ := hcache₂
    refine safe_raise_bind (fun _ _ => ?_) nofun
    dsimp only
    split
    next hcomplete =>
      refine (effect_completePiece env hcache₃ file i).post fun r s' h => ?_
      cases r with
      | error message => exact current_of_cache h
      | ok completed =>
        obtain ⟨root, hashset, acquired, hcache'⟩ := h
        refine ⟨bytesWritten, _, hcheck, current_of_cache hcache', ?_⟩
        rw [Appended, ResumeManifest.lengthOf, if_pos hcomplete]
        exact ⟨root, hashset, acquired, rfl⟩
    next hincomplete =>
      refine (effect_keepProgress env hcache₃ file).post fun r s' h => ?_
      cases r with
      | error message => exact current_of_cache h
      | ok completed =>
        refine ⟨bytesWritten, _, hcheck, current_of_cache h.2, ?_⟩
        rw [Appended, ResumeManifest.lengthOf, if_neg hincomplete]
        exact ⟨h.1, rfl⟩
  · exact ⟨⟨id, id⟩, current_of_cache hcache₂⟩

end Store

end Overlord.Emule
