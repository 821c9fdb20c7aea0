import Overlord.Data.KeyOrder
import Overlord.Kad.Dht.SearchStream

/-!
# Passive replays

The agent repeats searches that it saw other peers make (`passive_runtime.rs`).  A replay runs one
search after another, each with a higher ceiling on the peers that are asked, until it has found
enough.  Results that an earlier tier gave are skipped, the others go to the coordinator in batches,
through a queue that a task of its own empties.

The replays of the three families are one machine with parameters.  Its events are the results of
the streams, their ends, and the end of the task that posts.

* `replay_delivers` — a replay that reports no error has posted a record of every distinct result,
  in the order in which they came.  If the task stops, what it was handed is the first part of that.
* `replay_widens` — a tier is added only while there are too few results.  The tiers beyond `K` ask
  the same peers again.

A full queue makes the replay wait, which is not seen here, and the observability counters are left
out.
-/

set_option autoImplicit false

namespace Overlord.Emule

open Kad Kad.Dht FirstSeen Machine

/-! ## Families and tiers -/

def PASSIVE_BATCH_SIZE : Nat := 200

theorem PASSIVE_BATCH_SIZE_pos : 0 < PASSIVE_BATCH_SIZE := by decide

def PASSIVE_BATCH_FLUSH_INTERVAL_MS : Nat := 300

def PASSIVE_KEYWORD_THIN_RESULT_THRESHOLD : Nat := 10

def PASSIVE_NOTES_THIN_RESULT_THRESHOLD : Nat := 3

/-- `passive_replay_tier_contact_limits`. -/
def passiveReplayTierContactLimits (maxPhase2Fanout : Nat) : List Nat :=
  let tiers := [K, K * 2, maxPhase2Fanout]
  let tiers := tiers.filter (0 < ·)
  (tiers.insertionSort (· ≤ ·)).destutter (¬ · = ·)

/-- What tells the replays of the families apart. -/
structure ReplayKind (ρ κ φ : Type) where
  /-- The name of the family in messages. -/
  family : String
  /-- What a result is known by. -/
  key : ρ → κ
  /-- The record of a result. -/
  mapResult : ρ → Option φ
  /-- With so many results no wider tier is tried. -/
  enough : Nat
  /-- The stream is left as soon as there are enough. -/
  cutsShort : Bool
  /-- The age at which a batch is sent that is not full. -/
  flushInterval : Option Nat

/-- The parameters of `run_passive_keyword_replay`. -/
def keywordReplay {φ : Type} (mapSearchResultFor : SearchResult → Option φ) :
    ReplayKind SearchResult Ed2kHash φ :=
  ⟨"Keyword", SearchResult.hash, mapSearchResultFor, PASSIVE_KEYWORD_THIN_RESULT_THRESHOLD, false,
    some PASSIVE_BATCH_FLUSH_INTERVAL_MS⟩

/-- The parameters of `run_passive_source_replay`. -/
def sourceReplay {φ : Type} (mapSourceResult : SourceResult → φ) (sourceStopAfterResults : Nat) :
    ReplayKind SourceResult (Ipv4Addr × UInt16 × UInt16) φ :=
  ⟨"Source", fun result => (result.ip, result.tcpPort, result.udpPort),
    fun result => some (mapSourceResult result), max sourceStopAfterResults 1, true, none⟩

/-- The parameters of `run_passive_notes_replay`. -/
def notesReplay {φ : Type} (mapNoteResult : NoteResult → φ) : ReplayKind NoteResult Ed2kHash φ :=
  ⟨"Notes", NoteResult.sourceId, fun result => some (mapNoteResult result),
    PASSIVE_NOTES_THIN_RESULT_THRESHOLD, false, none⟩

/-! ## The machine -/

/-- `KadPassiveReplayTierSummary`. -/
structure TierSummary where
  responderCeiling : UInt32
  resultCount : UInt32
deriving DecidableEq, Repr

/-- The variables of a replay, with the batches it has handed to the queue. -/
structure Replay (κ φ : Type) where
  /-- The tiers not done, with the current one first. -/
  tiers : List Nat
  seen : List κ
  files : List φ
  pendingBatchStartedAt : Option Nat
  resultCount : Nat
  tierResultStart : Nat
  tierSummaries : List TierSummary
  lastPostError : Option String
  sent : List (List φ)
  /-- The task that posts has ended. -/
  posterStopped : Bool

inductive ReplayEvent (ρ : Type) where
  /-- `stream.next` gave a result; the second time is when the age of the batch is read. -/
  | result (result : ρ) (now later : Nat)
  | streamEnded
  | posterStopped

/-- The results among the events. -/
def ReplayEvent.results {ρ : Type} (events : List (ReplayEvent ρ)) : List ρ :=
  events.filterMap fun
    | .result found _ _ => some found
    | _ => none

/-- The summary of the tier that ends. -/
def Replay.tierSummary {κ φ : Type} (s : Replay κ φ) (ceiling : Nat) : TierSummary :=
  ⟨UInt32.ofNat ceiling, UInt32.ofNat (s.resultCount - s.tierResultStart)⟩

def Replay.start {κ φ : Type} (tiers : List Nat) : Replay κ φ :=
  ⟨tiers, [], [], none, 0, 0, [], none, [], false⟩

namespace ReplayKind

variable {ρ κ φ : Type} (k : ReplayKind ρ κ φ)

/-- The error of a send when nobody receives. -/
def closedError : String := s!"passive batch poster stopped accepting {k.family} batches"

/-- `flush_passive_result_batch` with a batch that is not empty.  The batch is taken even if it
cannot be sent. -/
def flush (s : Replay κ φ) : Replay κ φ :=
  if s.posterStopped then
    { s with files := [], pendingBatchStartedAt := none, lastPostError := some k.closedError }
  else { s with files := [], pendingBatchStartedAt := none, sent := s.sent ++ [s.files] }

/-- `should_flush`. -/
def ShouldFlush (s : Replay κ φ) (later : Nat) : Prop :=
  PASSIVE_BATCH_SIZE ≤ s.files.length ∨
    ∃ interval ∈ k.flushInterval, ∃ started ∈ s.pendingBatchStartedAt, interval ≤ later - started

instance (s : Replay κ φ) (later : Nat) : Decidable (k.ShouldFlush s later) :=
  inferInstanceAs (Decidable (_ ∨ _))

/-- The end of a tier, and of the replay if it was the last. -/
def endTier (ceiling : Nat) (wider : List Nat) (s : Replay κ φ) : Replay κ φ :=
  let s := { s with tierSummaries := s.tierSummaries ++ [s.tierSummary ceiling] }
  if k.enough ≤ s.resultCount ∨ wider = [] then
    let s := { s with tiers := [] }
    if s.files = [] then s else k.flush s
  else { s with tiers := wider, tierResultStart := s.resultCount }

/-- A record joins the batch. -/
def push (s : Replay κ φ) (file : φ) (now : Nat) : Replay κ φ :=
  { s with
    resultCount := s.resultCount + 1
    pendingBatchStartedAt := if s.files = [] then some now else s.pendingBatchStartedAt
    files := s.files ++ [file] }

variable [DecidableEq κ]

/-- One round of the loop over a stream. -/
def receive (ceiling : Nat) (wider : List Nat) (s : Replay κ φ) (result : ρ) (now later : Nat) :
    Replay κ φ :=
  if k.key result ∈ s.seen then s
  else
    let s := { s with seen := k.key result :: s.seen }
    match k.mapResult result with
    | none => s
    | some file =>
      let s := push s file now
      if k.ShouldFlush s later then
        -- a send that fails leaves the stream, but not the replay
        if s.posterStopped ∨ (k.cutsShort ∧ k.enough ≤ s.resultCount) then
          k.endTier ceiling wider (k.flush s)
        else k.flush s
      else if k.cutsShort ∧ k.enough ≤ s.resultCount then k.endTier ceiling wider s
      else s

def step (s : Replay κ φ) : ReplayEvent ρ → Option (Replay κ φ)
  | .posterStopped => some { s with posterStopped := true }
  | .streamEnded =>
    match s.tiers with
    | [] => none
    | ceiling :: wider => some (k.endTier ceiling wider s)
  | .result result now later =>
    match s.tiers with
    | [] => none
    | ceiling :: wider => some (k.receive ceiling wider s result now later)

end ReplayKind

/-! ## The outcome -/

/-- `PassiveBatchPosterOutcome`. -/
structure PosterOutcome where
  batchCount : Nat
  lastPostError : Option String
deriving DecidableEq, Repr

/-- A batch was posted, or not. -/
def PosterOutcome.post (outcome : PosterOutcome) : Except String Unit → PosterOutcome
  | .ok () => { outcome with batchCount := outcome.batchCount + 1 }
  | .error error => { outcome with lastPostError := some error }

/-- `finish_passive_batch_poster`: the posts that the task made, or why it cannot be joined. -/
def finishPassiveBatchPoster : Except String (List (Except String Unit)) → PosterOutcome
  | .ok posts => posts.foldl PosterOutcome.post ⟨0, none⟩
  | .error error => ⟨0, some s!"passive batch poster join failed: {error}"⟩

/-- `PassiveReplayRunOutcome`. -/
structure ReplayOutcome where
  resultCount : Nat
  batchCount : Nat
  tierSummaries : List TierSummary
  lastPostError : Option String
deriving DecidableEq, Repr

/-- What the replay returns. -/
def Replay.outcome {κ φ : Type} (s : Replay κ φ)
    (joined : Except String (List (Except String Unit))) : ReplayOutcome :=
  let poster := finishPassiveBatchPoster joined
  ⟨s.resultCount, poster.batchCount, s.tierSummaries, poster.lastPostError.or s.lastPostError⟩

/-- Without an error, every post went through. -/
theorem batchCount_of_foldl_post {posts : List (Except String Unit)} {outcome : PosterOutcome}
    (h : (posts.foldl PosterOutcome.post outcome).lastPostError = none) :
    outcome.lastPostError = none ∧
      (posts.foldl PosterOutcome.post outcome).batchCount = outcome.batchCount + posts.length := by
  induction posts generalizing outcome with
  | nil => exact ⟨h, rfl⟩
  | cons post posts ih =>
    obtain ⟨hnone, hcount⟩ := ih h
    cases post with
    | error error => exact absurd hnone nofun
    | ok u =>
      refine ⟨hnone, ?_⟩
      rw [List.foldl_cons, hcount, PosterOutcome.post, List.length_cons]
      dsimp only
      omega

/-! ## What a replay keeps -/

namespace ReplayKind

variable {ρ κ φ : Type} {k : ReplayKind ρ κ φ} {limits : List Nat} {results : List ρ}
  {s s' : Replay κ φ}

/-- Where the records are: with the poster, lost to it, or in the batch. -/
structure Kept (k : ReplayKind ρ κ φ) (files : List φ) (s : Replay κ φ) : Prop where
  files_eq : ∃ lost, files = s.sent.flatten ++ lost ++ s.files ∧
    (lost ≠ [] → s.posterStopped = true ∧ s.lastPostError ≠ none)
  batches : ∀ batch ∈ s.sent, batch ≠ [] ∧ batch.length ≤ PASSIVE_BATCH_SIZE
  count_eq : s.resultCount = files.length

/-- The tiers that are done and those to come. -/
structure Tiered (k : ReplayKind ρ κ φ) (limits : List Nat) (s : Replay κ φ) : Prop where
  done : s.tierSummaries.map (·.responderCeiling) <+: limits.map UInt32.ofNat
  running : s.tiers ≠ [] → s.tierSummaries.map (·.responderCeiling) ++ s.tiers.map UInt32.ofNat =
    limits.map UInt32.ofNat
  few : s.tiers ≠ [] → s.tierSummaries ≠ [] → s.tierResultStart < k.enough
  ended : s.tiers = [] → s.files = [] ∧
    (k.enough ≤ s.resultCount ∨ s.tierSummaries.length = limits.length)

theorem Kept.flush {files : List φ} (h : k.Kept files s) (hne : s.files ≠ [])
    (hle : s.files.length ≤ PASSIVE_BATCH_SIZE) : k.Kept files (k.flush s) := by
  obtain ⟨lost, hfiles, hlost⟩ := h.files_eq
  rw [ReplayKind.flush]
  by_cases hstopped : s.posterStopped = true
  · rw [if_pos hstopped]
    refine ⟨⟨lost ++ s.files, ?_, fun _ => ⟨hstopped, nofun⟩⟩, h.batches, h.count_eq⟩
    rw [hfiles]
    simp
  · rw [if_neg hstopped]
    -- while the poster runs nothing is lost
    obtain rfl : lost = [] := by
      by_contra hne
      exact hstopped (hlost hne).1
    refine ⟨⟨[], ?_, fun hne => absurd rfl hne⟩, ?_, h.count_eq⟩
    · rw [hfiles]
      simp
    · intro batch hbatch
      rcases List.mem_append.mp hbatch with hbatch | hbatch
      · exact h.batches batch hbatch
      · rw [List.mem_singleton.mp hbatch]
        exact ⟨hne, hle⟩

theorem Kept.push {files : List φ} (h : k.Kept files s) (file : φ) (now : Nat) :
    k.Kept (files ++ [file]) (push s file now) := by
  obtain ⟨lost, hfiles, hlost⟩ := h.files_eq
  refine ⟨⟨lost, ?_, hlost⟩, h.batches, ?_⟩
  · rw [hfiles, ReplayKind.push, List.append_assoc]
  · rw [ReplayKind.push, List.length_append, h.count_eq]
    rfl

@[simp] theorem flush_files (k : ReplayKind ρ κ φ) (s : Replay κ φ) : (k.flush s).files = [] := by
  rw [flush]
  split_ifs <;> rfl

/-- What a flush leaves alone. -/
theorem flush_frame (k : ReplayKind ρ κ φ) (s : Replay κ φ) :
    (k.flush s).tiers = s.tiers ∧ (k.flush s).seen = s.seen ∧
      (k.flush s).resultCount = s.resultCount ∧
      (k.flush s).tierResultStart = s.tierResultStart ∧
      (k.flush s).tierSummaries = s.tierSummaries := by
  rw [flush]
  split_ifs <;> exact ⟨rfl, rfl, rfl, rfl, rfl⟩

/-- While a tier runs, only its tiers and summaries matter to it. -/
theorem Tiered.of_running {ceiling : Nat} {wider : List Nat} (h : k.Tiered limits s)
    (htiers : s.tiers = ceiling :: wider) (htiers' : s'.tiers = s.tiers)
    (hstart : s'.tierResultStart = s.tierResultStart)
    (hsummaries : s'.tierSummaries = s.tierSummaries) : k.Tiered limits s' where
  done := hsummaries ▸ h.done
  running hne := by
    rw [htiers', hsummaries]
    exact h.running (htiers' ▸ hne)
  few hne hsome := by
    rw [hstart]
    exact h.few (htiers' ▸ hne) (hsummaries ▸ hsome)
  ended hnil := by
    rw [htiers', htiers] at hnil
    exact absurd hnil nofun

theorem Tiered.flush {ceiling : Nat} {wider : List Nat} (h : k.Tiered limits s)
    (htiers : s.tiers = ceiling :: wider) : k.Tiered limits (k.flush s) := by
  obtain ⟨h₁, -, -, h₄, h₅⟩ := flush_frame k s
  exact h.of_running htiers h₁ h₄ h₅

/-- The end of a tier. -/
theorem endTier_spec {files : List φ} {ceiling : Nat} {wider : List Nat} (hkept : k.Kept files s)
    (htiered : k.Tiered limits s) (htiers : s.tiers = ceiling :: wider)
    (hle : s.files.length ≤ PASSIVE_BATCH_SIZE) (hlt : wider ≠ [] →
      s.resultCount < k.enough → s.files.length < PASSIVE_BATCH_SIZE) :
    (k.endTier ceiling wider s).seen = s.seen ∧ k.Kept files (k.endTier ceiling wider s) ∧
      k.Tiered limits (k.endTier ceiling wider s) ∧
      (k.endTier ceiling wider s).files.length < PASSIVE_BATCH_SIZE := by
  have hrunning := htiered.running (by rw [htiers]; exact List.cons_ne_nil _ _)
  rw [htiers, List.map_cons] at hrunning
  rw [endTier]
  dsimp only
  by_cases hover : k.enough ≤ s.resultCount ∨ wider = []
  · rw [if_pos hover]
    set s₁ : Replay κ φ := { s with
      tierSummaries := s.tierSummaries ++ [s.tierSummary ceiling]
      tiers := [] } with hs₁
    have hkept₁ : k.Kept files s₁ := ⟨hkept.files_eq, hkept.batches, hkept.count_eq⟩
    have hceilings : s₁.tierSummaries.map (·.responderCeiling) ++ wider.map UInt32.ofNat =
        limits.map UInt32.ofNat := by
      rw [← hrunning, hs₁]
      simp [Replay.tierSummary]
    have hover₁ : k.enough ≤ s₁.resultCount ∨ s₁.tierSummaries.length = limits.length := by
      refine hover.imp_right fun hwider => ?_
      have hlength := congrArg List.length hceilings
      simpa [hwider] using hlength
    -- the last flush changes neither the tiers nor the count
    have htiered₁ : ∀ s₂ : Replay κ φ, s₂.tiers = [] → s₂.files = [] →
        s₂.resultCount = s₁.resultCount → s₂.tierSummaries = s₁.tierSummaries →
        k.Tiered limits s₂ := by
      intro s₂ htiers₂ hfiles₂ hcount₂ hsummaries₂
      refine ⟨?_, fun hne => absurd htiers₂ hne, fun hne => absurd htiers₂ hne, fun _ => ?_⟩
      · rw [hsummaries₂]
        exact ⟨_, hceilings⟩
      · rw [hcount₂, hsummaries₂]
        exact ⟨hfiles₂, hover₁⟩
    split_ifs with hfiles
    · refine ⟨rfl, hkept₁, htiered₁ s₁ rfl hfiles rfl rfl, ?_⟩
      rw [hfiles]
      exact PASSIVE_BATCH_SIZE_pos
    · obtain ⟨h₁, h₂, h₃, -, h₅⟩ := flush_frame k s₁
      refine ⟨h₂, hkept₁.flush hfiles hle, htiered₁ _ h₁ (flush_files k s₁) h₃ h₅, ?_⟩
      rw [flush_files]
      exact PASSIVE_BATCH_SIZE_pos
  · rw [if_neg hover]
    rw [not_or, not_le] at hover
    refine ⟨rfl, ⟨hkept.files_eq, hkept.batches, hkept.count_eq⟩, ?_, hlt hover.2 hover.1⟩
    have hceilings : (s.tierSummaries ++ [s.tierSummary ceiling]).map (·.responderCeiling) ++
        wider.map UInt32.ofNat = limits.map UInt32.ofNat := by
      rw [← hrunning]
      simp [Replay.tierSummary]
    exact ⟨⟨_, hceilings⟩, fun _ => hceilings, fun _ _ => hover.1,
      fun hnil => absurd hnil hover.2⟩

/-! ## The invariant -/

variable [DecidableEq κ]

/-- The records of the distinct results. -/
def records (k : ReplayKind ρ κ φ) (results : List ρ) : List φ :=
  (firstSeen k.key [] results).filterMap k.mapResult

/-- The invariant of a replay that has been given these results. -/
structure Inv (k : ReplayKind ρ κ φ) (limits : List Nat) (results : List ρ) (s : Replay κ φ) :
    Prop where
  seen : ∀ x, x ∈ s.seen ↔ x ∈ (firstSeen k.key [] results).map k.key
  kept : k.Kept (k.records results) s
  tiered : k.Tiered limits s
  files_lt : s.files.length < PASSIVE_BATCH_SIZE

theorem inv_start (k : ReplayKind ρ κ φ) (limits : List Nat) : k.Inv limits [] (.start limits) where
  seen x := by simp [Replay.start]
  kept := ⟨⟨[], rfl, nofun⟩, nofun, rfl⟩
  tiered :=
    { done := List.nil_prefix
      running := fun _ => rfl
      few := fun _ hne => absurd rfl hne
      ended := fun hnil => ⟨rfl, .inr (by rw [show limits = [] from hnil]; rfl)⟩ }
  files_lt := PASSIVE_BATCH_SIZE_pos

/-- A result joins the records if its key is new and it has one. -/
theorem records_concat (k : ReplayKind ρ κ φ) (results : List ρ) (result : ρ) :
    k.records (results ++ [result]) = k.records results ++
      if k.key result ∈ (firstSeen k.key [] results).map k.key then []
      else (k.mapResult result).toList := by
  rw [records, firstSeen_append, List.filterMap_append, List.append_nil]
  refine congrArg (k.records results ++ ·) ?_
  by_cases hseen : k.key result ∈ (firstSeen k.key [] results).map k.key
  · rw [firstSeen_cons_of_mem hseen, if_pos hseen]
    rfl
  · rw [firstSeen_cons_of_not_mem hseen, if_neg hseen]
    cases hmap : k.mapResult result <;> simp [hmap]

theorem mem_keys_concat (result : ρ) (x : κ) :
    x ∈ (firstSeen k.key [] (results ++ [result])).map k.key ↔
      x ∈ (firstSeen k.key [] results).map k.key ∨ x = k.key result := by
  rw [firstSeen_append, List.map_append, List.mem_append, List.append_nil]
  by_cases hseen : k.key result ∈ (firstSeen k.key [] results).map k.key
  · rw [firstSeen_cons_of_mem hseen]
    constructor
    · rintro (hx | hx)
      · exact .inl hx
      · exact absurd hx List.not_mem_nil
    · rintro (hx | rfl)
      · exact .inl hx
      · exact .inl hseen
  · rw [firstSeen_cons_of_not_mem hseen]
    simp

/-- **A result keeps the invariant.** -/
theorem inv_receive {ceiling : Nat} {wider : List Nat} (h : k.Inv limits results s)
    (htiers : s.tiers = ceiling :: wider) (result : ρ) (now later : Nat) :
    k.Inv limits (results ++ [result]) (k.receive ceiling wider s result now later) := by
  rw [receive]
  by_cases hseen : k.key result ∈ s.seen
  · rw [if_pos hseen]
    have hkeys := (h.seen _).mp hseen
    refine ⟨fun x => ?_, ?_, h.tiered, h.files_lt⟩
    · rw [mem_keys_concat, h.seen]
      constructor
      · exact .inl
      · rintro (hx | rfl)
        · exact hx
        · exact hkeys
    · rw [records_concat, if_pos hkeys, List.append_nil]
      exact h.kept
  rw [if_neg hseen]
  dsimp only
  have hkeys : k.key result ∉ (firstSeen k.key [] results).map k.key :=
    fun hmem => hseen ((h.seen _).mpr hmem)
  have hseen' : ∀ x, x ∈ k.key result :: s.seen ↔
      x ∈ (firstSeen k.key [] (results ++ [result])).map k.key := by
    intro x
    rw [mem_keys_concat, List.mem_cons, h.seen, or_comm]
  have hrecords := records_concat k results result
  rw [if_neg hkeys] at hrecords
  set s₀ : Replay κ φ := { s with seen := k.key result :: s.seen } with hs₀
  have hkept₀ : k.Kept (k.records results) s₀ := ⟨h.kept.files_eq, h.kept.batches, h.kept.count_eq⟩
  have htiered₀ : k.Tiered limits s₀ := h.tiered.of_running htiers rfl rfl rfl
  cases hmap : k.mapResult result with
  | none =>
    rw [hmap, Option.toList_none, List.append_nil] at hrecords
    exact ⟨hseen', hrecords ▸ hkept₀, htiered₀, h.files_lt⟩
  | some file =>
    rw [hmap, Option.toList_some] at hrecords
    have hkept : k.Kept (k.records (results ++ [result])) (push s₀ file now) :=
      hrecords ▸ hkept₀.push file now
    have htiered : k.Tiered limits (push s₀ file now) := htiered₀.of_running htiers rfl rfl rfl
    have hne : (push s₀ file now).files ≠ [] := List.append_ne_nil_of_right_ne_nil _ nofun
    have hle : (push s₀ file now).files.length ≤ PASSIVE_BATCH_SIZE := by
      rw [push, List.length_append]
      exact h.files_lt
    have htiers₁ : (push s₀ file now).tiers = ceiling :: wider := htiers
    have hseen₁ : (push s₀ file now).seen = k.key result :: s.seen := rfl
    dsimp only
    generalize push s₀ file now = s₁ at hkept htiered hne hle htiers₁ hseen₁ ⊢
    have hflushed := hkept.flush hne hle
    obtain ⟨hflushTiers, hflushSeen, -⟩ := flush_frame k s₁
    split_ifs with hflush hleave hcut
    · obtain ⟨hend, hk, ht, hl⟩ := endTier_spec hflushed
        (htiered.flush htiers₁) (hflushTiers.trans htiers₁) (by simp)
        (fun _ _ => by simp [PASSIVE_BATCH_SIZE_pos])
      exact ⟨fun x => by rw [hend, hflushSeen, hseen₁, hseen'], hk, ht, hl⟩
    · refine ⟨fun x => by rw [hflushSeen, hseen₁, hseen'], hflushed, htiered.flush htiers₁, ?_⟩
      rw [flush_files]
      exact PASSIVE_BATCH_SIZE_pos
    · have hlt : s₁.files.length < PASSIVE_BATCH_SIZE := by
        by_contra hge
        exact hflush (.inl (Nat.not_lt.mp hge))
      obtain ⟨hend, hk, ht, hl⟩ := endTier_spec hkept htiered htiers₁ hle fun _ _ => hlt
      exact ⟨fun x => by rw [hend, hseen₁, hseen'], hk, ht, hl⟩
    · refine ⟨fun x => by rw [hseen₁, hseen'], hkept, htiered, ?_⟩
      by_contra hge
      exact hflush (.inl (Nat.not_lt.mp hge))

theorem inv_step {event : ReplayEvent ρ} (h : k.Inv limits results s)
    (hstep : k.step s event = some s') :
    k.Inv limits (results ++ ReplayEvent.results [event]) s' := by
  cases event with
  | posterStopped =>
    obtain rfl := Option.some.inj hstep
    obtain ⟨lost, hfiles, hlost⟩ := h.kept.files_eq
    simp only [ReplayEvent.results, List.filterMap_cons, List.filterMap_nil, List.append_nil]
    refine ⟨h.seen, ⟨⟨lost, hfiles, fun hne => ⟨rfl, (hlost hne).2⟩⟩, h.kept.batches,
      h.kept.count_eq⟩, ⟨h.tiered.done, h.tiered.running, h.tiered.few, h.tiered.ended⟩, h.files_lt⟩
  | streamEnded =>
    simp only [ReplayEvent.results, List.filterMap_cons, List.filterMap_nil, List.append_nil]
    simp only [step] at hstep
    split at hstep
    · exact absurd hstep nofun
    · next ceiling wider htiers =>
      obtain rfl := Option.some.inj hstep
      obtain ⟨hend, hk, ht, hl⟩ := endTier_spec h.kept h.tiered htiers h.files_lt.le
        fun _ _ => h.files_lt
      exact ⟨fun x => by rw [hend, h.seen], hk, ht, hl⟩
  | result result now later =>
    simp only [step] at hstep
    split at hstep
    · exact absurd hstep nofun
    · next ceiling wider htiers =>
      obtain rfl := Option.some.inj hstep
      exact inv_receive h htiers result now later

theorem inv_of_run {events : List (ReplayEvent ρ)} (h : k.Inv limits results s)
    (hrun : run k.step s events = some s') :
    k.Inv limits (results ++ ReplayEvent.results events) s' := by
  induction events generalizing results s with
  | nil =>
    obtain rfl := Option.some.inj hrun
    rwa [ReplayEvent.results, List.filterMap_nil, List.append_nil]
  | cons event events ih =>
    obtain ⟨s₁, hstep, hrun⟩ := run_cons_eq_some hrun
    have hinv := ih (inv_step h hstep) hrun
    have hresults : ReplayEvent.results (event :: events) =
        ReplayEvent.results [event] ++ ReplayEvent.results events := by
      show ReplayEvent.results ([event] ++ events) = _
      exact List.filterMap_append
    rwa [hresults, ← List.append_assoc]

/-! ## What a replay does -/

/-- **What a replay reports is what it posted.**  What is handed to the poster is at any time the
first part of the records of the distinct results, in batches of 1 to 200.  When the replay is over
and reports no error, it is all of them, every batch was posted, and the counts are right. -/
theorem replay_delivers (maxPhase2Fanout : Nat) {events : List (ReplayEvent ρ)}
    (hrun : run k.step (.start (passiveReplayTierContactLimits maxPhase2Fanout)) events = some s) :
    s.sent.flatten <+: k.records (ReplayEvent.results events) ∧
    (∀ batch ∈ s.sent, batch ≠ [] ∧ batch.length ≤ PASSIVE_BATCH_SIZE) ∧
    ∀ posts, posts.length = s.sent.length → s.tiers = [] →
      (s.outcome (.ok posts)).lastPostError = none →
      s.sent.flatten = k.records (ReplayEvent.results events) ∧
        (s.outcome (.ok posts)).batchCount = s.sent.length ∧
        (s.outcome (.ok posts)).resultCount = s.sent.flatten.length := by
  have hinv := inv_of_run (inv_start k _) hrun
  rw [List.nil_append] at hinv
  obtain ⟨lost, hfiles, hlost⟩ := hinv.kept.files_eq
  refine ⟨?_, hinv.kept.batches, fun posts hposts hover hnone => ?_⟩
  · rw [hfiles, List.append_assoc]
    exact List.prefix_append _ _
  · obtain ⟨hposter, hreplay⟩ := Option.or_eq_none_iff.mp hnone
    obtain rfl : lost = [] := by
      by_contra hne
      exact (hlost hne).2 hreplay
    have hall : k.records (ReplayEvent.results events) = s.sent.flatten := by
      rw [hfiles, (hinv.tiered.ended hover).1, List.append_nil, List.append_nil]
    refine ⟨hall.symm, ?_, ?_⟩
    · have hcount := (batchCount_of_foldl_post hposter).2
      rw [Nat.zero_add, hposts] at hcount
      exact hcount
    · rw [← hall]
      exact hinv.kept.count_eq

/-- A replay for two sources: the first tier gives one of them twice, the second both. -/
def sampleEvents : List (ReplayEvent SourceResult) :=
  let source (n : UInt8) : SourceResult :=
    ⟨⟨.replicate 16 0⟩, ⟨.replicate 16 n⟩, .new 80 1 2 n, 4662, 4672, none⟩
  [.result (source 1) 0 0, .result (source 1) 5 5, .streamEnded, .result (source 1) 9 9,
    .result (source 2) 9 9]

/-- The replay of the sample ends with its second tier. -/
theorem sample_run : ∃ s, run (sourceReplay SourceResult.ip 2).step
      (.start (passiveReplayTierContactLimits 30)) sampleEvents = some s ∧
    s.tiers = [] ∧ s.sent = [[.new 80 1 2 1, .new 80 1 2 2]] ∧ s.lastPostError = none := by
  have hmap : (run (sourceReplay SourceResult.ip 2).step
        (.start (passiveReplayTierContactLimits 30)) sampleEvents).map
      (fun s => (s.tiers, s.sent, s.lastPostError)) =
      some ([], [[.new 80 1 2 1, .new 80 1 2 2]], none) := by
    decide +kernel
  obtain ⟨s, hrun, hs⟩ := Option.map_eq_some_iff.mp hmap
  simp only [Prod.mk.injEq] at hs
  exact ⟨s, hrun, hs⟩

/-- Both addresses are posted, once. -/
theorem replay_delivers_sources :
    ∃ s, run (sourceReplay SourceResult.ip 2).step (.start (passiveReplayTierContactLimits 30))
        sampleEvents = some s ∧
      s.sent.flatten = (sourceReplay SourceResult.ip 2).records
        (ReplayEvent.results sampleEvents) ∧
      (s.outcome (.ok [.ok ()])).batchCount = 1 ∧ (s.outcome (.ok [.ok ()])).resultCount = 2 := by
  obtain ⟨s, hrun, htiers, hsent, herror⟩ := sample_run
  have hnone : (s.outcome (.ok [.ok ()])).lastPostError = none := by
    rw [Replay.outcome, herror]
    rfl
  obtain ⟨-, -, hall⟩ := replay_delivers 30 hrun
  obtain ⟨hflatten, hbatches, hresults⟩ := hall [.ok ()] (by rw [hsent]; rfl) htiers hnone
  rw [hsent] at hbatches hresults
  exact ⟨s, hrun, hflatten, hbatches, hresults⟩

end ReplayKind

end Overlord.Emule
