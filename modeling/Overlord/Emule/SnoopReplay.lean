import Overlord.Emule.SnoopQueue
import Overlord.Machine.Run

/-!
# Replays of the snoop queue

What the selections of a queue keep to, over all runs of its calls.

* `snoop_budget` — every window of ten minutes has at most as many selections as configured, for the
  keyword and notes searches together and for the source searches.
* `replay_spaced` — two selections of an entry that stays queued are a cooldown apart, and more than
  one when the replays in between found nothing.

`SnoopRun` keeps a book next to the queue: all selections, and for every queued key the `Stay` of
its entry.  A stay knows the times of the calls and nothing of what the queue wrote down, so what
connects the two (`TracksStay`) is the content of the second result.

* `SelectMove` — what a selection can do to the queue, for the three kinds at once: panic before it
  has done anything, find nothing to select, or select an entry that has cooled down.
* `replayCooldownCutoff_eq` — how far back the last replay of an entry has to lie, which is several
  cooldowns if its replays found nothing.
* `Linked` — exactly the queued entries have a stay, so that an entry which is dropped and observed
  again begins anew.
-/

set_option autoImplicit false

namespace Overlord.Emule

open Kad Wire Machine

/-! ## What a selection does -/

section Candidates

variable {Request : Type} {cmp : ReplayCandidate Request → ReplayCandidate Request → Ordering}
variable {recent stale : List (ReplayCandidate Request)} {candidate : ReplayCandidate Request}

theorem mem_of_firstBy (h : firstBy cmp recent = some candidate) : candidate ∈ recent :=
  List.mem_mergeSort.mp (List.mem_of_head? h)

theorem mem_of_selectBestCandidate (h : selectBestCandidate cmp recent stale = some candidate) :
    candidate ∈ recent ∨ candidate ∈ stale := by
  rw [selectBestCandidate, Option.or_eq_some_iff] at h
  exact h.imp mem_of_firstBy fun h => mem_of_firstBy h.2

theorem mem_of_selectBestSourceCandidate {recent stale : List (ReplayCandidate SearchSourceReq)}
    {candidate : ReplayCandidate SearchSourceReq}
    (h : selectBestSourceCandidate recent stale = some candidate) :
    candidate ∈ recent ∨ candidate ∈ stale := by
  rw [selectBestSourceCandidate] at h
  split_ifs at h
  · exact (mem_of_selectBestCandidate h).imp List.mem_of_mem_filter List.mem_of_mem_filter
  · exact mem_of_selectBestCandidate h

end Candidates

/-- By how much the cooldown of an entry is multiplied. -/
def backoff (entry : SnoopEntry) (feedback : ReplayFeedback) : Nat :=
  match feedback.lastOutcomeAt with
  | none => 1
  | some lastOutcomeAt =>
    if feedback.zeroResultStreak = 0 ∨ lastOutcomeAt < entry.lastSeen then 1
    else min (feedback.zeroResultStreak.toNat + 1) 4

theorem one_le_backoff (entry : SnoopEntry) (feedback : ReplayFeedback) :
    1 ≤ backoff entry feedback := by
  rw [backoff]
  split
  · exact le_rfl
  · split_ifs <;> omega

theorem toNat_saturatingAdd (a b : UInt32) :
    (saturatingAdd a b).toNat = min (a.toNat + b.toNat) (2 ^ 32 - 1) :=
  UInt32.toNat_ofNat_of_lt' (by simp only [UInt32.size]; omega)

theorem sub_eq {time cutoff : DateTime} {delta : TimeDelta} (h : time.sub delta = .ok cutoff) :
    cutoff = time - delta := by
  rw [DateTime.sub] at h
  split_ifs at h
  exact (Except.ok.inj h).symm

theorem seconds_ok {value : Nat} {delta : TimeDelta} (h : seconds value = .ok delta) :
    value < 2 ^ 63 ∧ delta = value * NANOS_PER_SEC := by
  rw [seconds, TimeDelta.seconds] at h
  split_ifs at h with hle
  have hmin : min value (2 ^ 63 - 1) = value := by omega
  rw [hmin] at h
  exact ⟨by omega, (Except.ok.inj h).symm⟩

/-- **The cutoff of an entry**: so many cooldowns ago. -/
theorem replayCooldownCutoff_eq {now cutoff : DateTime} {cooldownSecs : UInt64}
    {entry : SnoopEntry} {feedback : ReplayFeedback}
    (h : replayCooldownCutoff (now - cooldownSecs.toNat * NANOS_PER_SEC) now cooldownSecs entry
      feedback = .ok cutoff) :
    cutoff = now - (cooldownSecs.toNat * backoff entry feedback : Nat) * NANOS_PER_SEC := by
  rw [replayCooldownCutoff] at h
  rw [backoff]
  cases hlast : feedback.lastOutcomeAt with
  | none =>
    rw [hlast] at h
    simpa using (Except.ok.inj h).symm
  | some lastOutcomeAt =>
    rw [hlast] at h
    dsimp only at h ⊢
    split_ifs at h ⊢
    · simpa using (Except.ok.inj h).symm
    · rw [toNat_saturatingAdd] at h
      obtain ⟨delta, hdelta, hsub⟩ := bind_ok h
      have hmul : min (min (feedback.zeroResultStreak.toNat + (1 : UInt32).toNat) (2 ^ 32 - 1)) 4 =
          min (feedback.zeroResultStreak.toNat + 1) 4 := by
        have : (1 : UInt32).toNat = 1 := rfl
        omega
      rw [hmul] at hdelta
      obtain ⟨hlt, rfl⟩ := seconds_ok hdelta
      have hmin : min (cooldownSecs.toNat * min (feedback.zeroResultStreak.toNat + 1) 4)
          (2 ^ 64 - 1) = cooldownSecs.toNat * min (feedback.zeroResultStreak.toNat + 1) 4 := by
        omega
      rw [sub_eq hsub, hmin]

namespace SnoopQueue

section Select

variable {Request : Type} {requestOf : SnoopEntry → Except Panic (Option Request)}
variable {q : SnoopQueue} {family : SnoopFamily} {now : DateTime}

/-- The entry has cooled down. -/
def Rested (q : SnoopQueue) (family : SnoopFamily) (now : DateTime) (entry : SnoopEntry) : Prop :=
  ∀ last ∈ entry.lastDrainedAt, last + ((q.familyDrainCooldownSecs family).toNat *
    backoff entry (q.feedbackOf entry.logicalKey) : Nat) * NANOS_PER_SEC ≤ now

/-- A candidate is an entry that has cooled down. -/
theorem candidateOf_ok {entry : SnoopEntry} {candidate : ReplayCandidate Request}
    (h : q.candidateOf requestOf
      (now - (q.familyDrainCooldownSecs family).toNat * NANOS_PER_SEC) now
      (q.familyDrainCooldownSecs family) entry = .ok (some candidate)) :
    candidate.scheduled.logicalKey = entry.logicalKey ∧ q.Rested family now entry := by
  rw [candidateOf] at h
  obtain ⟨request, -, h⟩ := bind_ok h
  cases request with
  | none => exact absurd (Except.ok.inj h) nofun
  | some request =>
    obtain ⟨cooling, hcooling, h⟩ := bind_ok h
    split_ifs at h with hnot
    · exact absurd (Except.ok.inj h) nofun
    · obtain rfl := Option.some.inj (Except.ok.inj h)
      refine ⟨rfl, fun last hlast => ?_⟩
      rw [Option.mem_def.mp hlast] at hcooling
      obtain ⟨cutoff, hcutoff, hdecide⟩ := bind_ok hcooling
      have hle : last ≤ cutoff := by
        refine not_lt.mp fun hlt => hnot ?_
        exact (Except.ok.inj hdecide).symm.trans (decide_eq_true hlt)
      rw [replayCooldownCutoff_eq hcutoff] at hle
      linarith

/-- The candidates found so far are entries that have cooled down. -/
def Found (q : SnoopQueue) (family : SnoopFamily) (now : DateTime)
    (found : List (ReplayCandidate Request) × List (ReplayCandidate Request)) : Prop :=
  ∀ candidate, candidate ∈ found.1 ∨ candidate ∈ found.2 → ∃ entry ∈ q.entries,
    candidate.scheduled.logicalKey = entry.logicalKey ∧ q.Rested family now entry

theorem Found.considerEntry {dedupCutoff : DateTime} {entry : SnoopEntry}
    {found found' : List (ReplayCandidate Request) × List (ReplayCandidate Request)}
    (hfound : Found q family now found) (hentry : entry ∈ q.entries)
    (h : q.considerEntry requestOf dedupCutoff
      (now - (q.familyDrainCooldownSecs family).toNat * NANOS_PER_SEC) now
      (q.familyDrainCooldownSecs family) found entry = .ok found') :
    Found q family now found' := by
  rw [SnoopQueue.considerEntry] at h
  obtain ⟨considered, hconsidered, h⟩ := bind_ok h
  cases considered with
  | none =>
    obtain rfl := Except.ok.inj h
    exact hfound
  | some new =>
    have hnew : ∃ entry ∈ q.entries, new.scheduled.logicalKey = entry.logicalKey ∧
        q.Rested family now entry := ⟨entry, hentry, candidateOf_ok hconsidered⟩
    dsimp only at h
    split_ifs at h
    · obtain rfl := Except.ok.inj h
      rintro candidate (hmem | hmem)
      · rcases List.mem_append.mp hmem with hold | hlast
        · exact hfound candidate (.inl hold)
        · rwa [List.mem_singleton.mp hlast]
      · exact hfound candidate (.inr hmem)
    · obtain rfl := Except.ok.inj h
      rintro candidate (hmem | hmem)
      · exact hfound candidate (.inl hmem)
      · rcases List.mem_append.mp hmem with hold | hlast
        · exact hfound candidate (.inr hold)
        · rwa [List.mem_singleton.mp hlast]

theorem Found.foldlM {dedupCutoff : DateTime} {entries : List SnoopEntry}
    {found found' : List (ReplayCandidate Request) × List (ReplayCandidate Request)}
    (hfound : Found q family now found) (hentries : ∀ entry ∈ entries, entry ∈ q.entries)
    (h : entries.foldlM (q.considerEntry requestOf dedupCutoff
      (now - (q.familyDrainCooldownSecs family).toNat * NANOS_PER_SEC) now
      (q.familyDrainCooldownSecs family)) found = .ok found') :
    Found q family now found' := by
  induction entries generalizing found with
  | nil =>
    obtain rfl := Except.ok.inj h
    exact hfound
  | cons entry entries ih =>
    rw [List.foldlM_cons] at h
    obtain ⟨found₁, h₁, h⟩ := bind_ok h
    exact ih (hfound.considerEntry (hentries entry List.mem_cons_self) h₁)
      (fun e he => hentries e (List.mem_cons_of_mem entry he)) h

/-- Every candidate is an entry that has cooled down. -/
theorem found_replayCandidates
    {found : List (ReplayCandidate Request) × List (ReplayCandidate Request)}
    (h : q.replayCandidates family requestOf now = .ok found) : Found q family now found := by
  rw [replayCandidates] at h
  obtain ⟨_, _, h⟩ := bind_ok h
  obtain ⟨dedupCutoff, _, h⟩ := bind_ok h
  obtain ⟨delta, hdelta, h⟩ := bind_ok h
  obtain ⟨cooldownCutoff, hcutoff, h⟩ := bind_ok h
  obtain rfl : cooldownCutoff =
      now - (q.familyDrainCooldownSecs family).toNat * NANOS_PER_SEC := by
    rw [sub_eq hcutoff, (seconds_ok hdelta).2]
  have hnil : Found q family now
      (([], []) : List (ReplayCandidate Request) × List (ReplayCandidate Request)) := by
    simp [Found]
  exact hnil.foldlM (fun _ h => h) h

/-- **What a selection does.**  It may panic before it did anything; otherwise it drops the old
drains, and it may select an entry that has cooled down if few enough are left. -/
inductive SelectMove (q : SnoopQueue) (family : SnoopFamily) (now : DateTime) :
    Except Panic (Option String) × SnoopQueue → Prop
  | early (panic : Panic) : SelectMove q family now (.error panic, q)
  | passed {q' : SnoopQueue} {result : Except Panic (Option String)}
      (hprune : q.pruneRecentDrains now family = .ok q')
      (hnone : ∀ key, result ≠ .ok (some key)) : SelectMove q family now (result, q')
  | selected {q' : SnoopQueue} {entry : SnoopEntry}
      (hprune : q.pruneRecentDrains now family = .ok q')
      (hfew : (q'.recentDrains family).length < (q'.familyMaxQueriesPer600s family).toNat)
      (hentry : entry ∈ q'.entries) (hrested : q'.Rested family now entry) :
      SelectMove q family now
        (.ok (some entry.logicalKey), q'.drain family entry.logicalKey now)

/-- The key that was selected. -/
def selectedKey : Except Panic (Option (ScheduledSnoopRequest Request)) →
    Except Panic (Option String)
  | .error panic => .error panic
  | .ok scheduled => .ok (scheduled.map (·.logicalKey))

theorem selectMove_selectNext {best : List (ReplayCandidate Request) →
      List (ReplayCandidate Request) → Option (ReplayCandidate Request)}
    (hbest : ∀ {recent stale candidate}, best recent stale = some candidate →
      candidate ∈ recent ∨ candidate ∈ stale) :
    SelectMove q family now (selectedKey (q.selectNext family requestOf best now).1,
      (q.selectNext family requestOf best now).2) := by
  rw [selectNext]
  cases hprune : q.pruneRecentDrains now family with
  | error panic => exact .early panic
  | ok q' =>
    dsimp only
    split_ifs with hfull
    · exact .passed hprune nofun
    · cases hcandidates : q'.replayCandidates family requestOf now with
      | error panic => exact .passed hprune nofun
      | ok found =>
        dsimp only
        cases hselected : best found.1 found.2 with
        | none => exact .passed hprune nofun
        | some candidate =>
          obtain ⟨entry, hentry, hkey, hrested⟩ :=
            found_replayCandidates hcandidates candidate (hbest hselected)
          have hmove := SelectMove.selected hprune (Nat.lt_of_not_le hfull) hentry hrested
          rw [← hkey] at hmove
          exact hmove

end Select

/-- A selection of a family, up to the request it selected. -/
def select (q : SnoopQueue) (now : DateTime) :
    SnoopFamily → Except Panic (Option String) × SnoopQueue
  | .keyword =>
    (selectedKey (q.selectNextKeywordRequest now).1, (q.selectNextKeywordRequest now).2)
  | .source => (selectedKey (q.selectNextSourceRequest now).1, (q.selectNextSourceRequest now).2)
  | .notes => (selectedKey (q.selectNextNotesRequest now).1, (q.selectNextNotesRequest now).2)

theorem selectMove_select (q : SnoopQueue) (now : DateTime) (family : SnoopFamily) :
    SelectMove q family now (q.select now family) := by
  cases family with
  | keyword => exact selectMove_selectNext mem_of_selectBestCandidate
  | source => exact selectMove_selectNext mem_of_selectBestSourceCandidate
  | notes => exact selectMove_selectNext mem_of_selectBestCandidate

end SnoopQueue

/-! ## Runs -/

/-- The calls of the queue. -/
inductive SnoopOp where
  | record (entry : SnoopEntry)
  | mergeSnapshot (entries : List SnoopEntry)
  | select (now : DateTime) (family : SnoopFamily)
  | recordReplayOutcome (logicalKey : String) (completedAt : DateTime) (resultCount : Nat)

/-- The clock of a selection. -/
def SnoopOp.clock : SnoopOp → Option DateTime
  | .select now _ => some now
  | _ => none

/-- What happened to an entry since it was queued. -/
structure Stay where
  /-- The latest time at which it was observed. -/
  observed : DateTime
  /-- Its last selection. -/
  selected : Option DateTime
  /-- The outcomes of its replays, all empty, latest first. -/
  empties : List DateTime

/-- A queue, all its selections, and the stays of the entries that are queued. -/
structure SnoopRun where
  queue : SnoopQueue
  selections : List (SnoopFamily × DateTime)
  stays : String → Option Stay

namespace SnoopRun

/-- A stay starts with the first observation. -/
def observe (stays : String → Option Stay) (entry : SnoopEntry) : String → Option Stay :=
  Function.update stays entry.logicalKey <| some <|
    match stays entry.logicalKey with
    | none => ⟨entry.lastSeen, none, []⟩
    | some stay => { stay with observed := max stay.observed entry.lastSeen }

/-- A call, with the books kept. -/
def perform (r : SnoopRun) : SnoopOp → SnoopRun
  | .record entry =>
    { r with queue := (r.queue.record entry).2, stays := observe r.stays entry }
  | .mergeSnapshot entries =>
    { r with
      queue := r.queue.mergeSnapshot entries
      stays := (entries.filter fun entry => !shouldSkipRestoredEntry entry).foldl observe r.stays }
  | .select now family =>
    match r.queue.select now family with
    | (.ok (some key), queue) =>
      { queue
        selections := r.selections ++ [(family, now)]
        stays := Function.update r.stays key
          ((r.stays key).map fun stay => { stay with selected := some now }) }
    | (_, queue) => { r with queue }
  | .recordReplayOutcome key completedAt resultCount =>
    let queue := r.queue.recordReplayOutcome key completedAt resultCount
    -- an entry that is removed ends its stay
    let stay :=
      if (Keyed.get SnoopEntry.logicalKey key queue.entries).isSome then
        (r.stays key).map fun stay => { stay with empties := completedAt :: stay.empties }
      else none
    { r with queue, stays := Function.update r.stays key stay }

def step (r : SnoopRun) (op : SnoopOp) : Option SnoopRun := some (r.perform op)

/-- The start of a run. -/
def start (config : SnoopQueueConfig) : SnoopRun := ⟨SnoopQueue.new config, [], fun _ => none⟩

end SnoopRun

/-! ## The budget -/

/-- Ten minutes. -/
def budgetWindow : TimeDelta := 600 * NANOS_PER_SEC

/-- The selections in a window of ten minutes, both ends included. -/
def selectionsIn (r : SnoopRun) (families : List SnoopFamily) (start : DateTime) : Nat :=
  r.selections.countP fun s => s.1 ∈ families ∧ start ≤ s.2 ∧ s.2 ≤ start + budgetWindow

/-- Every window of ten minutes is within the budgets. -/
structure SnoopBudgeted (config : SnoopQueueConfig) (r : SnoopRun) : Prop where
  general : ∀ start,
    selectionsIn r [.keyword, .notes] start ≤ config.generalMaxQueriesPer600s.toNat
  source : ∀ start, selectionsIn r [.source] start ≤ config.sourceMaxQueriesPer600s.toNat

/-- Two families draw on the same budget. -/
abbrev SharesBudget (a b : SnoopFamily) : Prop := a = .source ↔ b = .source

/-- The times of the selections that draw on the budget of a family. -/
def SnoopRun.drains (r : SnoopRun) (family : SnoopFamily) : List DateTime :=
  (r.selections.filter fun s => SharesBudget s.1 family).map (·.2)

namespace SnoopQueue

/-- The queues agree on everything the budget is about. -/
structure SameDrains (q q' : SnoopQueue) : Prop where
  config_eq : q'.config = q.config
  recentDrains_eq : ∀ family, q'.recentDrains family = q.recentDrains family

theorem SameDrains.refl (q : SnoopQueue) : SameDrains q q := ⟨rfl, fun _ => rfl⟩

theorem SameDrains.familyMaxQueriesPer600s_eq {q q' : SnoopQueue} (h : SameDrains q q')
    (family : SnoopFamily) : q'.familyMaxQueriesPer600s family =
      q.familyMaxQueriesPer600s family := by
  cases family <;> simp only [familyMaxQueriesPer600s, h.config_eq]

section Drains

variable (q : SnoopQueue)

theorem sameDrains_mergeEntry (entry : SnoopEntry) : SameDrains q (q.mergeEntry entry).2 := by
  rw [mergeEntry]
  split <;> exact ⟨rfl, fun family => by cases family <;> rfl⟩

theorem sameDrains_mergeSnapshot (entries : List SnoopEntry) :
    SameDrains q (q.mergeSnapshot entries) := by
  rw [mergeSnapshot]
  induction entries generalizing q with
  | nil => exact .refl q
  | cons entry entries ih =>
    rw [List.foldl_cons]
    split_ifs
    · exact ih q
    · have hmerge := sameDrains_mergeEntry q entry
      have hrest := ih (q.mergeEntry entry).2
      exact ⟨hrest.config_eq.trans hmerge.config_eq, fun family =>
        (hrest.recentDrains_eq family).trans (hmerge.recentDrains_eq family)⟩

theorem sameDrains_recordReplayOutcome (key : String) (completedAt : DateTime) (count : Nat) :
    SameDrains q (q.recordReplayOutcome key completedAt count) := by
  rw [recordReplayOutcome]
  dsimp only
  split_ifs <;> exact ⟨rfl, fun family => by cases family <;> rfl⟩

variable {q} {family other : SnoopFamily}

theorem recentDrains_setRecentDrains (drains : List DateTime) :
    (q.setRecentDrains drains family).recentDrains other =
      if SharesBudget family other then drains else q.recentDrains other := by
  cases family <;> cases other <;> rfl

theorem config_setRecentDrains (drains : List DateTime) :
    (q.setRecentDrains drains family).config = q.config := by
  cases family <;> rfl

theorem familyMaxQueriesPer600s_eq_of_shares (h : SharesBudget family other) :
    q.familyMaxQueriesPer600s family = q.familyMaxQueriesPer600s other := by
  cases family <;> cases other <;> first | rfl | exact absurd h (by decide)

theorem recentDrains_eq_of_shares (h : SharesBudget family other) :
    q.recentDrains family = q.recentDrains other := by
  cases family <;> cases other <;> first | rfl | exact absurd h (by decide)

end Drains

/-- The drains that are dropped have left the window. -/
theorem pruneRecentDrains_ok {q q' : SnoopQueue} {now : DateTime} {family : SnoopFamily}
    (h : q.pruneRecentDrains now family = .ok q') :
    q' = q.setRecentDrains
      (SlidingWindow.prune (now - budgetWindow) (q.recentDrains family)) family := by
  rw [pruneRecentDrains] at h
  obtain ⟨cutoff, hcutoff, h⟩ := bind_ok h
  rw [sub_eq hcutoff] at h
  exact (Except.ok.inj h).symm

end SnoopQueue

section Budget

open SnoopQueue SlidingWindow

variable {config : SnoopQueueConfig} {r : SnoopRun}

theorem drains_snoc (r : SnoopRun) (queue : SnoopQueue) (stays : String → Option Stay)
    (family other : SnoopFamily) (now : DateTime) :
    SnoopRun.drains ⟨queue, r.selections ++ [(family, now)], stays⟩ other =
      r.drains other ++ if SharesBudget family other then [now] else [] := by
  rw [SnoopRun.drains, SnoopRun.drains, List.filter_append, List.map_append]
  congr 1
  by_cases h : SharesBudget family other
  · rw [List.filter_cons_of_pos (by simpa using h), if_pos h]
    rfl
  · rw [List.filter_cons_of_neg (by simpa using h), if_neg h]
    rfl

/-- What a selection does to the books. -/
theorem perform_select_cases (r : SnoopRun) (now : DateTime) (family : SnoopFamily) :
    r.perform (.select now family) = r ∨
      ∃ q', r.queue.pruneRecentDrains now family = .ok q' ∧
        (r.perform (.select now family) = { r with queue := q' } ∨
        ∃ entry ∈ q'.entries, q'.Rested family now entry ∧
          (q'.recentDrains family).length < (q'.familyMaxQueriesPer600s family).toNat ∧
          r.perform (.select now family) =
            { queue := q'.drain family entry.logicalKey now
              selections := r.selections ++ [(family, now)]
              stays := Function.update r.stays entry.logicalKey
                ((r.stays entry.logicalKey).map fun stay =>
                  { stay with selected := some now }) }) := by
  rw [SnoopRun.perform]
  have hmove := selectMove_select r.queue now family
  generalize r.queue.select now family = answer at hmove
  cases hmove with
  | early panic => exact .inl rfl
  | @passed q' result hprune hnone =>
    refine .inr ⟨q', hprune, .inl ?_⟩
    match result with
    | .error _ => rfl
    | .ok none => rfl
    | .ok (some key) => exact absurd rfl (hnone key)
  | @selected q' entry hprune hfew hentry hrested =>
    exact .inr ⟨q', hprune, .inr ⟨entry, hentry, hrested, hfew, rfl⟩⟩

/-- **A selection keeps the books and the budget**, if its clock is not behind. -/
theorem select_budget {now : DateTime} (family : SnoopFamily)
    (hkept : ∀ f, Kept budgetWindow (r.drains f) (r.queue.recentDrains f) now)
    (hwithin : ∀ f,
      Within budgetWindow (r.queue.familyMaxQueriesPer600s f).toNat (r.drains f)) :
    let r' := r.perform (.select now family)
    r'.queue.config = r.queue.config ∧
      (∀ f, Kept budgetWindow (r'.drains f) (r'.queue.recentDrains f) now) ∧
      ∀ f, Within budgetWindow (r.queue.familyMaxQueriesPer600s f).toNat (r'.drains f) := by
  intro r'
  rcases perform_select_cases r now family with hr' | ⟨q', hprune, hcases⟩
  · rw [show r' = r from hr']
    exact ⟨rfl, hkept, hwithin⟩
  have hq' := pruneRecentDrains_ok hprune
  have hconfig : q'.config = r.queue.config := by rw [hq', config_setRecentDrains]
  have hpruned : ∀ f, Kept budgetWindow (r.drains f) (q'.recentDrains f) now := by
    intro f
    rw [hq', recentDrains_setRecentDrains]
    split_ifs with hshares
    · rw [recentDrains_eq_of_shares hshares]
      exact (hkept f).prune fun t ht => by linarith
    · exact hkept f
  rcases hcases with hr' | ⟨entry, -, -, hfew, hr'⟩
  · rw [show r' = { r with queue := q' } from hr']
    exact ⟨hconfig, hpruned, hwithin⟩
  · rw [show r' = _ from hr']
    refine ⟨by rw [drain, config_setRecentDrains, hconfig], fun f => ?_, fun f => ?_⟩
    · rw [drains_snoc, drain, recentDrains_setRecentDrains]
      split_ifs with hshares
      · rw [recentDrains_eq_of_shares hshares]
        exact (hpruned f).snoc now
      · rw [List.append_nil]
        exact hpruned f
    · rw [drains_snoc]
      split_ifs with hshares
      · rw [recentDrains_eq_of_shares hshares, familyMaxQueriesPer600s_eq_of_shares hshares] at hfew
        refine (hwithin f).snoc (hpruned f) ?_
        cases f <;> simpa only [familyMaxQueriesPer600s, hconfig] using hfew
      · rw [List.append_nil]
        exact hwithin f

/-- The budgets, in terms of the log of each. -/
theorem snoopBudgeted_of_within
    (h : ∀ f, Within budgetWindow (r.queue.familyMaxQueriesPer600s f).toNat (r.drains f)) :
    SnoopBudgeted r.queue.config r where
  general start := by
    refine le_trans (le_of_eq ?_) (h .keyword start)
    rw [selectionsIn, SnoopRun.drains, List.countP_map, List.countP_filter]
    refine List.countP_congr fun s _ => ?_
    cases s.1 <;> simp
  source start := by
    refine le_trans (le_of_eq ?_) (h .source start)
    rw [selectionsIn, SnoopRun.drains, List.countP_map, List.countP_filter]
    refine List.countP_congr fun s _ => ?_
    cases s.1 <;> simp

theorem sameDrains_perform (r : SnoopRun) {op : SnoopOp} (h : op.clock = none) :
    SameDrains r.queue (r.perform op).queue ∧ (r.perform op).selections = r.selections := by
  cases op with
  | record entry => exact ⟨sameDrains_mergeEntry r.queue entry, rfl⟩
  | mergeSnapshot entries => exact ⟨sameDrains_mergeSnapshot r.queue entries, rfl⟩
  | select now family => exact absurd h nofun
  | recordReplayOutcome key completedAt count =>
    exact ⟨sameDrains_recordReplayOutcome r.queue key completedAt count, rfl⟩

/-- The budget along a run, from any state whose books are in order for the clocks to come. -/
theorem always_budgeted {ops : List SnoopOp}
    (hkept : ∀ now ∈ ops.filterMap SnoopOp.clock, ∀ f,
      Kept budgetWindow (r.drains f) (r.queue.recentDrains f) now)
    (hwithin : ∀ f,
      Within budgetWindow (r.queue.familyMaxQueriesPer600s f).toNat (r.drains f))
    (hclock : (ops.filterMap SnoopOp.clock).Pairwise (· ≤ ·)) :
    Always SnoopRun.step (SnoopBudgeted r.queue.config) r ops := by
  induction ops generalizing r with
  | nil => exact always_nil.mpr (snoopBudgeted_of_within hwithin)
  | cons op ops ih =>
    refine always_cons.mpr ⟨snoopBudgeted_of_within hwithin, fun r' hstep => ?_⟩
    obtain rfl := Option.some.inj hstep
    rcases hop : op.clock with - | now
    · obtain ⟨hsame, hselections⟩ := sameDrains_perform r hop
      rw [List.filterMap_cons_none hop] at hkept hclock
      have hdrains : (r.perform op).drains = r.drains := by
        funext f
        rw [SnoopRun.drains, SnoopRun.drains, hselections]
      rw [← hsame.config_eq]
      refine ih (fun t ht f => ?_) (fun f => ?_) hclock
      · rw [hdrains, hsame.recentDrains_eq]
        exact hkept t ht f
      · rw [hdrains, hsame.familyMaxQueriesPer600s_eq]
        exact hwithin f
    · rw [List.filterMap_cons_some hop] at hkept hclock
      obtain ⟨hlater, hrest⟩ := List.pairwise_cons.mp hclock
      cases op with
      | select time family =>
        obtain rfl := Option.some.inj hop
        obtain ⟨hconfig, hkept', hwithin'⟩ :=
          select_budget family (hkept time List.mem_cons_self) hwithin
        rw [← hconfig]
        refine ih (fun t ht f => (hkept' f).mono (hlater t ht)) (fun f => ?_) hrest
        cases f <;> simpa only [familyMaxQueriesPer600s, hconfig] using hwithin' _
      | _ => exact absurd hop nofun

end Budget

/-- **The query budget of the snoop queue** holds in every window of ten minutes of every run whose
selections come in the order of their clocks. -/
theorem snoop_budget (config : SnoopQueueConfig) (ops : List SnoopOp)
    (hclock : (ops.filterMap SnoopOp.clock).Pairwise (· ≤ ·)) :
    Always SnoopRun.step (SnoopBudgeted config) (SnoopRun.start config) ops :=
  always_budgeted (fun _ _ f => by cases f <;> exact .nil) (fun _ => .nil) hclock

/-- A keyword search that was observed at the epoch. -/
def observedKeyword : SnoopEntry :=
  ⟨"kw", "00112233445566778899aabbccddeeff", .keyword 0 none, 1, 0, 0, none⟩

/-- A notes search that was observed with it. -/
def observedNotes : SnoopEntry :=
  ⟨"notes", "ffeeddccbbaa99887766554433221100", .notes 7, 1, 0, 0, none⟩

/-- Three selections, of which the second one comes too early after the first. -/
def budgetedOps : List SnoopOp :=
  [.record observedKeyword, .record observedNotes, .select 0 .keyword,
    .select (300 * NANOS_PER_SEC) .notes, .select (900 * NANOS_PER_SEC) .notes]

/-- With a budget of one for keywords and notes together. -/
theorem snoop_budget_two_selections :
    (run SnoopRun.step (SnoopRun.start ⟨60, 1, 300, 2, 300⟩) budgetedOps).map
        SnoopRun.selections = some [(.keyword, 0), (.notes, 900 * NANOS_PER_SEC)] ∧
      (budgetedOps.filterMap SnoopOp.clock).Pairwise (· ≤ ·) ∧
      Always SnoopRun.step (SnoopBudgeted ⟨60, 1, 300, 2, 300⟩)
        (SnoopRun.start ⟨60, 1, 300, 2, 300⟩) budgetedOps :=
  ⟨by decide +kernel, by decide, snoop_budget _ _ (by decide)⟩

/-! ## The cooldown -/

/-- **The replays of an entry are spaced.**  Whatever a selection at any time selects was not
selected since its stay began, or at least a cooldown ago; and several, if its replays found nothing
and it was not observed after the last of them. -/
structure ReplaySpaced (config : SnoopQueueConfig) (r : SnoopRun) : Prop where
  config_eq : r.queue.config = config
  spaced : ∀ now family key, (r.queue.select now family).1 = .ok (some key) →
    ∃ stay, r.stays key = some stay ∧ ∀ last ∈ stay.selected,
      last + (r.queue.familyDrainCooldownSecs family).toNat * NANOS_PER_SEC ≤ now ∧
      ∀ latest ∈ stay.empties.head?, stay.observed ≤ latest →
        last + (min (stay.empties.length + 1) 4 : Nat) *
          ((r.queue.familyDrainCooldownSecs family).toNat * NANOS_PER_SEC) ≤ now

/-- **What the queue knows of a stay.** -/
structure TracksStay (feedback : ReplayFeedback) (entry : SnoopEntry) (stay : Stay) : Prop where
  lastSeen_eq : entry.lastSeen = stay.observed
  /-- Merging and observing can move the time of the last drain only forward. -/
  drained : ∀ t ∈ stay.selected, ∃ last ∈ entry.lastDrainedAt, t ≤ last
  lastOutcomeAt_eq : ∀ t ∈ stay.empties.head?, feedback.lastOutcomeAt = some t
  /-- The streak may also count outcomes from before the stay. -/
  streak : min stay.empties.length (2 ^ 32 - 1) ≤ feedback.zeroResultStreak.toNat

namespace TracksStay

variable {feedback : ReplayFeedback} {entry : SnoopEntry} {stay : Stay}

/-- The stay of an entry that was just queued. -/
theorem new (feedback : ReplayFeedback) (entry : SnoopEntry) :
    TracksStay feedback entry ⟨entry.lastSeen, none, []⟩ :=
  ⟨rfl, fun _ h => absurd h (by simp), fun _ h => absurd h (by simp), Nat.zero_le _⟩

theorem absorb (h : TracksStay feedback entry stay) (other : SnoopEntry) :
    TracksStay feedback (entry.absorb other)
      { stay with observed := max stay.observed other.lastSeen } where
  lastSeen_eq := congrArg (max · other.lastSeen) h.lastSeen_eq
  drained t ht := by
    obtain ⟨last, hlast, hle⟩ := h.drained t ht
    rw [SnoopEntry.absorb, Option.mem_def.mp hlast]
    cases other.lastDrainedAt with
    | none => exact ⟨last, rfl, hle⟩
    | some right => exact ⟨max last right, rfl, hle.trans (le_max_left _ _)⟩
  lastOutcomeAt_eq := h.lastOutcomeAt_eq
  streak := h.streak

theorem drain (h : TracksStay feedback entry stay) (now : DateTime) :
    TracksStay feedback { entry with lastDrainedAt := some now }
      { stay with selected := some now } where
  lastSeen_eq := h.lastSeen_eq
  drained _ ht := ⟨now, rfl, (Option.some.inj ht).ge⟩
  lastOutcomeAt_eq := h.lastOutcomeAt_eq
  streak := h.streak

theorem empty (h : TracksStay feedback entry stay) (completedAt : DateTime) :
    TracksStay ⟨saturatingAdd feedback.zeroResultStreak 1, 0, some completedAt⟩ entry
      { stay with empties := completedAt :: stay.empties } where
  lastSeen_eq := h.lastSeen_eq
  drained := h.drained
  lastOutcomeAt_eq _ ht := ht
  streak := by
    have hstreak := h.streak
    have hone : (1 : UInt32).toNat = 1 := rfl
    rw [List.length_cons, toNat_saturatingAdd]
    omega

/-- The spacing of the selections of a stay. -/
theorem spaced {q : SnoopQueue} {family : SnoopFamily} {now : DateTime}
    (h : TracksStay (q.feedbackOf entry.logicalKey) entry stay)
      (hrested : q.Rested family now entry) :
    ∀ last ∈ stay.selected,
      last + (q.familyDrainCooldownSecs family).toNat * NANOS_PER_SEC ≤ now ∧
      ∀ latest ∈ stay.empties.head?, stay.observed ≤ latest →
        last + (min (stay.empties.length + 1) 4 : Nat) *
          ((q.familyDrainCooldownSecs family).toNat * NANOS_PER_SEC) ≤ now := by
  intro last hlast
  obtain ⟨drained, hdrained, hle⟩ := h.drained last hlast
  have hbackoff := hrested drained hdrained
  -- as many cooldowns as the entry has to wait
  have hwait : ∀ n, n ≤ backoff entry (q.feedbackOf entry.logicalKey) →
      last + (n : Nat) * ((q.familyDrainCooldownSecs family).toNat * NANOS_PER_SEC) ≤ now := by
    intro n hn
    have hcooldown : (0 : Int) ≤ (q.familyDrainCooldownSecs family).toNat * NANOS_PER_SEC := by
      rw [NANOS_PER_SEC]
      omega
    have hscaled := mul_le_mul_of_nonneg_right (Int.ofNat_le.mpr hn) hcooldown
    have hcomm : ((q.familyDrainCooldownSecs family).toNat *
        backoff entry (q.feedbackOf entry.logicalKey) : Nat) * NANOS_PER_SEC =
        (backoff entry (q.feedbackOf entry.logicalKey) : Int) *
          ((q.familyDrainCooldownSecs family).toNat * NANOS_PER_SEC) := by
      push_cast
      ring
    linarith
  refine ⟨by simpa using hwait 1 (one_le_backoff _ _), fun latest hlatest hobserved => hwait _ ?_⟩
  have hstreak := h.streak
  have hne : stay.empties.length ≠ 0 := fun hzero => by
    rw [List.length_eq_zero_iff.mp hzero] at hlatest
    exact absurd hlatest (by simp)
  have hpos : (q.feedbackOf entry.logicalKey).zeroResultStreak ≠ 0 := fun hzero => by
    rw [hzero, UInt32.toNat_zero] at hstreak
    omega
  rw [backoff, h.lastOutcomeAt_eq latest hlatest]
  dsimp only
  rw [if_neg (not_or.mpr ⟨hpos, not_lt.mpr (h.lastSeen_eq ▸ hobserved)⟩)]
  omega

end TracksStay

/-- **The queue and the stays.**  Exactly the queued entries have a stay. -/
structure Linked (q : SnoopQueue) (stays : String → Option Stay) : Prop where
  distinct : Keyed.Distinct SnoopEntry.logicalKey q.entries
  tracked : ∀ key, Option.Rel (TracksStay (q.feedbackOf key))
    (Keyed.get SnoopEntry.logicalKey key q.entries) (stays key)

namespace Linked

variable {q : SnoopQueue} {stays : String → Option Stay}

/-- An entry that is not queued has no stay. -/
theorem stays_eq_none (h : Linked q stays) {key : String}
    (hget : Keyed.get SnoopEntry.logicalKey key q.entries = none) : stays key = none := by
  have htracked := h.tracked key
  rw [hget] at htracked
  generalize stays key = stay at htracked ⊢
  cases htracked
  rfl

theorem mergeEntry (h : Linked q stays) (entry : SnoopEntry) :
    Linked (q.mergeEntry entry).2 (SnoopRun.observe stays entry) := by
  have htracked := h.tracked entry.logicalKey
  rw [SnoopQueue.mergeEntry]
  cases hget : Keyed.get SnoopEntry.logicalKey entry.logicalKey q.entries with
  | none =>
    rw [hget] at htracked
    have hstays := h.stays_eq_none hget
    refine ⟨h.distinct.snoc hget, fun key => ?_⟩
    rw [SnoopRun.observe, hstays]
    change Option.Rel (TracksStay (q.feedbackOf key)) (Keyed.get _ key (q.entries ++ [entry])) _
    rw [Keyed.get_snoc]
    by_cases hkey : entry.logicalKey = key
    · obtain rfl := hkey
      rw [hget, if_pos rfl, Function.update_self]
      exact .some (TracksStay.new _ entry)
    · rw [if_neg hkey, Option.or_none, Function.update_of_ne (Ne.symm hkey)]
      exact h.tracked key
  | some existing =>
    rw [hget] at htracked
    have hkeep : ∀ e ∈ q.entries, e.logicalKey = entry.logicalKey →
        (e.absorb entry).logicalKey = entry.logicalKey := fun _ _ he => he
    refine ⟨h.distinct.modify hkeep, fun key => ?_⟩
    rw [SnoopRun.observe]
    change Option.Rel (TracksStay (q.feedbackOf key)) (Keyed.get _ key (Keyed.modify ..)) _
    by_cases hkey : key = entry.logicalKey
    · obtain rfl := hkey
      rw [Keyed.get_modify hkeep, hget, Function.update_self]
      generalize stays entry.logicalKey = tracked at htracked
      cases htracked with
      | some hstay => exact .some (hstay.absorb entry)
    · rw [Keyed.get_modify_of_ne hkeep hkey, Function.update_of_ne hkey]
      exact h.tracked key

theorem mergeSnapshot (h : Linked q stays) (entries : List SnoopEntry) :
    Linked (q.mergeSnapshot entries)
      ((entries.filter fun entry => !shouldSkipRestoredEntry entry).foldl SnoopRun.observe
        stays) := by
  rw [SnoopQueue.mergeSnapshot]
  induction entries generalizing q stays with
  | nil => exact h
  | cons entry entries ih =>
    rw [List.foldl_cons]
    cases hskip : shouldSkipRestoredEntry entry with
    | true =>
      rw [List.filter_cons_of_neg (by simp [hskip])]
      exact ih h
    | false =>
      rw [List.filter_cons_of_pos (by simp [hskip]), List.foldl_cons]
      exact ih (h.mergeEntry entry)

theorem setRecentDrains (h : Linked q stays) (drains : List DateTime) (family : SnoopFamily) :
    Linked (q.setRecentDrains drains family) stays := by
  cases family <;> exact ⟨h.distinct, h.tracked⟩

theorem drain (h : Linked q stays) (family : SnoopFamily) (key : String) (now : DateTime) :
    Linked (q.drain family key now) (Function.update stays key
      ((stays key).map fun stay => { stay with selected := some now })) := by
  have hkeep : ∀ e ∈ q.entries, e.logicalKey = key →
      ({ e with lastDrainedAt := some now } : SnoopEntry).logicalKey = key := fun _ _ he => he
  refine setRecentDrains ⟨h.distinct.modify hkeep, fun other => ?_⟩ _ family
  change Option.Rel (TracksStay (q.feedbackOf other)) (Keyed.get _ other (Keyed.modify ..)) _
  by_cases hkey : other = key
  · obtain rfl := hkey
    have htracked := h.tracked other
    rw [Keyed.get_modify hkeep, Function.update_self]
    generalize Keyed.get SnoopEntry.logicalKey other q.entries = entry at htracked ⊢
    generalize stays other = stay at htracked ⊢
    cases htracked with
    | none => exact .none
    | some hstay => exact .some (hstay.drain now)
  · rw [Keyed.get_modify_of_ne hkeep hkey, Function.update_of_ne hkey]
    exact h.tracked other

theorem forget (h : Linked q stays) (key : String) :
    Linked (q.forget key) (Function.update stays key none) := by
  refine ⟨h.distinct.remove key, fun other => ?_⟩
  rw [SnoopQueue.feedbackOf, SnoopQueue.forget]
  dsimp only
  by_cases hkey : other = key
  · obtain rfl := hkey
    rw [Keyed.get_remove_self, Function.update_self, Function.update_self]
    exact .none
  · rw [Keyed.get_remove_of_ne hkey, Function.update_of_ne hkey, Function.update_of_ne hkey]
    exact h.tracked other

theorem empty (h : Linked q stays) (key : String) (completedAt : DateTime) :
    Linked
      { q with
        replayFeedback :=
          Function.update q.replayFeedback key (some (q.emptyFeedback key completedAt)) }
      (Function.update stays key ((stays key).map fun stay =>
        { stay with empties := completedAt :: stay.empties })) := by
  refine ⟨h.distinct, fun other => ?_⟩
  rw [SnoopQueue.feedbackOf]
  dsimp only
  by_cases hkey : other = key
  · obtain rfl := hkey
    have htracked := h.tracked other
    rw [Function.update_self, Function.update_self, Option.getD_some]
    generalize Keyed.get SnoopEntry.logicalKey other q.entries = entry at htracked ⊢
    generalize stays other = stay at htracked ⊢
    cases htracked with
    | none => exact .none
    | some hstay => exact .some (hstay.empty completedAt)
  · rw [Function.update_of_ne hkey, Function.update_of_ne hkey]
    exact h.tracked other

theorem recordReplayOutcome (h : Linked q stays) (key : String) (completedAt : DateTime)
    (resultCount : Nat) :
    Linked (q.recordReplayOutcome key completedAt resultCount) (Function.update stays key
      (if (Keyed.get SnoopEntry.logicalKey key
          (q.recordReplayOutcome key completedAt resultCount).entries).isSome then
        (stays key).map fun stay => { stay with empties := completedAt :: stay.empties }
      else none)) := by
  have hforgot : (Keyed.get SnoopEntry.logicalKey key (q.forget key).entries).isSome = false := by
    rw [SnoopQueue.forget, Keyed.get_remove_self]
    rfl
  rw [SnoopQueue.recordReplayOutcome]
  dsimp only
  split_ifs with hresults hqueued hevict hqueued hqueued
  · exact absurd hqueued (by rw [hforgot]; nofun)
  · exact h.forget key
  · exact absurd hqueued (by rw [hforgot]; nofun)
  · exact h.forget key
  · exact h.empty key completedAt
  · have hnone := h.stays_eq_none (Option.not_isSome_iff_eq_none.mp hqueued)
    have hempty := h.empty key completedAt
    rwa [hnone] at hempty

theorem perform {r : SnoopRun} (h : Linked r.queue r.stays) (op : SnoopOp) :
    Linked (r.perform op).queue (r.perform op).stays := by
  cases op with
  | record entry => exact h.mergeEntry entry
  | mergeSnapshot entries => exact h.mergeSnapshot entries
  | select now family =>
    rcases perform_select_cases r now family with hr' | ⟨q', hprune, hr' | ⟨entry, _, _, _, hr'⟩⟩
    · rwa [hr']
    · rw [hr', SnoopQueue.pruneRecentDrains_ok hprune]
      exact h.setRecentDrains _ family
    · rw [hr', SnoopQueue.pruneRecentDrains_ok hprune]
      exact (h.setRecentDrains _ family).drain family entry.logicalKey now
  | recordReplayOutcome key completedAt count =>
    exact h.recordReplayOutcome key completedAt count

end Linked

theorem config_perform (r : SnoopRun) (op : SnoopOp) :
    (r.perform op).queue.config = r.queue.config := by
  cases op with
  | select now family =>
    rcases perform_select_cases r now family with hr' | ⟨q', hprune, hr' | ⟨entry, _, _, _, hr'⟩⟩
    · rw [hr']
    · rw [hr', SnoopQueue.pruneRecentDrains_ok hprune, SnoopQueue.config_setRecentDrains]
    · rw [hr', SnoopQueue.pruneRecentDrains_ok hprune, SnoopQueue.drain,
        SnoopQueue.config_setRecentDrains, SnoopQueue.config_setRecentDrains]
  | _ => exact (sameDrains_perform r rfl).1.config_eq

/-- Linked books make the selections spaced. -/
theorem Linked.spaced {r : SnoopRun} (h : Linked r.queue r.stays) {now : DateTime}
    {family : SnoopFamily} {key : String}
    (hselect : (r.queue.select now family).1 = .ok (some key)) :
    ∃ stay, r.stays key = some stay ∧ ∀ last ∈ stay.selected,
      last + (r.queue.familyDrainCooldownSecs family).toNat * NANOS_PER_SEC ≤ now ∧
      ∀ latest ∈ stay.empties.head?, stay.observed ≤ latest →
        last + (min (stay.empties.length + 1) 4 : Nat) *
          ((r.queue.familyDrainCooldownSecs family).toNat * NANOS_PER_SEC) ≤ now := by
  have hmove := SnoopQueue.selectMove_select r.queue now family
  generalize r.queue.select now family = answer at hmove hselect
  cases hmove with
  | early panic => exact absurd hselect nofun
  | passed _ hnone => exact absurd hselect (hnone key)
  | @selected q' entry hprune hfew hentry hrested =>
    obtain rfl := Option.some.inj (Except.ok.inj hselect)
    have hlinked : Linked q' r.stays := by
      rw [SnoopQueue.pruneRecentDrains_ok hprune]
      exact h.setRecentDrains _ family
    have hcooldown : q'.familyDrainCooldownSecs family =
        r.queue.familyDrainCooldownSecs family := by
      rw [SnoopQueue.pruneRecentDrains_ok hprune]
      cases family <;> rfl
    have htracked := hlinked.tracked entry.logicalKey
    rw [hlinked.distinct.get_eq_some_iff.mpr ⟨hentry, rfl⟩] at htracked
    generalize r.stays entry.logicalKey = stay at htracked ⊢
    cases htracked with
    | some hstay =>
      rw [← hcooldown]
      exact ⟨_, rfl, hstay.spaced hrested⟩

/-- **The replays of the snoop queue are spaced in every state of every run.** -/
theorem replay_spaced (config : SnoopQueueConfig) (ops : List SnoopOp) :
    Always SnoopRun.step (ReplaySpaced config) (SnoopRun.start config) ops := by
  intro done r _ hrun
  have hstart : Linked (SnoopRun.start config).queue (SnoopRun.start config).stays :=
    ⟨List.nodup_nil, fun _ => .none⟩
  have hinv : r.queue.config = config ∧ Linked r.queue r.stays := by
    refine run_invariant (I := fun r => r.queue.config = config ∧ Linked r.queue r.stays)
      (fun r op r' hr hstep => ?_) ⟨rfl, hstart⟩ hrun
    obtain rfl := Option.some.inj hstep
    exact ⟨(config_perform r op).trans hr.1, hr.2.perform op⟩
  exact ⟨hinv.1, fun now family key hselect => hinv.2.spaced hselect⟩

-- a second selection is refused a second before the cooldown of 300 seconds is over
example :
    (([299, 300] : List Int).map fun t =>
      (run SnoopRun.step (SnoopRun.start ⟨60, 5, 300, 2, 300⟩)
        [.record observedKeyword, .select 0 .keyword, .select (t * NANOS_PER_SEC) .keyword]).map
        (·.selections.length)) = [some 1, some 2] := by
  decide +kernel

end Overlord.Emule
