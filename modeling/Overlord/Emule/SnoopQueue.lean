import Overlord.Data.Hex
import Overlord.Data.Keyed
import Overlord.Data.SlidingWindow
import Overlord.Kad.Proto.FromStr
import Overlord.Kad.Proto.Packet

/-!
# The snoop queue

`snoop_queue.rs` of the eMule agent: the searches of other nodes that were observed, and the choice
of the next one to replay.

The three selections are one loop with a family, a way to read the request of an entry and a way to
choose among the candidates (`SnoopQueue.selectNext`).  Entries are filed under their own logical
key, so the hash map is a list of entries with distinct keys, and its order is the order of
iteration.

Times are in nanoseconds.  Subtracting from a time panics when it leaves the range of the type, and
so does a number of seconds that is too large.  A selection that panics after it dropped old drains
from its queue has dropped them, so every selection returns the queue next to its result.
-/

set_option autoImplicit false

namespace Overlord.Emule

open Kad Wire

/-! ## Times -/

/-- `DateTime<Utc>`, in nanoseconds. -/
abbrev DateTime := Int

/-- `TimeDelta`, in nanoseconds. -/
abbrev TimeDelta := Int

def NANOS_PER_SEC : Int := 1000000000

/-- `DateTime::<Utc>::MIN_UTC`, the start of the year -262143. -/
def DateTime.MIN_UTC : DateTime := -8334601228800 * NANOS_PER_SEC

/-- `TimeDelta::seconds`. -/
def TimeDelta.seconds (seconds : Nat) : Except Panic TimeDelta :=
  if seconds ≤ (2 ^ 63 - 1) / 1000 then .ok (seconds * NANOS_PER_SEC)
  else .error ⟨"TimeDelta::seconds out of bounds"⟩

/-- A time minus a delta. -/
def DateTime.sub (time : DateTime) (delta : TimeDelta) : Except Panic DateTime :=
  if DateTime.MIN_UTC ≤ time - delta then .ok (time - delta)
  else .error ⟨"`DateTime - TimeDelta` overflowed"⟩

/-- `seconds`. -/
def seconds (value : Nat) : Except Panic TimeDelta := TimeDelta.seconds (min value (2 ^ 63 - 1))

/-- `saturating_add` of `u32`. -/
def saturatingAdd (a b : UInt32) : UInt32 := UInt32.ofNat (min (a.toNat + b.toNat) (2 ^ 32 - 1))

/-! ## Entries -/

inductive SnoopFamily where
  | keyword
  | source
  | notes
deriving DecidableEq, Repr

/-- What the entries of the three families do not share. -/
inductive SnoopShape where
  | keyword (startPosition : UInt16) (restrictivePayloadHex : Option String)
  | source (startPosition : UInt16) (size : UInt64)
  | notes (size : UInt64)
deriving DecidableEq, Repr

structure SnoopEntry where
  logicalKey : String
  target : String
  shape : SnoopShape
  hitCount : UInt32
  firstSeen : DateTime
  lastSeen : DateTime
  lastDrainedAt : Option DateTime
deriving DecidableEq, Repr

/-- `entry_family`. -/
def entryFamily (entry : SnoopEntry) : SnoopFamily :=
  match entry.shape with
  | .keyword .. => .keyword
  | .source .. => .source
  | .notes .. => .notes

/-- `NodeId::from_str(target).ok()?`. -/
def targetOf (entry : SnoopEntry) : Except Panic (Option NodeId) :=
  return (← NodeId.fromStr entry.target).toOption

/-- `keyword_request`. -/
def SnoopEntry.keywordRequest (entry : SnoopEntry) : Except Panic (Option SearchKeyReq) :=
  match entry.shape with
  | .keyword startPosition restrictivePayloadHex => do
    let some target ← targetOf entry | return none
    let some restrictivePayload := restrictivePayloadHex.elim (some []) Hex.decode | return none
    return some { target, startPosition, restrictivePayload }
  | _ => return none

/-- `source_request`. -/
def SnoopEntry.sourceRequest (entry : SnoopEntry) : Except Panic (Option SearchSourceReq) :=
  match entry.shape with
  | .source startPosition size => do
    if size = 0 then return none
    let some target ← targetOf entry | return none
    return some { target, startPosition, size }
  | _ => return none

/-- `notes_request`. -/
def SnoopEntry.notesRequest (entry : SnoopEntry) : Except Panic (Option SearchNotesReq) :=
  match entry.shape with
  | .notes size => do
    if size = 0 then return none
    let some target ← targetOf entry | return none
    return some { target, size }
  | _ => return none

/-- `should_skip_restored_entry`. -/
def shouldSkipRestoredEntry (entry : SnoopEntry) : Bool :=
  match entry.shape with
  | .source .. => entry.lastDrainedAt.any (fun last => entry.lastSeen ≤ last) || entry.hitCount ≤ 1
  | _ => false

/-- `should_evict_zero_yield_source_entry`. -/
def shouldEvictZeroYieldSourceEntry (entry : SnoopEntry) : Bool :=
  match entry.shape with
  | .source .. => entry.lastDrainedAt.any fun last => entry.lastSeen ≤ last
  | _ => false

/-- An entry takes in a newer occurrence of its key. -/
def SnoopEntry.absorb (existing entry : SnoopEntry) : SnoopEntry :=
  { existing with
    hitCount := saturatingAdd existing.hitCount entry.hitCount
    lastSeen := max existing.lastSeen entry.lastSeen
    firstSeen := min existing.firstSeen entry.firstSeen
    lastDrainedAt :=
      match existing.lastDrainedAt, entry.lastDrainedAt with
      | some left, some right => some (max left right)
      | some left, none => some left
      | none, right => right }

/-! ## The queue -/

structure SnoopQueueConfig where
  dedupWindowSecs : UInt64
  generalMaxQueriesPer600s : UInt32
  generalDrainCooldownSecs : UInt64
  sourceMaxQueriesPer600s : UInt32
  sourceDrainCooldownSecs : UInt64
deriving DecidableEq, Repr

structure ReplayFeedback where
  zeroResultStreak : UInt32 := 0
  lastResultCount : UInt32 := 0
  lastOutcomeAt : Option DateTime := none
deriving DecidableEq, Repr

structure SnoopQueue where
  config : SnoopQueueConfig
  entries : List SnoopEntry
  replayFeedback : String → Option ReplayFeedback
  recentGeneralDrains : List DateTime
  recentSourceDrains : List DateTime

structure SnoopRecordOutcome where
  isNew : Bool
  hitCount : UInt32
  queueDepth : Nat
  familyQueueDepth : Nat
deriving DecidableEq, Repr

structure ScheduledSnoopRequest (Request : Type) where
  logicalKey : String
  request : Request
deriving DecidableEq, Repr

structure ReplayCandidate (Request : Type) where
  scheduled : ScheduledSnoopRequest Request
  hitCount : UInt32
  lastSeen : DateTime
  zeroResultStreak : UInt32
  lastResultCount : UInt32
  observedAfterOutcome : Bool
deriving DecidableEq, Repr

/-! ### The order of the candidates -/

section Cmp

variable {Request : Type}

/-- `candidate_cmp`. -/
def candidateCmp (left right : ReplayCandidate Request) : Ordering :=
  (compare right.observedAfterOutcome left.observedAfterOutcome)
    |>.then (compare left.zeroResultStreak right.zeroResultStreak)
    |>.then (compare right.lastResultCount left.lastResultCount)
    |>.then (compare right.hitCount left.hitCount)
    |>.then (compare right.lastSeen left.lastSeen)
    |>.then (compare left.scheduled.logicalKey right.scheduled.logicalKey)

/-- `source_candidate_is_high_quality`. -/
def sourceCandidateIsHighQuality (candidate : ReplayCandidate Request) : Bool :=
  2 ≤ candidate.hitCount || 0 < candidate.lastResultCount

/-- `source_candidate_cmp`. -/
def sourceCandidateCmp (left right : ReplayCandidate Request) : Ordering :=
  (compare right.observedAfterOutcome left.observedAfterOutcome)
    |>.then (compare (sourceCandidateIsHighQuality right) (sourceCandidateIsHighQuality left))
    |>.then (compare left.zeroResultStreak right.zeroResultStreak)
    |>.then (compare right.lastResultCount left.lastResultCount)
    |>.then (compare right.hitCount left.hitCount)
    |>.then (compare right.lastSeen left.lastSeen)
    |>.then (compare left.scheduled.logicalKey right.scheduled.logicalKey)

/-- `notes_candidate_cmp`. -/
def notesCandidateCmp (left right : ReplayCandidate SearchNotesReq) : Ordering :=
  candidateCmp left right

/-- The first candidate after sorting. -/
def firstBy (cmp : ReplayCandidate Request → ReplayCandidate Request → Ordering)
    (candidates : List (ReplayCandidate Request)) : Option (ReplayCandidate Request) :=
  (candidates.mergeSort fun left right => (cmp left right).isLE).head?

/-- The best recent candidate, or else the best stale one. -/
def selectBestCandidate (cmp : ReplayCandidate Request → ReplayCandidate Request → Ordering)
    (recent stale : List (ReplayCandidate Request)) : Option (ReplayCandidate Request) :=
  (firstBy cmp recent).or (firstBy cmp stale)

/-- `select_best_source_candidate`. -/
def selectBestSourceCandidate (recent stale : List (ReplayCandidate SearchSourceReq)) :
    Option (ReplayCandidate SearchSourceReq) :=
  if (recent ++ stale).any sourceCandidateIsHighQuality then
    selectBestCandidate sourceCandidateCmp (recent.filter sourceCandidateIsHighQuality)
      (stale.filter sourceCandidateIsHighQuality)
  else selectBestCandidate sourceCandidateCmp recent stale

end Cmp

/-- `replay_cooldown_cutoff`. -/
def replayCooldownCutoff (defaultCutoff now : DateTime) (drainCooldownSecs : UInt64)
    (entry : SnoopEntry) (feedback : ReplayFeedback) : Except Panic DateTime :=
  match feedback.lastOutcomeAt with
  | none => return defaultCutoff
  | some lastOutcomeAt =>
    if feedback.zeroResultStreak = 0 ∨ lastOutcomeAt < entry.lastSeen then return defaultCutoff
    else do
      let zeroBackoffMultiplier := min (saturatingAdd feedback.zeroResultStreak 1).toNat 4
      let cooldownSecs := min (drainCooldownSecs.toNat * zeroBackoffMultiplier) (2 ^ 64 - 1)
      now.sub (← seconds cooldownSecs)

namespace SnoopQueue

/-- `SnoopQueue::new`. -/
def new (config : SnoopQueueConfig) : SnoopQueue where
  config
  entries := []
  replayFeedback := fun _ => none
  recentGeneralDrains := []
  recentSourceDrains := []

variable (q : SnoopQueue)

/-- `family_count`. -/
def familyCount (family : SnoopFamily) : Nat := q.entries.countP fun e => entryFamily e = family

/-- `family_max_queries_per_600s`. -/
def familyMaxQueriesPer600s : SnoopFamily → UInt32
  | .keyword | .notes => q.config.generalMaxQueriesPer600s
  | .source => q.config.sourceMaxQueriesPer600s

/-- `family_drain_cooldown_secs`. -/
def familyDrainCooldownSecs : SnoopFamily → UInt64
  | .keyword | .notes => q.config.generalDrainCooldownSecs
  | .source => q.config.sourceDrainCooldownSecs

/-- `recent_drains`. -/
def recentDrains : SnoopFamily → List DateTime
  | .keyword | .notes => q.recentGeneralDrains
  | .source => q.recentSourceDrains

/-- Write through `recent_drains_mut`. -/
def setRecentDrains (drains : List DateTime) : SnoopFamily → SnoopQueue
  | .keyword | .notes => { q with recentGeneralDrains := drains }
  | .source => { q with recentSourceDrains := drains }

/-- `merge_entry`. -/
def mergeEntry (entry : SnoopEntry) : (Bool × UInt32) × SnoopQueue :=
  match Keyed.get SnoopEntry.logicalKey entry.logicalKey q.entries with
  | some existing =>
    ((false, saturatingAdd existing.hitCount entry.hitCount),
      { q with
        entries := Keyed.modify SnoopEntry.logicalKey entry.logicalKey
          (fun existing => existing.absorb entry) q.entries })
  | none => ((true, 1), { q with entries := q.entries ++ [entry] })

/-- `merge_snapshot`. -/
def mergeSnapshot (entries : List SnoopEntry) : SnoopQueue :=
  entries.foldl
    (fun q entry => if shouldSkipRestoredEntry entry then q else (q.mergeEntry entry).2) q

/-- `record`. -/
def record (entry : SnoopEntry) : SnoopRecordOutcome × SnoopQueue :=
  let ((isNew, hitCount), q) := q.mergeEntry entry
  ({ isNew, hitCount, queueDepth := q.entries.length,
     familyQueueDepth := q.familyCount (entryFamily entry) }, q)

/-- `replay_feedback.get(..).copied().unwrap_or_default()`. -/
def feedbackOf (logicalKey : String) : ReplayFeedback := (q.replayFeedback logicalKey).getD {}

/-- Remove an entry and its feedback. -/
def forget (logicalKey : String) : SnoopQueue :=
  { q with
    entries := Keyed.remove SnoopEntry.logicalKey logicalKey q.entries
    replayFeedback := Function.update q.replayFeedback logicalKey none }

/-- The feedback after a replay without results. -/
def emptyFeedback (logicalKey : String) (completedAt : DateTime) : ReplayFeedback where
  zeroResultStreak := saturatingAdd (q.feedbackOf logicalKey).zeroResultStreak 1
  lastResultCount := 0
  lastOutcomeAt := some completedAt

/-- `record_replay_outcome`.  The last branch of the source, a count that is neither positive nor
zero, is never taken. -/
def recordReplayOutcome (logicalKey : String) (completedAt : DateTime) (resultCount : Nat) :
    SnoopQueue :=
  if 0 < resultCount then q.forget logicalKey
  else
    let feedback := q.emptyFeedback logicalKey completedAt
    if 2 ≤ feedback.zeroResultStreak ∧
        (Keyed.get SnoopEntry.logicalKey logicalKey q.entries).any
          shouldEvictZeroYieldSourceEntry then
      q.forget logicalKey
    else { q with replayFeedback := Function.update q.replayFeedback logicalKey (some feedback) }

/-! ### Selection -/

section Select

variable {Request : Type}

/-- The candidate that an entry is, unless it has no request or is still cooling down. -/
def candidateOf (requestOf : SnoopEntry → Except Panic (Option Request))
    (cooldownCutoff now : DateTime) (cooldownSecs : UInt64) (entry : SnoopEntry) :
    Except Panic (Option (ReplayCandidate Request)) := do
  let some request ← requestOf entry | return none
  let feedback := q.feedbackOf entry.logicalKey
  let cooling ← entry.lastDrainedAt.elim (return false) fun lastDrainedAt => do
    return decide
      ((← replayCooldownCutoff cooldownCutoff now cooldownSecs entry feedback) < lastDrainedAt)
  if cooling then return none
  return some
    { scheduled := { logicalKey := entry.logicalKey, request }
      hitCount := entry.hitCount
      lastSeen := entry.lastSeen
      zeroResultStreak := feedback.zeroResultStreak
      lastResultCount := feedback.lastResultCount
      observedAfterOutcome := feedback.lastOutcomeAt.all fun last => last < entry.lastSeen }

/-- One turn of the loop over the entries, with the recent and the stale candidates so far. -/
def considerEntry (requestOf : SnoopEntry → Except Panic (Option Request))
    (dedupCutoff cooldownCutoff now : DateTime) (cooldownSecs : UInt64)
    (found : List (ReplayCandidate Request) × List (ReplayCandidate Request))
    (entry : SnoopEntry) :
    Except Panic (List (ReplayCandidate Request) × List (ReplayCandidate Request)) := do
  let some candidate ← q.candidateOf requestOf cooldownCutoff now cooldownSecs entry
    | return found
  if dedupCutoff ≤ entry.lastSeen then return (found.1 ++ [candidate], found.2)
  return (found.1, found.2 ++ [candidate])

/-- The candidates, recent and stale. -/
def replayCandidates (family : SnoopFamily)
    (requestOf : SnoopEntry → Except Panic (Option Request)) (now : DateTime) :
    Except Panic (List (ReplayCandidate Request) × List (ReplayCandidate Request)) := do
  let dedupCutoff ← now.sub (← seconds q.config.dedupWindowSecs.toNat)
  let cooldownSecs := q.familyDrainCooldownSecs family
  let cooldownCutoff ← now.sub (← seconds cooldownSecs.toNat)
  q.entries.foldlM
    (q.considerEntry requestOf dedupCutoff cooldownCutoff now cooldownSecs) ([], [])

/-- The selected entry is drained, and the family too. -/
def drain (family : SnoopFamily) (logicalKey : String) (now : DateTime) : SnoopQueue :=
  { q with
    entries := Keyed.modify SnoopEntry.logicalKey logicalKey
      (fun entry => { entry with lastDrainedAt := some now }) q.entries }.setRecentDrains
    (q.recentDrains family ++ [now]) family

/-- `prune_recent_drains`. -/
def pruneRecentDrains (now : DateTime) (family : SnoopFamily) : Except Panic SnoopQueue := do
  let cutoff ← now.sub (600 * NANOS_PER_SEC)
  return q.setRecentDrains (SlidingWindow.prune cutoff (q.recentDrains family)) family

/-- The next request of a family. -/
def selectNext (family : SnoopFamily) (requestOf : SnoopEntry → Except Panic (Option Request))
    (best : List (ReplayCandidate Request) → List (ReplayCandidate Request) →
      Option (ReplayCandidate Request))
    (now : DateTime) : Except Panic (Option (ScheduledSnoopRequest Request)) × SnoopQueue :=
  match q.pruneRecentDrains now family with
  | .error panic => (.error panic, q)
  | .ok q =>
    if (q.familyMaxQueriesPer600s family).toNat ≤ (q.recentDrains family).length then
      (.ok none, q)
    else
      match q.replayCandidates family requestOf now with
      | .error panic => (.error panic, q)
      | .ok (recent, stale) =>
        match best recent stale with
        | none => (.ok none, q)
        | some selected =>
          (.ok (some selected.scheduled), q.drain family selected.scheduled.logicalKey now)

end Select

/-- `select_next_keyword_request`. -/
def selectNextKeywordRequest (now : DateTime) :
    Except Panic (Option (ScheduledSnoopRequest SearchKeyReq)) × SnoopQueue :=
  q.selectNext .keyword SnoopEntry.keywordRequest (selectBestCandidate candidateCmp) now

/-- `select_next_source_request`. -/
def selectNextSourceRequest (now : DateTime) :
    Except Panic (Option (ScheduledSnoopRequest SearchSourceReq)) × SnoopQueue :=
  q.selectNext .source SnoopEntry.sourceRequest selectBestSourceCandidate now

/-- `select_next_notes_request`. -/
def selectNextNotesRequest (now : DateTime) :
    Except Panic (Option (ScheduledSnoopRequest SearchNotesReq)) × SnoopQueue :=
  q.selectNext .notes SnoopEntry.notesRequest (selectBestCandidate notesCandidateCmp) now

end SnoopQueue

end Overlord.Emule
