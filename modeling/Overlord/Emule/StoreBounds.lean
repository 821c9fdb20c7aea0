import Overlord.Data.Upsert
import Overlord.Emule.SearchResponses
import Overlord.Machine.Run

/-!
# Bounds of the publish cache

The cache is fed by strangers, so what it holds has to stay bounded whatever they send.  Three
mechanisms work on the same lists: a publish replaces the entry it repeats, a target that holds too
many entries loses its first one, and a full list loses its oldest one.

* `KadLocalStore.call` is one call with any limit and any clock, `KadLocalStore.step` its effect.
* `Bounded` are the bounds; `bounded_call` is the step.
* `exactLoads` are the loads that a publish is answered with, as numbers.  They are at most 100
  because of the bound on a target, and that is what makes the casts to `u8` exact.
* `KadLocalStore.always_bounded` is the result about whole runs.
* `KadLocalStore.endpoints_distinct_iff` is about what replacement is for.  A new entry can be the
  same publish as two stored ones, and only the first of them is replaced.

Each list has its own structure of bounds (`TargetsBounded`, `KeywordsBounded`) that goes down to
sublists, which covers everything that drops entries; what is left to prove about a publish is the
entry that comes in.
-/

set_option autoImplicit false

namespace Overlord.Emule

open Kad Wire Machine

/-! ## Calls -/

/-- A call of the store.  Searches are given a limit on their results. -/
structure StoreCall where
  op : StoreOp
  limit : Nat
deriving DecidableEq, Repr

namespace KadLocalStore

variable (toLowercase : String → String)

/-- The load that a call returns, and the store afterwards. -/
def call (s : KadLocalStore) : StoreCall → Option UInt8 × KadLocalStore
  | ⟨.recordKeywordPublishBatch target entries observedAt, _⟩ =>
    let (load, s') := s.recordKeywordPublishBatch target entries observedAt
    (some load, s')
  | ⟨.recordSourcePublish target publisherId sourceIp sourceUdpPort tags observedAt, _⟩ =>
    s.recordSourcePublish target publisherId sourceIp sourceUdpPort tags observedAt
  | ⟨.recordNotesPublish target publisherId publisherIp tags observedAt, _⟩ =>
    s.recordNotesPublish target publisherId publisherIp tags observedAt
  | ⟨.keywordSearchResponse senderId request now, limit⟩ =>
    (none, (s.keywordSearchResponse toLowercase senderId request limit now).2)
  | ⟨.sourceSearchResponse senderId request now, limit⟩ =>
    (none, (s.sourceSearchResponse senderId request limit now).2)
  | ⟨.notesSearchResponse senderId request now, limit⟩ =>
    (none, (s.notesSearchResponse senderId request limit now).2)

/-- One call as a step of the store. -/
def step (s : KadLocalStore) (c : StoreCall) : Option KadLocalStore :=
  some (s.call toLowercase c).2

end KadLocalStore

/-! ## Making room -/

section Entries

variable {α : Type} {observedAt : α → Time} {l : List α}

theorem removeAt_sublist (index : Option Nat) (l : List α) : (removeAt index l).Sublist l := by
  cases index with
  | none => exact .refl l
  | some i => exact List.eraseIdx_sublist l i

theorem purgeExpired_sublist (observedAt : α → Time) (ttl : Nat) (now : Time) (l : List α) :
    (purgeExpired observedAt ttl now l).Sublist l :=
  List.filter_sublist

theorem evictOldest_sublist (observedAt : α → Time) (capacity : Nat) (l : List α) :
    (evictOldest observedAt capacity l).Sublist l := by
  rw [evictOldest]
  split_ifs
  · exact removeAt_sublist _ l
  · exact .refl l

/-- Eviction leaves room for one entry. -/
theorem length_evictOldest_lt {capacity : Nat} (hcapacity : 0 < capacity)
    (hl : l.length ≤ capacity) : (evictOldest observedAt capacity l).length < capacity := by
  rw [evictOldest]
  split_ifs with hfull
  · have hne : l ≠ [] := List.ne_nil_of_length_pos (hcapacity.trans_le hfull)
    have hlt := List.minIdxOn_lt_length (f := observedAt) hne
    rw [List.minIdxOn?_eq_if, dif_pos hne, removeAt, List.length_eraseIdx_of_lt hlt]
    omega
  · exact Nat.lt_of_not_le hfull

/-- The first entry of an overfull target goes. -/
def dropFirst (ofTarget : α → Bool) (maxPerFile : Nat) (l : List α) : List α :=
  if maxPerFile < (l.filter ofTarget).length then removeAt (l.findIdx? ofTarget) l else l

theorem dropFirst_sublist (ofTarget : α → Bool) (maxPerFile : Nat) (l : List α) :
    (dropFirst ofTarget maxPerFile l).Sublist l := by
  rw [dropFirst]
  split_ifs
  · exact removeAt_sublist _ l
  · exact .refl l

theorem removeAt_findIdx? (p : α → Bool) (l : List α) :
    removeAt (l.findIdx? p) l = l.eraseP p := by
  rw [List.eraseP_eq_eraseIdx]
  cases l.findIdx? p <;> rfl

theorem countP_dropFirst_le {ofTarget : α → Bool} {maxPerFile : Nat}
    (hl : l.countP ofTarget ≤ maxPerFile + 1) :
    (dropFirst ofTarget maxPerFile l).countP ofTarget ≤ maxPerFile := by
  rw [dropFirst, ← List.countP_eq_length_filter]
  split_ifs with hfull
  · obtain ⟨e, he, hofTarget⟩ := List.countP_pos_iff.mp ((Nat.zero_le maxPerFile).trans_lt hfull)
    obtain ⟨a, l₁, l₂, -, ha, rfl, herase⟩ := List.exists_of_eraseP he hofTarget
    rw [removeAt_findIdx?, herase]
    simp only [List.countP_append, List.countP_cons_of_pos ha] at hl ⊢
    omega
  · exact Nat.le_of_not_lt hfull

theorem upsertTargeted_eq_put (observedAt : α → Time) (same ofTarget : α → Bool)
    (maxPerFile capacity : Nat) (entry : α) (l : List α) :
    upsertTargeted observedAt same ofTarget maxPerFile capacity entry l =
      Upsert.put same (fun l => evictOldest observedAt capacity (dropFirst ofTarget maxPerFile l))
        entry l :=
  rfl

theorem makeRoom_sublist (observedAt : α → Time) (ofTarget : α → Bool) (maxPerFile capacity : Nat)
    (l : List α) :
    (evictOldest observedAt capacity (dropFirst ofTarget maxPerFile l)).Sublist l :=
  (evictOldest_sublist observedAt capacity _).trans (dropFirst_sublist ofTarget maxPerFile l)

/-! ## Bounds of a list -/

/-- A list within its capacity, in which no target has more than its share. -/
structure TargetsBounded (target : α → NodeId) (maxPerFile capacity : Nat) (l : List α) :
    Prop where
  length_le : l.length ≤ capacity
  target_le : ∀ t, l.countP (fun e => target e = t) ≤ maxPerFile + 1

variable {target : α → NodeId} {maxPerFile capacity : Nat}

theorem TargetsBounded.sublist (h : TargetsBounded target maxPerFile capacity l) {l' : List α}
    (hsub : l'.Sublist l) : TargetsBounded target maxPerFile capacity l' :=
  ⟨hsub.length_le.trans h.length_le, fun t => hsub.countP_le.trans (h.target_le t)⟩

theorem TargetsBounded.upsertTargeted (h : TargetsBounded target maxPerFile capacity l)
    (hcapacity : 0 < capacity) {same : α → Bool} {entry : α}
    (hsame : ∀ e, same e = true → target e = target entry) :
    TargetsBounded target maxPerFile capacity
      (upsertTargeted observedAt same (fun e => target e = target entry) maxPerFile capacity entry
        l) := by
  rw [upsertTargeted_eq_put]
  have hdrop := dropFirst_sublist (fun e => decide (target e = target entry)) maxPerFile l
  constructor
  · exact Upsert.length_put_le h.length_le
      (length_evictOldest_lt hcapacity (hdrop.length_le.trans h.length_le))
  · intro t
    refine Upsert.countP_put_le (fun e he => by rw [hsame e he]) (h.target_le t) ?_
    -- Only the target of the new entry gains one, and `dropFirst` has made room for it.
    by_cases ht : target entry = t
    · subst ht
      have hroom := (evictOldest_sublist observedAt capacity _).countP_le.trans
        (countP_dropFirst_le (h.target_le (target entry)))
      simpa using hroom
    · rw [List.countP_cons_of_neg (by simpa using ht), List.countP_nil, Nat.add_zero]
      exact (makeRoom_sublist observedAt _ maxPerFile capacity l).countP_le.trans (h.target_le t)

end Entries

/-! ## Keyword entries -/

/-- The entry is filed under its target, its file and the size that its tags give. -/
def StoredKeywordPublish.Filed (e : StoredKeywordPublish) : Prop :=
  ∃ size, stockKeywordFileSize e.tags = some size ∧
    e.dedupKey = keywordDedupKey e.target e.fileHash size

/-- The same file of the same size under the same keyword. -/
def StoredKeywordPublish.SameFile (a b : StoredKeywordPublish) : Prop :=
  a.target = b.target ∧ a.fileHash = b.fileHash ∧
    stockKeywordFileSize a.tags = stockKeywordFileSize b.tags

/-- A list of keyword entries within its capacity, each under a key of its own. -/
structure KeywordsBounded (capacity : Nat) (l : List StoredKeywordPublish) : Prop where
  length_le : l.length ≤ capacity
  filed : ∀ e ∈ l, e.Filed
  distinct : l.Pairwise fun a b => ¬ a.dedupKey = b.dedupKey

section Keywords

variable {capacity : Nat} {l : List StoredKeywordPublish}

theorem KeywordsBounded.sublist (h : KeywordsBounded capacity l) {l' : List StoredKeywordPublish}
    (hsub : l'.Sublist l) : KeywordsBounded capacity l' :=
  ⟨hsub.length_le.trans h.length_le, fun e he => h.filed e (hsub.subset he),
    h.distinct.sublist hsub⟩

theorem KeywordsBounded.not_sameFile (h : KeywordsBounded capacity l) :
    l.Pairwise fun a b => ¬ a.SameFile b := by
  refine h.distinct.imp_of_mem fun {a b} ha hb hne ⟨htarget, hhash, hsize⟩ => hne ?_
  obtain ⟨size, hsizea, ha⟩ := h.filed a ha
  obtain ⟨size', hsizeb, hb⟩ := h.filed b hb
  obtain rfl : size = size' := Option.some.inj (hsizea.symm.trans (hsize.trans hsizeb))
  rw [ha, hb, htarget, hhash]

theorem upsertEntry_eq_put (capacity : Nat) (dedupKey : String) (entry : StoredKeywordPublish)
    (l : List StoredKeywordPublish) :
    upsertEntry capacity dedupKey entry l =
      Upsert.put (fun candidate => candidate.dedupKey = dedupKey)
        (evictOldest StoredKeywordPublish.observedAt capacity) entry l :=
  rfl

theorem KeywordsBounded.upsertEntry (h : KeywordsBounded capacity l) (hcapacity : 0 < capacity)
    {dedupKey : String} {entry : StoredKeywordPublish} (hkey : entry.dedupKey = dedupKey)
    (hentry : entry.Filed) : KeywordsBounded capacity (upsertEntry capacity dedupKey entry l) where
  length_le := by
    rw [upsertEntry_eq_put]
    exact Upsert.length_put_le h.length_le (length_evictOldest_lt hcapacity h.length_le)
  filed e he := by
    rcases mem_of_mem_upsertEntry he with rfl | he
    · exact hentry
    · exact h.filed e he
  distinct := by
    subst hkey
    have hsame : ∀ b : StoredKeywordPublish,
        decide (b.dedupKey = entry.dedupKey) = true ↔ entry.dedupKey = b.dedupKey :=
      fun b => decide_eq_true_iff.trans eq_comm
    rw [upsertEntry_eq_put, Upsert.pairwise_put_iff (fun _ _ => Eq.symm) hsame
      (evictOldest_sublist _ capacity l) h.distinct]
    exact Upsert.countP_le_one_of_pairwise (R := fun b c => b.dedupKey = c.dedupKey)
      (fun _ _ => Eq.symm) (fun _ _ _ => Eq.trans) hsame h.distinct

end Keywords

/-! ## Loads -/

/-- `targetLoad` before its cast. -/
def exactTargetLoad (count max : Nat) (replaces : Bool) : Nat :=
  if count = 0 then 1
  else if max < count ∧ !replaces then 100
  else count * 100 / max

theorem targetLoad_eq (count max : Nat) (replaces : Bool) :
    targetLoad count max replaces = UInt8.ofNat (exactTargetLoad count max replaces) := by
  rw [targetLoad, exactTargetLoad]
  split_ifs <;> rfl

/-- A target that is one entry over its maximum still reports at most 100, since a hundredth of the
maximum is more than one entry. -/
theorem exactTargetLoad_le {count max : Nat} {replaces : Bool} (hmax : 100 < max)
    (hcount : count ≤ max + 1) : exactTargetLoad count max replaces ≤ 100 := by
  rw [exactTargetLoad]
  split_ifs
  · decide
  · exact Nat.le_refl 100
  · rw [← Nat.lt_succ_iff, Nat.div_lt_iff_lt_mul (by omega)]
    omega

/-- The load of `stockKeywordPublishDecision` before its cast. -/
def exactKeywordLoad (entries : List StoredKeywordPublish) (target : NodeId)
    (fileHash : Ed2kHash) : Nat :=
  if STOCK_MAX_KEYWORD_ENTRIES < entries.length then 100
  else
    let sourceCount := keywordSourceCount entries target
    if sourceCount = 0 then 1
    else if STOCK_MAX_KEYWORD_INDEX < sourceCount then 100
    else if keywordSourceExists entries target fileHash ∧
        STOCK_MAX_KEYWORD_INDEX - STOCK_HOT_KEYWORD_REPUBLISH_MARGIN < sourceCount then 100
    else sourceCount * 100 / STOCK_MAX_KEYWORD_INDEX

theorem stockKeywordPublishDecision_fst (entries : List StoredKeywordPublish) (target : NodeId)
    (fileHash : Ed2kHash) :
    (stockKeywordPublishDecision entries target fileHash).1 =
      UInt8.ofNat (exactKeywordLoad entries target fileHash) := by
  simp only [stockKeywordPublishDecision, exactKeywordLoad]
  split_ifs <;> rfl

theorem exactKeywordLoad_le (entries : List StoredKeywordPublish) (target : NodeId)
    (fileHash : Ed2kHash) : exactKeywordLoad entries target fileHash ≤ 100 := by
  simp only [exactKeywordLoad]
  split_ifs with _ _ hcount
  · exact Nat.le_refl 100
  · decide
  · exact Nat.le_refl 100
  · exact Nat.le_refl 100
  · exact Nat.div_le_of_le_mul (Nat.mul_le_mul_right 100 (Nat.le_of_not_lt hcount))

/-- The loads of a batch before their casts, one for each entry that is considered. -/
def exactKeywordLoads (config : KadLocalStoreConfig) (target : NodeId) (observedAt : Time) :
    List StoredKeywordPublish → List PublishEntry → List Nat
  | _, [] => []
  | held, entry :: entries =>
    let after := (recordKeywordPublish config target observedAt (0, held) entry).2
    if (stockKeywordFileSize entry.tags).isSome ∧ hasStockKeywordFilename entry.tags then
      exactKeywordLoad held target entry.hash :: exactKeywordLoads config target observedAt after
        entries
    else exactKeywordLoads config target observedAt after entries

/-- **One entry of a batch.**  It is passed over, or it is answered with a load; then it may be
stored. -/
theorem recordKeywordPublish_cases (config : KadLocalStoreConfig) (target : NodeId)
    (observedAt : Time) (load : UInt8) (held : List StoredKeywordPublish) (entry : PublishEntry) :
    (¬ ((stockKeywordFileSize entry.tags).isSome ∧ hasStockKeywordFilename entry.tags) ∧
      recordKeywordPublish config target observedAt (load, held) entry = (load, held)) ∨
    ∃ size, stockKeywordFileSize entry.tags = some size ∧
      hasStockKeywordFilename entry.tags = true ∧
      ∃ after, recordKeywordPublish config target observedAt (load, held) entry =
          (UInt8.ofNat (exactKeywordLoad held target entry.hash), after) ∧
        (after = held ∨
          after = upsertEntry config.keywordCapacity (keywordDedupKey target entry.hash size)
            ⟨observedAt, target, entry.hash, stockStoredPublishTags entry.tags,
              keywordDedupKey target entry.hash size⟩ held) := by
  rw [recordKeywordPublish]
  cases hsize : stockKeywordFileSize entry.tags with
  | none => exact .inl ⟨fun h => absurd h.1 (by decide), rfl⟩
  | some size =>
    cases hname : hasStockKeywordFilename entry.tags with
    | false => exact .inl ⟨fun h => absurd h.2 (by decide), rfl⟩
    | true =>
      refine .inr ⟨size, rfl, rfl, ?_⟩
      rw [← stockKeywordPublishDecision_fst]
      obtain ⟨entryLoad, shouldStore⟩ := stockKeywordPublishDecision held target entry.hash
      cases shouldStore with
      | false => exact ⟨held, rfl, .inl rfl⟩
      | true => exact ⟨_, rfl, .inr rfl⟩

section Batch

variable {config : KadLocalStoreConfig} {target : NodeId} {observedAt : Time}

/-- What an entry does to the list does not depend on the load so far. -/
theorem recordKeywordPublish_snd (config : KadLocalStoreConfig) (target : NodeId)
    (observedAt : Time) (load load' : UInt8) (held : List StoredKeywordPublish)
    (entry : PublishEntry) :
    (recordKeywordPublish config target observedAt (load, held) entry).2 =
      (recordKeywordPublish config target observedAt (load', held) entry).2 := by
  rw [recordKeywordPublish, recordKeywordPublish]
  cases stockKeywordFileSize entry.tags with
  | none => rfl
  | some size => split_ifs <;> rfl

/-- A batch is answered with the load of the last entry that was considered. -/
theorem foldl_recordKeywordPublish_fst (entries : List PublishEntry) (load : UInt8)
    (held : List StoredKeywordPublish) :
    (entries.foldl (recordKeywordPublish config target observedAt) (load, held)).1 =
      ((exactKeywordLoads config target observedAt held entries).map UInt8.ofNat).getLastD
        load := by
  induction entries generalizing load held with
  | nil => rfl
  | cons entry entries ih =>
    have hafter := recordKeywordPublish_snd config target observedAt 0 load held entry
    rw [List.foldl_cons, exactKeywordLoads]
    rcases recordKeywordPublish_cases config target observedAt load held entry with
      ⟨hpassed, hrecord⟩ | ⟨size, hsize, hname, after, hrecord, -⟩
    · rw [if_neg hpassed, hafter, hrecord]
      exact ih load held
    · rw [if_pos ⟨by rw [hsize]; rfl, hname⟩, hafter, hrecord, ih, List.map_cons,
        List.getLastD_cons]

theorem exactKeywordLoads_le (entries : List PublishEntry) (held : List StoredKeywordPublish)
    {n : Nat} (hn : n ∈ exactKeywordLoads config target observedAt held entries) : n ≤ 100 := by
  induction entries generalizing held with
  | nil => exact absurd hn List.not_mem_nil
  | cons entry entries ih =>
    rw [exactKeywordLoads] at hn
    split at hn
    · rcases List.mem_cons.mp hn with rfl | hn
      · exact exactKeywordLoad_le held target entry.hash
      · exact ih _ hn
    · exact ih _ hn

theorem KeywordsBounded.foldl_recordKeywordPublish (hcapacity : 0 < config.keywordCapacity)
    (entries : List PublishEntry) (load : UInt8) {held : List StoredKeywordPublish}
    (h : KeywordsBounded config.keywordCapacity held) :
    KeywordsBounded config.keywordCapacity
      (entries.foldl (recordKeywordPublish config target observedAt) (load, held)).2 := by
  induction entries generalizing load held with
  | nil => exact h
  | cons entry entries ih =>
    rw [List.foldl_cons]
    rcases recordKeywordPublish_cases config target observedAt load held entry with
      ⟨-, hrecord⟩ | ⟨size, hsize, -, after, hrecord, rfl | rfl⟩
    · rw [hrecord]
      exact ih load h
    · rw [hrecord]
      exact ih _ h
    · rw [hrecord]
      refine ih _ (h.upsertEntry hcapacity rfl ⟨size, ?_, rfl⟩)
      rw [stockKeywordFileSize, stockFirstKeywordSourceFileSize, stockFirstFileSizeImpl_stored]
      exact hsize

end Batch

/-- The loads that a publish is answered with, before their casts.  The last one is returned. -/
def KadLocalStore.exactLoads (s : KadLocalStore) : StoreOp → List Nat
  | .recordKeywordPublishBatch target entries observedAt =>
    if !s.config.enabled then []
    else exactKeywordLoads s.config target observedAt
      (purgeExpired StoredKeywordPublish.observedAt s.config.keywordTtl observedAt s.keywordEntries)
      entries
  | .recordSourcePublish target _ sourceIp sourceUdpPort tags observedAt =>
    let purged :=
      purgeExpired StoredSourcePublish.observedAt s.config.sourceTtl observedAt s.sourceEntries
    (stockSourceTcpPort tags).toList.map fun sourceTcpPort =>
      exactTargetLoad (purged.filter fun candidate => candidate.target = target).length
        STOCK_MAX_SOURCES_PER_FILE
        (purged.any (sameSource target sourceIp sourceTcpPort sourceUdpPort))
  | .recordNotesPublish target publisherId publisherIp _ observedAt =>
    let purged :=
      purgeExpired StoredNotesPublish.observedAt s.config.notesTtl observedAt s.notesEntries
    [exactTargetLoad (purged.filter fun candidate => candidate.target = target).length
      STOCK_MAX_NOTES_PER_FILE (purged.any (sameNote target publisherId publisherIp))]
  | _ => []

/-! ## Bounds of the store -/

/-- The bounds that a configuration puts on the store. -/
structure Bounded (config : KadLocalStoreConfig) (s : KadLocalStore) : Prop where
  config_eq : s.config = config
  keywords_le : s.keywordEntries.length ≤ config.keywordCapacity
  sources_le : s.sourceEntries.length ≤ config.sourceCapacity
  notes_le : s.notesEntries.length ≤ config.notesCapacity
  /-- A target is one over its maximum at most: the check is made before the insertion. -/
  sources_target_le : ∀ target, s.sourceEntries.countP (fun e => e.target = target) ≤
    STOCK_MAX_SOURCES_PER_FILE + 1
  notes_target_le : ∀ target, s.notesEntries.countP (fun e => e.target = target) ≤
    STOCK_MAX_NOTES_PER_FILE + 1
  keywords_distinct : s.keywordEntries.Pairwise fun a b => ¬ a.SameFile b

/-- The invariant behind `Bounded`. -/
structure Contained (config : KadLocalStoreConfig) (s : KadLocalStore) : Prop where
  config_eq : s.config = config
  keywords : KeywordsBounded config.keywordCapacity s.keywordEntries
  sources : TargetsBounded StoredSourcePublish.target STOCK_MAX_SOURCES_PER_FILE
    config.sourceCapacity s.sourceEntries
  notes : TargetsBounded StoredNotesPublish.target STOCK_MAX_NOTES_PER_FILE config.notesCapacity
    s.notesEntries

theorem Contained.bounded {config : KadLocalStoreConfig} {s : KadLocalStore}
    (h : Contained config s) : Bounded config s where
  config_eq := h.config_eq
  keywords_le := h.keywords.length_le
  sources_le := h.sources.length_le
  notes_le := h.notes.length_le
  sources_target_le := h.sources.target_le
  notes_target_le := h.notes.target_le
  keywords_distinct := h.keywords.not_sameFile

theorem contained_new (config : KadLocalStoreConfig) : Contained config (.new config) where
  config_eq := rfl
  keywords := ⟨Nat.zero_le _, fun _ h => absurd h List.not_mem_nil, .nil⟩
  sources := ⟨Nat.zero_le _, fun _ => Nat.zero_le _⟩
  notes := ⟨Nat.zero_le _, fun _ => Nat.zero_le _⟩

/-- The capacities of a configuration leave room for an entry. -/
structure Roomy (config : KadLocalStoreConfig) : Prop where
  keyword : 0 < config.keywordCapacity
  source : 0 < config.sourceCapacity
  notes : 0 < config.notesCapacity

theorem roomy_fromKadConfig (config : KadConfig) : Roomy (.fromKadConfig config) :=
  ⟨Nat.lt_of_lt_of_le Nat.one_pos (Nat.le_max_right _ 1),
    Nat.lt_of_lt_of_le Nat.one_pos (Nat.le_max_right _ 1),
    Nat.lt_of_lt_of_le Nat.one_pos (Nat.le_max_right _ 1)⟩

section Calls

variable {config : KadLocalStoreConfig} {s : KadLocalStore}

theorem Contained.recordKeywordPublishBatch (h : Contained config s) (hroomy : Roomy config)
    (target : NodeId) (entries : List PublishEntry) (observedAt : Time) :
    Contained config (s.recordKeywordPublishBatch target entries observedAt).2 := by
  obtain rfl := h.config_eq
  rw [KadLocalStore.recordKeywordPublishBatch]
  split_ifs
  · exact h
  · exact { h with
      keywords := (h.keywords.sublist
        (purgeExpired_sublist _ _ observedAt _)).foldl_recordKeywordPublish hroomy.keyword
          entries 0 }

/-- **What a source publish does.**  It is turned away, or its entry goes in after the expired ones
are dropped. -/
theorem recordSourcePublish_cases (s : KadLocalStore) (target publisherId : NodeId)
    (sourceIp : Ipv4Addr) (sourceUdpPort : UInt16) (tags : List Tag) (observedAt : Time) :
    s.recordSourcePublish target publisherId sourceIp sourceUdpPort tags observedAt = (none, s) ∨
    ∃ sourceTcpPort, stockSourceTcpPort tags = some sourceTcpPort ∧
      ∃ purged, purged = purgeExpired StoredSourcePublish.observedAt s.config.sourceTtl observedAt
        s.sourceEntries ∧
      s.recordSourcePublish target publisherId sourceIp sourceUdpPort tags observedAt =
        (some (stockSourcePublishLoad purged target sourceIp sourceTcpPort sourceUdpPort),
          { s with
            sourceEntries := upsertSourceEntry s.config.sourceCapacity
              ⟨observedAt, target, publisherId, sourceIp, sourceTcpPort, sourceUdpPort,
                stockStoredSourcePublishTags tags⟩ purged }) := by
  rw [KadLocalStore.recordSourcePublish]
  split_ifs
  · exact .inl rfl
  · exact .inl rfl
  · exact .inl rfl
  · cases stockSourceTcpPort tags with
    | none => exact .inl rfl
    | some sourceTcpPort => exact .inr ⟨sourceTcpPort, rfl, _, rfl, rfl⟩

theorem recordNotesPublish_cases (s : KadLocalStore) (target publisherId : NodeId)
    (publisherIp : Ipv4Addr) (tags : List Tag) (observedAt : Time) :
    s.recordNotesPublish target publisherId publisherIp tags observedAt = (none, s) ∨
    ∃ purged, purged = purgeExpired StoredNotesPublish.observedAt s.config.notesTtl observedAt
        s.notesEntries ∧
      s.recordNotesPublish target publisherId publisherIp tags observedAt =
        (some (stockNotesPublishLoad purged target publisherId publisherIp),
          { s with
            notesEntries := upsertNotesEntry s.config.notesCapacity
              ⟨observedAt, target, publisherId, publisherIp, stockStoredPublishTags tags⟩
              purged }) := by
  rw [KadLocalStore.recordNotesPublish]
  split_ifs
  · exact .inl rfl
  · exact .inl rfl
  · exact .inr ⟨_, rfl, rfl⟩

theorem Contained.recordSourcePublish (h : Contained config s) (hroomy : Roomy config)
    (target publisherId : NodeId) (sourceIp : Ipv4Addr) (sourceUdpPort : UInt16) (tags : List Tag)
    (observedAt : Time) :
    Contained config
      (s.recordSourcePublish target publisherId sourceIp sourceUdpPort tags observedAt).2 := by
  obtain rfl := h.config_eq
  rcases recordSourcePublish_cases s target publisherId sourceIp sourceUdpPort tags observedAt with
    hrecord | ⟨sourceTcpPort, -, purged, rfl, hrecord⟩
  · rw [hrecord]
    exact h
  · rw [hrecord]
    refine { h with sources := (h.sources.sublist (purgeExpired_sublist _ _ observedAt
      _)).upsertTargeted hroomy.source fun e he => ?_ }
    rw [sameSource, Bool.and_eq_true, Bool.and_eq_true] at he
    exact of_decide_eq_true he.1.1

theorem Contained.recordNotesPublish (h : Contained config s) (hroomy : Roomy config)
    (target publisherId : NodeId) (publisherIp : Ipv4Addr) (tags : List Tag) (observedAt : Time) :
    Contained config (s.recordNotesPublish target publisherId publisherIp tags observedAt).2 := by
  obtain rfl := h.config_eq
  rcases recordNotesPublish_cases s target publisherId publisherIp tags observedAt with
    hrecord | ⟨purged, rfl, hrecord⟩
  · rw [hrecord]
    exact h
  · rw [hrecord]
    refine { h with notes := (h.notes.sublist (purgeExpired_sublist _ _ observedAt
      _)).upsertTargeted hroomy.notes fun e he => ?_ }
    rw [sameNote, Bool.and_eq_true] at he
    exact of_decide_eq_true he.1

/-- Entries have gone, and nothing else has changed. -/
structure Shrinks (s s' : KadLocalStore) : Prop where
  config_eq : s'.config = s.config
  keywords : s'.keywordEntries.Sublist s.keywordEntries
  sources : s'.sourceEntries.Sublist s.sourceEntries
  notes : s'.notesEntries.Sublist s.notesEntries

theorem Shrinks.refl (s : KadLocalStore) : Shrinks s s := ⟨rfl, .refl _, .refl _, .refl _⟩

theorem shrinks_keywordSearchResponse (s : KadLocalStore) (toLowercase : String → String)
    (senderId : NodeId) (request : SearchKeyReq) (limit : Nat) (now : Time) :
    Shrinks s (s.keywordSearchResponse toLowercase senderId request limit now).2 := by
  rw [KadLocalStore.keywordSearchResponse]
  split_ifs
  · exact .refl s
  · exact { Shrinks.refl s with keywords := purgeExpired_sublist _ _ now _ }
  · exact { Shrinks.refl s with keywords := purgeExpired_sublist _ _ now _ }

theorem shrinks_sourceSearchResponse (s : KadLocalStore) (senderId : NodeId)
    (request : SearchSourceReq) (limit : Nat) (now : Time) :
    Shrinks s (s.sourceSearchResponse senderId request limit now).2 := by
  rw [KadLocalStore.sourceSearchResponse]
  split_ifs
  · exact .refl s
  · exact { Shrinks.refl s with sources := purgeExpired_sublist _ _ now _ }

theorem shrinks_notesSearchResponse (s : KadLocalStore) (senderId : NodeId)
    (request : SearchNotesReq) (limit : Nat) (now : Time) :
    Shrinks s (s.notesSearchResponse senderId request limit now).2 := by
  rw [KadLocalStore.notesSearchResponse]
  split_ifs
  · exact .refl s
  · exact { Shrinks.refl s with notes := purgeExpired_sublist _ _ now _ }

theorem Contained.shrinks (h : Contained config s) {s' : KadLocalStore} (hs : Shrinks s s') :
    Contained config s' where
  config_eq := hs.config_eq.trans h.config_eq
  keywords := h.keywords.sublist hs.keywords
  sources := h.sources.sublist hs.sources
  notes := h.notes.sublist hs.notes

/-- **Every call keeps the store within its bounds.** -/
theorem Contained.call (h : Contained config s) (hroomy : Roomy config)
    (toLowercase : String → String) (c : StoreCall) :
    Contained config (s.call toLowercase c).2 := by
  obtain ⟨op, limit⟩ := c
  cases op with
  | recordKeywordPublishBatch target entries observedAt =>
    exact h.recordKeywordPublishBatch hroomy target entries observedAt
  | recordSourcePublish target publisherId sourceIp sourceUdpPort tags observedAt =>
    exact h.recordSourcePublish hroomy target publisherId sourceIp sourceUdpPort tags observedAt
  | recordNotesPublish target publisherId publisherIp tags observedAt =>
    exact h.recordNotesPublish hroomy target publisherId publisherIp tags observedAt
  | keywordSearchResponse senderId request now =>
    exact h.shrinks (shrinks_keywordSearchResponse s toLowercase senderId request limit now)
  | sourceSearchResponse senderId request now =>
    exact h.shrinks (shrinks_sourceSearchResponse s senderId request limit now)
  | notesSearchResponse senderId request now =>
    exact h.shrinks (shrinks_notesSearchResponse s senderId request limit now)

/-- No load of a store within its bounds is above 100. -/
theorem Contained.exactLoads_le (h : Contained config s) {op : StoreOp} {n : Nat}
    (hn : n ∈ s.exactLoads op) : n ≤ 100 := by
  cases op with
  | recordKeywordPublishBatch target entries observedAt =>
    rw [KadLocalStore.exactLoads] at hn
    split_ifs at hn
    · exact absurd hn List.not_mem_nil
    · exact exactKeywordLoads_le entries _ hn
  | recordSourcePublish target publisherId sourceIp sourceUdpPort tags observedAt =>
    obtain ⟨sourceTcpPort, -, rfl⟩ := List.mem_map.mp hn
    refine exactTargetLoad_le (by decide) ?_
    rw [← List.countP_eq_length_filter]
    exact (h.sources.sublist (purgeExpired_sublist _ _ observedAt _)).target_le target
  | recordNotesPublish target publisherId publisherIp tags observedAt =>
    rw [List.mem_singleton.mp hn]
    refine exactTargetLoad_le (by decide) ?_
    rw [← List.countP_eq_length_filter]
    exact (h.notes.sublist (purgeExpired_sublist _ _ observedAt _)).target_le target
  | keywordSearchResponse | sourceSearchResponse | notesSearchResponse =>
    exact absurd hn List.not_mem_nil

/-- A call returns the cast of its last load. -/
theorem call_fst {toLowercase : String → String} {c : StoreCall} {load : UInt8}
    (hload : (s.call toLowercase c).1 = some load) :
    load = ((s.exactLoads c.op).map UInt8.ofNat).getLastD 0 := by
  obtain ⟨op, limit⟩ := c
  cases op with
  | recordKeywordPublishBatch target entries observedAt =>
    have hfst : (s.recordKeywordPublishBatch target entries observedAt).1 = load :=
      Option.some.inj hload
    rw [← hfst, KadLocalStore.exactLoads, KadLocalStore.recordKeywordPublishBatch]
    split_ifs
    · rfl
    · exact foldl_recordKeywordPublish_fst entries 0 _
  | recordSourcePublish target publisherId sourceIp sourceUdpPort tags observedAt =>
    rw [KadLocalStore.call] at hload
    rcases recordSourcePublish_cases s target publisherId sourceIp sourceUdpPort tags observedAt
      with hrecord | ⟨sourceTcpPort, hport, purged, rfl, hrecord⟩
    · rw [hrecord] at hload
      cases hload
    · rw [hrecord] at hload
      rw [← Option.some.inj hload, stockSourcePublishLoad, targetLoad_eq, KadLocalStore.exactLoads,
        hport]
      rfl
  | recordNotesPublish target publisherId publisherIp tags observedAt =>
    rw [KadLocalStore.call] at hload
    rcases recordNotesPublish_cases s target publisherId publisherIp tags observedAt with
      hrecord | ⟨purged, rfl, hrecord⟩
    · rw [hrecord] at hload
      cases hload
    · rw [hrecord] at hload
      rw [← Option.some.inj hload, stockNotesPublishLoad, targetLoad_eq]
      rfl
  | keywordSearchResponse | sourceSearchResponse | notesSearchResponse => cases hload

/-- The casts of small loads are exact. -/
theorem toNat_getLastD_ofNat {loads : List Nat} (h : ∀ n ∈ loads, n ≤ 100) :
    ((loads.map UInt8.ofNat).getLastD 0).toNat = loads.getLastD 0 ∧ loads.getLastD 0 ≤ 100 := by
  rcases loads.eq_nil_or_concat with rfl | ⟨front, n, rfl⟩
  · exact ⟨rfl, Nat.zero_le 100⟩
  · have hn : n ≤ 100 := h n (by simp)
    rw [List.concat_eq_append, List.map_append, List.map_singleton, List.getLastD_concat,
      List.getLastD_concat]
    exact ⟨UInt8.toNat_ofNat_of_lt (Nat.lt_of_le_of_lt hn (by decide)), hn⟩

end Calls

/-- **The cache stays within its bounds.**  Along every run of a store that was built from a
configuration, the lists are within their capacities, no target holds more than one entry over its
maximum, no file is listed twice under a keyword, and every load is at most 100 before it is cast
to a byte. -/
theorem KadLocalStore.always_bounded (toLowercase : String → String) (config : KadConfig)
    (calls : List StoreCall) :
    Always (step toLowercase) (fun s => Bounded (.fromKadConfig config) s ∧
      ∀ c : StoreCall, (∀ n ∈ s.exactLoads c.op, n ≤ 100) ∧
        ∀ load, (s.call toLowercase c).1 = some load →
          load.toNat ≤ 100 ∧ load.toNat = (s.exactLoads c.op).getLastD 0)
      (.new (.fromKadConfig config)) calls := by
  intro done s _ hrun
  have hcontained : Contained (.fromKadConfig config) s := by
    refine run_invariant (fun s c s' hs hstep => ?_) (contained_new _) hrun
    obtain rfl := Option.some.inj hstep
    exact hs.call (roomy_fromKadConfig config) toLowercase c
  refine ⟨hcontained.bounded, fun c => ⟨fun n => hcontained.exactLoads_le, fun load hload => ?_⟩⟩
  obtain ⟨hexact, hle⟩ := toNat_getLastD_ofNat fun n (hn : n ∈ s.exactLoads c.op) =>
    hcontained.exactLoads_le hn
  rw [call_fst hload, hexact]
  exact ⟨hle, rfl⟩

/-! ## What replacement leaves -/

/-- The same file from the same address, on a common port. -/
def StoredSourcePublish.Shares (a b : StoredSourcePublish) : Prop :=
  a.target = b.target ∧ a.sourceIp = b.sourceIp ∧
    (a.sourceTcpPort = b.sourceTcpPort ∨ a.sourceUdpPort = b.sourceUdpPort)

/-- The same file from a common address or a common publisher. -/
def StoredNotesPublish.Shares (a b : StoredNotesPublish) : Prop :=
  a.target = b.target ∧ (a.publisherIp = b.publisherIp ∨ a.publisherId = b.publisherId)

instance : DecidableRel StoredSourcePublish.Shares := fun _ _ => instDecidableAnd
instance : DecidableRel StoredNotesPublish.Shares := fun _ _ => instDecidableAnd

theorem StoredSourcePublish.Shares.symm (a b : StoredSourcePublish) (h : a.Shares b) :
    b.Shares a :=
  ⟨h.1.symm, h.2.1.symm, h.2.2.imp Eq.symm Eq.symm⟩

theorem StoredNotesPublish.Shares.symm (a b : StoredNotesPublish) (h : a.Shares b) : b.Shares a :=
  ⟨h.1.symm, h.2.imp Eq.symm Eq.symm⟩

theorem sameSource_iff (entry e : StoredSourcePublish) :
    sameSource entry.target entry.sourceIp entry.sourceTcpPort entry.sourceUdpPort e = true ↔
      entry.Shares e := by
  rw [sameSource, StoredSourcePublish.Shares, eq_comm (b := e.target), eq_comm (b := e.sourceIp),
    eq_comm (b := e.sourceTcpPort), eq_comm (b := e.sourceUdpPort)]
  simp only [Bool.and_eq_true, Bool.or_eq_true, decide_eq_true_eq, and_assoc]

theorem sameNote_iff (entry e : StoredNotesPublish) :
    sameNote entry.target entry.publisherId entry.publisherIp e = true ↔ entry.Shares e := by
  rw [sameNote, StoredNotesPublish.Shares, eq_comm (b := e.target), eq_comm (b := e.publisherIp),
    eq_comm (b := e.publisherId)]
  simp only [Bool.and_eq_true, Bool.or_eq_true, decide_eq_true_eq]

/-- Insertion keeps the entries of a list apart exactly when the new one repeats at most one. -/
theorem pairwise_upsertTargeted_iff {α : Type} {observedAt : α → Time} {same ofTarget : α → Bool}
    {maxPerFile capacity : Nat} {entry : α} {l : List α} {R : α → α → Prop}
    (hsymm : ∀ a b, R a b → R b a) (hsame : ∀ e, same e = true ↔ R entry e)
    (hl : l.Pairwise fun a b => ¬ R a b) :
    ((upsertTargeted observedAt same ofTarget maxPerFile capacity entry l).Pairwise
      fun a b => ¬ R a b) ↔ l.countP same ≤ 1 := by
  rw [upsertTargeted_eq_put]
  exact Upsert.pairwise_put_iff hsymm hsame
    (makeRoom_sublist observedAt ofTarget maxPerFile capacity l) hl

/-- No two entries share what replacement looks at. -/
structure EndpointsDistinct (s : KadLocalStore) : Prop where
  sources : s.sourceEntries.Pairwise fun a b => ¬ a.Shares b
  notes : s.notesEntries.Pairwise fun a b => ¬ a.Shares b

theorem EndpointsDistinct.shrinks {s s' : KadLocalStore} (h : EndpointsDistinct s)
    (hs : Shrinks s s') : EndpointsDistinct s' :=
  ⟨h.sources.sublist hs.sources, h.notes.sublist hs.notes⟩

/-- A publish that is accepted repeats at most one entry of those that have not expired. -/
def RepeatsOne (s : KadLocalStore) : StoreCall → Prop
  | ⟨.recordSourcePublish target publisherId sourceIp sourceUdpPort tags observedAt, _⟩ =>
    (s.recordSourcePublish target publisherId sourceIp sourceUdpPort tags observedAt).1.isSome →
      ∀ sourceTcpPort ∈ stockSourceTcpPort tags,
        (purgeExpired StoredSourcePublish.observedAt s.config.sourceTtl observedAt
          s.sourceEntries).countP (sameSource target sourceIp sourceTcpPort sourceUdpPort) ≤ 1
  | ⟨.recordNotesPublish target publisherId publisherIp tags observedAt, _⟩ =>
    (s.recordNotesPublish target publisherId publisherIp tags observedAt).1.isSome →
      (purgeExpired StoredNotesPublish.observedAt s.config.notesTtl observedAt
        s.notesEntries).countP (sameNote target publisherId publisherIp) ≤ 1
  | _ => True

section Distinct

variable {s : KadLocalStore}

theorem EndpointsDistinct.recordSourcePublish_iff (h : EndpointsDistinct s)
    (target publisherId : NodeId) (sourceIp : Ipv4Addr) (sourceUdpPort : UInt16) (tags : List Tag)
    (observedAt : Time) (limit : Nat) :
    EndpointsDistinct
        (s.recordSourcePublish target publisherId sourceIp sourceUdpPort tags observedAt).2 ↔
      RepeatsOne s
        ⟨.recordSourcePublish target publisherId sourceIp sourceUdpPort tags observedAt,
          limit⟩ := by
  rw [RepeatsOne]
  rcases recordSourcePublish_cases s target publisherId sourceIp sourceUdpPort tags observedAt
    with hrecord | ⟨sourceTcpPort, hport, purged, hpurged, hrecord⟩
  · rw [hrecord]
    exact iff_of_true h nofun
  · rw [hrecord, hport, ← hpurged]
    have hpairwise := h.sources.sublist (hpurged ▸ purgeExpired_sublist _ _ observedAt _)
    constructor
    · intro hdistinct _ port hmem
      obtain rfl := Option.some.inj hmem
      exact (pairwise_upsertTargeted_iff StoredSourcePublish.Shares.symm (sameSource_iff _)
        hpairwise).mp hdistinct.sources
    · intro hone
      exact ⟨(pairwise_upsertTargeted_iff StoredSourcePublish.Shares.symm (sameSource_iff _)
        hpairwise).mpr (hone rfl sourceTcpPort rfl), h.notes⟩

theorem EndpointsDistinct.recordNotesPublish_iff (h : EndpointsDistinct s)
    (target publisherId : NodeId) (publisherIp : Ipv4Addr) (tags : List Tag) (observedAt : Time)
    (limit : Nat) :
    EndpointsDistinct (s.recordNotesPublish target publisherId publisherIp tags observedAt).2 ↔
      RepeatsOne s
        ⟨.recordNotesPublish target publisherId publisherIp tags observedAt, limit⟩ := by
  rw [RepeatsOne]
  rcases recordNotesPublish_cases s target publisherId publisherIp tags observedAt with
    hrecord | ⟨purged, hpurged, hrecord⟩
  · rw [hrecord]
    exact iff_of_true h nofun
  · rw [hrecord, ← hpurged]
    have hpairwise := h.notes.sublist (hpurged ▸ purgeExpired_sublist _ _ observedAt _)
    constructor
    · exact fun hdistinct _ => (pairwise_upsertTargeted_iff StoredNotesPublish.Shares.symm
        (sameNote_iff _) hpairwise).mp hdistinct.notes
    · exact fun hone => ⟨h.sources, (pairwise_upsertTargeted_iff StoredNotesPublish.Shares.symm
        (sameNote_iff _) hpairwise).mpr (hone rfl)⟩

theorem EndpointsDistinct.call_iff (h : EndpointsDistinct s) (toLowercase : String → String)
    (c : StoreCall) : EndpointsDistinct (s.call toLowercase c).2 ↔ RepeatsOne s c := by
  obtain ⟨op, limit⟩ := c
  cases op with
  | recordKeywordPublishBatch target entries observedAt =>
    refine iff_of_true ?_ trivial
    rw [KadLocalStore.call, KadLocalStore.recordKeywordPublishBatch]
    split_ifs
    · exact h
    · exact ⟨h.sources, h.notes⟩
  | recordSourcePublish target publisherId sourceIp sourceUdpPort tags observedAt =>
    exact h.recordSourcePublish_iff target publisherId sourceIp sourceUdpPort tags observedAt limit
  | recordNotesPublish target publisherId publisherIp tags observedAt =>
    exact h.recordNotesPublish_iff target publisherId publisherIp tags observedAt limit
  | keywordSearchResponse senderId request now =>
    exact iff_of_true
      (h.shrinks (shrinks_keywordSearchResponse s toLowercase senderId request limit now)) trivial
  | sourceSearchResponse senderId request now =>
    exact iff_of_true (h.shrinks (shrinks_sourceSearchResponse s senderId request limit now))
      trivial
  | notesSearchResponse senderId request now =>
    exact iff_of_true (h.shrinks (shrinks_notesSearchResponse s senderId request limit now)) trivial

end Distinct

/-- **Entries stay distinct exactly while each publish repeats at most one of them.** -/
theorem KadLocalStore.endpoints_distinct_iff (toLowercase : String → String)
    (config : KadLocalStoreConfig) (calls : List StoreCall) :
    Always (step toLowercase) EndpointsDistinct (.new config) calls ↔
      Meets (step toLowercase) RepeatsOne (.new config) calls := by
  refine always_iff_meets (J := fun _ => True) (fun _ _ _ _ _ => trivial) ?_ trivial ⟨.nil, .nil⟩
  intro s c s' _ hs hstep
  obtain rfl := Option.some.inj hstep
  exact hs.call_iff toLowercase c

/-- A source on the given ports, from one fixed address. -/
def publishOnPorts (tcp udp : UInt16) : StoreCall :=
  ⟨.recordSourcePublish NodeId.ZERO NodeId.ZERO (.new 1 1 1 1) udp
    [newShort tagName.SOURCETYPE (.uint 1), newShort tagName.SOURCEPORT (.u16 tcp)] 0, 0⟩

/-- A source that moves to the TCP port of one entry and the UDP port of another replaces the first
and leaves the second. -/
theorem KadLocalStore.crossed_ports_kept :
    ¬ Always (step id) EndpointsDistinct (.new ⟨true, 1, 1, 1, 9, 9, 9⟩)
      [publishOnPorts 1 1, publishOnPorts 2 2, publishOnPorts 1 2] := by
  intro h
  have hsources := (h _ _ (List.prefix_refl _) rfl).sources
  exact absurd hsources (by decide +kernel)

end Overlord.Emule
