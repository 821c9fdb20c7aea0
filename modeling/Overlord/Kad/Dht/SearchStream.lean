import Overlord.Data.FirstSeen
import Overlord.Kad.Dht.SearchPhase
import Overlord.Kad.Dht.SearchTypes

/-!
# The stream of search results

`search.rs` of the DHT crate.  A search starts a traversal in the background and turns the entries
that its second phase puts on a channel into results.  The three searches have one loop: read the
entry, pass it over if it does not make a result, pass it over if its key was seen before, and stop
once there are as many as the cap allows.  They differ in what they read and in the key
(`ResultStream`).

* `results_eq_firstResults` — a loop that is not interrupted yields the first result of each key, up
  to the cap; one that is interrupted yields the first of these (`results_prefix_firstResults`).
* `searches_yield` — from the walk to the results: what comes out of a search.

`str::trim` is a parameter of the notes.  The counters of the keyword search are only logged.
-/

set_option autoImplicit false

namespace Overlord.Kad

/-! ## Notes -/

namespace tagName

def DESCRIPTION : UInt8 := 0x0B
def FILERATING : UInt8 := 0xF7

end tagName

/-- A note or rating of a file. -/
structure NoteResult where
  fileHash : Ed2kHash
  sourceId : Ed2kHash
  rating : Option UInt8
  comment : Option String
  sourceTags : List Tag
deriving DecidableEq, Repr

/-- What `NoteResult::from_tags` has gathered so far. -/
structure NoteResultParts where
  rating : Option UInt8
  comment : Option String
deriving DecidableEq, Repr

namespace NoteResultParts

/-- The value of a rating tag, cut to 8 bits. -/
def ratingOf : TagValue → Option UInt8
  | .uint v => some v.toUInt8
  | .u8 v => some v
  | .u32 v => some v.toUInt8
  | .u16 v => some v.toUInt8
  | _ => none

/-- One tag. -/
def read (parts : NoteResultParts) (tag : Tag) : NoteResultParts :=
  match tag.name with
  | .long _ => parts
  | .short n =>
    if n = tagName.FILERATING then { parts with rating := (ratingOf tag.value).or parts.rating }
    else if n = tagName.DESCRIPTION then
      match tag.value with
      | .string s => { parts with comment := some s }
      | _ => parts
    else parts

end NoteResultParts

/-- `NoteResult::from_tags`. -/
def NoteResult.fromTags (trim : String → String) (fileHash sourceId : Ed2kHash) (tags : List Tag) :
    Option NoteResult :=
  let parts := tags.foldl NoteResultParts.read ⟨none, none⟩
  let comment := parts.comment.bind fun text => if trim text = "" then none else some (trim text)
  if parts.rating = none ∧ comment = none then none
  else some ⟨fileHash, sourceId, parts.rating, comment, tags⟩

namespace Dht

open FirstSeen Machine

/-! ## The loop -/

/-- What tells the searches apart. -/
structure ResultStream (ρ κ : Type) where
  /-- The result that an entry makes. -/
  read : SearchEntry → Option ρ
  /-- What must not repeat. -/
  key : ρ → κ
  resultCap : Nat

/-- What the loop gets. -/
inductive StreamEvent where
  /-- An entry, and whether somebody still listens if it makes a result. -/
  | entry (raw : SearchEntry) (listens : Bool)
  | cancelled
deriving DecidableEq, Repr

/-- The entry of an event. -/
def StreamEvent.rawEntry : StreamEvent → Option SearchEntry
  | .entry raw _ => some raw
  | .cancelled => none

namespace ResultStream

variable {ρ κ : Type} [DecidableEq κ] (stream : ResultStream ρ κ)

/-- The loop, with the keys seen so far; it ends with the channel. -/
def resultsFrom (seen : List κ) : List StreamEvent → List ρ
  | [] => []
  | .cancelled :: _ => []
  | .entry raw listens :: events =>
    if stream.resultCap ≤ seen.length then []
    else
      match stream.read raw with
      | none => resultsFrom seen events
      | some result =>
        if stream.key result ∈ seen then resultsFrom seen events
        else if listens then result :: resultsFrom (stream.key result :: seen) events
        else []

/-- The results of a search. -/
def results (events : List StreamEvent) : List ρ := stream.resultsFrom [] events

/-- What a loop is to yield for a list of entries. -/
def firstResults (raws : List SearchEntry) : List ρ :=
  (firstSeen stream.key [] (raws.filterMap stream.read)).take stream.resultCap

theorem resultsFrom_eq (seen : List κ) (raws : List SearchEntry) :
    stream.resultsFrom seen (raws.map (.entry · true)) =
      (firstSeen stream.key seen (raws.filterMap stream.read)).take
        (stream.resultCap - seen.length) := by
  induction raws generalizing seen with
  | nil => simp [resultsFrom]
  | cons raw raws ih =>
    rw [List.map_cons, resultsFrom]
    by_cases hcap : stream.resultCap ≤ seen.length
    · rw [if_pos hcap, Nat.sub_eq_zero_of_le hcap, List.take_zero]
    · rw [if_neg hcap]
      cases hread : stream.read raw with
      | none => rw [List.filterMap_cons_none hread, ih]
      | some result =>
        rw [List.filterMap_cons_some hread]
        by_cases hkey : stream.key result ∈ seen
        · rw [firstSeen_cons_of_mem hkey]
          simp only [hkey, if_true]
          exact ih seen
        · have hleft : stream.resultCap - seen.length =
              stream.resultCap - (stream.key result :: seen).length + 1 := by
            rw [List.length_cons]
            omega
          rw [firstSeen_cons_of_not_mem hkey, hleft, List.take_succ_cons, ← ih]
          simp only [hkey, if_false, if_true]

/-- **A search that is not interrupted** yields the first result of each key, up to the cap. -/
theorem results_eq_firstResults (raws : List SearchEntry) :
    stream.results (raws.map (.entry · true)) = stream.firstResults raws :=
  stream.resultsFrom_eq [] raws

/-- An interruption only cuts the results off. -/
theorem resultsFrom_prefix_entries (seen : List κ) (events : List StreamEvent) :
    stream.resultsFrom seen events <+:
      stream.resultsFrom seen ((events.filterMap StreamEvent.rawEntry).map (.entry · true)) := by
  induction events generalizing seen with
  | nil => exact List.prefix_refl _
  | cons event events ih =>
    cases event with
    | cancelled => exact List.nil_prefix
    | entry raw listens =>
      have hraw : (StreamEvent.entry raw listens).rawEntry = some raw := rfl
      rw [List.filterMap_cons_some hraw, List.map_cons, resultsFrom, resultsFrom]
      by_cases hcap : stream.resultCap ≤ seen.length
      · rw [if_pos hcap]
        exact List.nil_prefix
      · rw [if_neg hcap, if_neg hcap]
        cases hread : stream.read raw with
        | none => exact ih seen
        | some result =>
          by_cases hkey : stream.key result ∈ seen
          · simp only [hkey, if_true]
            exact ih seen
          · cases listens with
            | true =>
              simp only [hkey, if_false, if_true]
              exact List.cons_prefix_cons.mpr ⟨rfl, ih _⟩
            | false =>
              simp only [hkey, if_false]
              exact List.nil_prefix

/-- **A search, interrupted or not**, yields the first of the results that its entries stand for. -/
theorem results_prefix_firstResults {events : List StreamEvent} {raws : List SearchEntry}
    (hraws : events.filterMap StreamEvent.rawEntry <+: raws) :
    stream.results events <+: stream.firstResults raws := by
  have hentries := stream.resultsFrom_prefix_entries [] events
  rw [resultsFrom_eq] at hentries
  refine hentries.trans ?_
  obtain ⟨rest, rfl⟩ := hraws
  rw [firstResults, List.filterMap_append]
  exact (firstSeen_mono (List.prefix_append _ _)).take _

theorem nodup_results (events : List StreamEvent) :
    ((stream.results events).map stream.key).Nodup := by
  have hpre := stream.results_prefix_firstResults (List.prefix_refl
    (events.filterMap StreamEvent.rawEntry))
  have hsub := (hpre.sublist.trans (List.take_sublist _ _)).map stream.key
  exact nodup_firstSeen.sublist hsub

theorem length_results_le (events : List StreamEvent) :
    (stream.results events).length ≤ stream.resultCap := by
  have hpre := stream.results_prefix_firstResults (List.prefix_refl
    (events.filterMap StreamEvent.rawEntry))
  exact hpre.length_le.trans (List.length_take_le _ _)

/-- A result is read off an entry. -/
theorem exists_read_of_mem_results {events : List StreamEvent} {raws : List SearchEntry}
    (hraws : events.filterMap StreamEvent.rawEntry <+: raws) {result : ρ}
    (hresult : result ∈ stream.results events) : ∃ raw ∈ raws, stream.read raw = some result := by
  have hfirst := (stream.results_prefix_firstResults hraws).subset hresult
  exact List.mem_filterMap.mp (firstSeen_sublist.subset (List.mem_of_mem_take hfirst))

end ResultStream

/-! ## The three searches -/

/-- `is_acceptable_keyword_result`. -/
def isAcceptableKeywordResult (result : SearchResult) : Bool :=
  !result.names.isEmpty && result.size.isSome

/-- What the loop of `search_keywords_by_request` makes of an entry. -/
def readKeywordResult (raw : SearchEntry) : Option SearchResult :=
  let result := SearchResult.fromTags raw.1 raw.2
  if result.names.isEmpty then none
  else if result.size.isNone then none
  else if !isAcceptableKeywordResult result then none
  else some result

/-- `search_keywords_by_request`. -/
def keywordStream (resultCap : Nat) : ResultStream SearchResult Ed2kHash :=
  ⟨readKeywordResult, SearchResult.hash, resultCap⟩

/-- `map_source_search_result`. -/
def mapSourceSearchResult (requestedFileHash sourceId : Ed2kHash) (tags : List Tag) :
    Option SourceResult :=
  SourceResult.fromTags requestedFileHash sourceId tags

/-- `search_sources_by_request`. -/
def sourceStream (target : NodeId) (resultCap : Nat) :
    ResultStream SourceResult (Ipv4Addr × UInt16 × UInt16) :=
  let requestedFileHash : Ed2kHash := ⟨target.toBeBytes⟩
  ⟨fun raw => mapSourceSearchResult requestedFileHash raw.1 raw.2,
    fun source => (source.ip, source.tcpPort, source.udpPort), resultCap⟩

/-- `search_notes`. -/
def notesStream (trim : String → String) (fileHash : Ed2kHash) (resultCap : Nat) :
    ResultStream NoteResult Ed2kHash :=
  ⟨fun raw => NoteResult.fromTags trim fileHash raw.1 raw.2, NoteResult.sourceId, resultCap⟩

/-- A file that is found has a name and a size. -/
theorem readKeywordResult_eq_some {raw : SearchEntry} {result : SearchResult}
    (h : readKeywordResult raw = some result) :
    result.names ≠ [] ∧ result.size ≠ none := by
  simp only [readKeywordResult] at h
  split_ifs at h with hnames hsize
  obtain rfl := Option.some.inj h
  exact ⟨by simpa using hnames, by simpa using hsize⟩

/-- A source that is found is one of the requested file and has an endpoint. -/
theorem sourceResult_fromTags_eq_some {fileHash sourceId : Ed2kHash} {tags : List Tag}
    {source : SourceResult} (h : SourceResult.fromTags fileHash sourceId tags = some source) :
    source.fileHash = fileHash ∧ source.tcpPort ≠ 0 ∧ source.udpPort ≠ 0 := by
  simp only [SourceResult.fromTags] at h
  split at h
  · cases h
  · split_ifs at h with htcp hudp
    · obtain rfl := Option.some.inj h
      exact ⟨rfl, htcp, htcp⟩
    · obtain rfl := Option.some.inj h
      exact ⟨rfl, htcp, hudp⟩

/-- A note that is found says something. -/
theorem noteResult_fromTags_eq_some {trim : String → String} {fileHash sourceId : Ed2kHash}
    {tags : List Tag} {note : NoteResult}
    (h : NoteResult.fromTags trim fileHash sourceId tags = some note) :
    note.fileHash = fileHash ∧ (note.rating ≠ none ∨ note.comment ≠ none) := by
  simp only [NoteResult.fromTags] at h
  split_ifs at h with hempty
  obtain rfl := Option.some.inj h
  exact ⟨rfl, by rwa [not_and_or] at hempty⟩

/-! ## From the walk to the results -/

/-- The entry stands in a response that names the target and was received from a contact that
answered the walk and is within tolerance. -/
def AnsweredBy (cfg : TraversalConfig) (w : Walk) (events : List (Nat × SearchEvent))
    (raw : SearchEntry) : Prop :=
  ∃ time contact response,
    (time, SearchEvent.received contact.addr (.searchRes response)) ∈ events ∧
    contact ∈ w.responded ∧ passesSearchTolerance cfg.target contact = true ∧
    response.target = cfg.target ∧ raw ∈ SearchPhase.entries response

theorem answeredBy_of_streamed {cfg : TraversalConfig} {w : Walk}
    {queryTimeout deadline now phaseStart emitFrom : Nat} {cancelled : Bool}
    {s₀ s : SearchPhase} {events : List (Nat × SearchEvent)}
    (henter : SearchPhase.enter (w.searchPhaseConfig cfg queryTimeout deadline true) cancelled now
      phaseStart emitFrom = some s₀)
    (hrun : run (SearchPhase.step (w.searchPhaseConfig cfg queryTimeout deadline true)) s₀ events =
      some s) {raw : SearchEntry} (hraw : raw ∈ s.streamed) : AnsweredBy cfg w events raw := by
  obtain ⟨time, contact, response, hevent, hcontact, htarget, hentry⟩ :=
    SearchPhase.exists_response_of_mem_delivered henter hrun hraw
  have hpasses : contact ∈ w.responded.filter (passesSearchTolerance cfg.target) :=
    List.mem_of_mem_take hcontact
  obtain ⟨hresponded, htolerated⟩ := List.mem_filter.mp hpasses
  exact ⟨time, contact, response, hevent, hresponded, htolerated, htarget, hentry⟩

/-- **What comes out of a search**, through any events and wherever it is cut off.  Its results have
distinct keys, there are no more of them than the cap allows, and each is read off an entry that a
contact of the walk has answered with; a file has a name and a size, a source is one of the
requested file and has an endpoint, a note says something. -/
theorem searches_yield (cfg : TraversalConfig) (w : Walk)
    (queryTimeout deadline now phaseStart emitFrom : Nat) (cancelled : Bool)
    (s₀ s : SearchPhase) (events : List (Nat × SearchEvent))
    (henter : SearchPhase.enter (w.searchPhaseConfig cfg queryTimeout deadline true) cancelled now
      phaseStart emitFrom = some s₀)
    (hrun : run (SearchPhase.step (w.searchPhaseConfig cfg queryTimeout deadline true)) s₀ events =
      some s)
    (cap : Nat) (consumed : List StreamEvent)
    (hconsumed : consumed.filterMap StreamEvent.rawEntry <+: s.streamed) :
    (let files := (keywordStream cap).results consumed
     (files.map SearchResult.hash).Nodup ∧ files.length ≤ cap ∧
     ∀ file ∈ files, file.names ≠ [] ∧ file.size ≠ none ∧
       ∃ raw, AnsweredBy cfg w events raw ∧ readKeywordResult raw = some file) ∧
    (let sources := (sourceStream cfg.target cap).results consumed
     (sources.map fun source => (source.ip, source.tcpPort, source.udpPort)).Nodup ∧
     sources.length ≤ cap ∧
     ∀ source ∈ sources, source.fileHash = ⟨cfg.target.toBeBytes⟩ ∧ source.tcpPort ≠ 0 ∧
       source.udpPort ≠ 0 ∧ ∃ raw, AnsweredBy cfg w events raw ∧
         mapSourceSearchResult ⟨cfg.target.toBeBytes⟩ raw.1 raw.2 = some source) ∧
    ∀ trim fileHash, (let notes := (notesStream trim fileHash cap).results consumed
     (notes.map NoteResult.sourceId).Nodup ∧ notes.length ≤ cap ∧
     ∀ note ∈ notes, note.fileHash = fileHash ∧ (note.rating ≠ none ∨ note.comment ≠ none) ∧
       ∃ raw, AnsweredBy cfg w events raw ∧
         NoteResult.fromTags trim fileHash raw.1 raw.2 = some note) := by
  refine ⟨⟨(keywordStream cap).nodup_results _, (keywordStream cap).length_results_le _, ?_⟩,
    ⟨(sourceStream cfg.target cap).nodup_results _, (sourceStream _ cap).length_results_le _, ?_⟩,
    fun trim fileHash => ⟨(notesStream trim fileHash cap).nodup_results _,
      (notesStream trim fileHash cap).length_results_le _, ?_⟩⟩
  · intro file hfile
    obtain ⟨raw, hraw, hread⟩ := (keywordStream cap).exists_read_of_mem_results hconsumed hfile
    obtain ⟨hnames, hsize⟩ := readKeywordResult_eq_some hread
    exact ⟨hnames, hsize, raw, answeredBy_of_streamed henter hrun hraw, hread⟩
  · intro source hsource
    obtain ⟨raw, hraw, hread⟩ :=
      (sourceStream cfg.target cap).exists_read_of_mem_results hconsumed hsource
    obtain ⟨hhash, htcp, hudp⟩ := sourceResult_fromTags_eq_some hread
    exact ⟨hhash, htcp, hudp, raw, answeredBy_of_streamed henter hrun hraw, hread⟩
  · intro note hnote
    obtain ⟨raw, hraw, hread⟩ :=
      (notesStream trim fileHash cap).exists_read_of_mem_results hconsumed hnote
    obtain ⟨hhash, hsays⟩ := noteResult_fromTags_eq_some hread
    exact ⟨hhash, hsays, raw, answeredBy_of_streamed henter hrun hraw, hread⟩

/-- The sample search for notes yields two ratings. -/
theorem searches_yield_note :
    let cfg := SearchPhase.sampleWalk.searchPhaseConfig SearchPhase.sampleSearch 10000 50000 true
    let consumed := (SearchPhase.entries (SearchPhase.sampleResponse 4) ++
      SearchPhase.entries (SearchPhase.sampleResponse 5)).map (StreamEvent.entry · true)
    let notes := (notesStream id ⟨Vector.replicate 16 3⟩ 1000).results consumed
    notes.map NoteResult.rating = [some 4, some 5] ∧ ∃ s,
      run (SearchPhase.step cfg) SearchPhase.sampleEntered SearchPhase.sampleSearchEvents = some s ∧
      ∀ note ∈ notes, ∃ raw, AnsweredBy SearchPhase.sampleSearch SearchPhase.sampleWalk
        SearchPhase.sampleSearchEvents raw ∧
        NoteResult.fromTags id ⟨Vector.replicate 16 3⟩ raw.1 raw.2 = some note := by
  intro cfg consumed notes
  have hmap : (run (SearchPhase.step cfg) SearchPhase.sampleEntered
      SearchPhase.sampleSearchEvents).map SearchPhase.streamed =
        some (consumed.filterMap StreamEvent.rawEntry) := by
    decide +kernel
  obtain ⟨s, hrun, hstreamed⟩ := Option.map_eq_some_iff.mp hmap
  refine ⟨by decide +kernel, s, hrun, fun note hnote => ?_⟩
  exact (((searches_yield _ _ 10000 50000 5000 5000 5050 false _ s _ SearchPhase.enter_sample hrun
    1000 consumed (hstreamed ▸ List.prefix_refl _)).2.2 id _).2.2 note hnote).2.2

end Dht

end Overlord.Kad
