import Overlord.Emule.ResultTags
import Overlord.Emule.SearchPages

/-!
# Answering searches from the publish cache

The part of `handle_unsolicited_packet` that serves the cache: six kinds of packets reach the
store, and a search is answered with at most `LOCAL_*_SEARCH_RESPONSE_LIMIT` results, cut into
pages that stay below a datagram size.

* `Servable` is the invariant of the store: every entry can be served.  `servable_handle` is its
  step and `servable_run` its run.
* `KadLocalStore.responses_encode` is the result about whole runs, and
  `keyword_response_of_publish` together with `KadLocalStore.response_panics` shows that the
  condition on the publishes is needed.
-/

set_option autoImplicit false

namespace Overlord.Emule

open Kad Wire

/-- `LOCAL_KEYWORD_SEARCH_RESPONSE_LIMIT`. -/
def LOCAL_KEYWORD_SEARCH_RESPONSE_LIMIT : Nat := 300
/-- `LOCAL_SOURCE_SEARCH_RESPONSE_LIMIT`. -/
def LOCAL_SOURCE_SEARCH_RESPONSE_LIMIT : Nat := 300
/-- `LOCAL_NOTES_SEARCH_RESPONSE_LIMIT`. -/
def LOCAL_NOTES_SEARCH_RESPONSE_LIMIT : Nat := 150

/-! ## Requests to the store -/

/-- What inbound packets ask of the store. -/
inductive StoreOp where
  | recordKeywordPublishBatch (target : NodeId) (entries : List PublishEntry) (observedAt : Time)
  | recordSourcePublish (target publisherId : NodeId) (sourceIp : Ipv4Addr) (sourceUdpPort : UInt16)
      (tags : List Tag) (observedAt : Time)
  | recordNotesPublish (target publisherId : NodeId) (publisherIp : Ipv4Addr) (tags : List Tag)
      (observedAt : Time)
  | keywordSearchResponse (senderId : NodeId) (request : SearchKeyReq) (now : Time)
  | sourceSearchResponse (senderId : NodeId) (request : SearchSourceReq) (now : Time)
  | notesSearchResponse (senderId : NodeId) (request : SearchNotesReq) (now : Time)
deriving DecidableEq, Repr

namespace KadLocalStore

variable (toLowercase : String → String)

/-- One request: the response to a search, and the store afterwards. -/
def handle (s : KadLocalStore) : StoreOp → Option SearchRes × KadLocalStore
  | .recordKeywordPublishBatch target entries observedAt =>
    (none, (s.recordKeywordPublishBatch target entries observedAt).2)
  | .recordSourcePublish target publisherId sourceIp sourceUdpPort tags observedAt =>
    (none, (s.recordSourcePublish target publisherId sourceIp sourceUdpPort tags observedAt).2)
  | .recordNotesPublish target publisherId publisherIp tags observedAt =>
    (none, (s.recordNotesPublish target publisherId publisherIp tags observedAt).2)
  | .keywordSearchResponse senderId request now =>
    s.keywordSearchResponse toLowercase senderId request LOCAL_KEYWORD_SEARCH_RESPONSE_LIMIT now
  | .sourceSearchResponse senderId request now =>
    s.sourceSearchResponse senderId request LOCAL_SOURCE_SEARCH_RESPONSE_LIMIT now
  | .notesSearchResponse senderId request now =>
    s.notesSearchResponse senderId request LOCAL_NOTES_SEARCH_RESPONSE_LIMIT now

/-- A run of requests. -/
def run (s : KadLocalStore) (ops : List StoreOp) : KadLocalStore :=
  ops.foldl (fun s op => (s.handle toLowercase op).2) s

end KadLocalStore

/-- The tags of a publish came out of `KadPacket::decode`. -/
def StoreOp.Decoded (pf : Platform) : StoreOp → Prop
  | .recordKeywordPublishBatch target entries _ =>
    ∃ buf, KadPacket.decode pf buf = .ok (.publishKeyReq ⟨target, entries⟩)
  | .recordSourcePublish target publisherId _ _ tags _ =>
    ∃ buf, KadPacket.decode pf buf = .ok (.publishSourceReq ⟨target, publisherId, tags⟩)
  | .recordNotesPublish target publisherId _ tags _ =>
    ∃ buf, KadPacket.decode pf buf = .ok (.publishNotesReq ⟨target, publisherId, tags⟩)
  | _ => True

/-- What the store accepts of a publish can be served. -/
def StoreOp.Servable : StoreOp → Prop
  | .recordKeywordPublishBatch _ entries _ => ∀ e ∈ entries,
    (stockKeywordFileSize e.tags).isSome → hasStockKeywordFilename e.tags = true →
      KeywordServable e.tags
  | .recordSourcePublish _ _ _ _ tags _ => isStockSourcePublish tags = true →
    (stockSourceTcpPort tags).isSome → SourceServable tags
  | .recordNotesPublish _ _ _ tags _ => hasStockNoteTags tags = true → NotesServable tags
  | _ => True

/-! ## The invariant -/

/-- Every entry of the store can be served. -/
structure Servable (s : KadLocalStore) : Prop where
  /-- Keyword entries. -/
  keyword : ∀ e ∈ s.keywordEntries, TagsFit (keywordResultTags e)
  /-- Source entries. -/
  source : ∀ e ∈ s.sourceEntries, TagsFit (sourceResultTags e)
  /-- Notes. -/
  notes : ∀ e ∈ s.notesEntries, TagsFit (notesResultTags e)

section Entries

variable {α : Type}

theorem mem_of_mem_removeAt {index : Option Nat} {entries : List α} {e : α}
    (h : e ∈ removeAt index entries) : e ∈ entries := by
  cases index with
  | none => exact h
  | some i => exact List.mem_of_mem_eraseIdx h

theorem mem_of_mem_purgeExpired {observedAt : α → Time} {ttl : Nat} {now : Time} {entries : List α}
    {e : α} (h : e ∈ purgeExpired observedAt ttl now entries) : e ∈ entries :=
  List.mem_of_mem_filter h

theorem mem_of_mem_evictOldest {observedAt : α → Time} {capacity : Nat} {entries : List α} {e : α}
    (h : e ∈ evictOldest observedAt capacity entries) : e ∈ entries := by
  rw [evictOldest] at h
  split_ifs at h
  · exact mem_of_mem_removeAt h
  · exact h

/-- An insertion adds the new entry and nothing else. -/
theorem mem_of_mem_upsertTargeted {observedAt : α → Time} {same ofTarget : α → Bool}
    {maxPerFile capacity : Nat} {entry : α} {entries : List α} {e : α}
    (h : e ∈ upsertTargeted observedAt same ofTarget maxPerFile capacity entry entries) :
    e = entry ∨ e ∈ entries := by
  rw [upsertTargeted] at h
  split at h
  · exact (List.mem_or_eq_of_mem_set h).symm
  · rcases List.mem_append.mp h with h | h
    · right
      have := mem_of_mem_evictOldest h
      split_ifs at this
      · exact mem_of_mem_removeAt this
      · exact this
    · exact .inl (List.mem_singleton.mp h)

theorem mem_of_mem_upsertEntry {capacity : Nat} {dedupKey : String} {entry : StoredKeywordPublish}
    {entries : List StoredKeywordPublish} {e : StoredKeywordPublish}
    (h : e ∈ upsertEntry capacity dedupKey entry entries) : e = entry ∨ e ∈ entries := by
  rw [upsertEntry] at h
  split at h
  · exact (List.mem_or_eq_of_mem_set h).symm
  · rcases List.mem_append.mp h with h | h
    · exact .inr (mem_of_mem_evictOldest h)
    · exact .inl (List.mem_singleton.mp h)

end Entries

/-- One entry of a keyword batch. -/
theorem servable_recordKeywordPublish {config : KadLocalStoreConfig} {target : NodeId}
    {observedAt : Time} {acc : UInt8 × List StoredKeywordPublish} {entry : PublishEntry}
    (hacc : ∀ e ∈ acc.2, TagsFit (keywordResultTags e))
    (hentry : (stockKeywordFileSize entry.tags).isSome →
      hasStockKeywordFilename entry.tags = true → KeywordServable entry.tags) :
    ∀ e ∈ (recordKeywordPublish config target observedAt acc entry).2,
      TagsFit (keywordResultTags e) := by
  rw [recordKeywordPublish]
  split
  · exact hacc
  · rename_i size hsize
    split_ifs with hname
    · exact hacc
    obtain ⟨load, shouldStore⟩ := stockKeywordPublishDecision acc.2 target entry.hash
    cases shouldStore with
    | false => exact hacc
    | true =>
      intro e he
      rcases mem_of_mem_upsertEntry he with rfl | he
      · have hsome : (stockKeywordFileSize entry.tags).isSome := by rw [hsize]; rfl
        have hfile : hasStockKeywordFilename entry.tags = true := by simpa using hname
        exact (tagsFit_keywordResultTags_iff hsome hfile ..).mpr (hentry hsome hfile)
      · exact hacc e he

section Handlers

variable {s : KadLocalStore}

theorem servable_recordKeywordPublishBatch (hs : Servable s) {target : NodeId}
    {entries : List PublishEntry} (observedAt : Time)
    (hop : (StoreOp.recordKeywordPublishBatch target entries observedAt).Servable) :
    Servable (s.recordKeywordPublishBatch target entries observedAt).2 := by
  rw [KadLocalStore.recordKeywordPublishBatch]
  split_ifs
  · exact hs
  refine ⟨?_, hs.source, hs.notes⟩
  exact List.foldlRecOn entries _
    (motive := fun acc : UInt8 × List StoredKeywordPublish =>
      ∀ e ∈ acc.2, TagsFit (keywordResultTags e))
    (fun e he => hs.keyword e (mem_of_mem_purgeExpired he))
    fun acc hacc entry hentry => servable_recordKeywordPublish hacc (hop entry hentry)

theorem servable_recordSourcePublish (hs : Servable s) (target publisherId : NodeId)
    (sourceIp : Ipv4Addr) (sourceUdpPort : UInt16) (tags : List Tag) (observedAt : Time)
    (hop : isStockSourcePublish tags = true → (stockSourceTcpPort tags).isSome →
      SourceServable tags) :
    Servable
      (s.recordSourcePublish target publisherId sourceIp sourceUdpPort tags observedAt).2 := by
  rw [KadLocalStore.recordSourcePublish]
  split_ifs with henabled hsource hip
  · exact hs
  · exact hs
  · exact hs
  split
  · exact hs
  · rename_i port hport
    have hsource : isStockSourcePublish tags = true := by simpa using hsource
    refine ⟨hs.keyword, fun e he => ?_, hs.notes⟩
    rcases mem_of_mem_upsertTargeted he with rfl | he
    · exact (tagsFit_sourceResultTags_iff hsource hport ..).mpr
        (hop hsource (by rw [hport]; rfl))
    · exact hs.source e (mem_of_mem_purgeExpired he)

theorem servable_recordNotesPublish (hs : Servable s) (target publisherId : NodeId)
    (publisherIp : Ipv4Addr) {tags : List Tag} (hlen : tags.length < 2 ^ 8) (observedAt : Time)
    (hop : hasStockNoteTags tags = true → NotesServable tags) :
    Servable (s.recordNotesPublish target publisherId publisherIp tags observedAt).2 := by
  rw [KadLocalStore.recordNotesPublish]
  split_ifs with henabled hnote
  · exact hs
  · exact hs
  have hnote : hasStockNoteTags tags = true := by simpa using (not_or.mp hnote).2
  refine ⟨hs.keyword, hs.source, fun e he => ?_⟩
  rcases mem_of_mem_upsertTargeted he with rfl | he
  · exact (tagsFit_notesResultTags_iff hlen ..).mpr (hop hnote)
  · exact hs.notes e (mem_of_mem_purgeExpired he)

/-- A response has at most `limit` results, each made from an entry of the store. -/
theorem searchResponse_eq_some {senderId target : NodeId} {results : List SearchResultEntry}
    {response : SearchRes} (h : searchResponse senderId target results = some response) :
    response.results = results := by
  rw [searchResponse] at h
  split_ifs at h
  cases h
  rfl

theorem resultsFit_of_map {α : Type} {entries : List α} {limit : Nat} (hlimit : limit < 2 ^ 16)
    {f : α → SearchResultEntry} (hf : ∀ e ∈ entries, TagsFit (f e).tags) :
    ResultsFit ((entries.take limit).map f) := by
  refine ⟨?_, ?_⟩
  · rw [List.length_map]
    exact (List.length_take_le _ _).trans_lt hlimit
  · intro r hr
    obtain ⟨e, he, rfl⟩ := List.mem_map.mp hr
    exact hf e (List.mem_of_mem_take he)

theorem servable_keywordSearchResponse (hs : Servable s) (toLowercase : String → String)
    (senderId : NodeId) (request : SearchKeyReq) {limit : Nat} (hlimit : limit < 2 ^ 16)
    (now : Time) :
    Servable (s.keywordSearchResponse toLowercase senderId request limit now).2 ∧
      ∀ response, (s.keywordSearchResponse toLowercase senderId request limit now).1 =
        some response → ResultsFit response.results := by
  rw [KadLocalStore.keywordSearchResponse]
  split
  · exact ⟨hs, fun _ h => nomatch h⟩
  refine ⟨⟨fun e he => hs.keyword e (mem_of_mem_purgeExpired he), hs.source, hs.notes⟩,
    fun response h => ?_⟩
  rw [searchResponse_eq_some h]
  refine resultsFit_of_map hlimit fun e he => hs.keyword e ?_
  exact mem_of_mem_purgeExpired
    (List.mem_of_mem_filter (List.mem_of_mem_filter (List.mem_of_mem_drop he)))

theorem servable_sourceSearchResponse (hs : Servable s) (senderId : NodeId)
    (request : SearchSourceReq) {limit : Nat} (hlimit : limit < 2 ^ 16) (now : Time) :
    Servable (s.sourceSearchResponse senderId request limit now).2 ∧
      ∀ response, (s.sourceSearchResponse senderId request limit now).1 = some response →
        ResultsFit response.results := by
  rw [KadLocalStore.sourceSearchResponse]
  split
  · exact ⟨hs, fun _ h => nomatch h⟩
  refine ⟨⟨hs.keyword, fun e he => hs.source e (mem_of_mem_purgeExpired he), hs.notes⟩,
    fun response h => ?_⟩
  rw [searchResponse_eq_some h]
  refine resultsFit_of_map hlimit fun e he => hs.source e ?_
  exact mem_of_mem_purgeExpired (List.mem_reverse.mp
    (List.mem_of_mem_filter (List.mem_of_mem_drop (List.mem_of_mem_filter he))))

theorem servable_notesSearchResponse (hs : Servable s) (senderId : NodeId)
    (request : SearchNotesReq) {limit : Nat} (hlimit : limit < 2 ^ 16) (now : Time) :
    Servable (s.notesSearchResponse senderId request limit now).2 ∧
      ∀ response, (s.notesSearchResponse senderId request limit now).1 = some response →
        ResultsFit response.results := by
  rw [KadLocalStore.notesSearchResponse]
  split
  · exact ⟨hs, fun _ h => nomatch h⟩
  refine ⟨⟨hs.keyword, hs.source, fun e he => hs.notes e (mem_of_mem_purgeExpired he)⟩,
    fun response h => ?_⟩
  rw [searchResponse_eq_some h]
  refine resultsFit_of_map hlimit fun e he => hs.notes e ?_
  exact mem_of_mem_purgeExpired
    (List.mem_reverse.mp (List.mem_of_mem_filter (List.mem_of_mem_filter he)))

/-- **One request** keeps the invariant. -/
theorem servable_handle (hs : Servable s) (toLowercase : String → String) (pf : Platform)
    {op : StoreOp} (hdec : op.Decoded pf) (hop : op.Servable) :
    Servable (s.handle toLowercase op).2 := by
  cases op with
  | recordKeywordPublishBatch target entries observedAt =>
    exact servable_recordKeywordPublishBatch hs observedAt hop
  | recordSourcePublish target publisherId sourceIp sourceUdpPort tags observedAt =>
    exact servable_recordSourcePublish hs _ _ _ _ tags _ hop
  | recordNotesPublish target publisherId publisherIp tags observedAt =>
    obtain ⟨buf, hbuf⟩ := hdec
    have hwire : TagsFromWire tags := KadPacketOf.fromWire_decodeWith hbuf
    exact servable_recordNotesPublish hs _ _ _ hwire.1 _ hop
  | keywordSearchResponse senderId request now =>
    exact (servable_keywordSearchResponse hs toLowercase senderId request (by decide) now).1
  | sourceSearchResponse senderId request now =>
    exact (servable_sourceSearchResponse hs senderId request (by decide) now).1
  | notesSearchResponse senderId request now =>
    exact (servable_notesSearchResponse hs senderId request (by decide) now).1

/-- A servable store answers with what fits. -/
theorem resultsFit_of_handle (hs : Servable s) {toLowercase : String → String} {op : StoreOp}
    {response : SearchRes} (h : (s.handle toLowercase op).1 = some response) :
    ResultsFit response.results := by
  cases op with
  | recordKeywordPublishBatch | recordSourcePublish | recordNotesPublish => cases h
  | keywordSearchResponse senderId request now =>
    exact (servable_keywordSearchResponse hs toLowercase senderId request (by decide) now).2 _ h
  | sourceSearchResponse senderId request now =>
    exact (servable_sourceSearchResponse hs senderId request (by decide) now).2 _ h
  | notesSearchResponse senderId request now =>
    exact (servable_notesSearchResponse hs senderId request (by decide) now).2 _ h

end Handlers

theorem servable_new (config : KadLocalStoreConfig) : Servable (.new config) where
  keyword := by simp [KadLocalStore.new]
  source := by simp [KadLocalStore.new]
  notes := by simp [KadLocalStore.new]

/-- **A run of requests** keeps the invariant. -/
theorem servable_run (toLowercase : String → String) (pf : Platform) (config : KadLocalStoreConfig)
    (ops : List StoreOp) (hdec : ∀ op ∈ ops, op.Decoded pf) (hops : ∀ op ∈ ops, op.Servable) :
    Servable ((KadLocalStore.new config).run toLowercase ops) :=
  List.foldlRecOn ops _ (servable_new config) fun _ hs op hop =>
    servable_handle hs toLowercase pf (hdec op hop) (hops op hop)

/-- **Every answer can be sent.**  After every run of requests whose publishes were decoded from
packets and can be served, whatever is asked next, the response and every page it is cut into are
encoded without a panic. -/
theorem KadLocalStore.responses_encode (toLowercase : String → String) (pf : Platform)
    (config : KadLocalStoreConfig) (ops : List StoreOp) (hdec : ∀ op ∈ ops, op.Decoded pf)
    (hops : ∀ op ∈ ops, op.Servable) (request : StoreOp) (response : SearchRes)
    (h : (((KadLocalStore.new config).run toLowercase ops).handle toLowercase request).1 =
      some response) :
    (∃ bs, KadPacket.encode (.searchRes response) = .ok bs) ∧
      ∀ maxPacketBytes, ∃ pages, splitStockSearchResponses response maxPacketBytes = .ok pages ∧
        ∀ page ∈ pages, ∃ bs, KadPacket.encode (.searchRes page) = .ok bs := by
  have hfit := resultsFit_of_handle (servable_run toLowercase pf config ops hdec hops) h
  refine ⟨encode_searchRes_isOk hfit, fun maxPacketBytes => ?_⟩
  obtain ⟨pages, hpages, hpage⟩ := splitStockSearchResponses_ok hfit maxPacketBytes
  exact ⟨pages, hpages, fun page h => encode_searchRes_isOk (hpage page h)⟩

/-! ## The condition is needed -/

/-- A store with room answers a search right after a publish with that publish. -/
theorem keyword_response_of_publish (toLowercase : String → String) {config : KadLocalStoreConfig}
    (henabled : config.enabled = true) (httl : 0 < config.keywordTtl) (target senderId : NodeId)
    {entry : PublishEntry} {size : UInt64} (hsize : stockKeywordFileSize entry.tags = some size)
    (hname : hasStockKeywordFilename entry.tags = true) (now : Time) :
    (((KadLocalStore.new config).run toLowercase
      [.recordKeywordPublishBatch target [entry] now]).handle toLowercase
        (.keywordSearchResponse senderId ⟨target, 0, []⟩ now)).1 =
      some ⟨senderId, target, [⟨entry.hash, keywordResultTags ⟨now, target, entry.hash,
        stockStoredPublishTags entry.tags, keywordDedupKey target entry.hash size⟩⟩]⟩ := by
  have hupsert : ∀ (key : String) (e : StoredKeywordPublish),
      upsertEntry config.keywordCapacity key e [] = [e] := fun key e => by
    rw [upsertEntry, List.findIdx?_nil]
    simp [evictOldest, removeAt]
  have hstored : ((KadLocalStore.new config).recordKeywordPublishBatch target [entry] now).2 =
      { KadLocalStore.new config with keywordEntries := [⟨now, target, entry.hash,
        stockStoredPublishTags entry.tags, keywordDedupKey target entry.hash size⟩] } := by
    have hdecision : stockKeywordPublishDecision [] target entry.hash = (1, true) := by
      simp [stockKeywordPublishDecision, keywordSourceCount]
    simp [KadLocalStore.recordKeywordPublishBatch, KadLocalStore.new, henabled, purgeExpired,
      recordKeywordPublish, hsize, hname, hdecision, hupsert]
  have hlive : now < now + (config.keywordTtl : Int) :=
    Int.lt_add_of_pos_right now (by exact_mod_cast httl)
  show (KadLocalStore.handle toLowercase
    ((KadLocalStore.new config).recordKeywordPublishBatch target [entry] now).2 _).1 = _
  rw [hstored]
  simp [KadLocalStore.handle, KadLocalStore.keywordSearchResponse, KadLocalStore.new, henabled,
    LOCAL_KEYWORD_SEARCH_RESPONSE_LIMIT, purgeExpired, hlive,
    KadLocalStore.keywordEntryMatchesRestrictivePayload, searchResponse]

/-- A keyword publish with a name, a size and `n` other tags. -/
def publishWith (n : Nat) : PublishEntry :=
  ⟨⟨Vector.replicate 16 0⟩, filenameTag "a" :: newShort tagName.FILESIZE (.u8 1) ::
    List.replicate n (newShort tagName.FILEFORMAT (.u8 0))⟩

section PublishWith

variable (n : Nat)

theorem mem_publishWith {tag : Tag} (h : tag ∈ (publishWith n).tags) :
    tag = filenameTag "a" ∨ tag = newShort tagName.FILESIZE (.u8 1) ∨
      tag = newShort tagName.FILEFORMAT (.u8 0) := by
  rcases List.mem_cons.mp h with rfl | h
  · exact .inl rfl
  rcases List.mem_cons.mp h with rfl | h
  · exact .inr (.inl rfl)
  · exact .inr (.inr (List.eq_of_mem_replicate h))

theorem length_publishWith : (publishWith n).tags.length = n + 2 := by
  simp only [publishWith, List.length_cons, List.length_replicate]

/-- Such a publish can come in a packet as long as a `u8` counts its tags. -/
theorem decoded_publishWith (hn : n + 2 < 2 ^ 8) (pf : Platform) (target : NodeId)
    (observedAt : Time) :
    (StoreOp.recordKeywordPublishBatch target [publishWith n] observedAt).Decoded pf := by
  have hfits : KadPacket.Fits (.publishKeyReq ⟨target, [publishWith n]⟩) := by
    refine ⟨by simp, fun e he => ?_⟩
    rw [List.mem_singleton.mp he]
    refine ⟨by rwa [length_publishWith], fun tag htag => ?_⟩
    rcases mem_publishWith n htag with rfl | rfl | rfl
    · exact (fits_filenameTag_iff "a").mpr (by decide)
    · exact ⟨trivial, trivial⟩
    · exact ⟨trivial, trivial⟩
  have hsame : (publishWith n).tags.map Tag.normalise = (publishWith n).tags :=
    (map_eq_self_iff _ _).mpr fun tag htag => by
      rcases mem_publishWith n htag with rfl | rfl | rfl <;> rfl
  have hown : KadPacket.OwnOpcode (.publishKeyReq ⟨target, [publishWith n]⟩) := trivial
  obtain ⟨bs, hbs⟩ := (KadPacket.encode_isOk_iff _).mpr hfits
  refine ⟨bs, (KadPacket.decode_of_encode pf hown hbs).trans ?_⟩
  rw [KadPacket.normalise, List.map_singleton, hsame]

theorem stockKeywordFileSize_publishWith : stockKeywordFileSize (publishWith n).tags = some 1 := by
  have hskip : ∀ parts, (List.replicate n (newShort tagName.FILEFORMAT (.u8 0))).foldl
      (stockFirstFileSizeStep true) parts = parts := by
    intro parts
    induction n with
    | zero => rfl
    | succ n ih => exact ih
  rw [stockKeywordFileSize, stockFirstKeywordSourceFileSize, stockFirstFileSizeImpl, publishWith,
    List.foldl_cons, List.foldl_cons, hskip]
  rfl

theorem hasStockKeywordFilename_publishWith :
    hasStockKeywordFilename (publishWith n).tags = true := by
  rw [hasStockKeywordFilename, publishWith, List.any_cons]
  rfl

theorem publishedAichHash_publishWith : publishedAichHash (publishWith n).tags = none := by
  refine List.findSome?_eq_none_iff.mpr fun tag htag => ?_
  rcases mem_publishWith n htag with rfl | rfl | rfl <;> rfl

theorem filter_keywordPassesThrough_publishWith :
    (publishWith n).tags.filter keywordPassesThrough =
      List.replicate n (newShort tagName.FILEFORMAT (.u8 0)) := by
  rw [publishWith, List.filter_cons_of_neg (by decide), List.filter_cons_of_neg (by decide),
    List.filter_eq_self]
  intro tag htag
  rw [List.eq_of_mem_replicate htag]
  rfl

end PublishWith

/-- A small publish is served. -/
theorem KadLocalStore.responses_encode_small :
    ∃ response,
      (((KadLocalStore.new ⟨true, 1, 1, 1, 1, 1, 1⟩).run id
        [.recordKeywordPublishBatch NodeId.ZERO [publishWith 0] 0]).handle id
          (.keywordSearchResponse NodeId.ZERO ⟨NodeId.ZERO, 0, []⟩ 0)).1 = some response ∧
      (∃ bs, KadPacket.encode (.searchRes response) = .ok bs) ∧
      ∀ maxPacketBytes, ∃ pages, splitStockSearchResponses response maxPacketBytes = .ok pages ∧
        ∀ page ∈ pages, ∃ bs, KadPacket.encode (.searchRes page) = .ok bs := by
  have henabled : (⟨true, 1, 1, 1, 1, 1, 1⟩ : KadLocalStoreConfig).enabled = true := rfl
  have h := keyword_response_of_publish id henabled (by decide) NodeId.ZERO NodeId.ZERO
    (stockKeywordFileSize_publishWith 0) (hasStockKeywordFilename_publishWith 0) 0
  refine ⟨_, h, responses_encode id ⟨fromUtf8Lossy, fun _ => none⟩ _ _ ?_ ?_ _ _ h⟩
  · simpa using decoded_publishWith 0 (by decide) _ NodeId.ZERO 0
  · simp only [List.mem_singleton, forall_eq, StoreOp.Servable]
    intro _ _
    refine ⟨?_, fun tag htag hpass => ?_, fun name hname => ?_⟩
    · rw [filter_keywordPassesThrough_publishWith, publishedAichHash_publishWith]
      decide
    · rcases mem_publishWith 0 htag with rfl | rfl | rfl
      · exact absurd hpass (by decide)
      · exact absurd hpass (by decide)
      · exact ⟨trivial, trivial⟩
    · cases (show some "a" = some name from hname)
      decide

/-- A publish of 255 tags is served with 256: the name, the size, 253 others and the publish
info. -/
theorem KadLocalStore.response_panics :
    ∃ op request response, StoreOp.Decoded ⟨fromUtf8Lossy, fun _ => none⟩ op ∧
      (((KadLocalStore.new ⟨true, 1, 1, 1, 1, 1, 1⟩).run id [op]).handle id request).1 =
        some response ∧
      KadPacket.encode (.searchRes response) = .error ⟨"tag count exceeds u8"⟩ := by
  refine ⟨.recordKeywordPublishBatch NodeId.ZERO [publishWith 253] 0,
    .keywordSearchResponse NodeId.ZERO ⟨NodeId.ZERO, 0, []⟩ 0, _,
    decoded_publishWith 253 (by decide) _ _ _,
    keyword_response_of_publish id rfl (by decide) _ _ (stockKeywordFileSize_publishWith 253)
      (hasStockKeywordFilename_publishWith 253) 0, encode_searchRes_panics ?_ (by decide)⟩
  obtain ⟨name, hname⟩ := Option.isSome_iff_exists.mp
    ((hasStockKeywordFilename_iff _).mp (hasStockKeywordFilename_publishWith 253))
  rw [keywordResultTags_stored, hname, stockKeywordFileSize_publishWith,
    filter_keywordPassesThrough_publishWith, publishedAichHash_publishWith]
  simp only [Option.map_some, Option.map_none, Option.toList_some, Option.toList_none,
    List.length_append, List.length_cons, List.length_nil, List.length_replicate]
  decide

end Overlord.Emule
