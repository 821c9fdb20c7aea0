import Overlord.Emule.KadSearchExpr
import Overlord.Kad.Proto.Packet
import Overlord.Net.Addr

/-!
# The local publish cache

`kad_store.rs` of the eMule agent: what peers publish is kept in three lists, one for each family
of publish packets, and inbound searches are answered from them.

The store is a value and every operation returns the new one.  Times are integers and a `Duration`
is a natural number, both in the same unit; the clock is an argument of every operation, as it is
in the source.  A `HashSet` whose length is all that is asked for is a list without duplicates.

The three publish families differ in what identifies an entry, and two of them share the rest of
their insertion (`upsertTargeted`).  The three response builders differ in which tags they rewrite,
and each keeps its own loop.

What the bounds on the three lists are is in `StoreBounds`, what is answered from them in
`SearchResponses` and `ServedKeywords`, and which tags an answer has in `ResultTags`.
-/

set_option autoImplicit false

namespace Overlord.Emule

open Kad Wire

/-- `DateTime<Utc>`. -/
abbrev Time := Int

/-- `STOCK_MAX_SOURCES_PER_FILE`. -/
def STOCK_MAX_SOURCES_PER_FILE : Nat := 1000
/-- `STOCK_MAX_NOTES_PER_FILE`. -/
def STOCK_MAX_NOTES_PER_FILE : Nat := 150
/-- `STOCK_MAX_KEYWORD_INDEX`. -/
def STOCK_MAX_KEYWORD_INDEX : Nat := 50000
/-- `STOCK_MAX_KEYWORD_ENTRIES`. -/
def STOCK_MAX_KEYWORD_ENTRIES : Nat := 60000
/-- `STOCK_HOT_KEYWORD_REPUBLISH_MARGIN`. -/
def STOCK_HOT_KEYWORD_REPUBLISH_MARGIN : Nat := 5000

/-! ## State -/

/-- Runtime policy of the cache. -/
structure KadLocalStoreConfig where
  enabled : Bool
  keywordTtl : Nat
  sourceTtl : Nat
  notesTtl : Nat
  keywordCapacity : Nat
  sourceCapacity : Nat
  notesCapacity : Nat
deriving DecidableEq, Repr

/-- What `from_kad_config` reads of `KadConfig`. -/
structure KadConfig where
  localStoreEnabled : Bool
  localStoreKeywordTtlSecs : UInt64
  localStoreSourceTtlSecs : UInt64
  localStoreNotesTtlSecs : UInt64
  localStoreKeywordCapacity : Nat
  localStoreSourceCapacity : Nat
  localStoreNotesCapacity : Nat
deriving DecidableEq, Repr

/-- `Duration::from_secs(secs.max(1))`, in nanoseconds. -/
def secsAtLeastOne (secs : UInt64) : Nat := max secs.toNat 1 * 10 ^ 9

/-- `KadLocalStoreConfig::from_kad_config`. -/
def KadLocalStoreConfig.fromKadConfig (config : KadConfig) : KadLocalStoreConfig where
  enabled := config.localStoreEnabled
  keywordTtl := secsAtLeastOne config.localStoreKeywordTtlSecs
  sourceTtl := secsAtLeastOne config.localStoreSourceTtlSecs
  notesTtl := secsAtLeastOne config.localStoreNotesTtlSecs
  keywordCapacity := max config.localStoreKeywordCapacity 1
  sourceCapacity := max config.localStoreSourceCapacity 1
  notesCapacity := max config.localStoreNotesCapacity 1

structure StoredKeywordPublish where
  observedAt : Time
  target : NodeId
  fileHash : Ed2kHash
  tags : List Tag
  dedupKey : String
deriving DecidableEq, Repr

structure StoredSourcePublish where
  observedAt : Time
  target : NodeId
  publisherId : NodeId
  sourceIp : Ipv4Addr
  sourceTcpPort : UInt16
  sourceUdpPort : UInt16
  tags : List Tag
deriving DecidableEq, Repr

structure StoredNotesPublish where
  observedAt : Time
  target : NodeId
  publisherId : NodeId
  publisherIp : Ipv4Addr
  tags : List Tag
deriving DecidableEq, Repr

/-- The cache. -/
structure KadLocalStore where
  config : KadLocalStoreConfig
  keywordEntries : List StoredKeywordPublish
  sourceEntries : List StoredSourcePublish
  notesEntries : List StoredNotesPublish
deriving DecidableEq, Repr

/-- `KadLocalStore::new`. -/
def KadLocalStore.new (config : KadLocalStoreConfig) : KadLocalStore := ⟨config, [], [], []⟩

/-! ## Reading tags -/

/-- The tag has this one-byte name. -/
def isNamed (name : UInt8) (tag : Tag) : Bool := tag.name = .short name

/-- `Tag::new_short`. -/
def newShort (name : UInt8) (value : TagValue) : Tag := ⟨.short name, value⟩

/-- `Tag::filename`. -/
def filenameTag (name : String) : Tag := newShort tagName.FILENAME (.string name)

/-- `Tag::filesize`. -/
def filesizeTag (size : UInt64) : Tag := newShort tagName.FILESIZE (.uint size)

/-- `is_integer_tag_value`. -/
def isIntegerTagValue : TagValue → Bool
  | .uint _ | .u64 _ | .u32 _ | .u16 _ | .u8 _ => true
  | _ => false

/-- `stock_stored_publish_tags`: two tags only the agent itself may emit are dropped. -/
def stockStoredPublishTags (tags : List Tag) : List Tag :=
  tags.filter fun tag => !(isNamed tagName.PUBLISHINFO tag || isNamed tagName.KADAICHHASHRESULT tag)

/-- `stock_stored_source_publish_tags`. -/
def stockStoredSourcePublishTags (tags : List Tag) : List Tag :=
  (stockStoredPublishTags tags).filter fun tag =>
    !(isNamed tagName.SERVERIP tag && !isIntegerTagValue tag.value)

/-- `is_stock_source_publish`. -/
def isStockSourcePublish (tags : List Tag) : Bool := tags.any (isNamed tagName.SOURCETYPE)

/-- `u16::try_from(value).ok().filter(|port| *port > 0)`. -/
def positivePort (value : Nat) : Option UInt16 :=
  if 0 < value ∧ value < 2 ^ 16 then some (UInt16.ofNat value) else none

/-- The value of an integer tag as a positive port. -/
def portValue : TagValue → Option UInt16
  | .uint v => positivePort v.toNat
  | .u64 v => positivePort v.toNat
  | .u32 v => positivePort v.toNat
  | .u16 v => positivePort v.toNat
  | .u8 v => positivePort v.toNat
  | _ => none

/-- `stock_source_tcp_port`: the first tag that holds a usable port. -/
def stockSourceTcpPort (tags : List Tag) : Option UInt16 :=
  tags.findSome? fun tag => if isNamed tagName.SOURCEPORT tag then portValue tag.value else none

/-- `stock_first_filename`. -/
def stockFirstFilename (tags : List Tag) : Option String :=
  tags.findSome? fun tag =>
    if isNamed tagName.FILENAME tag then
      match tag.value with
      | .string value => if value ≠ "" then some value else none
      | _ => none
    else none

/-- One round of the loop in `stock_first_file_size_impl`. -/
def stockFirstFileSizeStep (acceptBsobFileSize : Bool) (parts : FileSizeParts) (tag : Tag) :
    FileSizeParts :=
  match tag.name with
  | .long _ => parts
  | .short name =>
    if name = tagName.FILESIZE then
      match tag.value with
      | .uint v =>
        if v.toNat < 2 ^ 32 then
          { parts with sizeLow := getOrInsert parts.sizeLow (UInt32.ofNat v.toNat) }
        else { parts with size := getOrInsert parts.size v }
      | .u64 v => { parts with size := getOrInsert parts.size v }
      | .u32 v => { parts with sizeLow := getOrInsert parts.sizeLow v }
      | .u16 v => { parts with sizeLow := getOrInsert parts.sizeLow (UInt32.ofNat v.toNat) }
      | .u8 v => { parts with sizeLow := getOrInsert parts.sizeLow (UInt32.ofNat v.toNat) }
      | .blob bytes | .smallBlob bytes =>
        if acceptBsobFileSize ∧ bytes.length = 8 then
          { parts with size := getOrInsert parts.size (UInt64.ofNat (ofLe bytes)) }
        else parts
      | _ => parts
    else if name = tagName.FILESIZE_HI then
      match tag.value with
      | .uint v =>
        if v.toNat < 2 ^ 32 then
          { parts with sizeHigh := getOrInsert parts.sizeHigh (UInt32.ofNat v.toNat) }
        else parts
      | .u32 v => { parts with sizeHigh := getOrInsert parts.sizeHigh v }
      | .u16 v => { parts with sizeHigh := getOrInsert parts.sizeHigh (UInt32.ofNat v.toNat) }
      | .u8 v => { parts with sizeHigh := getOrInsert parts.sizeHigh (UInt32.ofNat v.toNat) }
      | _ => parts
    else parts

/-- `stock_first_file_size_impl`. -/
def stockFirstFileSizeImpl (tags : List Tag) (acceptBsobFileSize : Bool) : Option UInt64 :=
  (tags.foldl (stockFirstFileSizeStep acceptBsobFileSize) ⟨none, none, none⟩).result

/-- `stock_first_file_size`. -/
def stockFirstFileSize (tags : List Tag) : Option UInt64 := stockFirstFileSizeImpl tags false

/-- `stock_first_keyword_source_file_size`. -/
def stockFirstKeywordSourceFileSize (tags : List Tag) : Option UInt64 :=
  stockFirstFileSizeImpl tags true

/-- `stock_keyword_file_size`. -/
def stockKeywordFileSize (tags : List Tag) : Option UInt64 :=
  (stockFirstKeywordSourceFileSize tags).filter (0 < ·)

/-- `has_stock_keyword_filename`. -/
def hasStockKeywordFilename (tags : List Tag) : Bool :=
  tags.any fun tag => match tag.value with
    | .string value => isNamed tagName.FILENAME tag && value ≠ ""
    | _ => false

/-- `has_stock_note_tags`: a note needs one tag that says something. -/
def hasStockNoteTags (tags : List Tag) : Bool :=
  tags.any fun tag => match tag.name with
    | .short name =>
      if name = tagName.FILENAME then
        match tag.value with
        | .string value => value ≠ ""
        | _ => false
      else if name = tagName.FILESIZE then
        ((stockFirstFileSize [tag]).map fun size => decide (0 < size)).getD false
      else true
    | .long _ => true

/-- `stock_file_size_matches_request`. -/
def stockFileSizeMatchesRequest (tags : List Tag) (requestSize : UInt64)
    (acceptBsobFileSize : Bool) : Bool :=
  requestSize = 0 ||
    ((stockFirstFileSizeImpl tags acceptBsobFileSize).map (· == requestSize)).getD true

/-- `stock_source_file_size_matches_request`. -/
def stockSourceFileSizeMatchesRequest (tags : List Tag) (requestSize : UInt64) : Bool :=
  stockFileSizeMatchesRequest tags requestSize true

/-- `stock_notes_file_size_matches_request`. -/
def stockNotesFileSizeMatchesRequest (tags : List Tag) (requestSize : UInt64) : Bool :=
  stockFileSizeMatchesRequest tags requestSize false

/-! ## Insertion -/

section Entries

variable {α : Type} (observedAt : α → Time)

/-- `purge_expired`. -/
def purgeExpired (ttl : Nat) (now : Time) (entries : List α) : List α :=
  entries.filter fun entry => now < observedAt entry + ttl

/-- `Vec::remove` at an index that may be absent. -/
def removeAt (index : Option Nat) (entries : List α) : List α :=
  match index with
  | some i => entries.eraseIdx i
  | none => entries

/-- Make room for one entry when the list is at its capacity: the oldest entry goes, the first one
of them if there are several. -/
def evictOldest (capacity : Nat) (entries : List α) : List α :=
  if capacity ≤ entries.length then removeAt (entries.minIdxOn? observedAt) entries else entries

/-- The common part of `upsert_source_entry` and `upsert_notes_entry`: replace the first entry that
is the same publish, else evict from an overfull target and from a full list, and append. -/
def upsertTargeted (same ofTarget : α → Bool) (maxPerFile capacity : Nat) (entry : α)
    (entries : List α) : List α :=
  match entries.findIdx? same with
  | some i => entries.set i entry
  | none =>
    let entries :=
      if maxPerFile < (entries.filter ofTarget).length then
        removeAt (entries.findIdx? ofTarget) entries
      else entries
    evictOldest observedAt capacity entries ++ [entry]

end Entries

/-- `upsert_entry`, used for keyword publishes. -/
def upsertEntry (capacity : Nat) (dedupKey : String) (entry : StoredKeywordPublish)
    (entries : List StoredKeywordPublish) : List StoredKeywordPublish :=
  match entries.findIdx? fun candidate => candidate.dedupKey = dedupKey with
  | some i => entries.set i entry
  | none => evictOldest StoredKeywordPublish.observedAt capacity entries ++ [entry]

/-- The same source: the same file from the same address, on either port. -/
def sameSource (target : NodeId) (sourceIp : Ipv4Addr) (sourceTcpPort sourceUdpPort : UInt16)
    (candidate : StoredSourcePublish) : Bool :=
  candidate.target = target && candidate.sourceIp = sourceIp &&
    (candidate.sourceTcpPort = sourceTcpPort || candidate.sourceUdpPort = sourceUdpPort)

/-- The same note: the same file from the same address or the same publisher. -/
def sameNote (target publisherId : NodeId) (publisherIp : Ipv4Addr)
    (candidate : StoredNotesPublish) : Bool :=
  candidate.target = target &&
    (candidate.publisherIp = publisherIp || candidate.publisherId = publisherId)

/-- `upsert_source_entry`. -/
def upsertSourceEntry (capacity : Nat) (entry : StoredSourcePublish) :
    List StoredSourcePublish → List StoredSourcePublish :=
  upsertTargeted StoredSourcePublish.observedAt
    (sameSource entry.target entry.sourceIp entry.sourceTcpPort entry.sourceUdpPort)
    (fun candidate => candidate.target = entry.target) STOCK_MAX_SOURCES_PER_FILE capacity entry

/-- `upsert_notes_entry`. -/
def upsertNotesEntry (capacity : Nat) (entry : StoredNotesPublish) :
    List StoredNotesPublish → List StoredNotesPublish :=
  upsertTargeted StoredNotesPublish.observedAt
    (sameNote entry.target entry.publisherId entry.publisherIp)
    (fun candidate => candidate.target = entry.target) STOCK_MAX_NOTES_PER_FILE capacity entry

/-! ## Loads -/

/-- The load reported for a target that holds `count` of at most `max` entries. -/
def targetLoad (count max : Nat) (replaces : Bool) : UInt8 :=
  if count = 0 then 1
  else if max < count ∧ !replaces then 100
  else UInt8.ofNat (count * 100 / max)

/-- `stock_source_publish_load`. -/
def stockSourcePublishLoad (entries : List StoredSourcePublish) (target : NodeId)
    (sourceIp : Ipv4Addr) (sourceTcpPort sourceUdpPort : UInt16) : UInt8 :=
  targetLoad (entries.filter fun candidate => candidate.target = target).length
    STOCK_MAX_SOURCES_PER_FILE
    (entries.any (sameSource target sourceIp sourceTcpPort sourceUdpPort))

/-- `stock_notes_publish_load`. -/
def stockNotesPublishLoad (entries : List StoredNotesPublish) (target publisherId : NodeId)
    (publisherIp : Ipv4Addr) : UInt8 :=
  targetLoad (entries.filter fun candidate => candidate.target = target).length
    STOCK_MAX_NOTES_PER_FILE (entries.any (sameNote target publisherId publisherIp))

/-- `keyword_source_count`: how many different files a keyword has. -/
def keywordSourceCount (entries : List StoredKeywordPublish) (target : NodeId) : Nat :=
  ((entries.filter fun entry => entry.target = target).map (·.fileHash)).dedup.length

/-- `keyword_source_exists`. -/
def keywordSourceExists (entries : List StoredKeywordPublish) (target : NodeId)
    (fileHash : Ed2kHash) : Bool :=
  entries.any fun entry => entry.target = target && entry.fileHash = fileHash

/-- `stock_keyword_publish_decision`: the load to report and whether to store. -/
def stockKeywordPublishDecision (entries : List StoredKeywordPublish) (target : NodeId)
    (fileHash : Ed2kHash) : UInt8 × Bool :=
  if STOCK_MAX_KEYWORD_ENTRIES < entries.length then (100, false)
  else
    let sourceCount := keywordSourceCount entries target
    if sourceCount = 0 then (1, true)
    else if STOCK_MAX_KEYWORD_INDEX < sourceCount then (100, false)
    else if keywordSourceExists entries target fileHash ∧
        STOCK_MAX_KEYWORD_INDEX - STOCK_HOT_KEYWORD_REPUBLISH_MARGIN < sourceCount then (100, false)
    else (UInt8.ofNat (sourceCount * 100 / STOCK_MAX_KEYWORD_INDEX), true)

/-! ## Answers -/

/-- `search_response`. -/
def searchResponse (senderId target : NodeId) (results : List SearchResultEntry) :
    Option SearchRes :=
  if results.isEmpty then none else some ⟨senderId, target, results⟩

/-- `keyword_publish_info_tag`: one name, one publisher, full trust. -/
def keywordPublishInfoTag : Tag :=
  newShort tagName.PUBLISHINFO (.u32 (((1 : UInt32) <<< 24) ||| ((1 : UInt32) <<< 16) ||| 1000))

/-- `stock_aich_publish_hash`: a hash has exactly twenty bytes. -/
def stockAichPublishHash (tag : Tag) : Option Bytes :=
  match tag.value with
  | .blob bytes | .smallBlob bytes => if bytes.length = 20 then some bytes else none
  | _ => none

/-- `keyword_aich_result_tag`. -/
def keywordAichResultTag (hash : Bytes) : Tag :=
  newShort tagName.KADAICHHASHRESULT (.smallBlob (1 :: 1 :: hash))

/-- One round of the loop in `keyword_result_tags`. -/
def keywordResultStep (acc : List Tag × Option Bytes) (tag : Tag) : List Tag × Option Bytes :=
  if isNamed tagName.FILENAME tag || isNamed tagName.FILESIZE tag then acc
  else if isNamed tagName.KADAICHHASHPUB tag then
    (acc.1, if acc.2.isNone then stockAichPublishHash tag else acc.2)
  else if isNamed tagName.PUBLISHINFO tag || isNamed tagName.KADAICHHASHRESULT tag then acc
  else (acc.1 ++ [tag], acc.2)

/-- `keyword_result_tags`. -/
def keywordResultTags (entry : StoredKeywordPublish) : List Tag :=
  let filename := (stockFirstFilename entry.tags).map filenameTag
  let filesize :=
    ((stockFirstKeywordSourceFileSize entry.tags).filter (0 < ·)).map filesizeTag
  let (tags, aichResultHash) :=
    entry.tags.foldl keywordResultStep (filename.toList ++ filesize.toList, none)
  tags ++ [keywordPublishInfoTag] ++ (aichResultHash.map keywordAichResultTag).toList

/-- `source_ip_tag`. -/
def sourceIpTag (sourceIp : Ipv4Addr) : Tag := newShort tagName.SOURCEIP (.u32 sourceIp.toBeU32)

/-- `normalized_source_port_tag`. -/
def normalizedSourcePortTag (tag : Tag) : Tag :=
  match tag.value with
  | .uint v => if v.toNat < 2 ^ 32 then { tag with value := .u32 (UInt32.ofNat v.toNat) } else tag
  | _ => tag

/-- `normalized_source_udp_port_tag`. -/
def normalizedSourceUdpPortTag (tag : Tag) : Option Tag :=
  (portValue tag.value).map fun port => newShort tagName.SOURCEUPORT (.u16 port)

/-- The accumulators of the loop in `source_result_tags`. -/
structure SourceResultAcc where
  tags : List Tag
  sawSourceType : Bool
  sawSourceTcpPort : Bool
  sawSourceUdpPort : Bool
deriving DecidableEq, Repr

/-- One round of the loop in `source_result_tags`: the first source type carries the address in
front of it, and only the first of each kind of port is kept. -/
def sourceResultStep (sourceIp : Ipv4Addr) (acc : SourceResultAcc) (tag : Tag) : SourceResultAcc :=
  if isNamed tagName.SOURCETYPE tag then
    if acc.sawSourceType then acc
    else { acc with tags := acc.tags ++ [sourceIpTag sourceIp, tag], sawSourceType := true }
  else if isNamed tagName.FILESIZE tag then acc
  else if isNamed tagName.SOURCEPORT tag then
    if acc.sawSourceTcpPort then acc
    else { acc with tags := acc.tags ++ [normalizedSourcePortTag tag], sawSourceTcpPort := true }
  else if isNamed tagName.SOURCEUPORT tag then
    if acc.sawSourceUdpPort then acc
    else
      match normalizedSourceUdpPortTag tag with
      | some tag => { acc with tags := acc.tags ++ [tag], sawSourceUdpPort := true }
      | none => acc
  else { acc with tags := acc.tags ++ [tag] }

/-- `source_result_tags`. -/
def sourceResultTags (entry : StoredSourcePublish) : List Tag :=
  let filesize := (stockFirstKeywordSourceFileSize entry.tags).map filesizeTag
  (entry.tags.foldl (sourceResultStep entry.sourceIp) ⟨filesize.toList, false, false, false⟩).tags

/-- `notes_result_tags`. -/
def notesResultTags (entry : StoredNotesPublish) : List Tag :=
  let filename := (stockFirstFilename entry.tags).map filenameTag
  let filesize := ((stockFirstFileSize entry.tags).filter (0 < ·)).map filesizeTag
  entry.tags.foldl
    (fun tags tag =>
      if isNamed tagName.FILENAME tag || isNamed tagName.FILESIZE tag then tags else tags ++ [tag])
    (filename.toList ++ filesize.toList)

/-! ## Operations -/

/-- `keyword_dedup_key`. -/
def keywordDedupKey (target : NodeId) (fileHash : Ed2kHash) (size : UInt64) : String :=
  "keyword:" ++ target.display ++ ":" ++ fileHash.display ++ ":" ++ toString size.toNat

/-- One round of the loop in `record_keyword_publish_batch`. -/
def recordKeywordPublish (config : KadLocalStoreConfig) (target : NodeId) (observedAt : Time)
    (acc : UInt8 × List StoredKeywordPublish) (entry : PublishEntry) :
    UInt8 × List StoredKeywordPublish :=
  match stockKeywordFileSize entry.tags with
  | none => acc
  | some size =>
    if !hasStockKeywordFilename entry.tags then acc
    else
      let (entryLoad, shouldStore) := stockKeywordPublishDecision acc.2 target entry.hash
      if !shouldStore then (entryLoad, acc.2)
      else
        let dedupKey := keywordDedupKey target entry.hash size
        (entryLoad, upsertEntry config.keywordCapacity dedupKey
          ⟨observedAt, target, entry.hash, stockStoredPublishTags entry.tags, dedupKey⟩ acc.2)

namespace KadLocalStore

/-- `record_keyword_publish_batch`. -/
def recordKeywordPublishBatch (s : KadLocalStore) (target : NodeId) (entries : List PublishEntry)
    (observedAt : Time) : UInt8 × KadLocalStore :=
  if !s.config.enabled then (0, s)
  else
    let purged :=
      purgeExpired StoredKeywordPublish.observedAt s.config.keywordTtl observedAt s.keywordEntries
    let (load, keywordEntries) :=
      entries.foldl (recordKeywordPublish s.config target observedAt) (0, purged)
    (load, { s with keywordEntries := keywordEntries })

/-- `record_source_publish`. -/
def recordSourcePublish (s : KadLocalStore) (target publisherId : NodeId) (sourceIp : Ipv4Addr)
    (sourceUdpPort : UInt16) (tags : List Tag) (observedAt : Time) :
    Option UInt8 × KadLocalStore :=
  if !s.config.enabled then (none, s)
  else if !isStockSourcePublish tags then (none, s)
  else if sourceIp = .UNSPECIFIED ∨ sourceUdpPort = 0 then (none, s)
  else
    match stockSourceTcpPort tags with
    | none => (none, s)
    | some sourceTcpPort =>
      let purged :=
        purgeExpired StoredSourcePublish.observedAt s.config.sourceTtl observedAt s.sourceEntries
      let load := stockSourcePublishLoad purged target sourceIp sourceTcpPort sourceUdpPort
      (some load, { s with
        sourceEntries := upsertSourceEntry s.config.sourceCapacity
          ⟨observedAt, target, publisherId, sourceIp, sourceTcpPort, sourceUdpPort,
            stockStoredSourcePublishTags tags⟩ purged })

/-- `record_notes_publish`. -/
def recordNotesPublish (s : KadLocalStore) (target publisherId : NodeId) (publisherIp : Ipv4Addr)
    (tags : List Tag) (observedAt : Time) : Option UInt8 × KadLocalStore :=
  if !s.config.enabled then (none, s)
  else if publisherIp = .UNSPECIFIED ∨ !hasStockNoteTags tags then (none, s)
  else
    let purged :=
      purgeExpired StoredNotesPublish.observedAt s.config.notesTtl observedAt s.notesEntries
    let load := stockNotesPublishLoad purged target publisherId publisherIp
    (some load, { s with
      notesEntries := upsertNotesEntry s.config.notesCapacity
        ⟨observedAt, target, publisherId, publisherIp, stockStoredPublishTags tags⟩ purged })

/-- `keyword_entry_matches_restrictive_payload`. -/
def keywordEntryMatchesRestrictivePayload (toLowercase : String → String)
    (entry : StoredKeywordPublish) (restrictivePayload : Option Bytes) : Bool :=
  match restrictivePayload with
  | none => true
  | some payload =>
    match stockFirstFilename entry.tags with
    | none => false
    | some filename => matchesRestrictiveKeywordPayload toLowercase filename entry.tags payload

/-- `keyword_search_response`. -/
def keywordSearchResponse (toLowercase : String → String) (s : KadLocalStore) (senderId : NodeId)
    (request : SearchKeyReq) (limit : Nat) (now : Time) : Option SearchRes × KadLocalStore :=
  if !s.config.enabled ∨ limit = 0 then (none, s)
  else
    let restrictivePayload :=
      if request.startPosition &&& 0x8000 ≠ 0 then some request.restrictivePayload else none
    let live :=
      purgeExpired StoredKeywordPublish.observedAt s.config.keywordTtl now s.keywordEntries
    let offset := (request.startPosition &&& 0x7FFF).toNat
    let hits := (((live.filter fun entry => entry.target = request.target).filter fun entry =>
      keywordEntryMatchesRestrictivePayload toLowercase entry restrictivePayload).drop offset).take
        limit
    (searchResponse senderId request.target
      (hits.map fun entry => ⟨entry.fileHash, keywordResultTags entry⟩),
      { s with keywordEntries := live })

/-- `source_search_response`. -/
def sourceSearchResponse (s : KadLocalStore) (senderId : NodeId) (request : SearchSourceReq)
    (limit : Nat) (now : Time) : Option SearchRes × KadLocalStore :=
  if !s.config.enabled ∨ limit = 0 then (none, s)
  else
    let live := purgeExpired StoredSourcePublish.observedAt s.config.sourceTtl now s.sourceEntries
    let offset := (request.startPosition &&& 0x7FFF).toNat
    let hits := (((live.reverse.filter fun entry => entry.target = request.target).drop
      offset).filter fun entry =>
        stockSourceFileSizeMatchesRequest entry.tags request.size).take limit
    (searchResponse senderId request.target
      (hits.map fun entry => ⟨⟨entry.publisherId.toBeBytes⟩, sourceResultTags entry⟩),
      { s with sourceEntries := live })

/-- `notes_search_response`. -/
def notesSearchResponse (s : KadLocalStore) (senderId : NodeId) (request : SearchNotesReq)
    (limit : Nat) (now : Time) : Option SearchRes × KadLocalStore :=
  if !s.config.enabled ∨ limit = 0 then (none, s)
  else
    let live := purgeExpired StoredNotesPublish.observedAt s.config.notesTtl now s.notesEntries
    let hits :=
      ((live.reverse.filter fun entry => entry.target = request.target).filter fun entry =>
        stockNotesFileSizeMatchesRequest entry.tags request.size).take limit
    (searchResponse senderId request.target
      (hits.map fun entry => ⟨⟨entry.publisherId.toBeBytes⟩, notesResultTags entry⟩),
      { s with notesEntries := live })

end KadLocalStore

end Overlord.Emule
