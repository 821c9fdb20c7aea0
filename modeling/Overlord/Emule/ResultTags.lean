import Overlord.Emule.KadStore
import Overlord.Kad.Proto.Decoded

/-!
# The tags a stored publish is answered with

Between the publish packet and the search response the store drops some tags, rewrites some and
adds some of its own.  This file says, for each of the three families, what the response builder
makes of the tags that were published, and when the result can be written:

* `keywordResultTags_stored`, `sourceResultTags_stored`, `notesResultTags_stored` — the response as
  the tags that pass through unchanged plus a fixed number of rewritten ones;
* `KeywordServable`, `SourceServable`, `NotesServable` — the condition on the *published* tags
  under which the response fits;
* `tagsFit_keywordResultTags_iff`, `tagsFit_sourceResultTags_iff`, `tagsFit_notesResultTags_iff` —
  for what the store accepts, the condition is exact.

A keyword response adds its own `PUBLISHINFO` and may add a hash, a source response puts the
address in front of the source type.  So a publish with 255 tags, which is what a `u8` count can
carry in, need not fit a `u8` count on the way out.  A note only ever loses tags.
-/

set_option autoImplicit false

namespace Overlord.Emule

open Kad Wire

/-! ## Names -/

theorem isNamed_iff {name : UInt8} {tag : Tag} : isNamed name tag = true ↔ tag.name = .short name :=
  decide_eq_true_iff

/-- A tag has one name. -/
theorem isNamed_eq_false {a b : UInt8} {tag : Tag} (h : isNamed a tag = true) (hab : a ≠ b) :
    isNamed b tag = false := by
  rw [isNamed_iff] at h
  simp [isNamed, h, hab]

/-! ## Reading through the filter

The store reads sizes, names and ports from the published tags before it stores them and from the
stored ones when it answers.  The tags it drops in between never matter to those readers. -/

theorem findSome?_filter_of_none {α β : Type} (f : α → Option β) (p : α → Bool) (l : List α)
    (h : ∀ a, p a = false → f a = none) : (l.filter p).findSome? f = l.findSome? f := by
  induction l with
  | nil => rfl
  | cons a l ih =>
    cases hp : p a with
    | true => simp only [List.filter_cons, hp, if_true, List.findSome?_cons, ih]
    | false => simp [hp, ih, h a hp]

theorem foldl_filter_of_id {α β : Type} (f : β → α → β) (p : α → Bool) (l : List α)
    (h : ∀ b a, p a = false → f b a = b) (b : β) : (l.filter p).foldl f b = l.foldl f b := by
  induction l generalizing b with
  | nil => rfl
  | cons a l ih =>
    cases hp : p a with
    | true => simp only [List.filter_cons, hp, if_true, List.foldl_cons, ih]
    | false => simp [hp, ih, h b a hp]

/-- The tags the store drops from every publish. -/
def isDropped (tag : Tag) : Bool :=
  isNamed tagName.PUBLISHINFO tag || isNamed tagName.KADAICHHASHRESULT tag

/-- The tags the store drops from a source publish. -/
def isDroppedFromSource (tag : Tag) : Bool :=
  isDropped tag || (isNamed tagName.SERVERIP tag && !isIntegerTagValue tag.value)

theorem stockStoredSourcePublishTags_eq (tags : List Tag) :
    stockStoredSourcePublishTags tags = tags.filter fun tag => !isDroppedFromSource tag := by
  rw [stockStoredSourcePublishTags, stockStoredPublishTags, List.filter_filter]
  congr 1
  funext tag
  simp only [isDroppedFromSource, isDropped, Bool.not_or, Bool.and_comm]

/-- A dropped tag has none of the names the readers look for. -/
theorem isNamed_eq_false_of_isDroppedFromSource {tag : Tag} (h : isDroppedFromSource tag = true)
    (name : UInt8) (hname : name ≠ tagName.PUBLISHINFO ∧ name ≠ tagName.KADAICHHASHRESULT ∧
      name ≠ tagName.SERVERIP) : isNamed name tag = false := by
  simp only [isDroppedFromSource, isDropped, Bool.or_eq_true, Bool.and_eq_true] at h
  obtain (h | h) | h := h
  · exact isNamed_eq_false h hname.1.symm
  · exact isNamed_eq_false h hname.2.1.symm
  · exact isNamed_eq_false h.1 hname.2.2.symm

theorem stockFirstFileSizeStep_of_isDropped (accept : Bool) (parts : FileSizeParts) {tag : Tag}
    (h : isDroppedFromSource tag = true) : stockFirstFileSizeStep accept parts tag = parts := by
  have hsize := isNamed_eq_false_of_isDroppedFromSource h tagName.FILESIZE (by decide)
  have hhigh := isNamed_eq_false_of_isDroppedFromSource h tagName.FILESIZE_HI (by decide)
  cases hn : tag.name with
  | long s => simp [stockFirstFileSizeStep, hn]
  | short name =>
    simp only [isNamed, hn, decide_eq_false_iff_not, TagNameOf.short.injEq] at hsize hhigh
    simp [stockFirstFileSizeStep, hn, hsize, hhigh]

theorem stockFirstFileSizeImpl_filter {p : Tag → Bool}
    (hp : ∀ tag, p tag = false → isDroppedFromSource tag = true) (tags : List Tag) (accept : Bool) :
    stockFirstFileSizeImpl (tags.filter p) accept = stockFirstFileSizeImpl tags accept := by
  rw [stockFirstFileSizeImpl, stockFirstFileSizeImpl, foldl_filter_of_id]
  exact fun parts tag h => stockFirstFileSizeStep_of_isDropped accept parts (hp tag h)

theorem isDroppedFromSource_of_isDropped {tag : Tag} (h : (!isDropped tag) = false) :
    isDroppedFromSource tag = true := by
  rw [Bool.not_eq_false'] at h
  rw [isDroppedFromSource, h, Bool.true_or]

theorem stockFirstFileSizeImpl_stored (tags : List Tag) (accept : Bool) :
    stockFirstFileSizeImpl (stockStoredPublishTags tags) accept =
      stockFirstFileSizeImpl tags accept :=
  stockFirstFileSizeImpl_filter (fun _ => isDroppedFromSource_of_isDropped) tags accept

theorem stockFirstFilename_stored (tags : List Tag) :
    stockFirstFilename (stockStoredPublishTags tags) = stockFirstFilename tags := by
  refine findSome?_filter_of_none _ _ _ fun tag h => if_neg ?_
  have := isNamed_eq_false_of_isDroppedFromSource (isDroppedFromSource_of_isDropped h)
    tagName.FILENAME (by decide)
  simp [this]

/-! ## Keyword publishes -/

/-- The tags a keyword response passes through. -/
def keywordPassesThrough (tag : Tag) : Bool :=
  !(isNamed tagName.FILENAME tag || isNamed tagName.FILESIZE tag ||
    isNamed tagName.KADAICHHASHPUB tag || isDropped tag)

/-- The usable hash of a tag. -/
def aichHashOf (tag : Tag) : Option Bytes :=
  if isNamed tagName.KADAICHHASHPUB tag then stockAichPublishHash tag else none

/-- The first usable hash among the published ones. -/
def publishedAichHash (tags : List Tag) : Option Bytes := tags.findSome? aichHashOf

theorem keywordResultStep_eq (acc : List Tag) (hash : Option Bytes) (tag : Tag) :
    keywordResultStep (acc, hash) tag =
      (acc ++ [tag].filter keywordPassesThrough, hash <|> aichHashOf tag) := by
  rw [keywordResultStep, List.filter_singleton, keywordPassesThrough, aichHashOf, isDropped]
  by_cases h1 : (isNamed tagName.FILENAME tag || isNamed tagName.FILESIZE tag) = true
  · have h2 : isNamed tagName.KADAICHHASHPUB tag = false := by
      rcases Bool.or_eq_true_iff.mp h1 with h | h <;> exact isNamed_eq_false h (by decide)
    simp only [h1, h2, Bool.true_or, Bool.not_true]
    simp
  rw [Bool.not_eq_true] at h1
  by_cases h2 : isNamed tagName.KADAICHHASHPUB tag = true
  · simp only [h1, h2, Bool.false_or, Bool.true_or, Bool.not_true]
    cases hash <;> simp
  rw [Bool.not_eq_true] at h2
  cases h3 : isNamed tagName.PUBLISHINFO tag || isNamed tagName.KADAICHHASHRESULT tag <;>
    simp [h1, h2]

theorem foldl_keywordResultStep (tags : List Tag) (acc : List Tag) (hash : Option Bytes) :
    tags.foldl keywordResultStep (acc, hash) =
      (acc ++ tags.filter keywordPassesThrough, hash <|> publishedAichHash tags) := by
  induction tags generalizing acc hash with
  | nil => cases hash <;> simp [publishedAichHash]
  | cons tag tags ih =>
    rw [List.foldl_cons, keywordResultStep_eq, ih, List.append_assoc, ← List.filter_append,
      List.singleton_append, publishedAichHash, publishedAichHash, List.findSome?_cons]
    cases hash <;> cases aichHashOf tag <;> rfl

/-- **A keyword response** is the name, the size, what passes through, the publish info and the
hash. -/
theorem keywordResultTags_stored (observedAt : Time) (target : NodeId) (fileHash : Ed2kHash)
    (tags : List Tag) (dedupKey : String) :
    keywordResultTags ⟨observedAt, target, fileHash, stockStoredPublishTags tags, dedupKey⟩ =
      ((stockFirstFilename tags).map filenameTag).toList ++
        ((stockKeywordFileSize tags).map filesizeTag).toList ++
        tags.filter keywordPassesThrough ++ [keywordPublishInfoTag] ++
        ((publishedAichHash tags).map keywordAichResultTag).toList := by
  have hsize : stockFirstKeywordSourceFileSize (stockStoredPublishTags tags) =
      stockFirstKeywordSourceFileSize tags := stockFirstFileSizeImpl_stored tags true
  have hhash : publishedAichHash (stockStoredPublishTags tags) = publishedAichHash tags := by
    refine findSome?_filter_of_none _ _ _ fun tag h => if_neg ?_
    have := isNamed_eq_false_of_isDroppedFromSource (isDroppedFromSource_of_isDropped h)
      tagName.KADAICHHASHPUB (by decide)
    simp [this]
  have hpass : (stockStoredPublishTags tags).filter keywordPassesThrough =
      tags.filter keywordPassesThrough := by
    rw [stockStoredPublishTags, List.filter_filter]
    refine List.filter_congr fun tag _ => ?_
    simp only [keywordPassesThrough, isDropped, Bool.not_or]
    cases isNamed tagName.PUBLISHINFO tag <;> simp
  rw [keywordResultTags, stockFirstFilename_stored, hsize, foldl_keywordResultStep, hhash, hpass,
    stockKeywordFileSize]
  simp

/-- What has to hold of the tags of a keyword publish for its response to be written. -/
structure KeywordServable (tags : List Tag) : Prop where
  /-- Name, size, publish info and a usable hash leave room for what passes through. -/
  count :
    (tags.filter keywordPassesThrough).length + 3 + (publishedAichHash tags).toList.length ≤ 255
  /-- What passes through fits. -/
  fits : ∀ tag ∈ tags, keywordPassesThrough tag = true → Tag.Fits tag
  /-- The name fits. -/
  filename : ∀ name, stockFirstFilename tags = some name → (asBytes name).length < 2 ^ 16

theorem fits_filesizeTag (size : UInt64) : Tag.Fits (filesizeTag size) := ⟨trivial, trivial⟩

theorem fits_filenameTag_iff (name : String) :
    Tag.Fits (filenameTag name) ↔ (asBytes name).length < 2 ^ 16 :=
  and_iff_right trivial

/-- Only hashes of twenty bytes are used, so the blob built from one has twenty-two. -/
theorem fits_keywordAichResultTag {tags : List Tag} {hash : Bytes}
    (h : publishedAichHash tags = some hash) : Tag.Fits (keywordAichResultTag hash) := by
  obtain ⟨tag, -, htag⟩ := List.exists_of_findSome?_eq_some h
  have hlen : hash.length = 20 := by
    rw [aichHashOf] at htag
    split_ifs at htag
    unfold stockAichPublishHash at htag
    split at htag
    · split_ifs at htag with hlen
      exact Option.some.inj htag ▸ hlen
    · split_ifs at htag with hlen
      exact Option.some.inj htag ▸ hlen
    · cases htag
  refine ⟨trivial, ?_⟩
  show (1 :: 1 :: hash).length < 2 ^ 8
  simp [hlen]

theorem hasStockKeywordFilename_iff (tags : List Tag) :
    hasStockKeywordFilename tags = true ↔ (stockFirstFilename tags).isSome := by
  rw [hasStockKeywordFilename, stockFirstFilename, List.any_eq_true, List.findSome?_isSome_iff]
  refine exists_congr fun tag => and_congr_right fun _ => ?_
  cases hv : tag.value <;> cases hn : isNamed tagName.FILENAME tag <;> simp

/-- **The condition on a keyword publish is exact** for what the store accepts. -/
theorem tagsFit_keywordResultTags_iff {tags : List Tag} (hsize : (stockKeywordFileSize tags).isSome)
    (hname : hasStockKeywordFilename tags = true) (observedAt : Time) (target : NodeId)
    (fileHash : Ed2kHash) (dedupKey : String) :
    TagsFit (keywordResultTags
      ⟨observedAt, target, fileHash, stockStoredPublishTags tags, dedupKey⟩) ↔
      KeywordServable tags := by
  obtain ⟨size, hsize⟩ := Option.isSome_iff_exists.mp hsize
  obtain ⟨name, hname⟩ := Option.isSome_iff_exists.mp ((hasStockKeywordFilename_iff tags).mp hname)
  rw [keywordResultTags_stored, TagsFit, hsize, hname]
  have hhash : ∀ t ∈ ((publishedAichHash tags).map keywordAichResultTag).toList, Tag.Fits t := by
    intro t ht
    obtain ⟨hash, hhash, rfl⟩ : ∃ hash, publishedAichHash tags = some hash ∧
        keywordAichResultTag hash = t := by simpa using ht
    exact fits_keywordAichResultTag hhash
  have hinfo : Tag.Fits keywordPublishInfoTag := ⟨trivial, trivial⟩
  simp only [Option.map_some, Option.toList_some, List.length_append, List.length_singleton,
    List.forall_mem_append, List.forall_mem_singleton, fits_filenameTag_iff,
    fits_filesizeTag, hinfo, iff_true_intro hhash, and_true, List.mem_filter, and_imp]
  have hlen : ((publishedAichHash tags).map keywordAichResultTag).toList.length =
      (publishedAichHash tags).toList.length := by cases publishedAichHash tags <;> rfl
  constructor
  · rintro ⟨hcount, hfn, hfits⟩
    refine ⟨by omega, hfits, fun n hn => ?_⟩
    rw [hname, Option.some.injEq] at hn
    exact hn ▸ hfn
  · intro h
    have hcount := h.count
    exact ⟨by omega, h.filename name hname, h.fits⟩

/-! ## The size a search compares

`kad_search_expr.rs` and `kad_store.rs` have a loop each that reads the size of a file from its
tags.  They agree, so a comparison in a restrictive search is about the size the store keeps and
serves the file under. -/

theorem fileSizeTagValueStep_eq (parts : FileSizeParts) (tag : Tag) :
    fileSizeTagValueStep parts tag = stockFirstFileSizeStep true parts tag := by
  unfold fileSizeTagValueStep stockFirstFileSizeStep
  cases tag.name with
  | long _ => rfl
  | short name => cases tag.value <;> simp

theorem intTagValue_FILESIZE (tags : List Tag) :
    intTagValue tags (.short tagName.FILESIZE) = stockFirstFileSizeImpl tags true := by
  rw [intTagValue, if_pos rfl, fileSizeTagValue, stockFirstFileSizeImpl,
    funext₂ fileSizeTagValueStep_eq]

/-- What a comparison asks of two sizes. -/
def NumericOp.Holds (actual expected : UInt64) : NumericOp → Prop
  | .equal => actual = expected
  | .greater => expected < actual
  | .less => actual < expected
  | .greaterEqual => expected ≤ actual
  | .lessEqual => actual ≤ expected
  | .notEqual => actual ≠ expected

theorem numericMatches_iff {tags : List Tag} {name : TagName} {op : NumericOp} {expected : UInt64} :
    numericMatches tags name op expected = true ↔
      ∃ actual, intTagValue tags name = some actual ∧ op.Holds actual expected := by
  rw [numericMatches]
  cases intTagValue tags name with
  | none => simp
  | some actual => cases op <;> simp [NumericOp.Holds]

/-- A keyword response advertises one size, the one the entry was stored under. -/
theorem filesizeTag_mem_keywordResultTags {entry : StoredKeywordPublish} {tags : List Tag}
    (hstored : entry.tags = stockStoredPublishTags tags) (size : UInt64) :
    filesizeTag size ∈ keywordResultTags entry ↔ stockKeywordFileSize tags = some size := by
  obtain ⟨observedAt, target, fileHash, kept, dedupKey⟩ := entry
  obtain rfl : kept = stockStoredPublishTags tags := hstored
  have hpass : filesizeTag size ∉ tags.filter keywordPassesThrough := fun h =>
    Bool.false_ne_true (List.mem_filter.mp h).2
  -- the tags the response adds have other names
  have hname : ∀ name value, name ≠ tagName.FILESIZE → newShort name value ≠ filesizeTag size :=
    fun name value hne h => hne (TagNameOf.short.inj (congrArg TagOf.name h))
  have hfilename : ∀ name, filenameTag name ≠ filesizeTag size := fun _ => hname _ _ (by decide)
  have hhash : ∀ hash, keywordAichResultTag hash ≠ filesizeTag size :=
    fun _ => hname _ _ (by decide)
  have hinfo : keywordPublishInfoTag ≠ filesizeTag size := hname _ _ (by decide)
  have hinj : ∀ other, filesizeTag other = filesizeTag size ↔ other = size := by
    simp [filesizeTag, newShort]
  rw [keywordResultTags_stored]
  simp [hpass, hinfo.symm, hinj, hfilename, hhash]

/-- **A search compares the size an entry is served under.**  The two loops agree on all tags; so
for what the store keeps of a publish, a comparison holds exactly of the size the publish was
accepted and keyed with, and of every size the response advertises. -/
theorem fileSize_comparison_agrees (tags : List Tag) :
    intTagValue tags (.short tagName.FILESIZE) = stockFirstFileSizeImpl tags true ∧
    ∀ entry : StoredKeywordPublish, entry.tags = stockStoredPublishTags tags →
      ∀ op expected,
        (numericMatches entry.tags (.short tagName.FILESIZE) op expected = true ↔
          ∃ size, stockFirstFileSizeImpl tags true = some size ∧ op.Holds size expected) ∧
        ∀ size, filesizeTag size ∈ keywordResultTags entry →
          (numericMatches entry.tags (.short tagName.FILESIZE) op expected = true ↔
            op.Holds size expected) := by
  refine ⟨intTagValue_FILESIZE tags, fun entry hstored op expected => ?_⟩
  have hcompare : numericMatches entry.tags (.short tagName.FILESIZE) op expected = true ↔
      ∃ size, stockFirstFileSizeImpl tags true = some size ∧ op.Holds size expected := by
    rw [numericMatches_iff, intTagValue_FILESIZE, hstored, stockFirstFileSizeImpl_stored]
  refine ⟨hcompare, fun size hsize => ?_⟩
  have hkept := (filesizeTag_mem_keywordResultTags hstored size).mp hsize
  rw [stockKeywordFileSize, Option.filter_eq_some_iff, stockFirstKeywordSourceFileSize] at hkept
  rw [hcompare, hkept.1]
  simp

/-! ## Source publishes -/

/-- The tags a source response passes through. -/
def sourcePassesThrough (tag : Tag) : Bool :=
  !(isNamed tagName.SOURCETYPE tag || isNamed tagName.FILESIZE tag ||
    isNamed tagName.SOURCEPORT tag || isNamed tagName.SOURCEUPORT tag)

/-- The UDP port tag a source response makes of a tag. -/
def udpPortTagOf (tag : Tag) : Option Tag :=
  if isNamed tagName.SOURCEUPORT tag then normalizedSourceUdpPortTag tag else none

/-- The tags the loop of `source_result_tags` still rewrites, given what it has seen. -/
def sourceRewritten (sourceIp : Ipv4Addr) (sawType sawTcp sawUdp : Bool) (tags : List Tag) :
    List Tag :=
  (if sawType then []
    else (tags.find? (isNamed tagName.SOURCETYPE)).toList.flatMap fun t =>
      [sourceIpTag sourceIp, t])
  ++ (if sawTcp then []
    else ((tags.find? (isNamed tagName.SOURCEPORT)).map normalizedSourcePortTag).toList)
  ++ (if sawUdp then [] else (tags.findSome? udpPortTagOf).toList)

theorem perm_emit {α : Type} {new left left' : List α} (out kept : List α)
    (h : left'.Perm (new ++ left)) : (out ++ new ++ kept ++ left).Perm (out ++ kept ++ left') := by
  refine List.Perm.trans ?_ (h.symm.append_left _)
  simp only [List.append_assoc]
  exact (List.perm_append_comm_assoc new kept left).append_left out

/-- A tag that is none of the three leaves the searches where they are. -/
theorem sourceRewritten_cons_of_not {tag : Tag} (h1 : isNamed tagName.SOURCETYPE tag = false)
    (h3 : isNamed tagName.SOURCEPORT tag = false) (h4 : isNamed tagName.SOURCEUPORT tag = false)
    (sourceIp : Ipv4Addr) (sawType sawTcp sawUdp : Bool) (tags : List Tag) :
    sourceRewritten sourceIp sawType sawTcp sawUdp (tag :: tags) =
      sourceRewritten sourceIp sawType sawTcp sawUdp tags := by
  simp [sourceRewritten, h1, h3, udpPortTagOf, h4]

/-- The loop puts out, in some order, what it has, what passes through and what it rewrites.  In
each case of the step at most one of the three searches is advanced by the tag. -/
theorem foldl_sourceResultStep (sourceIp : Ipv4Addr) (tags out : List Tag)
    (sawType sawTcp sawUdp : Bool) :
    (tags.foldl (sourceResultStep sourceIp) ⟨out, sawType, sawTcp, sawUdp⟩).tags.Perm
      (out ++ tags.filter sourcePassesThrough ++
        sourceRewritten sourceIp sawType sawTcp sawUdp tags) := by
  induction tags generalizing out sawType sawTcp sawUdp with
  | nil => simp [sourceRewritten]
  | cons tag tags ih =>
    rw [List.foldl_cons, sourceResultStep]
    by_cases h1 : isNamed tagName.SOURCETYPE tag = true
    · have h3 := isNamed_eq_false h1 (show _ ≠ tagName.SOURCEPORT by decide)
      have h4 := isNamed_eq_false h1 (show _ ≠ tagName.SOURCEUPORT by decide)
      rw [if_pos h1, List.filter_cons_of_neg (by simp [sourcePassesThrough, h1])]
      cases sawType with
      | true => exact (ih ..).trans (.of_eq (by simp [sourceRewritten, h3, udpPortTagOf, h4]))
      | false =>
        refine (ih ..).trans (perm_emit out _ (.of_eq ?_))
        simp [sourceRewritten, h1, h3, udpPortTagOf, h4]
    rw [if_neg h1]
    rw [Bool.not_eq_true] at h1
    by_cases h2 : isNamed tagName.FILESIZE tag = true
    · have h3 := isNamed_eq_false h2 (show _ ≠ tagName.SOURCEPORT by decide)
      have h4 := isNamed_eq_false h2 (show _ ≠ tagName.SOURCEUPORT by decide)
      rw [if_pos h2, List.filter_cons_of_neg (by simp [sourcePassesThrough, h2]),
        sourceRewritten_cons_of_not h1 h3 h4]
      exact ih ..
    rw [if_neg h2]
    by_cases h3 : isNamed tagName.SOURCEPORT tag = true
    · have h4 := isNamed_eq_false h3 (show _ ≠ tagName.SOURCEUPORT by decide)
      rw [if_pos h3, List.filter_cons_of_neg (by simp [sourcePassesThrough, h3])]
      cases sawTcp with
      | true => exact (ih ..).trans (.of_eq (by simp [sourceRewritten, h1, udpPortTagOf, h4]))
      | false =>
        refine (ih ..).trans (perm_emit out _ ?_)
        simp only [sourceRewritten, List.find?_cons, h1, h3, List.findSome?_cons, udpPortTagOf, h4]
        simp only [Option.map_some, Option.toList_some, List.append_assoc]
        exact List.perm_append_comm_assoc ..
    rw [if_neg h3]
    rw [Bool.not_eq_true] at h3
    by_cases h4 : isNamed tagName.SOURCEUPORT tag = true
    · rw [if_pos h4, List.filter_cons_of_neg (by simp [sourcePassesThrough, h4])]
      cases sawUdp with
      | true => exact (ih ..).trans (.of_eq (by simp [sourceRewritten, h1, h3]))
      | false =>
        cases hport : normalizedSourceUdpPortTag tag with
        | none =>
          exact (ih ..).trans (.of_eq (by simp [sourceRewritten, h1, h3, udpPortTagOf, h4, hport]))
        | some port =>
          refine (ih ..).trans (perm_emit out _ ?_)
          simp only [sourceRewritten, List.find?_cons, h1, h3, List.findSome?_cons, udpPortTagOf,
            h4, hport, if_true, Bool.false_eq_true, if_false, Option.toList_some, List.append_nil]
          exact List.perm_append_comm
    · rw [Bool.not_eq_true] at h4
      rw [if_neg (by simp [h4]), sourceRewritten_cons_of_not h1 h3 h4]
      rw [Bool.not_eq_true] at h2
      refine (ih ..).trans (.of_eq ?_)
      simp [sourcePassesThrough, h1, h2, h3, h4]

/-- **A source response** is, in some order, the size, what passes through, the address with the
first source type, the first TCP port and the first usable UDP port. -/
theorem sourceResultTags_stored (observedAt : Time) (target publisherId : NodeId)
    (sourceIp : Ipv4Addr) (sourceTcpPort sourceUdpPort : UInt16) (tags : List Tag) :
    (sourceResultTags ⟨observedAt, target, publisherId, sourceIp, sourceTcpPort, sourceUdpPort,
      stockStoredSourcePublishTags tags⟩).Perm
      (((stockFirstKeywordSourceFileSize tags).map filesizeTag).toList ++
        tags.filter (fun tag => sourcePassesThrough tag && !isDroppedFromSource tag) ++
        sourceRewritten sourceIp false false false tags) := by
  have hsize : stockFirstKeywordSourceFileSize (stockStoredSourcePublishTags tags) =
      stockFirstKeywordSourceFileSize tags := by
    rw [stockStoredSourcePublishTags_eq]
    exact stockFirstFileSizeImpl_filter (fun tag h => by simpa using h) tags true
  have hname : ∀ name, name ≠ tagName.PUBLISHINFO ∧ name ≠ tagName.KADAICHHASHRESULT ∧
      name ≠ tagName.SERVERIP → ∀ tag, (!isDroppedFromSource tag) = false →
      isNamed name tag = false := fun name hne tag h =>
    isNamed_eq_false_of_isDroppedFromSource (by simpa using h) name hne
  have hfind : ∀ name, name ≠ tagName.PUBLISHINFO ∧ name ≠ tagName.KADAICHHASHRESULT ∧
      name ≠ tagName.SERVERIP → (stockStoredSourcePublishTags tags).find? (isNamed name) =
        tags.find? (isNamed name) := fun name hne => by
    rw [stockStoredSourcePublishTags_eq, List.find?_filter]
    congr 1
    funext tag
    cases hd : isDroppedFromSource tag with
    | true => simp [hname name hne tag (by simp [hd])]
    | false => simp
  have hudp : (stockStoredSourcePublishTags tags).findSome? udpPortTagOf =
      tags.findSome? udpPortTagOf := by
    rw [stockStoredSourcePublishTags_eq]
    refine findSome?_filter_of_none _ _ _ fun tag h => if_neg ?_
    simp [hname tagName.SOURCEUPORT (by decide) tag h]
  have hrewritten : sourceRewritten sourceIp false false false (stockStoredSourcePublishTags tags) =
      sourceRewritten sourceIp false false false tags := by
    rw [sourceRewritten, sourceRewritten, hfind _ (by decide), hfind _ (by decide), hudp]
  refine (foldl_sourceResultStep ..).trans (.of_eq ?_)
  rw [hsize, hrewritten, stockStoredSourcePublishTags_eq, List.filter_filter]

/-- What has to hold of the tags of a source publish for its response to be written. -/
structure SourceServable (tags : List Tag) : Prop where
  /-- Address, source type, TCP port, size and UDP port leave room for what passes through. -/
  count : (tags.filter fun tag => sourcePassesThrough tag && !isDroppedFromSource tag).length + 3 +
    (stockFirstKeywordSourceFileSize tags).toList.length +
    (tags.findSome? udpPortTagOf).toList.length ≤ 255
  /-- What passes through fits. -/
  fits : ∀ tag ∈ tags, sourcePassesThrough tag = true → isDroppedFromSource tag = false →
    Tag.Fits tag
  /-- The source type fits. -/
  sourceType : ∀ tag, tags.find? (isNamed tagName.SOURCETYPE) = some tag → Tag.Fits tag
  /-- The first TCP port tag fits, whether it is the one that holds the port or not. -/
  sourcePort : ∀ tag, tags.find? (isNamed tagName.SOURCEPORT) = some tag → Tag.Fits tag

theorem fits_normalizedSourcePortTag_iff (tag : Tag) :
    Tag.Fits (normalizedSourcePortTag tag) ↔ Tag.Fits tag := by
  obtain ⟨name, value⟩ := tag
  cases value with
  | uint v =>
    simp only [normalizedSourcePortTag]
    split_ifs <;> exact Iff.rfl
  | _ => exact Iff.rfl

theorem fits_of_udpPortTagOf {tags : List Tag} {tag : Tag}
    (h : tags.findSome? udpPortTagOf = some tag) : Tag.Fits tag := by
  obtain ⟨t, -, ht⟩ := List.exists_of_findSome?_eq_some h
  rw [udpPortTagOf] at ht
  split_ifs at ht
  obtain ⟨port, -, rfl⟩ := Option.map_eq_some_iff.mp ht
  exact ⟨trivial, trivial⟩

theorem find?_sourcePort_isSome {tags : List Tag} {port : UInt16}
    (h : stockSourceTcpPort tags = some port) :
    ∃ tag, tags.find? (isNamed tagName.SOURCEPORT) = some tag := by
  obtain ⟨tag, htag, hport⟩ := List.exists_of_findSome?_eq_some h
  refine Option.isSome_iff_exists.mp (List.find?_isSome.mpr ⟨tag, htag, ?_⟩)
  by_contra hne
  rw [if_neg hne] at hport
  cases hport

theorem tagsFit_perm {a b : List Tag} (h : a.Perm b) : TagsFit a ↔ TagsFit b := by
  rw [TagsFit, TagsFit, h.length_eq]
  exact and_congr_right fun _ => forall_congr' fun t => by rw [h.mem_iff]

/-- **The condition on a source publish is exact** for what the store accepts. -/
theorem tagsFit_sourceResultTags_iff {tags : List Tag} (hsource : isStockSourcePublish tags = true)
    {port : UInt16} (hport : stockSourceTcpPort tags = some port) (observedAt : Time)
    (target publisherId : NodeId) (sourceIp : Ipv4Addr) (sourceUdpPort : UInt16) :
    TagsFit (sourceResultTags ⟨observedAt, target, publisherId, sourceIp, port, sourceUdpPort,
      stockStoredSourcePublishTags tags⟩) ↔ SourceServable tags := by
  obtain ⟨typeTag, htype⟩ : ∃ tag, tags.find? (isNamed tagName.SOURCETYPE) = some tag :=
    Option.isSome_iff_exists.mp (List.find?_isSome.mpr (List.any_eq_true.mp hsource))
  obtain ⟨portTag, hportTag⟩ := find?_sourcePort_isSome hport
  rw [tagsFit_perm (sourceResultTags_stored ..), TagsFit, sourceRewritten, htype, hportTag]
  have hip : Tag.Fits (sourceIpTag sourceIp) := ⟨trivial, trivial⟩
  have hudp : ∀ t ∈ (tags.findSome? udpPortTagOf).toList, Tag.Fits t := fun t ht =>
    fits_of_udpPortTagOf (Option.mem_toList.mp ht)
  have hsize : ∀ t ∈ ((stockFirstKeywordSourceFileSize tags).map filesizeTag).toList,
      Tag.Fits t := by
    intro t ht
    obtain ⟨size, -, rfl⟩ := Option.map_eq_some_iff.mp (Option.mem_toList.mp ht)
    exact fits_filesizeTag size
  have hlen : ((stockFirstKeywordSourceFileSize tags).map filesizeTag).toList.length =
      (stockFirstKeywordSourceFileSize tags).toList.length := by
    cases stockFirstKeywordSourceFileSize tags <;> rfl
  simp only [Bool.false_eq_true, if_false, Option.toList_some, Option.map_some,
    List.flatMap_cons, List.flatMap_nil, List.append_nil, List.length_append, List.length_cons,
    List.length_nil, List.forall_mem_append, List.forall_mem_cons, List.not_mem_nil, false_imp_iff,
    implies_true, fits_normalizedSourcePortTag_iff, hip, iff_true_intro hudp, iff_true_intro hsize,
    true_and, and_true, List.mem_filter, Bool.and_eq_true, Bool.not_eq_true', and_imp]
  constructor
  · rintro ⟨hcount, hfits, ht, hp⟩
    refine ⟨by omega, hfits, fun tag h => ?_, fun tag h => ?_⟩
    · exact Option.some.inj (htype.symm.trans h) ▸ ht
    · exact Option.some.inj (hportTag.symm.trans h) ▸ hp
  · intro h
    have hcount := h.count
    exact ⟨by omega, h.fits, h.sourceType _ htype, h.sourcePort _ hportTag⟩

/-! ## Notes -/

/-- The tags a notes response passes through. -/
def notesPassesThrough (tag : Tag) : Bool :=
  !(isNamed tagName.FILENAME tag || isNamed tagName.FILESIZE tag)

/-- The positive size a note announces. -/
def notesFileSize (tags : List Tag) : Option UInt64 := (stockFirstFileSize tags).filter (0 < ·)

/-- **A notes response** is the name, the size and what passes through. -/
theorem notesResultTags_stored (observedAt : Time) (target publisherId : NodeId)
    (publisherIp : Ipv4Addr) (tags : List Tag) :
    notesResultTags ⟨observedAt, target, publisherId, publisherIp, stockStoredPublishTags tags⟩ =
      ((stockFirstFilename tags).map filenameTag).toList ++
        ((notesFileSize tags).map filesizeTag).toList ++
        tags.filter fun tag => notesPassesThrough tag && !isDropped tag := by
  have hloop : ∀ (l acc : List Tag), l.foldl (fun tags tag =>
      if isNamed tagName.FILENAME tag || isNamed tagName.FILESIZE tag then tags else tags ++ [tag])
        acc = acc ++ l.filter notesPassesThrough := by
    intro l
    induction l with
    | nil => simp
    | cons tag l ih =>
      intro acc
      rw [List.foldl_cons, ih, List.filter_cons, notesPassesThrough]
      split_ifs with h1 h2 h2 <;> simp_all
  have hsize : stockFirstFileSize (stockStoredPublishTags tags) = stockFirstFileSize tags :=
    stockFirstFileSizeImpl_filter (fun _ => isDroppedFromSource_of_isDropped) tags false
  rw [notesResultTags, stockFirstFilename_stored, hsize, hloop, stockStoredPublishTags,
    List.filter_filter]
  rfl

/-- What has to hold of the tags of a note for its response to be written. -/
structure NotesServable (tags : List Tag) : Prop where
  /-- What passes through fits. -/
  fits : ∀ tag ∈ tags, notesPassesThrough tag = true → isDropped tag = false → Tag.Fits tag
  /-- The name fits. -/
  filename : ∀ name, stockFirstFilename tags = some name → (asBytes name).length < 2 ^ 16

theorem exists_filename_of_isSome {tags : List Tag} {name : String}
    (h : stockFirstFilename tags = some name) :
    ∃ tag ∈ tags, isNamed tagName.FILENAME tag = true := by
  obtain ⟨tag, htag, hname⟩ := List.exists_of_findSome?_eq_some h
  refine ⟨tag, htag, ?_⟩
  by_contra hne
  rw [if_neg hne] at hname
  cases hname

/-- Without a size tag the accumulators for the whole size and its low half stay empty. -/
theorem exists_filesize_of_isSome {tags : List Tag} {accept : Bool} {size : UInt64}
    (h : stockFirstFileSizeImpl tags accept = some size) :
    ∃ tag ∈ tags, isNamed tagName.FILESIZE tag = true := by
  by_contra hne
  push Not at hne
  have hempty : ∀ (l : List Tag) (high : Option UInt32),
      (∀ tag ∈ l, isNamed tagName.FILESIZE tag ≠ true) →
      (l.foldl (stockFirstFileSizeStep accept) ⟨none, none, high⟩).result = none := by
    intro l
    induction l with
    | nil => exact fun _ _ => rfl
    | cons tag l ih =>
      intro high hl
      have hstep : ∃ high', stockFirstFileSizeStep accept ⟨none, none, high⟩ tag =
          ⟨none, none, high'⟩ := by
        have htag := hl tag (List.mem_cons_self ..)
        obtain ⟨name, value⟩ := tag
        cases name with
        | long s => exact ⟨high, rfl⟩
        | short name =>
          have hname : name ≠ tagName.FILESIZE := by
            rintro rfl
            exact htag (isNamed_iff.mpr rfl)
          simp only [stockFirstFileSizeStep, if_neg hname]
          split_ifs
          · cases value with
            | uint v =>
              by_cases hv : v.toNat < 2 ^ 32
              · exact ⟨_, if_pos hv⟩
              · exact ⟨_, if_neg hv⟩
            | _ => exact ⟨_, rfl⟩
          · exact ⟨_, rfl⟩
      obtain ⟨high', hstep⟩ := hstep
      rw [List.foldl_cons, hstep]
      exact ih high' fun t ht => hl t (List.mem_cons_of_mem _ ht)
  rw [stockFirstFileSizeImpl, hempty tags none hne] at h
  cases h

theorem countP_add_countP_add_countP_le {α : Type} {p q r : α → Bool} {l : List α}
    (h : ∀ a, (if p a then 1 else 0) + (if q a then 1 else 0) + (if r a then 1 else 0) ≤ 1) :
    l.countP p + l.countP q + l.countP r ≤ l.length := by
  induction l with
  | nil => simp
  | cons a l ih =>
    have := h a
    simp only [List.countP_cons, List.length_cons]
    omega

/-- A notes response never has more tags than the note: its name and size stand for tags that do
not pass through. -/
theorem length_notesResultTags_le (tags : List Tag) :
    ((stockFirstFilename tags).map filenameTag).toList.length +
      ((notesFileSize tags).map filesizeTag).toList.length +
      (tags.filter fun tag => notesPassesThrough tag && !isDropped tag).length ≤ tags.length := by
  have hname : ((stockFirstFilename tags).map filenameTag).toList.length ≤
      tags.countP (isNamed tagName.FILENAME) := by
    cases h : stockFirstFilename tags with
    | none => simp
    | some name =>
      obtain ⟨tag, htag, hn⟩ := exists_filename_of_isSome h
      exact List.countP_pos_iff.mpr ⟨tag, htag, hn⟩
  have hsize : ((notesFileSize tags).map filesizeTag).toList.length ≤
      tags.countP (isNamed tagName.FILESIZE) := by
    cases h : notesFileSize tags with
    | none => simp
    | some size =>
      obtain ⟨hsome, -⟩ := Option.filter_eq_some_iff.mp h
      obtain ⟨tag, htag, hn⟩ := exists_filesize_of_isSome hsome
      exact List.countP_pos_iff.mpr ⟨tag, htag, hn⟩
  have hcount := countP_add_countP_add_countP_le (p := isNamed tagName.FILENAME)
    (q := isNamed tagName.FILESIZE) (r := fun tag => notesPassesThrough tag && !isDropped tag)
    (l := tags) fun tag => by
      cases h1 : isNamed tagName.FILENAME tag with
      | true =>
        have h2 := isNamed_eq_false h1 (show _ ≠ tagName.FILESIZE by decide)
        simp [notesPassesThrough, h1, h2]
      | false =>
        cases h2 : isNamed tagName.FILESIZE tag <;> cases isDropped tag <;>
          simp [notesPassesThrough, h1, h2]
  rw [← List.countP_eq_length_filter]
  omega

/-- **The condition on a note is exact.**  Its count is no issue. -/
theorem tagsFit_notesResultTags_iff {tags : List Tag} (hlen : tags.length < 2 ^ 8)
    (observedAt : Time) (target publisherId : NodeId) (publisherIp : Ipv4Addr) :
    TagsFit (notesResultTags
      ⟨observedAt, target, publisherId, publisherIp, stockStoredPublishTags tags⟩) ↔
      NotesServable tags := by
  rw [notesResultTags_stored, TagsFit]
  have hcount := length_notesResultTags_le tags
  have hsize : ∀ t ∈ ((notesFileSize tags).map filesizeTag).toList, Tag.Fits t := by
    intro t ht
    obtain ⟨size, -, rfl⟩ := Option.map_eq_some_iff.mp (Option.mem_toList.mp ht)
    exact fits_filesizeTag size
  simp only [List.length_append, List.forall_mem_append, iff_true_intro hsize, and_true,
    List.mem_filter, Bool.and_eq_true, Bool.not_eq_true', and_imp]
  constructor
  · rintro ⟨-, hname, hfits⟩
    exact ⟨hfits, fun name h => (fits_filenameTag_iff name).mp (hname _ (by simp [h]))⟩
  · intro h
    refine ⟨by omega, fun t ht => ?_, h.fits⟩
    obtain ⟨name, hname, rfl⟩ := Option.map_eq_some_iff.mp (Option.mem_toList.mp ht)
    exact (fits_filenameTag_iff name).mpr (h.filename name hname)

end Overlord.Emule
