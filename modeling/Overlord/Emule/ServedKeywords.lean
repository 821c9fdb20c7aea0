import Overlord.Emule.SearchResponses
import Overlord.Kad.Dht.SearchStream

/-!
# What is served is found

The agent answers searches for keywords from its store, and it makes such searches itself.  The two
sides have a reader of tags each: the store takes the first name and the first usable size of a
publish, a search the size and the half sizes of the last tags it sees.

* `served_keywords_found` — every entry of every answer, once it has gone over the wire, is a result
  of the search: none is dropped.  Its first name is the one the entry is stored with, and its size
  is the one it is stored with, unless a size below 4 GiB was published along with a high half.
-/

set_option autoImplicit false

namespace Overlord.Emule

open Kad Kad.Dht Wire

/-! ## Stored entries -/

/-- What holds of whatever passes the checks of a publish holds of every entry. -/
theorem forall_keywordEntries_run (toLowercase : String → String) {P : StoredKeywordPublish → Prop}
    (hP : ∀ observedAt target fileHash tags dedupKey, (stockKeywordFileSize tags).isSome →
      hasStockKeywordFilename tags = true →
      P ⟨observedAt, target, fileHash, stockStoredPublishTags tags, dedupKey⟩)
    (config : KadLocalStoreConfig) (ops : List StoreOp) :
    ∀ e ∈ ((KadLocalStore.new config).run toLowercase ops).keywordEntries, P e := by
  refine List.foldlRecOn ops _ (motive := fun s : KadLocalStore => ∀ e ∈ s.keywordEntries, P e)
    (by simp [KadLocalStore.new]) fun s hs op _ => ?_
  cases op with
  | recordKeywordPublishBatch target entries observedAt =>
    rw [KadLocalStore.handle, KadLocalStore.recordKeywordPublishBatch]
    split_ifs
    · exact hs
    refine List.foldlRecOn entries _
      (motive := fun acc : UInt8 × List StoredKeywordPublish => ∀ e ∈ acc.2, P e)
      (fun e he => hs e (mem_of_mem_purgeExpired he)) fun acc hacc entry _ => ?_
    rw [recordKeywordPublish]
    split
    · exact hacc
    · rename_i size hsize
      split_ifs with hname
      · exact hacc
      obtain ⟨load, shouldStore⟩ := stockKeywordPublishDecision acc.2 target entry.hash
      cases shouldStore with
      | false => exact hacc
      | true =>
        intro e he
        rcases mem_of_mem_upsertEntry he with rfl | he
        · exact hP _ _ _ _ _ (by rw [hsize]; rfl) (by simpa using hname)
        · exact hacc e he
  | recordSourcePublish target publisherId sourceIp sourceUdpPort tags observedAt =>
    rw [KadLocalStore.handle, KadLocalStore.recordSourcePublish]
    split_ifs
    · exact hs
    · exact hs
    · exact hs
    · split <;> exact hs
  | recordNotesPublish target publisherId publisherIp tags observedAt =>
    rw [KadLocalStore.handle, KadLocalStore.recordNotesPublish]
    split_ifs <;> exact hs
  | keywordSearchResponse senderId request now =>
    rw [KadLocalStore.handle, KadLocalStore.keywordSearchResponse]
    split
    · exact hs
    · exact fun e he => hs e (mem_of_mem_purgeExpired he)
  | sourceSearchResponse senderId request now =>
    rw [KadLocalStore.handle, KadLocalStore.sourceSearchResponse]
    split_ifs <;> exact hs
  | notesSearchResponse senderId request now =>
    rw [KadLocalStore.handle, KadLocalStore.notesSearchResponse]
    split_ifs <;> exact hs

/-- A stored entry has a name and a size. -/
theorem named_and_sized (toLowercase : String → String) (config : KadLocalStoreConfig)
    (ops : List StoreOp) {e : StoredKeywordPublish}
    (he : e ∈ ((KadLocalStore.new config).run toLowercase ops).keywordEntries) :
    (∃ name, stockFirstFilename e.tags = some name) ∧
      ∃ size, stockKeywordFileSize e.tags = some size := by
  refine forall_keywordEntries_run toLowercase (P := fun e => (∃ name, stockFirstFilename e.tags =
    some name) ∧ ∃ size, stockKeywordFileSize e.tags = some size) ?_ config ops e he
  intro _ _ _ tags _ hsize hname
  rw [stockFirstFilename_stored, stockKeywordFileSize, stockFirstKeywordSourceFileSize,
    stockFirstFileSizeImpl_stored]
  exact ⟨Option.isSome_iff_exists.mp ((hasStockKeywordFilename_iff tags).mp hname),
    Option.isSome_iff_exists.mp hsize⟩

/-- The tags that an entry with a name and a size is served with. -/
theorem keywordResultTags_eq {e : StoredKeywordPublish} {name : String} {size : UInt64}
    (hname : stockFirstFilename e.tags = some name)
    (hsize : stockKeywordFileSize e.tags = some size) :
    keywordResultTags e = filenameTag name :: filesizeTag size ::
      (e.tags.filter keywordPassesThrough ++ keywordPublishInfoTag ::
        ((publishedAichHash e.tags).map keywordAichResultTag).toList) := by
  rw [stockKeywordFileSize] at hsize
  rw [keywordResultTags, hname, hsize, foldl_keywordResultStep]
  simp

/-! ## Reading -/

/-- Names are only added. -/
theorem names_foldl_read (tags : List Tag) (parts : SearchResultParts) :
    parts.names <+: (tags.foldl SearchResultParts.read parts).names := by
  induction tags generalizing parts with
  | nil => exact List.prefix_refl _
  | cons tag tags ih =>
    refine List.IsPrefix.trans ?_ (ih (parts.read tag))
    unfold SearchResultParts.read
    split
    · exact List.prefix_refl _
    split_ifs
    · split
      · exact List.prefix_append _ _
      · exact List.prefix_refl _
    · unfold SearchResultParts.readSize
      split <;> exact List.prefix_refl _
    · exact List.prefix_refl _
    · exact List.prefix_refl _
    · exact List.prefix_refl _

/-- A size that is there stays there, and a whole one is overwritten only by a size tag. -/
theorem fullSize_read {parts : SearchResultParts} (h : parts.fullSize.isSome) (tag : Tag) :
    (parts.read tag).fullSize.isSome ∧
      (tag.name ≠ .short tagName.FILESIZE → (parts.read tag).size = parts.size ∧
        (parts.read tag).sizeLow = parts.sizeLow ∧
        (tag.name ≠ .short tagName.FILESIZE_HI →
          (parts.read tag).sizeHigh = parts.sizeHigh)) := by
  obtain ⟨name, value⟩ := tag
  cases name with
  | long s => exact ⟨h, fun _ => ⟨rfl, rfl, fun _ => rfl⟩⟩
  | short n =>
    simp only [SearchResultParts.read]
    split_ifs with hname hsize hhigh hsources
    · split <;> exact ⟨h, fun _ => ⟨rfl, rfl, fun _ => rfl⟩⟩
    · refine ⟨?_, fun hne => absurd (congrArg _ hsize) hne⟩
      rw [SearchResultParts.fullSize, Option.isSome_or, Bool.or_eq_true, Option.isSome_map] at h ⊢
      unfold SearchResultParts.readSize
      split <;> simp_all
    · refine ⟨?_, fun _ => ⟨rfl, rfl, fun hne => absurd (congrArg _ hhigh) hne⟩⟩
      rw [SearchResultParts.fullSize, Option.isSome_or, Bool.or_eq_true, Option.isSome_map] at h ⊢
      exact h
    · exact ⟨h, fun _ => ⟨rfl, rfl, fun _ => rfl⟩⟩
    · exact ⟨h, fun _ => ⟨rfl, rfl, fun _ => rfl⟩⟩

theorem isSome_fullSize_foldl (tags : List Tag) {parts : SearchResultParts}
    (h : parts.fullSize.isSome) : (tags.foldl SearchResultParts.read parts).fullSize.isSome := by
  induction tags generalizing parts with
  | nil => exact h
  | cons tag tags ih => exact ih (fullSize_read h tag).1

/-- Tags that are no sizes leave a size alone, and so do high halves if it is a whole one. -/
theorem fullSize_foldl {tags : List Tag} {parts : SearchResultParts} (h : parts.fullSize.isSome)
    (hnames : ∀ tag ∈ tags, tag.name ≠ .short tagName.FILESIZE)
    (hhigh : parts.size.isSome ∨ ∀ tag ∈ tags, tag.name ≠ .short tagName.FILESIZE_HI) :
    (tags.foldl SearchResultParts.read parts).fullSize = parts.fullSize := by
  induction tags generalizing parts with
  | nil => rfl
  | cons tag tags ih =>
    obtain ⟨hsome, hkeeps⟩ := fullSize_read h tag
    obtain ⟨hsize, hlow, hhi⟩ := hkeeps (hnames tag List.mem_cons_self)
    have hstep : (parts.read tag).fullSize = parts.fullSize := by
      rw [SearchResultParts.fullSize, SearchResultParts.fullSize, hsize, hlow]
      rcases hhigh with hwhole | hnone
      · obtain ⟨size, hsome⟩ := Option.isSome_iff_exists.mp hwhole
        rw [hsome, Option.some_or, Option.some_or]
      · rw [hhi (hnone tag List.mem_cons_self)]
    rw [List.foldl_cons, ih hsome fun other hother => hnames other (List.mem_cons_of_mem _ hother),
      hstep]
    rcases hhigh with hwhole | hnone
    · exact .inl (hsize ▸ hwhole)
    · exact .inr fun other hother => hnone other (List.mem_cons_of_mem _ hother)

/-- The size tag as it arrives: a size from 4 GiB on is whole, a smaller one a low half. -/
theorem read_filesizeTag (name : String) (size : UInt64) :
    let parts := SearchResultParts.read ⟨[name], none, none, none, none⟩
      (Tag.normalise (filesizeTag size))
    parts.names = [name] ∧ parts.fullSize = some size ∧
      (2 ^ 32 ≤ size.toNat → parts.size.isSome) := by
  have hlow : ∀ low : UInt32, low.toNat = size.toNat →
      (SearchResultParts.mk [name] none (some low) none none).fullSize = some size := by
    intro low hlow
    simp only [SearchResultParts.fullSize, Option.none_or, Option.map_some, Option.getD_none]
    refine congrArg some (UInt64.toNat_inj.mp ?_)
    simp [hlow]
  simp only [filesizeTag, newShort, Tag.normalise, TagName.normalise, TagValue.normalise,
    SearchResultParts.read]
  rw [if_neg (by decide), if_true]
  split_ifs with h8 h16 h32
  · refine ⟨rfl, hlow _ ?_, fun hge => absurd hge (by omega)⟩
    simp
    omega
  · refine ⟨rfl, hlow _ ?_, fun hge => absurd hge (by omega)⟩
    simp
    omega
  · refine ⟨rfl, hlow _ ?_, fun hge => absurd hge (by omega)⟩
    simp
    omega
  · exact ⟨rfl, rfl, fun _ => rfl⟩

/-- **A served entry is a result.** -/
theorem readKeywordResult_served {e : StoredKeywordPublish} {name : String} {size : UInt64}
    (hname : stockFirstFilename e.tags = some name)
    (hsize : stockKeywordFileSize e.tags = some size) :
    ∃ result, readKeywordResult (e.fileHash, (keywordResultTags e).map Tag.normalise) =
        some result ∧
      result.hash = e.fileHash ∧ result.names.head? = some name ∧
      ((∀ tag ∈ e.tags, TagName.normalise tag.name = tag.name) →
        (2 ^ 32 ≤ size.toNat ∨ ∀ tag ∈ e.tags, tag.name ≠ .short tagName.FILESIZE_HI) →
        result.size = some size) := by
  obtain ⟨hnames, hfull, hwhole⟩ := read_filesizeTag name size
  set parts := SearchResultParts.read ⟨[name], none, none, none, none⟩
    (Tag.normalise (filesizeTag size)) with hparts
  set rest := (e.tags.filter keywordPassesThrough ++ keywordPublishInfoTag ::
    ((publishedAichHash e.tags).map keywordAichResultTag).toList).map Tag.normalise with hrest
  have htags : (keywordResultTags e).map Tag.normalise =
      Tag.normalise (filenameTag name) :: Tag.normalise (filesizeTag size) :: rest := by
    rw [keywordResultTags_eq hname hsize]
    rfl
  have hread : ((keywordResultTags e).map Tag.normalise).foldl SearchResultParts.read
      ⟨[], none, none, none, none⟩ = rest.foldl SearchResultParts.read parts := by
    rw [htags]
    rfl
  have hsome : parts.fullSize.isSome := by rw [hfull]; rfl
  have hhead : (rest.foldl SearchResultParts.read parts).names.head? = some name := by
    obtain ⟨more, hmore⟩ := names_foldl_read rest parts
    rw [← hmore, hnames]
    rfl
  have hisSome := isSome_fullSize_foldl rest hsome
  refine ⟨SearchResult.fromTags e.fileHash ((keywordResultTags e).map Tag.normalise), ?_, rfl, ?_,
    fun hnormal hhigh => ?_⟩
  · have hne : (rest.foldl SearchResultParts.read parts).names ≠ [] := by
      intro hnil
      rw [hnil] at hhead
      cases hhead
    simp only [readKeywordResult, isAcceptableKeywordResult, SearchResult.fromTags, hread]
    simp [hne, Option.isSome_iff_ne_none.mp hisSome]
  · simp only [SearchResult.fromTags, hread]
    exact hhead
  · simp only [SearchResult.fromTags, hread]
    -- what passes through is no size, and on the wire it still is none
    have hpassed : ∀ tag ∈ rest, tag.name ≠ .short tagName.FILESIZE ∧
        (tag.name = .short tagName.FILESIZE_HI → ∃ tag ∈ e.tags,
          tag.name = .short tagName.FILESIZE_HI) := by
      intro tag htag
      obtain ⟨served, hserved, rfl⟩ := List.mem_map.mp htag
      rcases List.mem_append.mp hserved with hpass | hadded
      · obtain ⟨hmem, hpass⟩ := List.mem_filter.mp hpass
        have hsame : (Tag.normalise served).name = served.name := hnormal served hmem
        rw [hsame]
        refine ⟨fun hfilesize => ?_, fun hhi => ⟨served, hmem, hhi⟩⟩
        rw [keywordPassesThrough, isNamed_iff.mpr hfilesize] at hpass
        simp at hpass
      · rcases List.mem_cons.mp hadded with rfl | hhash
        · exact ⟨by decide, fun hhi => absurd hhi (by decide)⟩
        · obtain ⟨hash, -, rfl⟩ := Option.map_eq_some_iff.mp (Option.mem_toList.mp hhash)
          have hother : ∀ n, n ≠ tagName.KADAICHHASHRESULT →
              (Tag.normalise (keywordAichResultTag hash)).name ≠ .short n :=
            fun n hne heq => hne (TagNameOf.short.inj heq).symm
          exact ⟨hother _ (by decide), fun hhi => absurd hhi (hother _ (by decide))⟩
    rw [fullSize_foldl hsome (fun tag htag => (hpassed tag htag).1), hfull]
    refine hhigh.imp hwhole fun hnone tag htag hhi => ?_
    obtain ⟨original, hmem, horiginal⟩ := (hpassed tag htag).2 hhi
    exact hnone original hmem horiginal

/-! ## The whole way -/

/-- The results of an answer are entries of the store. -/
theorem keyword_response_results {toLowercase : String → String} {s : KadLocalStore}
    {senderId : NodeId} {request : SearchKeyReq} {now : Time} {response : SearchRes}
    (h : (s.handle toLowercase (.keywordSearchResponse senderId request now)).1 = some response) :
    response.target = request.target ∧ ∀ r ∈ response.results, ∃ e ∈ s.keywordEntries,
      r = ⟨e.fileHash, keywordResultTags e⟩ := by
  rw [KadLocalStore.handle, KadLocalStore.keywordSearchResponse] at h
  split at h
  · cases h
  · simp only [searchResponse] at h
    split_ifs at h
    all_goals
      obtain rfl := Option.some.inj h
      refine ⟨rfl, fun r hr => ?_⟩
      obtain ⟨e, he, rfl⟩ := List.mem_map.mp hr
      exact ⟨e, mem_of_mem_purgeExpired (List.mem_of_mem_filter (List.mem_of_mem_filter
        (List.mem_of_mem_drop (List.mem_of_mem_take he)))), rfl⟩

/-- **What the store serves, a search finds.**  Whatever was published and asked before, the answer
to a search for a keyword arrives as an answer for its target, and each of its entries is a result:
the search drops none.  It has the name of a stored entry, and its size. -/
theorem served_keywords_found (toLowercase : String → String) (pf : Platform)
    (config : KadLocalStoreConfig) (ops : List StoreOp) (senderId : NodeId) (request : SearchKeyReq)
    (now : Time) {response : SearchRes} {bytes : Bytes}
    (hresponse : (((KadLocalStore.new config).run toLowercase ops).handle toLowercase
      (.keywordSearchResponse senderId request now)).1 = some response)
    (hencode : KadPacket.encode (.searchRes response) = .ok bytes) :
    ∃ received, KadPacket.decode pf bytes = .ok (.searchRes received) ∧
      received.target = request.target ∧ received.results.length = response.results.length ∧
      ∀ entry ∈ received.results,
        ∃ e ∈ ((KadLocalStore.new config).run toLowercase ops).keywordEntries,
        ∃ result, readKeywordResult (entry.entryId, entry.tags) = some result ∧
          result.hash = e.fileHash ∧ result.names.head? = stockFirstFilename e.tags ∧
          ∀ size, stockKeywordFileSize e.tags = some size →
            (∀ tag ∈ e.tags, TagName.normalise tag.name = tag.name) →
            (2 ^ 32 ≤ size.toNat ∨ ∀ tag ∈ e.tags, tag.name ≠ .short tagName.FILESIZE_HI) →
            result.size = some size := by
  have hown : KadPacket.OwnOpcode (.searchRes response) := trivial
  obtain ⟨htarget, hresults⟩ := keyword_response_results hresponse
  refine ⟨_, KadPacket.decode_of_encode pf hown hencode, htarget, List.length_map _,
    fun entry hentry => ?_⟩
  obtain ⟨r, hr, rfl⟩ := List.mem_map.mp hentry
  obtain ⟨e, he, rfl⟩ := hresults r hr
  obtain ⟨⟨name, hname⟩, size, hsize⟩ := named_and_sized toLowercase config ops he
  obtain ⟨result, hread, hhash, hhead, hfull⟩ := readKeywordResult_served hname hsize
  refine ⟨e, he, result, hread, hhash, hhead.trans hname.symm, fun size' hsize' => ?_⟩
  obtain rfl : size = size' := Option.some.inj (hsize.symm.trans hsize')
  exact hfull

-- the exception: a whole size of five, published with a high half, is found with both
example :
    let e : StoredKeywordPublish := ⟨0, .ZERO, ⟨.replicate 16 0⟩, [filenameTag "a",
      newShort tagName.FILESIZE (.u64 5), newShort tagName.FILESIZE_HI (.u8 3)], ""⟩
    stockKeywordFileSize e.tags = some 5 ∧
      (readKeywordResult (e.fileHash, (keywordResultTags e).map Tag.normalise)).bind (·.size) =
        some (3 * 2 ^ 32 + 5) := by
  decide +kernel

/-- A published file is found under its name and with its size. -/
theorem served_keywords_found_small :
    ∃ response bytes received,
      (((KadLocalStore.new ⟨true, 1, 1, 1, 1, 1, 1⟩).run id
        [.recordKeywordPublishBatch NodeId.ZERO [publishWith 0] 0]).handle id
          (.keywordSearchResponse NodeId.ZERO ⟨NodeId.ZERO, 0, []⟩ 0)).1 = some response ∧
      KadPacket.encode (.searchRes response) = .ok bytes ∧
      KadPacket.decode ⟨fromUtf8Lossy, fun _ => none⟩ bytes = .ok (.searchRes received) ∧
      received.results.length = 1 ∧
      ∀ entry ∈ received.results, (readKeywordResult (entry.entryId, entry.tags)).isSome := by
  have henabled : (⟨true, 1, 1, 1, 1, 1, 1⟩ : KadLocalStoreConfig).enabled = true := rfl
  have hresponse := keyword_response_of_publish id henabled (by decide) NodeId.ZERO NodeId.ZERO
    (stockKeywordFileSize_publishWith 0) (hasStockKeywordFilename_publishWith 0) 0
  obtain ⟨response, hresponse⟩ : ∃ response,
      (((KadLocalStore.new ⟨true, 1, 1, 1, 1, 1, 1⟩).run id
        [.recordKeywordPublishBatch NodeId.ZERO [publishWith 0] 0]).handle id
          (.keywordSearchResponse NodeId.ZERO ⟨NodeId.ZERO, 0, []⟩ 0)).1 = some response ∧
      response.results.length = 1 ∧ ∃ bytes, KadPacket.encode (.searchRes response) = .ok bytes :=
    ⟨_, hresponse, rfl, _, rfl⟩
  obtain ⟨hresponse, hlength, bytes, hencode⟩ := hresponse
  obtain ⟨received, hdecode, -, hreceived, hfound⟩ := served_keywords_found id
    ⟨fromUtf8Lossy, fun _ => none⟩ _ _ _ _ _ hresponse hencode
  refine ⟨response, bytes, received, hresponse, hencode, hdecode, hreceived.trans hlength,
    fun entry hentry => ?_⟩
  obtain ⟨e, -, result, hread, -⟩ := hfound entry hentry
  rw [hread]
  rfl

end Overlord.Emule
