import Overlord.Emule.Tcp.Transport
import Overlord.Kad.Proto.NodeId
import Overlord.Net.Addr
import Overlord.Wire.Utf8

/-!
# Results of a server

The decoders of `ed2k_server/result_decoder.rs`: the pages of a keyword search and the sources of a
file, as they come over TCP, and the chains of them that fit into one datagram.  The tags of a
result are those of `tag_codec.rs`.

A chain is decoded by a loop that takes fuel, one unit for each byte.  Every element takes at least
one byte, so the loop is the one of the source (`decodeUdpSearchResultPages_eq`,
`decodeUdpFoundSourceSets_eq`).

A reader is of the monad `Get`, with the messages of the source as its errors.  `Takes k g` says
that `g`, if it succeeds, consumes `k` bytes or more; there is one lemma of this kind for each of
the readers, and they compose in the way the readers do.
-/

set_option autoImplicit false

namespace Overlord.Emule

open Kad (Ed2kHash)
open Wire

/-! ## Opcodes -/

def OP_REJECT : UInt8 := 0x05
def OP_SEARCHREQUEST : UInt8 := 0x16
def OP_GETSOURCES : UInt8 := 0x19
def OP_GETSOURCES_OBFU : UInt8 := 0x23
def OP_SERVERLIST : UInt8 := 0x32
def OP_SEARCHRESULT : UInt8 := 0x33
def OP_SERVERSTATUS : UInt8 := 0x34
def OP_CALLBACK_FAIL : UInt8 := 0x36
def OP_SERVERMESSAGE : UInt8 := 0x38
def OP_IDCHANGE : UInt8 := 0x40
def OP_SERVERIDENT : UInt8 := 0x41
def OP_FOUNDSOURCES : UInt8 := 0x42
def OP_FOUNDSOURCES_OBFU : UInt8 := 0x44
def OP_GLOBSERVSTATRES : UInt8 := 0x97
def OP_GLOBSEARCHRES : UInt8 := 0x99
def OP_GLOBFOUNDSOURCES : UInt8 := 0x9B

/-! ## Tags -/

def FT_FILENAME : UInt8 := 0x01
def FT_FILESIZE : UInt8 := 0x02
def FT_FILETYPE : UInt8 := 0x03
def FT_SOURCES : UInt8 := 0x15
def FT_FILESIZE_HI : UInt8 := 0x3A
def TAG_SHORT_NAME_MASK : UInt8 := 0x80

/-- `DecodedTagValue`; a float is kept as its bits. -/
inductive DecodedTagValue where
  | string (value : String)
  | unsigned (value : Nat)
  | bool (value : Bool)
  | float32 (bits : UInt32)
  | hash (value : List UInt8)
  | blob (value : List UInt8)
  | boolArray (value : List UInt8)
deriving DecidableEq, Repr

/-- The name of a tag: one byte, or a counted string of which only those of one byte are kept. -/
def decodeTagName (shortName : Bool) : Get String (Option UInt8) :=
  if shortName then some <$> getU8 "short ED2K tag header"
  else do
    let nameLen ← getU16 "short ED2K long-name length"
    let name ← getExact "short ED2K long-name bytes" nameLen.toNat
    return if nameLen = 1 then name.head? else none

/-- The value of a tag. -/
def decodeTagPayload (baseType : UInt8) : Get String DecodedTagValue :=
  match baseType.toNat with
  | 0x01 => .hash <$> getExact "short ED2K hash tag value" 16
  | 0x02 => do
    let len ← getU16 "short ED2K string tag length"
    (.string ∘ fromUtf8Lossy) <$> getExact "short ED2K string tag value" len.toNat
  | 0x03 => (.unsigned ∘ UInt32.toNat) <$> getU32 "short ED2K uint32 tag value"
  | 0x04 => .float32 <$> getU32 "short ED2K float32 tag value"
  | 0x05 => (fun value => .bool (value != 0)) <$> getU8 "short ED2K uint8/bool tag value"
  | 0x06 => do
    let bitLen ← getU16 "short ED2K bool-array tag length"
    .boolArray <$> getExact "short ED2K bool-array tag value" (bitLen.toNat / 8 + 1)
  | 0x07 => do
    let blobLen ← getU32 "short ED2K blob tag length"
    .blob <$> getExact "short ED2K blob tag value" blobLen.toNat
  | 0x08 => (.unsigned ∘ UInt16.toNat) <$> getU16 "short ED2K uint16 tag value"
  | 0x09 => (.unsigned ∘ UInt8.toNat) <$> getU8 "short ED2K uint8/bool tag value"
  | 0x0B => (.unsigned ∘ UInt64.toNat) <$> getU64 "short ED2K uint64 tag value"
  | base =>
    if 0x11 ≤ base ∧ base ≤ 0x20 then
      (.string ∘ fromUtf8Lossy) <$>
        getExact "short ED2K compact string tag value" (base - 0x11 + 1)
    else throw s!"unsupported ED2K tag type 0x{Hex.upper 2 baseType.toNat}"

/-- `decode_tag_value`. -/
def decodeTagValue : Get String (Option UInt8 × DecodedTagValue) := do
  let left ← remaining
  if left < 2 then throw "short ED2K tag header"
  let typeByte ← getU8 "short ED2K tag header"
  let name ← decodeTagName (typeByte &&& TAG_SHORT_NAME_MASK != 0)
  let value ← decodeTagPayload (typeByte &&& 0x7F)
  return (name, value)

/-! ## Results of a keyword search -/

/-- `Ed2kSearchFile`. -/
structure Ed2kSearchFile where
  fileHash : Ed2kHash
  fileName : Option String
  fileSize : Option Nat
  fileType : Option String
  sourceCount : Option Nat
deriving DecidableEq, Repr

/-- `SearchResultPage`. -/
structure SearchResultPage where
  files : List Ed2kSearchFile
  moreResultsAvailable : Bool
deriving DecidableEq, Repr

/-- What the tags of a result have told so far. -/
structure ResultFields where
  name : Option String
  size : Option Nat
  sizeHi : Option Nat
  fileType : Option String
  sourceCount : Option Nat
deriving DecidableEq, Repr

namespace ResultFields

/-- A tag.  The first name and the first type count, and the last of the others. -/
def note (fields : ResultFields) : Option UInt8 → DecodedTagValue → Except String ResultFields
  | some name, .string value =>
    if name = FT_FILENAME ∧ fields.name = none then .ok { fields with name := some value }
    else if name = FT_FILETYPE ∧ fields.fileType = none then
      .ok { fields with fileType := some value }
    else .ok fields
  | some name, .unsigned value =>
    if name = FT_FILESIZE then .ok { fields with size := some value }
    else if name = FT_FILESIZE_HI then .ok { fields with sizeHi := some value }
    else if name = FT_SOURCES then
      if value < 2 ^ 32 then .ok { fields with sourceCount := some value }
      else .error "ED2K source count overflow"
    else .ok fields
  | _, _ => .ok fields

/-- The two halves of the size; the upper one is shifted into 64 bits. -/
def fileSize (fields : ResultFields) : Option Nat :=
  match fields.size, fields.sizeHi with
  | some value, some upper =>
    if value < 2 ^ 32 ∧ upper ≠ 0 then some (upper * 2 ^ 32 % 2 ^ 64 ||| value) else some value
  | some value, none => some value
  | none, some upper => some (upper * 2 ^ 32 % 2 ^ 64)
  | none, none => none

end ResultFields

/-- The loop over the tags of a result. -/
def decodeResultTags : Nat → ResultFields → Get String ResultFields
  | 0, fields => pure fields
  | n + 1, fields => do
    let (name, value) ← decodeTagValue
    match fields.note name value with
    | .ok fields => decodeResultTags n fields
    | .error message => throw message

/-- One result. -/
def decodeSearchFile : Get String Ed2kSearchFile := do
  let left ← remaining
  if left < 26 then throw "short ED2K search result entry"
  let fileHash ← Ed2kHash.mk <$> getArray "short ED2K search result entry" 16
  let _ ← getExact "short ED2K search result entry" 6
  let tagCount ← getU32 "short ED2K search result entry"
  let fields ← decodeResultTags tagCount.toNat ⟨none, none, none, none, none⟩
  return ⟨fileHash, fields.name, fields.fileSize, fields.fileType, fields.sourceCount⟩

/-- `udp_chain_matches`. -/
def udpChainMatches (payload : List UInt8) (opcode : UInt8) : Bool :=
  payload.take 2 = [OP_EDONKEYPROT, opcode]

/-- What follows the results of a page: whether there are more, and perhaps the head of the next
page. -/
def decodeMoreMarker : Get String Bool := fun cursor =>
  match cursor with
  | [] => .ok (false, [])
  | marker :: rest =>
    if (marker = 0 ∨ marker = 1) ∧ rest = [] then .ok (marker ≠ 0, [])
    else if (marker = 0 ∨ marker = 1) ∧ udpChainMatches rest OP_GLOBSEARCHRES then
      .ok (marker ≠ 0, rest.drop 2)
    else if udpChainMatches cursor OP_GLOBSEARCHRES then .ok (false, cursor.drop 2)
    else if rest = [] then .error s!"invalid ED2K search More marker 0x{Hex.upper 2 marker.toNat}"
    else .error s!"unexpected ED2K search trailing data len={cursor.length} after result page"

/-- `decode_search_result_page_from`. -/
def decodeSearchResultPageFrom : Get String SearchResultPage := do
  let count ← getU32 "short ED2K search results payload"
  let files ← getMany count.toNat decodeSearchFile
  let more ← decodeMoreMarker
  return ⟨files, more⟩

/-- `decode_search_result_page`. -/
def decodeSearchResultPage (payload : List UInt8) : Except String SearchResultPage := do
  let (page, rest) ← decodeSearchResultPageFrom.run payload
  if rest ≠ [] then
    throw s!"unexpected ED2K search trailing data len={rest.length} after result page"
  return page

/-- `decode_udp_search_result_pages`. -/
def decodeUdpSearchResultPages (payload : List UInt8) : Except String (List SearchResultPage) :=
  decodeAll decodeSearchResultPageFrom payload

/-! ## Sources of a file -/

/-- `Ed2kFoundSource`. -/
structure Ed2kFoundSource where
  fileHash : Ed2kHash
  ip : Ipv4Addr
  tcpPort : UInt16
  clientId : UInt32
  lowId : Bool
  obfuscated : Bool
  obfuscationOptions : Option UInt8
  userHash : Option (Vector UInt8 16)
  sourceServer : Option SocketAddr
deriving DecidableEq, Repr

/-- `ipv4_from_client_id`. -/
def ipv4FromClientId (clientId : UInt32) : Ipv4Addr :=
  .new clientId.toUInt8 (clientId >>> 8).toUInt8 (clientId >>> 16).toUInt8
    (clientId >>> 24).toUInt8

/-- `is_low_id`. -/
def isLowId (clientId : UInt32) : Bool := clientId < 0x01000000

/-- The options of a source, and its user hash if they say that there is one. -/
def decodeSourceOptions (obfuscated : Bool) :
    Get String (Option UInt8 × Option (Vector UInt8 16)) :=
  if obfuscated then do
    let options ← getU8 "short ED2K obfuscated source options"
    if options &&& 0x80 != 0 then
      let userHash ← getArray "short ED2K obfuscated source user hash" 16
      return (some options, some userHash)
    else return (some options, none)
  else return (none, none)

/-- One source. -/
def decodeFoundSource (fileHash : Ed2kHash) (obfuscated : Bool) : Get String Ed2kFoundSource := do
  let left ← remaining
  if left < 6 then throw "short ED2K found-sources entry"
  let clientId ← getU32 "short ED2K found-sources entry"
  let tcpPort ← getU16 "short ED2K found-sources entry"
  let (options, userHash) ← decodeSourceOptions obfuscated
  return ⟨fileHash, ipv4FromClientId clientId, tcpPort, clientId, isLowId clientId, obfuscated,
    options, userHash, none⟩

/-- The head of the next set of sources, if there is one. -/
def skipChainHeader : Get String Unit := fun cursor =>
  .ok ((), if udpChainMatches cursor OP_GLOBFOUNDSOURCES then cursor.drop 2 else cursor)

/-- `decode_found_sources_from`; with the file the sources are for, which the source drops. -/
def decodeFoundSourcesFrom (obfuscated : Bool) : Get String (Ed2kHash × List Ed2kFoundSource) := do
  let left ← remaining
  if left < 17 then throw "short ED2K found-sources payload"
  let fileHash ← Ed2kHash.mk <$> getArray "short ED2K found-sources payload" 16
  let count ← getU8 "short ED2K found-sources payload"
  let sources ← getMany count.toNat (decodeFoundSource fileHash obfuscated)
  skipChainHeader
  return (fileHash, sources)

/-- `decode_found_sources`. -/
def decodeFoundSources (payload : List UInt8) (obfuscated : Bool) :
    Except String (Ed2kHash × List Ed2kFoundSource) := do
  let (set, rest) ← (decodeFoundSourcesFrom obfuscated).run payload
  if rest ≠ [] then throw s!"unexpected ED2K found-sources trailing data len={rest.length}"
  return set

/-- `decode_udp_found_source_sets`. -/
def decodeUdpFoundSourceSets (payload : List UInt8) :
    Except String (List (Ed2kHash × List Ed2kFoundSource)) :=
  decodeAll (decodeFoundSourcesFrom false) payload

/-! ## The loops come to their end -/

theorem takes_decodeTagName (shortName : Bool) : Takes 0 (decodeTagName shortName) :=
  .ite ((takes_getU8 _).map _).zero
    (.skip (takes_getU16 _).zero fun _ => .skip (takes_getExact _ _).zero fun _ => .pure _)

theorem takes_decodeTagPayload (baseType : UInt8) : Takes 0 (decodeTagPayload baseType) := by
  rw [decodeTagPayload]
  split
  · exact ((takes_getExact _ _).map _).zero
  · exact .skip (takes_getU16 _).zero fun _ => ((takes_getExact _ _).map _).zero
  · exact ((takes_getU32 _).map _).zero
  · exact ((takes_getU32 _).map _).zero
  · exact ((takes_getU8 _).map _).zero
  · exact .skip (takes_getU16 _).zero fun _ => ((takes_getExact _ _).map _).zero
  · exact .skip (takes_getU32 _).zero fun _ => ((takes_getExact _ _).map _).zero
  · exact ((takes_getU16 _).map _).zero
  · exact ((takes_getU8 _).map _).zero
  · exact ((takes_getU64 _).map _).zero
  · exact .ite ((takes_getExact _ _).map _).zero (.throw _ _)

theorem takes_decodeTagValue : Takes 0 decodeTagValue :=
  .skip takes_remaining fun _ => .ite
    (.skip (.throw _ _) fun _ => .skip (takes_getU8 _).zero fun _ =>
      .skip (takes_decodeTagName _) fun _ => .skip (takes_decodeTagPayload _) fun _ => .pure _)
    (.skip (takes_getU8 _).zero fun _ => .skip (takes_decodeTagName _) fun _ =>
      .skip (takes_decodeTagPayload _) fun _ => .pure _)

theorem takes_decodeResultTags (n : Nat) (fields : ResultFields) :
    Takes 0 (decodeResultTags n fields) := by
  induction n generalizing fields with
  | zero => exact .pure fields
  | succ n ih =>
    refine .skip takes_decodeTagValue fun (name, value) => ?_
    dsimp only
    split
    · exact ih _
    · exact .throw _ _

theorem takes_decodeSearchFile : Takes 0 decodeSearchFile := by
  have hfields : Takes 0 (do
      let fileHash ← Ed2kHash.mk <$> getArray "short ED2K search result entry" 16
      let _ ← getExact "short ED2K search result entry" 6
      let tagCount ← getU32 "short ED2K search result entry"
      let fields ← decodeResultTags tagCount.toNat ⟨none, none, none, none, none⟩
      return ⟨fileHash, fields.name, fields.fileSize, fields.fileType, fields.sourceCount⟩ :
        Get String Ed2kSearchFile) :=
    .skip ((takes_getArray _ _).map _).zero fun _ => .skip (takes_getExact _ _).zero fun _ =>
      .skip (takes_getU32 _).zero fun _ => .skip (takes_decodeResultTags _ _) fun _ => .pure _
  exact .skip takes_remaining fun _ => .ite (.skip (.throw _ _) fun _ => hfields) hfields

theorem takes_decodeMoreMarker : Takes 0 decodeMoreMarker := by
  intro cursor more rest hrun
  simp only [decodeMoreMarker, StateT.run] at hrun
  split at hrun
  · cases hrun
    exact Nat.le_refl _
  next marker tail =>
    simp only [List.length_cons]
    split_ifs at hrun <;> cases hrun
    · exact Nat.zero_le _
    · simp only [List.length_drop]
      omega
    · simp only [List.length_drop, List.length_cons]
      omega

/-- A page takes at least its count. -/
theorem takes_decodeSearchResultPageFrom : Takes 1 decodeSearchResultPageFrom :=
  Takes.mono ((takes_getU32 _).bind fun _ => .skip (takes_getMany takes_decodeSearchFile _) fun _ =>
    .skip takes_decodeMoreMarker fun _ => .pure _) (by decide)

theorem takes_decodeFoundSource (fileHash : Ed2kHash) (obfuscated : Bool) :
    Takes 0 (decodeFoundSource fileHash obfuscated) := by
  have hoptions : Takes 0 (decodeSourceOptions obfuscated) :=
    .ite (.skip (takes_getU8 _).zero fun _ =>
      .ite (.skip (takes_getArray _ _).zero fun _ => .pure _) (.pure _)) (.pure _)
  have hfields := (takes_getU32 "short ED2K found-sources entry").zero.skip fun clientId =>
    (takes_getU16 "short ED2K found-sources entry").zero.skip fun tcpPort =>
      hoptions.skip fun options => Takes.pure (⟨fileHash, ipv4FromClientId clientId, tcpPort,
        clientId, isLowId clientId, obfuscated, options.1, options.2, none⟩ : Ed2kFoundSource)
  exact .skip takes_remaining fun _ => .ite (.skip (.throw _ _) fun _ => hfields) hfields

/-- A set of sources takes at least its hash and its count. -/
theorem takes_decodeFoundSourcesFrom (obfuscated : Bool) :
    Takes 1 (decodeFoundSourcesFrom obfuscated) := by
  have hskip : Takes 0 skipChainHeader := by
    intro cursor _ rest hrun
    cases hrun
    split
    · simp
    · exact Nat.le_refl _
  have hsets := ((takes_getArray "short ED2K found-sources payload" 16).map Ed2kHash.mk).bind
    fun fileHash => (takes_getU8 "short ED2K found-sources payload").zero.skip fun count =>
      (takes_getMany (takes_decodeFoundSource fileHash obfuscated) count.toNat).skip fun sources =>
        hskip.skip fun _ => Takes.pure (fileHash, sources)
  exact .skip takes_remaining fun _ =>
    .ite (.skip (.throw _ _) fun _ => hsets.mono (by decide)) (hsets.mono (by decide))

/-- The loop of `decode_udp_search_result_pages`. -/
theorem decodeUdpSearchResultPages_eq {cursor : List UInt8} (hne : cursor ≠ []) :
    decodeUdpSearchResultPages cursor = do
      let (page, rest) ← decodeSearchResultPageFrom.run cursor
      return page :: (← decodeUdpSearchResultPages rest) :=
  decodeAll_eq takes_decodeSearchResultPageFrom hne

/-- The loop of `decode_udp_found_source_sets`. -/
theorem decodeUdpFoundSourceSets_eq {cursor : List UInt8} (hne : cursor ≠ []) :
    decodeUdpFoundSourceSets cursor = do
      let (set, rest) ← (decodeFoundSourcesFrom false).run cursor
      return set :: (← decodeUdpFoundSourceSets rest) :=
  decodeAll_eq (takes_decodeFoundSourcesFrom false) hne

/-! ## Sets of sources -/

/-- `annotate_found_sources_server`. -/
def annotateFoundSourcesServer (results : List Ed2kFoundSource) (serverEndpoint : SocketAddr) :
    List Ed2kFoundSource :=
  results.map fun source => { source with sourceServer := some serverEndpoint }

/-- `validate_found_sources`. -/
def validateFoundSources (results : List Ed2kFoundSource) (expectedFileHash : Ed2kHash) :
    Except String Unit :=
  match results.find? fun source => source.fileHash ≠ expectedFileHash with
  | none => .ok ()
  | some source => .error <| s!"ED2K found-sources reply referenced unexpected file hash " ++
      s!"{source.fileHash.display} expected {expectedFileHash.display}"

/-- `merge_found_sources`. -/
def mergeFoundSources (aggregated new : List Ed2kFoundSource) : List Ed2kFoundSource :=
  new.foldl (fun aggregated source =>
    match aggregated.findIdx? fun existing => existing.ip = source.ip ∧
        existing.tcpPort = source.tcpPort ∧
        existing.obfuscationOptions = source.obfuscationOptions ∧
        existing.userHash = source.userHash with
    | some i => aggregated.modify i fun existing =>
      { existing with sourceServer := existing.sourceServer.or source.sourceServer }
    | none => aggregated ++ [source]) aggregated

end Overlord.Emule
