import Overlord.Emule.Tcp.Packet

/-!
# The hello of a peer

`ed2k_tcp/hello.rs`.  A peer introduces itself with its user hash, its client id, its TCP port and a
list of tags.  In an `OP_HELLO` a byte with the length of the hash comes first, in an answer it does
not.

Two functions read an `OP_HELLO`, and they find the hash in different ways: `decodeHelloProfile`
skips the first byte if it is the length, and `isMuleHello`, on which `buildHelloResponses` depends,
skips the first byte whatever it is.  The body is read by the same function from there on.

## What is here

* `decodeHelloProfile_eq`, `isMuleHello_eq` — what either of them reads (`HelloReading`), with all
  tags, and what it makes of it.
* `readHello_ok` — a hello that is read begins with the head it is read to have, and the payload has
  a byte at least for each of the tags that the head announces.
* `decodeHelloProfile_helloRequestPayload` — what is read of the hello that the agent itself sends.
* `hello_decoders_agree` — which payloads the two decoders agree on.  Without the length in front,
  a payload is read once from its first and once from its second byte.  Both can be accepted, but
  they say the same only if all the bytes of the head are equal (`take_eq_zeros`), and this leaves
  room for the tags only if they are zeros.
-/

set_option autoImplicit false

namespace Overlord.Emule.Hello

open Wire

def EMULE_PROTOCOL_VERSION : UInt8 := 0x01
def EDONKEY_VERSION : UInt32 := 0x3C
def EMULE_VERSION_MAJOR : UInt32 := 0
def EMULE_VERSION_MINOR : UInt32 := 72
def EMULE_VERSION_UPDATE : UInt32 := 0
def EMULE_VERSION_SHORT : UInt8 := 72
def EMULE_SECURE_IDENT_VERSION : UInt32 := 3
def EMULE_INFO_FEATURES : UInt32 := 3
def EMULE_ADVERTISED_KAD_VERSION : UInt32 := 10
def EMULE_CRYPT_SUPPORTS : UInt8 := 0x01
def EMULE_CRYPT_REQUESTS : UInt8 := 0x02

def TAGTYPE_STRING : UInt8 := 0x02
def TAGTYPE_UINT32 : UInt8 := 0x03
def TAGTYPE_FLOAT32 : UInt8 := 0x04
def TAGTYPE_BOOL : UInt8 := 0x05
def TAGTYPE_BOOLARRAY : UInt8 := 0x06
def TAGTYPE_BLOB : UInt8 := 0x07
def TAGTYPE_UINT16 : UInt8 := 0x08
def TAGTYPE_UINT8 : UInt8 := 0x09
def TAGTYPE_UINT64 : UInt8 := 0x0B
def TAGTYPE_STR1 : UInt8 := 0x11
def TAG_SHORT_NAME_MASK : UInt8 := 0x80

def CT_NAME : UInt8 := 0x01
def CT_VERSION : UInt8 := 0x11
def CT_EMULE_UDPPORTS : UInt8 := 0xF9
def CT_EMULE_MISCOPTIONS1 : UInt8 := 0xFA
def CT_EMULE_VERSION : UInt8 := 0xFB
def CT_EMULE_MISCOPTIONS2 : UInt8 := 0xFE

def ET_COMPRESSION : UInt8 := 0x20
def ET_UDPPORT : UInt8 := 0x21
def ET_UDPVER : UInt8 := 0x22
def ET_SOURCEEXCHANGE : UInt8 := 0x23
def ET_COMMENTS : UInt8 := 0x24
def ET_EXTENDEDREQUEST : UInt8 := 0x25
def ET_FEATURES : UInt8 := 0x27

/-- The bytes of `HELLO_NICKNAME`, which is `eMule`. -/
def HELLO_NICKNAME : Bytes := [0x65, 0x4D, 0x75, 0x6C, 0x65]

/-! ## Writing -/

/-- `Ed2kHelloIdentity`. -/
structure Ed2kHelloIdentity where
  userHash : Vector UInt8 16
  clientId : UInt32
  tcpPort : UInt16
  udpPort : UInt16
  serverIp : UInt32
  serverPort : UInt16
  connectOptions : UInt8
  directUdpCallback : Bool
deriving DecidableEq, Repr

/-- `encode_ed2k_short_tag_header`. -/
def encodeEd2kShortTagHeader (typeByte name : UInt8) : Bytes := typeByte :: putU16 1 ++ [name]

/-- `push_ed2k_u32_tag`. -/
def pushEd2kU32Tag (name : UInt8) (value : UInt32) : Bytes :=
  encodeEd2kShortTagHeader TAGTYPE_UINT32 name ++ putU32 value

/-- `ed2k_string_tag_type`. -/
def ed2kStringTagType (len : Nat) : UInt8 :=
  if 1 ≤ len ∧ len ≤ 16 then TAGTYPE_STR1 + UInt8.ofNat (len - 1) else TAGTYPE_STRING

/-- `push_ed2k_string_tag`.  A text is less than 64 KiB long; the source panics otherwise. -/
def pushEd2kStringTag (name : UInt8) (value : Bytes) : Bytes :=
  let typeByte := ed2kStringTagType value.length
  encodeEd2kShortTagHeader typeByte name ++
    (if typeByte = TAGTYPE_STRING then putU16 (UInt16.ofNat value.length) else []) ++ value

/-- `emule_misc_options1`. -/
def emuleMiscOptions1 : UInt32 :=
  let supportsAich : UInt32 := 1
  let supportsUnicode : UInt32 := 1
  let udpVersion : UInt32 := 4
  let dataCompressionVersion : UInt32 := 1
  let secureIdentVersion := EMULE_SECURE_IDENT_VERSION
  let sourceExchangeVersion : UInt32 := 4
  let extendedRequestsVersion : UInt32 := 2
  let commentsVersion : UInt32 := 1
  let peerCache : UInt32 := 0
  let noViewSharedFiles : UInt32 := 1
  let multipacket : UInt32 := 1
  let previewSupported : UInt32 := 0
  supportsAich <<< 29 ||| supportsUnicode <<< 28 ||| udpVersion <<< 24 |||
    dataCompressionVersion <<< 20 ||| secureIdentVersion <<< 16 ||| sourceExchangeVersion <<< 12 |||
    extendedRequestsVersion <<< 8 ||| commentsVersion <<< 4 ||| peerCache <<< 3 |||
    noViewSharedFiles <<< 2 ||| multipacket <<< 1 ||| previewSupported

/-- `emule_misc_options2`. -/
def emuleMiscOptions2 (connectOptions : UInt8) (directUdpCallback : Bool) : UInt32 :=
  let supportsFileIdentifiers : UInt32 := 1
  let directUdpCallback := directUdpCallback.toUInt32
  let supportsCaptcha : UInt32 := 0
  let supportsSourceExchange2 : UInt32 := 1
  let requiresCryptLayer : UInt32 := 0
  let requestsCryptLayer := (connectOptions &&& EMULE_CRYPT_REQUESTS != 0).toUInt32
  let supportsCryptLayer := (connectOptions &&& EMULE_CRYPT_SUPPORTS != 0).toUInt32
  let extMultipacket : UInt32 := 1
  let supportsLargeFiles : UInt32 := 1
  supportsFileIdentifiers <<< 13 ||| directUdpCallback <<< 12 ||| supportsCaptcha <<< 11 |||
    supportsSourceExchange2 <<< 10 ||| requiresCryptLayer <<< 9 ||| requestsCryptLayer <<< 8 |||
    supportsCryptLayer <<< 7 ||| extMultipacket <<< 5 ||| supportsLargeFiles <<< 4 |||
    EMULE_ADVERTISED_KAD_VERSION

/-- `emule_version_tag`. -/
def emuleVersionTag : UInt32 :=
  EMULE_VERSION_MAJOR <<< 17 ||| EMULE_VERSION_MINOR <<< 10 ||| EMULE_VERSION_UPDATE <<< 7

/-- `append_recent_emule_hello_tags`, after the count. -/
def recentEmuleHelloTags (identity : Ed2kHelloIdentity) : List Bytes :=
  [pushEd2kStringTag CT_NAME HELLO_NICKNAME,
    pushEd2kU32Tag CT_VERSION EDONKEY_VERSION,
    pushEd2kU32Tag CT_EMULE_UDPPORTS
      (identity.udpPort.toUInt32 <<< 16 ||| identity.udpPort.toUInt32),
    pushEd2kU32Tag CT_EMULE_MISCOPTIONS1 emuleMiscOptions1,
    pushEd2kU32Tag CT_EMULE_MISCOPTIONS2
      (emuleMiscOptions2 identity.connectOptions identity.directUdpCallback),
    pushEd2kU32Tag CT_EMULE_VERSION emuleVersionTag]

/-- `encode_hello_type_payload`.  Requests and answers carry the same tags. -/
def encodeHelloTypePayload (identity : Ed2kHelloIdentity) : Bytes :=
  identity.userHash.toList ++ putU32 identity.clientId ++ putU16 identity.tcpPort ++ putU32 6 ++
    (recentEmuleHelloTags identity).flatten ++ putU32 identity.serverIp ++
    putU16 identity.serverPort

/-- The payload of `encode_hello_request`. -/
def helloRequestPayload (identity : Ed2kHelloIdentity) : Bytes :=
  16 :: encodeHelloTypePayload identity

/-- `encode_hello_answer`. -/
def encodeHelloAnswer (identity : Ed2kHelloIdentity) : Bytes :=
  encodePacket ⟨OP_EDONKEYPROT, OP_HELLOANSWER, encodeHelloTypePayload identity⟩

/-- `encode_emule_info_payload`. -/
def encodeEmuleInfoPayload (kadUdpPort : UInt16) : Bytes :=
  EMULE_VERSION_SHORT :: EMULE_PROTOCOL_VERSION :: putU32 7 ++
    pushEd2kU32Tag ET_COMPRESSION 1 ++ pushEd2kU32Tag ET_UDPVER 4 ++
    pushEd2kU32Tag ET_UDPPORT kadUdpPort.toUInt32 ++ pushEd2kU32Tag ET_SOURCEEXCHANGE 3 ++
    pushEd2kU32Tag ET_COMMENTS 1 ++ pushEd2kU32Tag ET_EXTENDEDREQUEST 2 ++
    pushEd2kU32Tag ET_FEATURES EMULE_INFO_FEATURES

/-- `encode_emule_info_request`. -/
def encodeEmuleInfoRequest (kadUdpPort : UInt16) : Bytes :=
  encodePacket ⟨OP_EMULEPROT, OP_EMULEINFO, encodeEmuleInfoPayload kadUdpPort⟩

/-! ## Reading -/

/-- Fail unless so many bytes are left. -/
def needBytes (n : Nat) (message : String) : Get String Unit := fun s =>
  if s.length < n then .error message else .ok ((), s)

/-- `DecodedHelloTag`, without the bytes after it. -/
structure DecodedHelloTag where
  tagName : Option UInt8
  baseType : UInt8
  value : Bytes
deriving DecidableEq, Repr

/-- The name of a tag: one byte, or a text of which only one of one byte is kept. -/
def decodeHelloTagName (shortName : Bool) : Get String (Option UInt8) := do
  if shortName then
    let name ← getU8 "short eD2k hello tag header"
    return some name
  else
    let nameLen ← getU16 "short eD2k hello long-name length"
    let name ← getExact "short eD2k hello long-name bytes" nameLen.toNat
    return if nameLen = 1 then name.head? else none

/-- The value of a tag of some type. -/
def decodeHelloTagValue (baseType : UInt8) : Get String Bytes := do
  if baseType = TAGTYPE_STRING then
    let len ← getU16 "short eD2k hello string tag length"
    getExact "short eD2k hello string tag value" len.toNat
  else if TAGTYPE_STR1 ≤ baseType ∧ baseType ≤ 0x20 then
    getExact "short eD2k hello compact string tag value" (baseType - TAGTYPE_STR1 + 1).toNat
  else if baseType = TAGTYPE_UINT32 ∨ baseType = TAGTYPE_FLOAT32 then
    getExact "short eD2k hello 32-bit tag value" 4
  else if baseType = TAGTYPE_UINT64 then
    getExact "short eD2k hello uint64 tag value" 8
  else if baseType = TAGTYPE_UINT16 then
    getExact "short eD2k hello uint16 tag value" 2
  else if baseType = TAGTYPE_UINT8 ∨ baseType = TAGTYPE_BOOL then
    getExact "short eD2k hello uint8/bool tag value" 1
  else if baseType = TAGTYPE_BOOLARRAY then
    -- the value keeps the length in bits in front
    let bits ← getExact "short eD2k hello bool-array tag length" 2
    let array ← getExact "short eD2k hello bool-array tag value" (ofLe bits / 8 + 1)
    return bits ++ array
  else if baseType = TAGTYPE_BLOB then
    let len ← getU32 "short eD2k hello blob tag length"
    getExact "short eD2k hello blob tag value" len.toNat
  else if baseType = 0x01 then
    getExact "short eD2k hello hash tag value" 16
  else
    throw ("unsupported eD2k hello tag type 0x" ++ Hex.upper 2 baseType.toNat)

/-- `decode_hello_tag`. -/
def decodeHelloTag : Get String DecodedHelloTag := do
  needBytes 2 "short eD2k hello tag header"
  let typeByte ← getU8 "short eD2k hello tag header"
  let baseType := typeByte &&& ~~~TAG_SHORT_NAME_MASK
  let tagName ← decodeHelloTagName (typeByte &&& TAG_SHORT_NAME_MASK != 0)
  let value ← decodeHelloTagValue baseType
  return { tagName, baseType, value }

/-- `decode_hello_tag_u32`. -/
def decodeHelloTagU32 (tag : DecodedHelloTag) : Option UInt32 :=
  if tag.baseType = TAGTYPE_UINT32 ∨ tag.baseType = TAGTYPE_FLOAT32 then
    if tag.value.length = 4 then some (UInt32.ofNat (ofLe tag.value)) else none
  else if tag.baseType = TAGTYPE_UINT16 then
    if tag.value.length = 2 then some (UInt32.ofNat (ofLe tag.value)) else none
  else if tag.baseType = TAGTYPE_UINT8 ∨ tag.baseType = TAGTYPE_BOOL then
    tag.value.head?.map UInt8.toUInt32
  else none

/-- `DecodedHelloIdentity`. -/
structure DecodedHelloIdentity where
  userHash : Vector UInt8 16
  clientId : UInt32
  tcpPort : UInt16
deriving DecidableEq, Repr

/-- `DecodedHelloProfile`. -/
structure DecodedHelloProfile where
  identity : DecodedHelloIdentity
  isMuleHello : Bool := false
  supportsAich : Bool := false
  supportsSecureIdent : Bool := false
  supportsMultipacket : Bool := false
  supportsExtMultipacket : Bool := false
  sourceExchangeVersion : UInt8 := 0
  supportsSourceExchange : Bool := false
  supportsSourceExchange2 : Bool := false
  supportsFileIdentifiers : Bool := false
deriving DecidableEq, Repr

/-- What the body of the loop does with a tag. -/
def DecodedHelloProfile.absorb (profile : DecodedHelloProfile) (tag : DecodedHelloTag) :
    DecodedHelloProfile :=
  let profile :=
    if tag.tagName = some CT_EMULE_VERSION then { profile with isMuleHello := true } else profile
  let profile :=
    match decodeHelloTagU32 tag with
    | some miscOptions2 =>
      if tag.tagName = some CT_EMULE_MISCOPTIONS2 then
        { profile with
          supportsFileIdentifiers := miscOptions2 >>> 13 &&& 1 != 0
          supportsSourceExchange2 := miscOptions2 >>> 10 &&& 1 != 0
          supportsExtMultipacket := miscOptions2 >>> 5 &&& 1 != 0 }
      else profile
    | none => profile
  match decodeHelloTagU32 tag with
  | some miscOptions1 =>
    if tag.tagName = some CT_EMULE_MISCOPTIONS1 then
      { profile with
        supportsAich := miscOptions1 >>> 29 &&& 0x07 &&& 0x01 != 0
        supportsSecureIdent := miscOptions1 >>> 16 &&& 0x0F != 0
        sourceExchangeVersion := (miscOptions1 >>> 12 &&& 0x0F).toUInt8
        supportsSourceExchange := (miscOptions1 >>> 12 &&& 0x0F).toUInt8 != 0
        supportsMultipacket := miscOptions1 >>> 1 &&& 1 != 0 }
    else profile
  | none => profile

/-- The loop over the tags. -/
def decodeHelloTags : Nat → DecodedHelloProfile → Get String DecodedHelloProfile
  | 0, profile => return profile
  | n + 1, profile => do
    let tag ← decodeHelloTag
    decodeHelloTags n (profile.absorb tag)

/-- The part before the tags, and their count. -/
def decodeHelloHead : Get String (DecodedHelloIdentity × Nat) := do
  needBytes (16 + 4 + 2 + 4) "short eD2k hello identity payload"
  let userHash ← getArray "short eD2k hello user hash" 16
  let clientId ← getU32 "short eD2k hello identity payload"
  let tcpPort ← getU16 "short eD2k hello identity payload"
  let tagCount ← getU32 "short eD2k hello identity payload"
  return ({ userHash, clientId, tcpPort }, tagCount.toNat)

/-- `decode_hello_profile_from_type_payload`.  What follows the tags is not looked at. -/
def decodeHelloProfileFromTypePayload (typePayload : Bytes) :
    Except String DecodedHelloProfile :=
  let profile : Get String DecodedHelloProfile := do
    let (identity, tagCount) ← decodeHelloHead
    decodeHelloTags tagCount { identity }
  (profile.run typePayload).map (·.1)

/-- Where `decode_hello_profile` expects the hash. -/
def profileBody : Bytes → Bytes
  | [] => []
  | b :: rest => if b = 16 then rest else b :: rest

/-- `decode_hello_profile`. -/
def decodeHelloProfile (payload : Bytes) : Except String DecodedHelloProfile :=
  decodeHelloProfileFromTypePayload (profileBody payload)

/-- `is_mule_hello_type_payload`. -/
def isMuleHelloTypePayload (payload : Bytes) : Except String Bool :=
  return (← decodeHelloProfileFromTypePayload payload).isMuleHello

/-- `is_mule_hello`. -/
def isMuleHello (payload : Bytes) : Except String Bool :=
  if payload.length < 1 + 16 + 4 + 2 + 4 then .error "short eD2k OP_HELLO payload"
  else isMuleHelloTypePayload (payload.drop 1)

/-- `build_hello_responses`. -/
def buildHelloResponses (incomingPayload : Bytes) (responseIdentity : Ed2kHelloIdentity) :
    Except String (List Bytes) := do
  let mule ← isMuleHello incomingPayload
  return (if mule then [] else [encodeEmuleInfoRequest responseIdentity.udpPort]) ++
    [encodeHelloAnswer responseIdentity]

/-! ## What is read -/

/-- What a hello says, before anything is made of it. -/
structure HelloReading where
  identity : DecodedHelloIdentity
  tags : List DecodedHelloTag
deriving DecidableEq

/-- The profile that the loop makes of the tags. -/
def HelloReading.profile (reading : HelloReading) : DecodedHelloProfile :=
  reading.tags.foldl DecodedHelloProfile.absorb { identity := reading.identity }

/-- The identity and all the tags. -/
def getHello : Get String HelloReading := do
  let (identity, tagCount) ← decodeHelloHead
  let tags ← getMany tagCount decodeHelloTag
  return { identity, tags }

/-- Read a hello whose hash is in front. -/
def readHello (typePayload : Bytes) : Except String HelloReading :=
  (getHello.run typePayload).map (·.1)

theorem decodeHelloTags_eq (n : Nat) (profile : DecodedHelloProfile) :
    decodeHelloTags n profile =
      (fun tags => tags.foldl DecodedHelloProfile.absorb profile) <$> getMany n decodeHelloTag := by
  induction n generalizing profile with
  | zero => simp [decodeHelloTags, getMany]
  | succ n ih => simp [decodeHelloTags, getMany, ih]

theorem decodeHelloProfileFromTypePayload_eq (typePayload : Bytes) :
    decodeHelloProfileFromTypePayload typePayload =
      (readHello typePayload).map HelloReading.profile := by
  have hget : (do
      let (identity, tagCount) ← decodeHelloHead
      decodeHelloTags tagCount { identity } : Get String DecodedHelloProfile) =
      HelloReading.profile <$> getHello := by
    simp [getHello, decodeHelloTags_eq, HelloReading.profile]
  rw [decodeHelloProfileFromTypePayload, hget, readHello, StateT.run_map]
  cases getHello.run typePayload <;> rfl

/-- What `decodeHelloProfile` reads. -/
def profileReading (payload : Bytes) : Except String HelloReading := readHello (profileBody payload)

/-- What `isMuleHello` reads. -/
def muleReading (payload : Bytes) : Except String HelloReading :=
  if payload.length < 1 + 16 + 4 + 2 + 4 then .error "short eD2k OP_HELLO payload"
  else readHello (payload.drop 1)

theorem decodeHelloProfile_eq (payload : Bytes) :
    decodeHelloProfile payload = (profileReading payload).map HelloReading.profile :=
  decodeHelloProfileFromTypePayload_eq (profileBody payload)

theorem isMuleHello_eq (payload : Bytes) :
    isMuleHello payload =
      (muleReading payload).map fun reading => reading.profile.isMuleHello := by
  rw [isMuleHello, muleReading]
  split_ifs
  · rfl
  · rw [isMuleHelloTypePayload, decodeHelloProfileFromTypePayload_eq]
    cases readHello (payload.drop 1) <;> rfl

/-- The responses depend on the test alone. -/
theorem buildHelloResponses_ok_iff (payload : Bytes) (identity : Ed2kHelloIdentity) :
    (∃ replies, buildHelloResponses payload identity = .ok replies) ↔
      ∃ mule, isMuleHello payload = .ok mule := by
  rw [buildHelloResponses]
  cases isMuleHello payload with
  | error e => exact iff_of_false (fun ⟨_, h⟩ => absurd h nofun) (fun ⟨_, h⟩ => absurd h nofun)
  | ok mule => exact iff_of_true ⟨_, rfl⟩ ⟨mule, rfl⟩

/-- A payload that is too short for the head is refused. -/
theorem readHello_of_short {typePayload : Bytes} (h : typePayload.length < 16 + 4 + 2 + 4) :
    readHello typePayload = .error "short eD2k hello identity payload" := by
  have hhead : decodeHelloHead.run typePayload = .error "short eD2k hello identity payload" := by
    have hneed : (needBytes (16 + 4 + 2 + 4) "short eD2k hello identity payload").run typePayload =
        .error "short eD2k hello identity payload" := if_pos h
    rw [decodeHelloHead, StateT.run_bind, hneed]
    rfl
  have hget : getHello.run typePayload = .error "short eD2k hello identity payload" := by
    rw [getHello, StateT.run_bind, hhead]
    rfl
  rw [readHello, hget]
  rfl

theorem toOption_muleReading (payload : Bytes) :
    (muleReading payload).toOption = (readHello (payload.drop 1)).toOption := by
  rw [muleReading]
  split_ifs with hshort
  · rw [readHello_of_short (by rw [List.length_drop]; omega)]
    rfl
  · rfl

/-! ## The head -/

theorem reads_needBytes {α : Type} {n : Nat} {message : String} {g : Get String α} {bs : Bytes}
    {a : α} (hn : n ≤ bs.length) (hg : Reads g bs a) :
    Reads (needBytes n message >>= fun _ => g) bs a := by
  intro rest
  have hneed : (needBytes n message).run (bs ++ rest) = .ok ((), bs ++ rest) :=
    if_neg (by rw [List.length_append]; omega)
  rw [StateT.run_bind, hneed]
  exact hg rest

/-- The bytes before the tags. -/
def headBytes (identity : DecodedHelloIdentity) (tagCount : UInt32) : Bytes :=
  identity.userHash.toList ++ (putU32 identity.clientId ++
    (putU16 identity.tcpPort ++ putU32 tagCount))

theorem length_headBytes (identity : DecodedHelloIdentity) (tagCount : UInt32) :
    (headBytes identity tagCount).length = 26 := by
  simp [headBytes]

theorem reads_decodeHelloHead (identity : DecodedHelloIdentity) (tagCount : UInt32) :
    Reads decodeHelloHead (headBytes identity tagCount) (identity, tagCount.toNat) := by
  refine reads_needBytes (length_headBytes identity tagCount).ge ?_
  exact (reads_getArray _ _).bind ((reads_getU32 _ _).bind
    ((reads_getU16 _ _).bind ((reads_getU32 _ tagCount).bind_pure _)))

theorem exists_putU32 {bs : Bytes} (h : bs.length = 4) : ∃ v, putU32 v = bs := by
  refine ⟨UInt32.ofNat (ofLe bs), ?_⟩
  have hlt := ofLe_lt bs
  rw [h] at hlt
  rw [putU32, UInt32.toNat_ofNat_of_lt' hlt, ← h, toLe_ofLe]

theorem exists_putU16 {bs : Bytes} (h : bs.length = 2) : ∃ v, putU16 v = bs := by
  refine ⟨UInt16.ofNat (ofLe bs), ?_⟩
  have hlt := ofLe_lt bs
  rw [h] at hlt
  rw [putU16, UInt16.toNat_ofNat_of_lt' hlt, ← h, toLe_ofLe]

/-- Any bytes are the head of some hello, if there are enough of them. -/
theorem exists_headBytes {bs : Bytes} (h : bs.length = 26) :
    ∃ identity tagCount, headBytes identity tagCount = bs := by
  obtain ⟨clientId, hid⟩ := @exists_putU32 ((bs.drop 16).take 4) (by simp [h])
  obtain ⟨tcpPort, hport⟩ := @exists_putU16 ((bs.drop 20).take 2) (by simp [h])
  obtain ⟨tagCount, hcount⟩ := @exists_putU32 (bs.drop 22) (by simp [h])
  refine ⟨⟨⟨(bs.take 16).toArray, by simp [h]⟩, clientId, tcpPort⟩, tagCount, ?_⟩
  have hhash : (⟨(bs.take 16).toArray, by simp [h]⟩ : Vector UInt8 16).toList = bs.take 16 := by
    simp [← Vector.toList_toArray]
  rw [headBytes, hhash, hid, hport, hcount]
  have hlast : (bs.drop 20).take 2 ++ bs.drop 22 = bs.drop 20 :=
    (List.drop_drop (i := 2) (j := 20) (l := bs)) ▸ List.take_append_drop 2 (bs.drop 20)
  have hmiddle : (bs.drop 16).take 4 ++ bs.drop 20 = bs.drop 16 :=
    (List.drop_drop (i := 4) (j := 16) (l := bs)) ▸ List.take_append_drop 4 (bs.drop 16)
  rw [hlast, hmiddle, List.take_append_drop]

theorem takes_decodeHelloTag : Takes 1 decodeHelloTag := by
  have hneed : Takes 0 (needBytes 2 "short eD2k hello tag header") := by
    intro s a s' hrun
    change (if s.length < 2 then _ else _) = _ at hrun
    split at hrun
    · cases hrun
    · cases hrun
      exact Nat.le_refl _
  have hname : ∀ shortName, Takes 0 (decodeHelloTagName shortName) := fun shortName =>
    .ite ((takes_getU8 _).zero.bind fun _ => .pure _)
      ((takes_getU16 _).zero.bind fun _ => (takes_getExact _ _).zero.bind fun _ => .pure _)
  have hexact : ∀ (eof : String) (n : Nat), Takes 0 (getExact eof n) :=
    fun eof n => (takes_getExact eof n).zero
  have hvalue : ∀ baseType, Takes 0 (decodeHelloTagValue baseType) := fun baseType =>
    .ite ((takes_getU16 _).zero.bind fun _ => hexact _ _) <| .ite (hexact _ _) <|
      .ite (hexact _ _) <| .ite (hexact _ _) <| .ite (hexact _ _) <| .ite (hexact _ _) <|
      .ite ((hexact _ _).bind fun _ => (hexact _ _).bind fun _ => .pure _) <|
      .ite ((takes_getU32 _).zero.bind fun _ => hexact _ _) <| .ite (hexact _ _) (.throw _ _)
  exact hneed.skip fun _ => (takes_getU8 _).bind fun _ =>
    (hname _).bind fun _ => (hvalue _).bind fun _ => .pure _

/-- **A hello that is read** begins with the head that it is read to have, and there are as many
tags as the head announces. -/
theorem readHello_ok {typePayload : Bytes} {reading : HelloReading}
    (h : readHello typePayload = .ok reading) :
    ∃ tagCount, typePayload.take 26 = headBytes reading.identity tagCount ∧
      tagCount.toNat ≤ typePayload.length ∧ tagCount.toNat = reading.tags.length := by
  have hlong : 26 ≤ typePayload.length := by
    by_contra hshort
    rw [readHello_of_short (not_le.mp hshort)] at h
    cases h
  obtain ⟨identity, tagCount, hhead⟩ := @exists_headBytes (typePayload.take 26) (by simpa)
  have hrun : getHello.run typePayload =
      (getMany tagCount.toNat decodeHelloTag >>= fun tags => pure ⟨identity, tags⟩ :
        Get String HelloReading).run (typePayload.drop 26) := by
    have hrest := (reads_decodeHelloHead identity tagCount) (typePayload.drop 26)
    rw [hhead, List.take_append_drop] at hrest
    exact run_bind_of_ok hrest
  rw [readHello] at h
  cases hget : getHello.run typePayload with
  | error e =>
    rw [hget] at h
    cases h
  | ok out =>
    rw [hget] at h
    obtain ⟨reading', left⟩ := out
    obtain rfl : reading' = reading := Except.ok.inj h
    obtain ⟨tags, rest, htags, hpure⟩ := run_bind_ok (hrun.symm.trans hget)
    cases hpure
    have hlength := ((yields_getMany (.trivial decodeHelloTag) _).of_run htags).1
    have htaken := takes_getMany takes_decodeHelloTag _ _ _ _ htags
    refine ⟨tagCount, hhead.symm, ?_, hlength.symm⟩
    rw [List.length_drop] at htaken
    omega

/-! ## The hello that the agent sends -/

section Own

/-- A tag of the agent is read back whole. -/
theorem reads_decodeHelloTag {typeByte name : UInt8} {value : Bytes}
    (hlong : (typeByte &&& TAG_SHORT_NAME_MASK != 0) = false)
    (hvalue : Reads (decodeHelloTagValue (typeByte &&& ~~~TAG_SHORT_NAME_MASK)) value value) :
    Reads decodeHelloTag (encodeEd2kShortTagHeader typeByte name ++ value)
      ⟨some name, typeByte &&& ~~~TAG_SHORT_NAME_MASK, value⟩ := by
  have hname : Reads (decodeHelloTagName false) (putU16 1 ++ [name]) (some name) :=
    (reads_getU16 _ 1).bind ((reads_getExact _ [name]).bind_pure _)
  refine reads_needBytes (by simp [encodeEd2kShortTagHeader]; omega) ?_
  change Reads _ ([typeByte] ++ ((putU16 1 ++ [name]) ++ value)) _
  refine (reads_getU8 _ typeByte).bind ?_
  rw [hlong]
  exact hname.bind (hvalue.bind_pure _)

theorem reads_pushEd2kU32Tag (name : UInt8) (value : UInt32) :
    Reads decodeHelloTag (pushEd2kU32Tag name value) ⟨some name, TAGTYPE_UINT32, putU32 value⟩ := by
  have h := reads_getExact "short eD2k hello 32-bit tag value" (putU32 value)
  rw [length_putU32] at h
  exact reads_decodeHelloTag rfl h

theorem reads_nickname :
    Reads decodeHelloTag (pushEd2kStringTag CT_NAME HELLO_NICKNAME)
      ⟨some CT_NAME, 0x15, HELLO_NICKNAME⟩ :=
  reads_decodeHelloTag rfl
    (reads_getExact "short eD2k hello compact string tag value" HELLO_NICKNAME)

/-- What the hello of an identity says. -/
def ownReading (identity : Ed2kHelloIdentity) : HelloReading where
  identity := ⟨identity.userHash, identity.clientId, identity.tcpPort⟩
  tags :=
    [⟨some CT_NAME, 0x15, HELLO_NICKNAME⟩,
      ⟨some CT_VERSION, TAGTYPE_UINT32, putU32 EDONKEY_VERSION⟩,
      ⟨some CT_EMULE_UDPPORTS, TAGTYPE_UINT32,
        putU32 (identity.udpPort.toUInt32 <<< 16 ||| identity.udpPort.toUInt32)⟩,
      ⟨some CT_EMULE_MISCOPTIONS1, TAGTYPE_UINT32, putU32 emuleMiscOptions1⟩,
      ⟨some CT_EMULE_MISCOPTIONS2, TAGTYPE_UINT32,
        putU32 (emuleMiscOptions2 identity.connectOptions identity.directUdpCallback)⟩,
      ⟨some CT_EMULE_VERSION, TAGTYPE_UINT32, putU32 emuleVersionTag⟩]

theorem reads_getMany_flatten {α : Type} {g : Get String α} {bss : List Bytes} {as : List α}
    (h : List.Forall₂ (Reads g) bss as) : Reads (getMany as.length g) bss.flatten as := by
  induction h with
  | nil => exact Reads.pure []
  | cons ha _ ih => exact ha.bind (ih.bind_pure _)

theorem reads_recentEmuleHelloTags (identity : Ed2kHelloIdentity) :
    Reads (getMany 6 decodeHelloTag) (recentEmuleHelloTags identity).flatten
      (ownReading identity).tags :=
  reads_getMany_flatten (.cons reads_nickname
    (.cons (reads_pushEd2kU32Tag _ _) (.cons (reads_pushEd2kU32Tag _ _)
      (.cons (reads_pushEd2kU32Tag _ _) (.cons (reads_pushEd2kU32Tag _ _)
        (.cons (reads_pushEd2kU32Tag _ _) .nil))))))

/-- **The agent's own hello is read back**, whatever server it names at its end. -/
theorem readHello_encodeHelloTypePayload (identity : Ed2kHelloIdentity) :
    readHello (encodeHelloTypePayload identity) = .ok (ownReading identity) := by
  have hget : Reads getHello _ (ownReading identity) :=
    (reads_decodeHelloHead (ownReading identity).identity 6).bind
      ((reads_recentEmuleHelloTags identity).bind_pure _)
  have hrun := hget (putU32 identity.serverIp ++ putU16 identity.serverPort)
  rw [readHello, encodeHelloTypePayload]
  simp only [headBytes, ownReading, List.append_assoc] at hrun ⊢
  rw [hrun]
  rfl

theorem decodeHelloTagU32_putU32 (name : Option UInt8) (value : UInt32) :
    decodeHelloTagU32 ⟨name, TAGTYPE_UINT32, putU32 value⟩ = some value := by
  have hvalue : UInt32.ofNat (ofLe (putU32 value)) = value := by
    rw [putU32, ofLe_toLe, show 256 ^ 4 = 2 ^ 32 from rfl, Nat.mod_eq_of_lt value.toNat_lt,
      UInt32.ofNat_toNat]
  rw [decodeHelloTagU32, if_pos (.inl rfl), if_pos (length_putU32 value), hvalue]

/-- The features that the agent announces do not depend on its options. -/
theorem emuleMiscOptions2_bits (connectOptions : UInt8) (directUdpCallback : Bool) :
    let options := emuleMiscOptions2 connectOptions directUdpCallback
    (options >>> 13 &&& 1 != 0) = true ∧ (options >>> 10 &&& 1 != 0) = true ∧
      (options >>> 5 &&& 1 != 0) = true := by
  rw [emuleMiscOptions2]
  generalize (connectOptions &&& EMULE_CRYPT_REQUESTS != 0) = requests
  generalize (connectOptions &&& EMULE_CRYPT_SUPPORTS != 0) = supports
  revert directUdpCallback requests supports
  decide

/-- **The profile of the agent itself.** -/
theorem decodeHelloProfile_helloRequestPayload (identity : Ed2kHelloIdentity) :
    decodeHelloProfile (helloRequestPayload identity) = .ok
      { identity := ⟨identity.userHash, identity.clientId, identity.tcpPort⟩
        isMuleHello := true
        supportsAich := true
        supportsSecureIdent := true
        supportsMultipacket := true
        supportsExtMultipacket := true
        sourceExchangeVersion := 4
        supportsSourceExchange := true
        supportsSourceExchange2 := true
        supportsFileIdentifiers := true } := by
  obtain ⟨hbit13, hbit10, hbit5⟩ :=
    emuleMiscOptions2_bits identity.connectOptions identity.directUdpCallback
  rw [decodeHelloProfile_eq, profileReading, helloRequestPayload, profileBody, if_pos rfl,
    readHello_encodeHelloTypePayload]
  refine congrArg Except.ok ?_
  simp only [HelloReading.profile, ownReading, List.foldl_cons, List.foldl_nil,
    DecodedHelloProfile.absorb, decodeHelloTagU32_putU32, hbit13, hbit10, hbit5]
  rfl

end Own

/-! ## Agreement -/

/-- **The two decoders agree on a payload**: one accepts it exactly when the other does, and then
they read the same. -/
structure HelloAgree (payload : Bytes) : Prop where
  accept : (∃ profile, decodeHelloProfile payload = .ok profile) ↔
    ∃ mule, isMuleHello payload = .ok mule
  respond : ∀ identity, (∃ profile, decodeHelloProfile payload = .ok profile) ↔
    ∃ replies, buildHelloResponses payload identity = .ok replies
  read : ∀ reading reading', profileReading payload = .ok reading →
    muleReading payload = .ok reading' → reading = reading'

theorem exists_map_ok_iff {α β : Type} {x : Except String α} {f : α → β} :
    (∃ b, x.map f = .ok b) ↔ ∃ a, x = .ok a := by
  cases x with
  | error e => exact iff_of_false (fun ⟨_, h⟩ => absurd h nofun) (fun ⟨_, h⟩ => absurd h nofun)
  | ok a => exact iff_of_true ⟨_, rfl⟩ ⟨a, rfl⟩

theorem exists_ok_iff_isSome {α : Type} {x : Except String α} :
    (∃ a, x = .ok a) ↔ x.toOption.isSome = true := by
  cases x with
  | error e => exact iff_of_false (fun ⟨_, h⟩ => absurd h nofun) nofun
  | ok a => exact iff_of_true ⟨a, rfl⟩ rfl

theorem helloAgree_iff_toOption (payload : Bytes) :
    HelloAgree payload ↔
      (profileReading payload).toOption = (readHello (payload.drop 1)).toOption := by
  have haccept : (∃ profile, decodeHelloProfile payload = .ok profile) ↔
      ∃ reading, profileReading payload = .ok reading := by
    rw [decodeHelloProfile_eq, exists_map_ok_iff]
  have hmule : (∃ mule, isMuleHello payload = .ok mule) ↔
      ∃ reading, muleReading payload = .ok reading := by
    rw [isMuleHello_eq, exists_map_ok_iff]
  rw [← toOption_muleReading]
  constructor
  · intro h
    have hsame := haccept.symm.trans (h.accept.trans hmule)
    have hread := h.read
    cases hprofile : profileReading payload with
    | error e =>
      rw [hprofile] at hsame
      cases hm : muleReading payload with
      | error e' => rfl
      | ok reading' =>
        obtain ⟨_, habs⟩ := hsame.mpr ⟨reading', hm⟩
        exact absurd habs nofun
    | ok reading =>
      obtain ⟨reading', hm⟩ := hsame.mp ⟨reading, hprofile⟩
      rw [hm, hread reading reading' hprofile hm]
  · intro h
    have hsame : (∃ reading, profileReading payload = .ok reading) ↔
        ∃ reading, muleReading payload = .ok reading := by
      rw [exists_ok_iff_isSome, exists_ok_iff_isSome, h]
    refine ⟨haccept.trans (hsame.trans hmule.symm), fun identity => ?_, fun r r' hr hr' => ?_⟩
    · rw [buildHelloResponses_ok_iff]
      exact haccept.trans (hsame.trans hmule.symm)
    · rw [hr, hr'] at h
      exact Option.some.inj h

theorem profileReading_of_bare {payload : Bytes} (h : payload.head? ≠ some 16) :
    profileReading payload = readHello payload := by
  cases payload with
  | nil => rfl
  | cons b rest => rw [profileReading, profileBody, if_neg fun hb => h (congrArg some hb)]

/-- When the length of the hash is not in front, the payload has to say the same from its first byte
as from its second. -/
theorem helloAgree_iff_of_bare {payload : Bytes} (h : payload.head? ≠ some 16) :
    HelloAgree payload ↔
      (readHello payload).toOption = (readHello (payload.drop 1)).toOption := by
  rw [helloAgree_iff_toOption, profileReading_of_bare h]

theorem helloAgree_of_length {payload : Bytes} (h : payload.head? = some 16) :
    HelloAgree payload := by
  cases payload with
  | nil => cases h
  | cons b rest =>
    rw [helloAgree_iff_toOption, profileReading, profileBody, if_pos (Option.some.inj h)]
    rfl

/-- Zeros are a hello without tags. -/
theorem readHello_zeros {typePayload : Bytes} (h : typePayload.take 26 = List.replicate 26 0) :
    readHello typePayload = .ok ⟨⟨Vector.replicate 16 0, 0, 0⟩, []⟩ := by
  have hget : Reads getHello (List.replicate 26 0) ⟨⟨Vector.replicate 16 0, 0, 0⟩, []⟩ := by
    have hhead : headBytes ⟨Vector.replicate 16 0, 0, 0⟩ 0 ++ [] = List.replicate 26 0 := by decide
    rw [← hhead]
    exact (reads_decodeHelloHead _ 0).bind ((Reads.pure []).bind_pure _)
  have hrun := hget (typePayload.drop 26)
  rw [← h, List.take_append_drop] at hrun
  rw [readHello, hrun]
  rfl

/-- A list that begins like its own tail repeats its first element. -/
theorem take_succ_eq_replicate {α : Type} {n : Nat} {b : α} {l : List α}
    (h : (b :: l).take n = l.take n) (hlen : n ≤ l.length) :
    (b :: l).take (n + 1) = List.replicate (n + 1) b := by
  rw [List.take_succ_cons, List.replicate_succ]
  congr 1
  induction n generalizing b l with
  | zero => rfl
  | succ n ih =>
    cases l with
    | nil => exact absurd hlen (Nat.not_succ_le_zero n)
    | cons c l =>
      rw [List.take_succ_cons, List.take_succ_cons] at h
      obtain ⟨rfl, hrest⟩ := List.cons.inj h
      rw [List.take_succ_cons, List.replicate_succ, ih hrest (Nat.le_of_succ_le_succ hlen)]

/-- Four times the same byte is a large count, unless they are zeros. -/
theorem ofLe_replicate_four (b : UInt8) : ofLe (List.replicate 4 b) = b.toNat * 16843009 := by
  simp only [List.replicate, ofLe]
  omega

/-- **A hello that is read the same from its second byte** begins with zeros: all bytes of its head
are the same, and any other byte would announce more tags than fit. -/
theorem take_eq_zeros {payload : Bytes} {reading : HelloReading}
    (h : readHello payload = .ok reading) (hnext : readHello (payload.drop 1) = .ok reading)
    (hsize : payload.length < 2 ^ 24) : payload.take 27 = List.replicate 27 0 := by
  obtain ⟨tagCount, hhead, hle, hcount⟩ := readHello_ok h
  obtain ⟨tagCount', hhead', -, hcount'⟩ := readHello_ok hnext
  obtain rfl : tagCount = tagCount' := UInt32.toNat_inj.mp (hcount.trans hcount'.symm)
  have hsame := hhead.trans hhead'.symm
  have hlength := congrArg List.length hhead'
  rw [length_headBytes, List.length_take, List.length_drop] at hlength
  cases payload with
  | nil => simp at hlength
  | cons b rest =>
    rw [List.length_cons] at hlength
    have hall := take_succ_eq_replicate hsame (by omega)
    -- the last four bytes of the head are the count
    have hbytes : putU32 tagCount = List.replicate 4 b := by
      have hhead26 : headBytes reading.identity tagCount = List.replicate 26 b := by
        have := congrArg (List.take 26) hall
        rwa [List.take_take, List.take_replicate, Nat.min_eq_left (by decide), hhead] at this
      have hdrop := congrArg (List.drop 22) hhead26
      rw [headBytes, ← List.append_assoc, ← List.append_assoc, List.drop_left'] at hdrop
      · rwa [List.drop_replicate] at hdrop
      · simp
    have hvalue : tagCount.toNat = b.toNat * 16843009 := by
      rw [← ofLe_replicate_four, ← hbytes, putU32, ofLe_toLe]
      exact (Nat.mod_eq_of_lt tagCount.toNat_lt).symm
    have hzero : b = 0 := UInt8.toNat_inj.mp (by rw [UInt8.toNat_zero]; omega)
    rw [hall, hzero]

/-- **When the two decoders of a hello agree.**  They do when the length of the hash is in front,
when the payload is too short for a hello, and when it begins with zeros.  A hello of less than
16 MiB that `decode_hello_profile` accepts and on which they agree is one of these. -/
theorem hello_decoders_agree (payload : Bytes) :
    (payload.head? = some 16 ∨ payload.length < 16 + 4 + 2 + 4 ∨
        payload.take 27 = List.replicate 27 0 → HelloAgree payload) ∧
      (HelloAgree payload → payload.length < 2 ^ 24 →
        (∃ profile, decodeHelloProfile payload = .ok profile) →
        payload.head? = some 16 ∨ payload.take 27 = List.replicate 27 0) := by
  constructor
  · intro h
    by_cases hbare : payload.head? = some 16
    · exact helloAgree_of_length hbare
    · rw [helloAgree_iff_of_bare hbare]
      rcases h.resolve_left hbare with hshort | hzeros
      · rw [readHello_of_short hshort,
          readHello_of_short (by rw [List.length_drop]; omega)]
      · have hfirst := congrArg (List.take 26) hzeros
        have hnext := congrArg (List.drop 1) hzeros
        rw [List.take_take, List.take_replicate] at hfirst
        rw [List.drop_take, List.drop_replicate] at hnext
        rw [readHello_zeros hfirst, readHello_zeros hnext]
  · intro hagree hsize haccept
    by_cases hbare : payload.head? = some 16
    · exact .inl hbare
    · rw [helloAgree_iff_of_bare hbare] at hagree
      rw [decodeHelloProfile_eq, exists_map_ok_iff, profileReading_of_bare hbare] at haccept
      obtain ⟨reading, hread⟩ := haccept
      have hnext : readHello (payload.drop 1) = .ok reading := by
        rw [hread] at hagree
        cases hdrop : readHello (payload.drop 1) with
        | error e =>
          rw [hdrop] at hagree
          cases hagree
        | ok reading' =>
          rw [hdrop] at hagree
          exact congrArg Except.ok (Option.some.inj hagree).symm
      exact .inr (take_eq_zeros hread hnext hsize)

/-- A hello with the length of the hash in front. -/
theorem hello_decoders_agree_sample : HelloAgree (16 :: List.replicate 26 1) :=
  (hello_decoders_agree (16 :: List.replicate 26 1)).1 (.inl rfl)

/-- Hellos without the length of the hash: sixteen bytes of a hash, a client id and a port of
zero, no tags, and what follows. -/
def bareHello (trailer : Nat) : Bytes :=
  (List.range 16).map (fun i => UInt8.ofNat (i + 1)) ++ List.replicate (10 + trailer) 0

/-- **The decoders disagree.**  The first hello is accepted and gets no response; the second is read
by both, but not with the same hash. -/
theorem bare_hello_read_twice :
    (decodeHelloProfile (bareHello 0)).isOk = true ∧
      isMuleHello (bareHello 0) = .error "short eD2k OP_HELLO payload" ∧
      (profileReading (bareHello 6)).map (fun r => r.identity.userHash.toList.head?) =
        .ok (some 1) ∧
      (muleReading (bareHello 6)).map (fun r => r.identity.userHash.toList.head?) =
        .ok (some 2) := by
  decide +kernel

end Overlord.Emule.Hello
