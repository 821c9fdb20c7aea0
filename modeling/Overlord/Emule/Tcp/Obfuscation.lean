import Overlord.Emule.Tcp.Packet
import Overlord.Wire.KeyStream

/-!
# Obfuscated connections between peers

`ed2k_tcp/obfuscation.rs`.  Both ends of a connection derive two RC4 keys, one for each direction,
from the user hash of the peer that was called and from four random bytes that the caller sends in
the clear.  The first 1024 bytes of a key are thrown away.  The caller opens with a byte that is not
the marker of a plain packet; the rest of the handshake is encrypted already, and what comes after
it goes on with the same keys.

What is drawn at random is an argument here: the opening byte, the random part of the key and the
padding of both sides.  MD5 is a parameter.

* `negotiateRequest` and `negotiateResponse` are the two halves of
  `negotiate_outgoing_obfuscation_handshake`, before and after the write.
* `acceptIncomingObfuscationHandshake` is the other side.
* `reads_accept` and `reads_negotiateResponse`: each side reads what the other one writes, and both
  arrive at the same place in both keys.
-/

set_option autoImplicit false

namespace Overlord.Emule

open Wire

def EMULE_ENCRYPTION_METHOD_OBFUSCATION : UInt8 := 0
def EMULE_TCP_CRYPT_MAGIC_REQUESTER : UInt8 := 34
def EMULE_TCP_CRYPT_MAGIC_SERVER : UInt8 := 203
def EMULE_TCP_CRYPT_MAGIC_SYNC : Nat := 0x835E6FC4
def EMULE_TCP_CRYPT_DISCARD_LEN : Nat := 1024

/-! ## RC4 -/

/-- The state of RC4. -/
structure Rc4KeyStream where
  s : Vector UInt8 256
  i : Fin 256
  j : Fin 256
deriving DecidableEq

namespace Rc4KeyStream

/-- The body of the loop of `apply`. -/
def next (c : Rc4KeyStream) : UInt8 × Rc4KeyStream :=
  let i := c.i + 1
  let j := c.j + (c.s.get i).toFin
  let s := c.s.swap i j
  (s.get ((s.get i).toFin + (s.get j).toFin), ⟨s, i, j⟩)

/-- RC4. -/
def rc4 : KeyStream Rc4KeyStream := ⟨next⟩

/-- A round of the key schedule. -/
def mix (key : List UInt8) (c : Rc4KeyStream) (i : Fin 256) : Rc4KeyStream :=
  let j := c.j + (c.s.get i).toFin + (key.getD (i.val % key.length) 0).toFin
  { c with s := c.s.swap i j, j := j }

/-- `Rc4KeyStream::new`. -/
@[irreducible] def new (key : List UInt8) : Rc4KeyStream :=
  let mixed := (List.finRange 256).foldl (mix key) ⟨Vector.ofFn fun i => UInt8.ofFin i, 0, 0⟩
  (rc4.apply { mixed with i := 0, j := 0 } (List.replicate EMULE_TCP_CRYPT_DISCARD_LEN 0)).2

end Rc4KeyStream

open Rc4KeyStream (rc4)

/-! ## Keys -/

/-- `is_plain_ed2k_protocol_marker`. -/
def isPlainEd2kProtocolMarker (marker : UInt8) : Bool :=
  marker = OP_EDONKEYPROT || marker = OP_PACKEDPROT || marker = OP_EMULEPROT

/-- `random_non_protocol_marker`: the first of the bytes drawn that is not a marker. -/
def randomNonProtocolMarker (draws : List UInt8) : Option UInt8 :=
  draws.find? fun marker => !isPlainEd2kProtocolMarker marker

section Keys

variable (md5 : List UInt8 → Vector UInt8 16)

/-- `derive_obfuscation_key`. -/
def deriveObfuscationKey (userHash : Vector UInt8 16) (magic : UInt8)
    (randomKeyPart : Vector UInt8 4) : Rc4KeyStream :=
  .new (md5 (userHash.toList ++ magic :: randomKeyPart.toList)).toList

/-- The key of what the caller sends. -/
def requesterKey (userHash : Vector UInt8 16) (randomKeyPart : Vector UInt8 4) : Rc4KeyStream :=
  deriveObfuscationKey md5 userHash EMULE_TCP_CRYPT_MAGIC_REQUESTER randomKeyPart

/-- The key of what the called peer sends. -/
def serverKey (userHash : Vector UInt8 16) (randomKeyPart : Vector UInt8 4) : Rc4KeyStream :=
  deriveObfuscationKey md5 userHash EMULE_TCP_CRYPT_MAGIC_SERVER randomKeyPart

end Keys

/-! ## The caller -/

/-- The encrypted part of the request, before it is encrypted. -/
def requestTail (padding : List UInt8) : List UInt8 :=
  toLe 4 EMULE_TCP_CRYPT_MAGIC_SYNC ++ EMULE_ENCRYPTION_METHOD_OBFUSCATION ::
    EMULE_ENCRYPTION_METHOD_OBFUSCATION :: UInt8.ofNat padding.length :: padding

/-- `negotiate_outgoing_obfuscation_handshake`, up to its write: the request, and the key of what
will be sent after it. -/
def negotiateRequest (md5 : List UInt8 → Vector UInt8 16) (peerUserHash : Vector UInt8 16)
    (randomKeyPart : Vector UInt8 4) (marker : UInt8) (padding : List UInt8) :
    List UInt8 × Rc4KeyStream :=
  let sendCipher := requesterKey md5 peerUserHash randomKeyPart
  let encrypted := rc4.apply sendCipher (requestTail padding)
  (marker :: randomKeyPart.toList ++ encrypted.1, encrypted.2)

/-- `read_exact` of the stream. -/
def readExact (n : Nat) : Get String Bytes := getExact "early eof" n

/-- The rest of `negotiate_outgoing_obfuscation_handshake`: read the answer. -/
def negotiateResponse (receiveCipher : Rc4KeyStream) : Get String Rc4KeyStream := do
  let header := rc4.apply receiveCipher (← readExact 6)
  let magic := ofLe (header.1.take 4)
  if magic ≠ EMULE_TCP_CRYPT_MAGIC_SYNC then
    throw ("invalid obfuscated eD2k TCP response magic 0x" ++ Hex.upper 8 magic)
  else if header.1.getD 4 0 ≠ EMULE_ENCRYPTION_METHOD_OBFUSCATION then
    throw ("peer selected unsupported eD2k TCP encryption method 0x" ++
      Hex.upper 2 (header.1.getD 4 0).toNat)
  else
    let paddingLen := (header.1.getD 5 0).toNat
    return (rc4.apply header.2 (← readExact paddingLen)).2

/-! ## The called peer -/

/-- `decode_incoming_obfuscation_header`: the length of the padding, the methods that the caller
knows and the one it asks for. -/
def decodeIncomingObfuscationHeader (receiveCipher : Rc4KeyStream) (encryptedHeader : List UInt8) :
    Except String ((Nat × UInt8 × UInt8) × Rc4KeyStream) :=
  let decrypted := rc4.apply receiveCipher encryptedHeader
  let magic := ofLe (decrypted.1.take 4)
  if magic ≠ EMULE_TCP_CRYPT_MAGIC_SYNC then
    .error ("invalid obfuscated eD2k TCP magic 0x" ++ Hex.upper 8 magic)
  else .ok (((decrypted.1.getD 6 0).toNat, decrypted.1.getD 4 0, decrypted.1.getD 5 0), decrypted.2)

/-- `encode_incoming_obfuscation_response`. -/
def encodeIncomingObfuscationResponse (sendCipher : Rc4KeyStream) (padding : List UInt8) :
    List UInt8 × Rc4KeyStream :=
  rc4.apply sendCipher (toLe 4 EMULE_TCP_CRYPT_MAGIC_SYNC ++
    EMULE_ENCRYPTION_METHOD_OBFUSCATION :: UInt8.ofNat padding.length :: padding)

/-- What the called peer has at the end: the keys of what it will receive and send, and what it has
answered. -/
structure AcceptedHandshake where
  receiveCipher : Rc4KeyStream
  sendCipher : Rc4KeyStream
  response : List UInt8
deriving DecidableEq

/-- `accept_incoming_obfuscation_handshake`.  A method other than obfuscation is only logged. -/
def acceptIncomingObfuscationHandshake (md5 : List UInt8 → Vector UInt8 16)
    (localUserHash : Vector UInt8 16) (firstMarker : UInt8) (responsePadding : List UInt8) :
    Get String AcceptedHandshake := do
  if isPlainEd2kProtocolMarker firstMarker then
    throw ("plaintext marker 0x" ++ Hex.upper 2 firstMarker.toNat ++
      " cannot start obfuscated handshake")
  else
    let randomKeyPart ← getArray "early eof" 4
    let receiveCipher := requesterKey md5 localUserHash randomKeyPart
    let sendCipher := serverKey md5 localUserHash randomKeyPart
    let encryptedHeader ← readExact 7
    match decodeIncomingObfuscationHeader receiveCipher encryptedHeader with
    | .error message => throw message
    | .ok ((paddingLen, _, _), receiveCipher) =>
      let ignoredPadding ← readExact paddingLen
      let response := encodeIncomingObfuscationResponse sendCipher responsePadding
      return ⟨(rc4.apply receiveCipher ignoredPadding).2, response.2, response.1⟩

/-! ## The handshake -/

theorem reads_readExact {n : Nat} {bs : Bytes} (h : bs.length = n) : Reads (readExact n) bs bs :=
  h ▸ reads_getExact _ bs

theorem ofLe_magic : ofLe (toLe 4 EMULE_TCP_CRYPT_MAGIC_SYNC) = EMULE_TCP_CRYPT_MAGIC_SYNC := by
  decide

theorem toNat_length {padding : List UInt8} (h : padding.length ≤ 15) :
    (UInt8.ofNat padding.length).toNat = padding.length := by
  rw [UInt8.toNat_ofNat']
  omega

/-- The fixed part of the request. -/
def requestHeader (padding : List UInt8) : List UInt8 :=
  toLe 4 EMULE_TCP_CRYPT_MAGIC_SYNC ++ [EMULE_ENCRYPTION_METHOD_OBFUSCATION,
    EMULE_ENCRYPTION_METHOD_OBFUSCATION, UInt8.ofNat padding.length]

/-- The fixed part of the answer. -/
def responseHeader (padding : List UInt8) : List UInt8 :=
  toLe 4 EMULE_TCP_CRYPT_MAGIC_SYNC ++
    [EMULE_ENCRYPTION_METHOD_OBFUSCATION, UInt8.ofNat padding.length]

variable {key : Rc4KeyStream} {padding : List UInt8}

/-- Padding is read and thrown away, but it moves the key. -/
theorem reads_padding {α : Type} (key : Rc4KeyStream) (f : Rc4KeyStream → α) :
    Reads (readExact padding.length >>= fun bytes => pure (f (rc4.apply key bytes).2))
      (rc4.apply key padding).1 (f (rc4.apply key padding).2) := by
  have hlength : (rc4.apply key padding).1.length = padding.length := KeyStream.length_apply padding
  have h := (reads_readExact hlength).bind_pure fun bytes => f (rc4.apply key bytes).2
  rwa [KeyStream.apply_apply] at h

theorem decodeIncomingObfuscationHeader_eq (hpadding : padding.length ≤ 15) :
    decodeIncomingObfuscationHeader key (rc4.apply key (requestHeader padding)).1 =
      .ok ((padding.length, EMULE_ENCRYPTION_METHOD_OBFUSCATION,
        EMULE_ENCRYPTION_METHOD_OBFUSCATION), (rc4.apply key (requestHeader padding)).2) := by
  have htake : (requestHeader padding).take 4 = toLe 4 EMULE_TCP_CRYPT_MAGIC_SYNC := rfl
  have hlength : (requestHeader padding).getD 6 0 = UInt8.ofNat padding.length := rfl
  rw [decodeIncomingObfuscationHeader, KeyStream.apply_apply]
  simp only [htake, hlength, ofLe_magic, toNat_length hpadding, ne_eq, not_true_eq_false, if_false]
  rfl

/-- The called peer reads what the caller has written, up to its last byte, and both are then at the
same place in the key. -/
theorem reads_accept (md5 : List UInt8 → Vector UInt8 16) (userHash : Vector UInt8 16)
    (randomKeyPart : Vector UInt8 4) {marker : UInt8}
    (hmarker : isPlainEd2kProtocolMarker marker = false) (hpadding : padding.length ≤ 15)
    (responsePadding : List UInt8) :
    Reads (acceptIncomingObfuscationHandshake md5 userHash marker responsePadding)
      (randomKeyPart.toList ++
        (rc4.apply (requesterKey md5 userHash randomKeyPart) (requestTail padding)).1)
      ⟨(negotiateRequest md5 userHash randomKeyPart marker padding).2,
        (encodeIncomingObfuscationResponse (serverKey md5 userHash randomKeyPart)
          responsePadding).2,
        (encodeIncomingObfuscationResponse (serverKey md5 userHash randomKeyPart)
          responsePadding).1⟩ := by
  have htail : requestTail padding = requestHeader padding ++ padding := by
    simp [requestTail, requestHeader]
  rw [acceptIncomingObfuscationHandshake, if_neg (by simp [hmarker])]
  refine (reads_getArray _ randomKeyPart).bind ?_
  rw [negotiateRequest, htail, KeyStream.apply_append]
  refine (reads_readExact ?_).bind ?_
  · rw [KeyStream.length_apply]
    simp [requestHeader]
  · rw [decodeIncomingObfuscationHeader_eq hpadding]
    exact reads_padding _ fun receiveCipher => AcceptedHandshake.mk receiveCipher _ _

/-- The caller reads what the called peer has answered. -/
theorem reads_negotiateResponse (hpadding : padding.length ≤ 15) :
    Reads (negotiateResponse key) (encodeIncomingObfuscationResponse key padding).1
      (encodeIncomingObfuscationResponse key padding).2 := by
  have hsplit : toLe 4 EMULE_TCP_CRYPT_MAGIC_SYNC ++ EMULE_ENCRYPTION_METHOD_OBFUSCATION ::
      UInt8.ofNat padding.length :: padding = responseHeader padding ++ padding := by
    simp [responseHeader]
  have htake : (responseHeader padding).take 4 = toLe 4 EMULE_TCP_CRYPT_MAGIC_SYNC := rfl
  have hmethod : (responseHeader padding).getD 4 0 = EMULE_ENCRYPTION_METHOD_OBFUSCATION := rfl
  have hlength : (responseHeader padding).getD 5 0 = UInt8.ofNat padding.length := rfl
  rw [negotiateResponse, encodeIncomingObfuscationResponse, hsplit, KeyStream.apply_append]
  refine (reads_readExact ?_).bind ?_
  · rw [KeyStream.length_apply]
    simp [responseHeader]
  · rw [KeyStream.apply_apply]
    simp only [htake, hmethod, hlength, ofLe_magic, toNat_length hpadding, ne_eq, not_true_eq_false,
      if_false]
    exact reads_padding _ id

end Overlord.Emule
