import Overlord.Emule.Server.Results
import Overlord.Emule.Tcp.Obfuscation

/-!
# The background session with a server

The loop of `run_one_server_session`, after the login request was sent.  Other tasks hand it
searches, each with a channel for the answer.  One search is under way at a time: it is sent over
TCP, and over UDP too if there is a socket, and the first reply that looks like an answer to it is
taken as the answer.

A turn of the loop is one step of a state machine (`BackgroundSession.step`); the event says which
branch of the `select!` is ready, and what became of the packets that the turn sends.  The clock,
the connection and the other tasks are the environment.

The channels are numbers.  A reply has a record that the source does not have, the `origin`: the
channel of the search that the server replies to, if it is one of a requester.  It is kept with the
results and with the answers.
-/

set_option autoImplicit false

namespace Overlord.Emule

open Kad (Ed2kHash)
open Wire
open Rc4KeyStream (rc4)

/-! ## The session -/

/-- `BackgroundServerSearchRequest`, with the channel of the answer. -/
inductive BackgroundServerSearchRequest where
  | keyword (query : String) (timeout response : Nat)
  | source (fileHash : Ed2kHash) (fileSize timeout response : Nat)
  | callback (clientId : UInt32) (response : Nat)
deriving DecidableEq, Repr

/-- The channel of a request. -/
def BackgroundServerSearchRequest.response : BackgroundServerSearchRequest → Nat
  | .keyword _ _ response | .source _ _ _ response | .callback _ response => response

/-- `PendingBackgroundServerSearch`. -/
inductive PendingBackgroundServerSearch where
  | keyword (query : String) (deadline : Nat) (results : List Ed2kSearchFile) (pageCount : Nat)
      (response : Nat) (origins : List (Option Nat))
  | source (fileHash : Ed2kHash) (deadline response : Nat)
deriving DecidableEq, Repr

/-- What is sent to a requester. -/
inductive AnswerBody where
  | keyword (files : Except String (List Ed2kSearchFile))
  | source (sources : Except String (List Ed2kFoundSource))
  | callback (outcome : Except String Unit)
deriving DecidableEq

/-- An answer, its channel, and the origins of the replies it was made of. -/
structure BackgroundAnswer where
  response : Nat
  body : AnswerBody
  origins : List (Option Nat)
deriving DecidableEq

/-- `ServerSession`, without the stream and the phase, which is only logged. -/
structure ServerSession where
  loginAccepted : Bool
  probeSearchSent : Bool
  assignedClientId : Option UInt32
  serverFlags : Option UInt32
deriving DecidableEq, Repr

/-- `Ed2kServerState`. -/
structure Ed2kServerState where
  endpoint : Option SocketAddr
  clientId : Option UInt32
  serverFlags : Option UInt32
  serverUsers : Option UInt32
  serverFiles : Option UInt32
  serverName : Option String
  serverDescription : Option String
  connected : Bool
deriving DecidableEq, Repr

/-- The local variables of the loop.  `ended` is what the session returns. -/
structure BackgroundSession where
  session : ServerSession
  state : Ed2kServerState
  queued : Option BackgroundServerSearchRequest
  pending : Option PendingBackgroundServerSearch
  answers : List BackgroundAnswer
  ended : Option (Except String Unit)
deriving DecidableEq

/-- The two kinds of searches. -/
inductive SearchKind where
  | keyword
  | source
deriving DecidableEq, Repr

/-- A search as the server sees it: whose it is, and its kind.  The probe search is nobody's. -/
structure ServerQuery where
  owner : Option Nat
  kind : SearchKind
deriving DecidableEq, Repr

/-- What a turn of the loop sends to the server, as far as a requester is behind it. -/
inductive Transmission where
  | search (opcode : UInt8) (payload : List UInt8) (query : ServerQuery)
  /-- `OP_QUERY_MORE_RESULT`. -/
  | more
  | udpSearch (query : ServerQuery)
  /-- `OP_CALLBACKREQUEST`, which the server passes on to a peer. -/
  | callback (clientId : UInt32)
deriving DecidableEq, Repr

/-- The server, the configuration, and what the model leaves open. -/
structure ServerEnv where
  ip : Ipv4Addr
  /-- `server.base_endpoint()`. -/
  baseEndpoint : SocketAddr
  /-- `session.endpoint`. -/
  endpoint : SocketAddr
  baseEndpointText : String
  endpointText : String
  udpKey : UInt32
  supportsObfuscationUdp : Bool
  connectOptions : UInt8
  probeSearchTerm : Option String
  /-- Whether the UDP socket could be bound. -/
  hasUdpSocket : Bool
  encodeSearchRequest : String → Except String (List UInt8)
  md5 : List UInt8 → Vector UInt8 16

/-- What becomes of the packets of a turn: those of `handle_server_packet`, the search over TCP,
and the search over UDP, whose failure is only logged. -/
structure Writes where
  reply : Except String Unit
  search : Except String Unit
  udp : Bool
deriving DecidableEq

/-! ## Searches -/

def SERVER_TCP_FLAG_TCPOBFUSCATION : UInt32 := 0x400

/-- `encode_source_request`. -/
def encodeSourceRequest (fileHash : Ed2kHash) (fileSize : Nat) : List UInt8 :=
  if fileSize = 0 then fileHash.bytes.toList
  else if 2 ^ 32 ≤ fileSize then fileHash.bytes.toList ++ toLe 4 0 ++ toLe 8 fileSize
  else fileHash.bytes.toList ++ toLe 4 fileSize

/-- `source_request_opcode`. -/
def sourceRequestOpcode (connectOptions : UInt8) (serverFlags : Option UInt32) : UInt8 :=
  if connectOptions ≠ 0 ∧ serverFlags.getD 0 &&& SERVER_TCP_FLAG_TCPOBFUSCATION ≠ 0 then
    OP_GETSOURCES_OBFU
  else OP_GETSOURCES

namespace BackgroundSession

/-- Answer a requester. -/
def reply (s : BackgroundSession) (answer : BackgroundAnswer) : BackgroundSession :=
  { s with answers := s.answers ++ [answer] }

/-- The session returns: its variables are dropped, with the channels in them. -/
def finish (s : BackgroundSession) (result : Except String Unit) : BackgroundSession :=
  { s with queued := none, pending := none, ended := some result }

/-- `fail_background_search_request`. -/
def failQueued (s : BackgroundSession) (error : String) : BackgroundSession :=
  match s.queued with
  | none => s
  | some (.keyword _ _ response) =>
    { s with queued := none }.reply ⟨response, .keyword (.error error), []⟩
  | some (.source _ _ _ response) =>
    { s with queued := none }.reply ⟨response, .source (.error error), []⟩
  | some (.callback _ response) =>
    { s with queued := none }.reply ⟨response, .callback (.error error), []⟩

/-- `fail_pending_background_search`. -/
def failPending (s : BackgroundSession) (error : String) : BackgroundSession :=
  match s.pending with
  | none => s
  | some (.keyword _ _ _ _ response _) =>
    { s with pending := none }.reply ⟨response, .keyword (.error error), []⟩
  | some (.source _ _ response) =>
    { s with pending := none }.reply ⟨response, .source (.error error), []⟩

/-- The packets of a search over UDP. -/
def udpSearches (env : ServerEnv) (writes : Writes) (query : ServerQuery) : List Transmission :=
  if env.hasUdpSocket && writes.udp then [.udpSearch query] else []

/-- `start_background_server_search`, and what the loop does with its result: an error is only
logged. -/
def startBackgroundServerSearch (env : ServerEnv) (s : BackgroundSession) (now : Nat)
    (writes : Writes) : BackgroundServerSearchRequest → BackgroundSession × List Transmission
  | .keyword query timeout response =>
    match env.encodeSearchRequest query with
    | .error _ => (s, [])
    | .ok [] => (s.reply ⟨response, .keyword (.ok []), []⟩, [])
    | .ok payload =>
      match writes.search with
      | .error _ => (s, [])
      | .ok () =>
        ({ s with
            pending := some (.keyword query (now + timeout) [] 0 response []) },
          .search OP_SEARCHREQUEST payload ⟨some response, .keyword⟩ ::
            udpSearches env writes ⟨some response, .keyword⟩)
  | .source fileHash fileSize timeout response =>
    match writes.search with
    | .error _ => (s, [])
    | .ok () =>
      ({ s with pending := some (.source fileHash (now + timeout) response) },
        .search (sourceRequestOpcode env.connectOptions s.session.serverFlags)
          (encodeSourceRequest fileHash fileSize) ⟨some response, .source⟩ ::
            udpSearches env writes ⟨some response, .source⟩)
  | .callback clientId response =>
    match writes.search with
    | .error _ => (s, [])
    | .ok () => (s.reply ⟨response, .callback (.ok ()), []⟩, [.callback clientId])

end BackgroundSession

/-! ## Packets over TCP -/

/-- `IdChangePayload`, without the address, which is only logged. -/
structure IdChangePayload where
  clientId : UInt32
  serverFlags : Option UInt32

def ST_SERVERNAME : UInt8 := 0x01
def ST_DESCRIPTION : UInt8 := 0x0B

/-- `decode_id_change_payload`. -/
def decodeIdChangePayload (payload : List UInt8) : Except String IdChangePayload :=
  if payload.length < 4 then .error "short OP_IDCHANGE payload"
  else .ok ⟨UInt32.ofNat (ofLe (payload.take 4)),
    if 8 ≤ payload.length then some (UInt32.ofNat (ofLe ((payload.drop 4).take 4))) else none⟩

/-- `decode_ed2k_string`. -/
def decodeEd2kString (payload : List UInt8) : Except String (Option String) :=
  if payload.length < 2 then .ok none
  else
    let len := ofLe (payload.take 2)
    if payload.length < len + 2 then .error "short ED2K string payload"
    else .ok (some (fromUtf8Lossy ((payload.drop 2).take len)))

/-- The text of a tag, if it is one. -/
def DecodedTagValue.text? : DecodedTagValue → Option String
  | .string value => some value
  | _ => none

/-- The loop of `decode_server_ident`: the last name and the last description. -/
def decodeIdentTags :
    Nat → Option String × Option String → Get String (Option String × Option String)
  | 0, found => pure found
  | n + 1, found => do
    let (name, value) ← decodeTagValue
    decodeIdentTags n <|
      if name = some ST_SERVERNAME then (value.text?, found.2)
      else if name = some ST_DESCRIPTION then (found.1, value.text?)
      else found

/-- `decode_server_ident`. -/
def decodeServerIdent (payload : List UInt8) : Except String (Option String × Option String) :=
  if payload.length < 26 then .ok (none, none)
  else Prod.fst <$> (decodeIdentTags (ofLe ((payload.drop 22).take 4)) (none, none)).run
    (payload.drop 26)

/-- Two counters at the head of a payload. -/
def decodeCounters (payload : List UInt8) : Option (UInt32 × UInt32) :=
  if 8 ≤ payload.length then
    some (UInt32.ofNat (ofLe (payload.take 4)), UInt32.ofNat (ofLe ((payload.drop 4).take 4)))
  else none

/-- What a handler leaves: the session, what it has sent, and whether it failed. -/
structure Handled where
  session : BackgroundSession
  sent : List Transmission
  result : Except String Unit

namespace BackgroundSession

/-- `maybe_send_probe_search`. -/
def maybeSendProbeSearch (env : ServerEnv) (writes : Writes) (s : BackgroundSession) : Handled :=
  if !s.session.loginAccepted || s.session.probeSearchSent then ⟨s, [], .ok ()⟩
  else match env.probeSearchTerm with
    | none => ⟨s, [], .ok ()⟩
    | some term =>
      match env.encodeSearchRequest term with
      | .error message => ⟨s, [], .error message⟩
      | .ok [] => ⟨s, [], .ok ()⟩
      | .ok payload =>
        match writes.reply with
        | .error message => ⟨s, [], .error message⟩
        | .ok () => ⟨{ s with session := { s.session with probeSearchSent := true } },
            [.search OP_SEARCHREQUEST payload ⟨none, .keyword⟩], .ok ()⟩

/-- The probe search, if it is allowed. -/
def probe (env : ServerEnv) (writes : Writes) (allowProbeSearch : Bool) (s : BackgroundSession) :
    Handled :=
  if allowProbeSearch then s.maybeSendProbeSearch env writes else ⟨s, [], .ok ()⟩

/-- `OP_IDCHANGE`. -/
def handleIdChange (env : ServerEnv) (writes : Writes) (allowProbeSearch : Bool)
    (s : BackgroundSession) (payload : List UInt8) : Handled :=
  match decodeIdChangePayload payload with
  | .error message => ⟨s, [], .error message⟩
  | .ok idChange =>
    if idChange.clientId = 0 then
      ⟨{ s with
          state := { s.state with
            connected := false, clientId := none, serverFlags := idChange.serverFlags }
          session := { s.session with
            assignedClientId := none, serverFlags := idChange.serverFlags
            loginAccepted := false } }, [], .ok ()⟩
    else
      let s := { s with
        state := { s.state with
          connected := true, clientId := some idChange.clientId
          serverFlags := idChange.serverFlags }
        session := { s.session with
          assignedClientId := some idChange.clientId, serverFlags := idChange.serverFlags
          loginAccepted := true } }
      -- `send_connected_server_startup`
      match writes.reply with
      | .error message => ⟨s, [], .error message⟩
      | .ok () => s.probe env writes allowProbeSearch

/-- `OP_SEARCHRESULT`, when it is not an answer to a requester. -/
def handleProbeResult (writes : Writes) (s : BackgroundSession) (payload : List UInt8) : Handled :=
  match decodeSearchResultPage payload with
  | .error message => ⟨s, [], .error message⟩
  | .ok page =>
    if page.moreResultsAvailable then
      match writes.reply with
      | .error message => ⟨s, [], .error message⟩
      | .ok () => ⟨s, [.more], .ok ()⟩
    else ⟨s, [], .ok ()⟩

/-- `OP_SERVERIDENT`. -/
def handleServerIdent (env : ServerEnv) (writes : Writes) (allowProbeSearch : Bool)
    (s : BackgroundSession) (payload : List UInt8) : Handled :=
  match decodeServerIdent payload with
  | .error message => ⟨s, [], .error message⟩
  | .ok (name, description) =>
    probe env writes allowProbeSearch { s with state := { s.state with
      serverName := name.or s.state.serverName
      serverDescription := description.or s.state.serverDescription } }

/-- `handle_server_packet`.  A callback request only starts a task. -/
def handleServerPacket (env : ServerEnv) (writes : Writes) (allowProbeSearch : Bool)
    (s : BackgroundSession) (packet : Ed2kPacket) : Handled :=
  if packet.opcode = OP_IDCHANGE then s.handleIdChange env writes allowProbeSearch packet.payload
  else if packet.opcode = OP_SEARCHRESULT then s.handleProbeResult writes packet.payload
  else if packet.opcode = OP_SERVERSTATUS then
    match decodeCounters packet.payload with
    | none => ⟨s, [], .ok ()⟩
    | some (users, files) => ⟨{ s with state := { s.state with
        serverUsers := some users, serverFiles := some files } }, [], .ok ()⟩
  else if packet.opcode = OP_SERVERIDENT then
    s.handleServerIdent env writes allowProbeSearch packet.payload
  else if packet.opcode = OP_SERVERLIST then s.probe env writes allowProbeSearch
  else if packet.opcode = OP_SERVERMESSAGE then
    match decodeEd2kString packet.payload with
    | .error message => ⟨s, [], .error message⟩
    | .ok _ => s.probe env writes allowProbeSearch
  else if packet.opcode = OP_REJECT then
    ⟨s, [], .error s!"ED2K server {env.endpointText} rejected the last command"⟩
  else ⟨s, [], .ok ()⟩

/-- A page of results for the keyword search that is under way. -/
def handleKeywordPage (writes : Writes) (s : BackgroundSession) (payload : List UInt8)
    (origin : Option Nat) (query : String) (deadline : Nat) (results : List Ed2kSearchFile)
    (pageCount response : Nat) (origins : List (Option Nat)) : Handled :=
  match decodeSearchResultPage payload with
  | .error message => ⟨s, [], .error message⟩
  | .ok page =>
    let results := results ++ page.files
    let origins := origins ++ [origin]
    if page.moreResultsAvailable then
      match writes.reply with
      | .error message => ⟨s, [], .error message⟩
      | .ok () => ⟨{ s with
          pending := some (.keyword query deadline results (pageCount + 1) response origins) },
          [.more], .ok ()⟩
    else ⟨s.reply ⟨response, .keyword (.ok results), origins⟩, [], .ok ()⟩

/-- The sources for the source search that is under way. -/
def handleFoundSources (env : ServerEnv) (s : BackgroundSession) (packet : Ed2kPacket)
    (origin : Option Nat) (fileHash : Ed2kHash) (response : Nat) : Handled :=
  match decodeFoundSources packet.payload (packet.opcode = OP_FOUNDSOURCES_OBFU) with
  | .error message => ⟨s, [], .error message⟩
  | .ok (_, sources) =>
    let results := annotateFoundSourcesServer sources env.endpoint
    match validateFoundSources results fileHash with
    | .error message => ⟨s, [], .error message⟩
    | .ok () => ⟨s.reply ⟨response, .source (.ok results), [origin]⟩, [],
        .ok ()⟩

/-- A packet that is no answer: `handle_server_packet`, and the search that waits for the login. -/
def handleOther (env : ServerEnv) (s : BackgroundSession) (packet : Ed2kPacket) (now : Nat)
    (writes : Writes) : Handled :=
  let handled := s.handleServerPacket env writes (s.queued.isNone && s.pending.isNone) packet
  match handled.result with
  | .error _ => handled
  | .ok () =>
    match handled.session.queued with
    | some request =>
      if handled.session.session.loginAccepted && handled.session.pending.isNone then
        let started := startBackgroundServerSearch env { handled.session with queued := none } now
          writes request
        ⟨started.1, handled.sent ++ started.2, .ok ()⟩
      else handled
    | none => handled

/-- A packet of the server.  The pending search is taken out first, and put back if the packet is no
answer to it. -/
def handleTcpPacket (env : ServerEnv) (s : BackgroundSession) (packet : Ed2kPacket)
    (origin : Option Nat) (now : Nat) (writes : Writes) : Handled :=
  let taken := { s with pending := none }
  match s.pending with
  | some (.keyword query deadline results pageCount response origins) =>
    if packet.opcode = OP_SEARCHRESULT then
      taken.handleKeywordPage writes packet.payload origin query deadline results pageCount response
        origins
    else s.handleOther env packet now writes
  | some (.source fileHash _ response) =>
    if packet.opcode = OP_FOUNDSOURCES ∨ packet.opcode = OP_FOUNDSOURCES_OBFU then
      taken.handleFoundSources env packet origin fileHash response
    else s.handleOther env packet now writes
  | none => s.handleOther env packet now writes

end BackgroundSession

/-! ## Datagrams -/

/-- `Rc4KeyStream::new_without_discard`. -/
@[irreducible] def Rc4KeyStream.newWithoutDiscard (key : List UInt8) : Rc4KeyStream :=
  let zero := (0 : UInt8).toFin
  { (List.finRange 256).foldl (Rc4KeyStream.mix key)
      ⟨Vector.ofFn fun i => UInt8.ofFin i, zero, zero⟩ with i := zero, j := zero }

def EMULE_UDP_CRYPT_HEADER_LEN : Nat := 8
def EMULE_UDP_CRYPT_MAGIC_SYNC_SERVER : Nat := 0x13EF24D5
def EMULE_UDP_CRYPT_MAGIC_SERVER_CLIENT : UInt8 := 0xA5

/-- `derive_server_udp_cipher`, for what the server sends. -/
def deriveServerUdpCipher (env : ServerEnv) (randomKeyPart : List UInt8) : Rc4KeyStream :=
  .newWithoutDiscard (env.md5 (toLe 4 env.udpKey.toNat ++
    EMULE_UDP_CRYPT_MAGIC_SERVER_CLIENT :: randomKeyPart)).toList

/-- `decode_server_udp_datagram`. -/
def decodeServerUdpDatagram (env : ServerEnv) (packet : List UInt8) : Option (List UInt8) :=
  if packet.head? = some OP_EDONKEYPROT then some packet
  else if (env.udpKey = 0 || !env.supportsObfuscationUdp) ||
      packet.length ≤ EMULE_UDP_CRYPT_HEADER_LEN then none
  else
    let cipher := deriveServerUdpCipher env ((packet.drop 1).take 2)
    let decrypted := (rc4.apply cipher (packet.drop 3)).1
    if decrypted.length < 5 then none
    else if ofLe (decrypted.take 4) ≠ EMULE_UDP_CRYPT_MAGIC_SYNC_SERVER then none
    else
      let payloadOffset := 5 + (decrypted.getD 4 0 &&& 0x0F).toNat
      if decrypted.length ≤ payloadOffset then none else some (decrypted.drop payloadOffset)

/-- `ServerUdpPacket`. -/
structure ServerUdpPacket where
  opcode : UInt8
  payload : List UInt8
  sender : SocketAddr
deriving DecidableEq, Repr

/-- `read_server_udp_packet`, with a datagram. -/
def readServerUdpPacket (env : ServerEnv) (datagram : List UInt8) (sender : SocketAddr) :
    Option ServerUdpPacket :=
  match decodeServerUdpDatagram env datagram with
  | some (marker :: opcode :: payload) =>
    if marker = OP_EDONKEYPROT then some ⟨opcode, payload, sender⟩ else none
  | _ => none

/-- The loop over the sets of sources: each is checked, and merged with those before. -/
def aggregateSets (env : ServerEnv) (fileHash : Ed2kHash) :
    List Ed2kFoundSource → List (Ed2kHash × List Ed2kFoundSource) →
      Except String (List Ed2kFoundSource)
  | aggregated, [] => .ok aggregated
  | aggregated, (_, sources) :: sets =>
    let results := annotateFoundSourcesServer sources env.baseEndpoint
    match validateFoundSources results fileHash with
    | .error message => .error message
    | .ok () => aggregateSets env fileHash (mergeFoundSources aggregated results) sets

namespace BackgroundSession

/-- `OP_GLOBSEARCHRES`.  The pending search is taken out, whatever it is. -/
def handleUdpSearchResult (s : BackgroundSession) (payload : List UInt8) (origin : Option Nat) :
    BackgroundSession × Except String Unit :=
  let taken := { s with pending := none }
  match s.pending with
  | some (.keyword _ _ results _ response origins) =>
    match decodeUdpSearchResultPages payload with
    | .error message => (taken, .error message)
    | .ok pages => (taken.reply ⟨response, .keyword (.ok (results ++ pages.flatMap (·.files))),
        origins ++ [origin]⟩, .ok ())
  | _ => (taken, .ok ())

/-- `OP_GLOBFOUNDSOURCES`.  The pending search is taken out, whatever it is. -/
def handleUdpFoundSources (env : ServerEnv) (s : BackgroundSession) (payload : List UInt8)
    (origin : Option Nat) : BackgroundSession × Except String Unit :=
  let taken := { s with pending := none }
  match s.pending with
  | some (.source fileHash _ response) =>
    match decodeUdpFoundSourceSets payload with
    | .error message => (taken, .error message)
    | .ok sets =>
      match aggregateSets env fileHash [] sets with
      | .error message => (taken, .error message)
      | .ok results => (taken.reply ⟨response, .source (.ok results), [origin]⟩, .ok ())
  | _ => (taken, .ok ())

/-- `handle_background_udp_packet`.  The counters of the server are stored only if nobody else has
the lock of the state, which is given. -/
def handleBackgroundUdpPacket (env : ServerEnv) (s : BackgroundSession) (packet : ServerUdpPacket)
    (origin : Option Nat) (stateFree : Bool) : BackgroundSession × Except String Unit :=
  if packet.sender.ip ≠ .v4 env.ip then (s, .ok ())
  else if packet.opcode = OP_GLOBSEARCHRES then s.handleUdpSearchResult packet.payload origin
  else if packet.opcode = OP_GLOBFOUNDSOURCES then
    s.handleUdpFoundSources env packet.payload origin
  else if packet.opcode = OP_GLOBSERVSTATRES then
    match decodeCounters packet.payload with
    | none => (s, .ok ())
    | some (users, files) =>
      if stateFree then
        ({ s with state := { s.state with
            serverUsers := some users, serverFiles := some files } }, .ok ())
      else (s, .ok ())
  else (s, .ok ())

end BackgroundSession

/-! ## The loop -/

/-- The branch of the `select!` that is ready. -/
inductive ServerEvent where
  | shutdown
  | rotate
  | request (request : BackgroundServerSearchRequest) (now : Nat) (writes : Writes)
  | timeout
  | tcp (packet : Ed2kPacket) (origin : Option Nat) (now : Nat) (writes : Writes)
  | closed
  | readError (message : String)
  | udp (datagram : List UInt8) (sender : SocketAddr) (origin : Option Nat) (stateFree : Bool)
  | keepalive (written : Except String Unit)
deriving DecidableEq

namespace BackgroundSession

/-- `clear_server_connection_state`. -/
def clearServerConnectionState (s : BackgroundSession) : BackgroundSession :=
  { s with state := { s.state with
      connected := false, endpoint := none, clientId := none, serverFlags := none } }

/-- An error of a handler ends the session. -/
def orFail (s : BackgroundSession) : Except String Unit → BackgroundSession
  | .ok () => s
  | .error message => s.finish (.error message)

/-- The text of a timeout. -/
def timeoutError : Option PendingBackgroundServerSearch → String
  | some (.source _ _ _) => "ED2K background session search timed out waiting for OP_FOUNDSOURCES"
  | _ => "ED2K background session search timed out waiting for OP_SEARCHRESULT"

/-- No search is queued and none is pending. -/
def isIdle (s : BackgroundSession) : Bool := s.queued.isNone && s.pending.isNone

/-- A turn of the loop. -/
def step (env : ServerEnv) (s : BackgroundSession) (event : ServerEvent) :
    Option (BackgroundSession × List Transmission) :=
  if s.ended.isSome then none
  else match event with
    | .shutdown =>
      let s := s.failQueued "ED2K background session is shutting down before search dispatch"
      let s := s.failPending "ED2K background session is shutting down before search completion"
      some (s.clearServerConnectionState.finish (.ok ()), [])
    | .rotate =>
      if s.isIdle then some (s.clearServerConnectionState.finish (.ok ()), []) else none
    | .request request now writes =>
      if !s.isIdle then none
      else if s.session.loginAccepted then
        some (startBackgroundServerSearch env s now writes request)
      else some ({ s with queued := some request }, [])
    | .timeout =>
      if s.pending.isNone then none else some (s.failPending (timeoutError s.pending), [])
    | .tcp packet origin now writes =>
      let handled := s.handleTcpPacket env packet origin now writes
      some (handled.session.orFail handled.result, handled.sent)
    | .closed =>
      let closedError := s!"ED2K server {env.baseEndpointText} closed the connection"
      let s := s.failQueued s!"{closedError} before search dispatch"
      let s := s.failPending s!"{closedError} before search completion"
      some (s.finish (.error closedError), [])
    | .readError message => some (s.finish (.error message), [])
    | .udp datagram sender origin stateFree =>
      if !env.hasUdpSocket then none
      else match readServerUdpPacket env datagram sender with
        | none => some (s, [])
        | some packet =>
          let handled := s.handleBackgroundUdpPacket env packet origin stateFree
          some (handled.1.orFail handled.2, [])
    | .keepalive written => some (s.orFail written, [])

end BackgroundSession

end Overlord.Emule
