import Overlord.Data.Keyed
import Overlord.Machine.Run
import Overlord.Net.Addr

/-!
# The upload queue

`ed2k_transfer/upload_queue.rs`: who may download from this agent now, and who waits.  A session is
*waiting*, *granted* a slot, or *uploading* on it.  Sessions live in a hash map; a separate vector,
`waitingOrder`, names the waiting ones in the order they came, and their rank is computed from a
score.  Every public call first drops the sessions that have been idle for too long and hands free
slots to the best waiters.

Two keys are the same when they agree on everything but the friend flag of the peer
(`UploadSessionKey.ident`); the hash map and the vector compare keys in this sense.  The `expect`s
of the ranking and the `unreachable!` of `begin_session` are modelled: a call that reaches one has
no result.

* `UploadQueueState` with `beginSession`, `pollSession`, `noteRequestParts` and `releaseSession`.
* `Call` and `step` are the queue as a machine.
-/

set_option autoImplicit false

namespace Overlord.Emule

/-- The policy of the queue.  Durations and times are in nanoseconds. -/
structure UploadQueueConfig where
  /-- Sessions that may have a slot at the same time. -/
  activeSlots : Nat
  /-- Sessions that may wait at the same time. -/
  waitingCapacity : Nat
  waitingTimeout : Nat
  grantedTimeout : Nat
  uploadTimeout : Nat
deriving DecidableEq, Repr

/-- A peer, as the queue tells peers apart. -/
structure UploadPeerIdentity where
  ip : IpAddr
  tcpPort : UInt16
  userHash : Option (Vector UInt8 16)
  clientId : Option UInt32
  /-- Whether the peer has the friend slot; not part of its identity. -/
  friendSlot : Bool
deriving DecidableEq, Repr

/-- What `PartialEq` and `Hash` of a peer look at. -/
structure PeerIdent where
  ip : IpAddr
  tcpPort : UInt16
  userHash : Option (Vector UInt8 16)
  clientId : Option UInt32
deriving DecidableEq, Repr

def UploadPeerIdentity.ident (peer : UploadPeerIdentity) : PeerIdent :=
  ⟨peer.ip, peer.tcpPort, peer.userHash, peer.clientId⟩

/-- A peer and the file it asks for. -/
structure UploadSessionKey where
  peer : UploadPeerIdentity
  fileHash : String
deriving DecidableEq, Repr

/-- What `PartialEq` and `Hash` of a key look at. -/
structure KeyIdent where
  peer : PeerIdent
  fileHash : String
deriving DecidableEq, Repr

def UploadSessionKey.ident (key : UploadSessionKey) : KeyIdent := ⟨key.peer.ident, key.fileHash⟩

/-- What a connection keeps to refer to its session. -/
structure UploadSessionHandle where
  key : UploadSessionKey
  connectionId : Nat
deriving DecidableEq, Repr

/-- What a peer is told. -/
inductive UploadSessionStatus where
  | waiting (rank : Nat)
  | granted
  /-- Expired, cancelled, or taken over by another connection. -/
  | stale
deriving DecidableEq, Repr

inductive UploadSessionPhase where
  | waiting
  | granted
  | uploading
deriving DecidableEq, Repr

/-- Whether a session has a slot. -/
def UploadSessionPhase.isActive : UploadSessionPhase → Bool
  | .waiting => false
  | .granted => true
  | .uploading => true

/-- An entry of the session map, with its key. -/
structure UploadSession where
  key : UploadSessionKey
  phase : UploadSessionPhase
  connectionId : Nat
  queuedAt : Nat
  lastActivity : Nat
  waitingSequence : Nat
deriving DecidableEq, Repr

/-- The identity a session is stored under. -/
def UploadSession.ident (session : UploadSession) : KeyIdent := session.key.ident

structure UploadQueueState where
  config : UploadQueueConfig
  sessions : List UploadSession
  waitingOrder : List UploadSessionKey
  nextWaitingSequence : Nat
deriving DecidableEq, Repr

def DEFAULT_FILE_PRIORITY_SCORE : Int := 7

def FRIEND_SLOT_SCORE_BONUS : Int := 1000000000

/-- `friend_slot_score`. -/
def friendSlotScore (friendSlot : Bool) : Int := if friendSlot then FRIEND_SLOT_SCORE_BONUS else 0

/-- `file_priority_score`: every file has the normal priority. -/
def filePriorityScore (_key : UploadSessionKey) : Int := DEFAULT_FILE_PRIORITY_SCORE

/-- `is_low_id_client_id`. -/
def isLowIdClientId (clientId : UInt32) : Bool := clientId ≠ 0 ∧ clientId < 0x01000000

namespace UploadQueueState

/-- `Ed2kUploadQueueState::new`. -/
def new (config : UploadQueueConfig) : UploadQueueState := ⟨config, [], [], 1⟩

/-- `sessions.get`. -/
def getSession (q : UploadQueueState) (key : UploadSessionKey) : Option UploadSession :=
  Keyed.get UploadSession.ident key.ident q.sessions

/-- `sessions.remove`. -/
def removeSession (q : UploadQueueState) (key : UploadSessionKey) : UploadQueueState :=
  { q with sessions := Keyed.remove UploadSession.ident key.ident q.sessions }

/-- `sessions.insert`, under the key the session carries. -/
def insertSession (q : UploadQueueState) (session : UploadSession) : UploadQueueState :=
  { q with sessions := Keyed.insert UploadSession.ident session q.sessions }

/-- `sessions.get_mut`, and what is done to the session found. -/
def modifySession (q : UploadQueueState) (key : UploadSessionKey)
    (f : UploadSession → UploadSession) : UploadQueueState :=
  { q with sessions := Keyed.modify UploadSession.ident key.ident f q.sessions }

/-- `waiting_order.retain(|queued| queued != key)`. -/
def unqueue (q : UploadQueueState) (key : UploadSessionKey) : UploadQueueState :=
  { q with waitingOrder := q.waitingOrder.filter (·.ident ≠ key.ident) }

/-- `active_session_count`. -/
def activeSessionCount (q : UploadQueueState) : Nat := q.sessions.countP (·.phase.isActive)

/-- `session_key_for_peer`. -/
def sessionKeyForPeer (q : UploadQueueState) (peer : UploadPeerIdentity) :
    Option UploadSessionKey :=
  (q.sessions.find? (·.key.peer.ident = peer.ident)).map (·.key)

/-! ## Ranking -/

/-- `waiting_score`: seconds of waiting, weighted by the priority of the file, and a bonus for a
friend with a high identifier. -/
def waitingScore (key : UploadSessionKey) (session : UploadSession) (now : Nat) : Int :=
  let waitingSeconds : Int := ((now - session.queuedAt) / 1000000000 : Nat)
  let friendSlot := key.peer.friendSlot && !(key.peer.clientId.any isLowIdClientId)
  waitingSeconds * filePriorityScore key + friendSlotScore friendSlot

/-- The order of the ranking: higher score first, then lower sequence number. -/
def ranksBefore (now : Nat) (left right : UploadSessionKey × UploadSession) : Bool :=
  ((compare (waitingScore right.1 right.2 now) (waitingScore left.1 left.2 now)).then
    (compare left.2.waitingSequence right.2.waitingSequence)).isLE

/-- `ranked_waiting_keys`.  The comparisons expect to find the sessions of both keys. -/
def rankedWaitingKeys (q : UploadQueueState) (now : Nat) : Option (List UploadSessionKey) := do
  let ranked := q.waitingOrder.filter fun key =>
    (q.getSession key).any (·.phase = .waiting)
  let sessions ← ranked.mapM fun key => (q.getSession key).map (key, ·)
  return (sessions.mergeSort (ranksBefore now)).map Prod.fst

/-- `best_waiting_key`. -/
def bestWaitingKey (q : UploadQueueState) (now : Nat) : Option (Option UploadSessionKey) :=
  (q.rankedWaitingKeys now).map (·.head?)

/-- `worst_waiting_key`. -/
def worstWaitingKey (q : UploadQueueState) (now : Nat) : Option (Option UploadSessionKey) :=
  (q.rankedWaitingKeys now).map (·.getLast?)

/-- `rank_for_key`. -/
def rankForKey (q : UploadQueueState) (key : UploadSessionKey) (now : Nat) : Option Nat := do
  let ranked ← q.rankedWaitingKeys now
  match ranked.findIdx? (·.ident = key.ident) with
  | none => return 0
  | some position => return min (position + 1) 65535

/-- `status_for_key`. -/
def statusForKey (q : UploadQueueState) (key : UploadSessionKey) (now : Nat) :
    Option UploadSessionStatus :=
  match (q.getSession key).map UploadSession.phase with
  | some .waiting => (q.rankForKey key now).map .waiting
  | some .granted => some .granted
  | some .uploading => some .granted
  | none => some .stale

/-! ## The steps inside a call -/

/-- `replace_waiting_key`: the first occurrence of a key becomes another one. -/
def replaceWaitingKey (q : UploadQueueState) (existingKey newKey : UploadSessionKey) :
    UploadQueueState :=
  { q with waitingOrder :=
      match q.waitingOrder.findIdx? (·.ident = existingKey.ident) with
      | some i => q.waitingOrder.set i newKey
      | none => q.waitingOrder }

/-- The loop of `trim_waiting_queue`, at most `fuel` rounds of it.  Each round takes a key out of
the order, so its length is enough. -/
def trimLoop (now : Nat) : Nat → UploadQueueState → Option UploadQueueState
  | 0, q => some q
  | fuel + 1, q =>
    if q.config.waitingCapacity < q.waitingOrder.length then do
      match ← q.worstWaitingKey now with
      | none => return q
      | some evicted => trimLoop now fuel ((q.removeSession evicted).unqueue evicted)
    else return q

/-- `trim_waiting_queue`. -/
def trimWaitingQueue (q : UploadQueueState) (now : Nat) : Option UploadQueueState :=
  trimLoop now q.waitingOrder.length q

/-- The loop of `promote_waiters`, at most `fuel` rounds of it.  Each round takes a key out of the
order, so its length is enough. -/
def promoteLoop (now : Nat) : Nat → UploadQueueState → Option UploadQueueState
  | 0, q => some q
  | fuel + 1, q =>
    if q.activeSessionCount < q.config.activeSlots then do
      match ← q.bestWaitingKey now with
      | none => return q
      | some nextKey =>
        promoteLoop now fuel ((q.unqueue nextKey).modifySession nextKey fun session =>
          { session with phase := .granted, lastActivity := now })
    else return q

/-- `promote_waiters`. -/
def promoteWaiters (q : UploadQueueState) (now : Nat) : Option UploadQueueState :=
  promoteLoop now q.waitingOrder.length q

/-- The idle time a session is allowed. -/
def timeoutOf (config : UploadQueueConfig) : UploadSessionPhase → Nat
  | .waiting => config.waitingTimeout
  | .granted => config.grantedTimeout
  | .uploading => config.uploadTimeout

/-- `reap_expired_sessions`. -/
def reapExpiredSessions (q : UploadQueueState) (now : Nat) : Option UploadQueueState :=
  let expired := (q.sessions.filter fun session =>
    timeoutOf q.config session.phase < now - session.lastActivity).map (·.key)
  (expired.foldl (fun q key => (q.removeSession key).unqueue key) q).promoteWaiters now

/-! ## The calls -/

/-- The part of `begin_session` that gives a new peer a session: with a slot if one is free, else at
the end of the order. -/
def admitSession (q : UploadQueueState) (key : UploadSessionKey) (connectionId now : Nat) :
    UploadQueueState :=
  let granted := q.activeSessionCount < q.config.activeSlots
  let waitingSequence := q.nextWaitingSequence
  insertSession
    { q with
      waitingOrder := if granted then q.waitingOrder else q.waitingOrder ++ [key]
      nextWaitingSequence := min (waitingSequence + 1) (2 ^ 64 - 1) }
    { key := key
      phase := if granted then .granted else .waiting
      connectionId := connectionId
      queuedAt := now
      lastActivity := now
      waitingSequence := waitingSequence }

/-- `begin_session`. -/
def beginSession (q : UploadQueueState) (key : UploadSessionKey) (connectionId now : Nat) :
    Option (UploadSessionStatus × UploadQueueState) := do
  let q ← q.reapExpiredSessions now
  match q.sessionKeyForPeer key.peer with
  | some existingKey =>
    -- a reconnect, possibly for another file: the session moves to the new key
    let session ← q.getSession existingKey
    let q := q.removeSession existingKey
    let q := if session.phase = .waiting then q.replaceWaitingKey existingKey key else q
    let q := q.insertSession
      { session with key := key, connectionId := connectionId, lastActivity := now }
    return (← q.statusForKey key now, q)
  | none =>
    let q ← (q.admitSession key connectionId now).trimWaitingQueue now
    return (← q.statusForKey key now, q)

/-- `poll_session`. -/
def pollSession (q : UploadQueueState) (handle : UploadSessionHandle) (now : Nat)
    (refreshActivity : Bool) : Option (UploadSessionStatus × UploadQueueState) := do
  let q ← q.reapExpiredSessions now
  match q.getSession handle.key with
  | none => return (.stale, q)
  | some session =>
    if session.connectionId ≠ handle.connectionId then return (.stale, q)
    else
      let q := if refreshActivity then
        q.modifySession handle.key fun session => { session with lastActivity := now } else q
      return (← q.statusForKey handle.key now, q)

/-- `note_request_parts`. -/
def noteRequestParts (q : UploadQueueState) (handle : UploadSessionHandle) (now : Nat) :
    Option (UploadSessionStatus × UploadQueueState) := do
  let q ← q.reapExpiredSessions now
  match q.getSession handle.key with
  | none => return (.stale, q)
  | some session =>
    if session.connectionId ≠ handle.connectionId then return (.stale, q)
    else
      let q := q.modifySession handle.key fun session => { session with lastActivity := now }
      if session.phase.isActive then
        return (.granted,
          q.modifySession handle.key fun session => { session with phase := .uploading })
      else return (← q.statusForKey handle.key now, q)

/-- `release_session`. -/
def releaseSession (q : UploadQueueState) (handle : UploadSessionHandle) (now : Nat) :
    Option UploadQueueState := do
  match q.getSession handle.key with
  | none => return q
  | some session =>
    if session.connectionId ≠ handle.connectionId then return q
    else
      let q := q.removeSession handle.key
      let q := if session.phase = .waiting then q.unqueue handle.key else q
      let q ← q.reapExpiredSessions now
      q.promoteWaiters now

/-- A call of the listener. -/
inductive Call where
  | beginSession (key : UploadSessionKey) (connectionId now : Nat)
  | pollSession (handle : UploadSessionHandle) (now : Nat) (refreshActivity : Bool)
  | noteRequestParts (handle : UploadSessionHandle) (now : Nat)
  | releaseSession (handle : UploadSessionHandle) (now : Nat)
deriving DecidableEq, Repr

/-- The queue after a call; none if the call panics. -/
def step (q : UploadQueueState) : Call → Option UploadQueueState
  | .beginSession key connectionId now => (q.beginSession key connectionId now).map Prod.snd
  | .pollSession handle now refresh => (q.pollSession handle now refresh).map Prod.snd
  | .noteRequestParts handle now => (q.noteRequestParts handle now).map Prod.snd
  | .releaseSession handle now => q.releaseSession handle now

end UploadQueueState

end Overlord.Emule
