import Overlord.Kad.Proto.Packet
import Overlord.Data.KeyOrder
import Overlord.Machine.Run
import Overlord.Net.Addr

/-!
# Traversals

Phase 1 of `run_traversal`: the walk of `REQ` queries that looks for the nodes closest to a target.
The loop keeps a list of candidates in the order of their distance.  Each round launches queries to
the nearest candidates that were not asked yet, up to `ALPHA` of them in flight, waits for one query
to end, marks its candidate, and inserts the contacts it learned; a round that learns too many
contacts at once is skipped before they are looked at.

The model is a machine.  Its state, a `Walk`, has the local variables of the loop and a log of the
queries; its actions are what the environment decides: which query ends next and how, whether the
task of a query panics, and when the walk is cancelled or out of time.  A round is two steps,
`launch` and one of `answered` and `panicked`, so that the state in which the loop waits is visible.

`partition_point` is taken from its specification: on a list that is partitioned by the predicate,
as the candidates always are, the binary search ends after the leading elements that satisfy it.
-/

set_option autoImplicit false

namespace Overlord.Kad

/-- `ContactEntry::ip_addr`. -/
def ContactEntry.ipAddr (entry : ContactEntry) : Ipv4Addr := .ofBeU32 entry.ip

namespace Dht

open KeyOrder (partitionPoint)

/-! ## Contacts in a response -/

/-- `ipv4_prefix_24`. -/
def ipv4Prefix24 (ip : Ipv4Addr) : UInt32 := ip.toBeU32 &&& 0xFFFFFF00

/-- The variables of the loop in `sanitize_res_contacts`. -/
structure Sanitizer where
  /-- Addresses seen so far, the responder's included. -/
  seenIps : List Ipv4Addr
  /-- Accepted addresses per /24 network. -/
  prefixCounts : UInt32 → Nat
  /-- Entries accepted so far. -/
  sanitized : List ContactEntry

/-- The variables before the loop: a responder with an IPv4 address counts as seen. -/
def Sanitizer.start : SocketAddr → Sanitizer
  | .v4 ip _ => ⟨[ip], Function.update (fun _ => 0) (ipv4Prefix24 ip) 1, []⟩
  | .v6 _ _ _ _ => ⟨[], fun _ => 0, []⟩

/-- One round of the loop. -/
def Sanitizer.step (s : Sanitizer) (entry : ContactEntry) : Sanitizer :=
  if entry.ip = 0 ∨ entry.udpPort = 0 then s
  else
    let ip := entry.ipAddr
    if ip ∈ s.seenIps then s
    else
      let bits := ipv4Prefix24 ip
      let count := s.prefixCounts bits
      if 2 ≤ count then { s with seenIps := ip :: s.seenIps }
      else
        { seenIps := ip :: s.seenIps
          prefixCounts := Function.update s.prefixCounts bits (count + 1)
          sanitized := s.sanitized ++ [entry] }

/-- `sanitize_res_contacts`. -/
def sanitizeResContacts (contacts : List ContactEntry) (responderAddr : SocketAddr)
    (maxContacts : Nat) : Option (List ContactEntry) :=
  if maxContacts < contacts.length then none
  else some (contacts.foldl Sanitizer.step (.start responderAddr)).sanitized

/-! ## Candidates -/

/-- What is known about a candidate. -/
inductive CandidateState where
  /-- Discovered but not yet queried. -/
  | pending
  /-- Queried, no answer yet. -/
  | inflight
  /-- Answered. -/
  | responded
  /-- Timed out or failed. -/
  | failed
deriving DecidableEq, Repr

/-- A peer that can be queried. -/
structure TraversalContact where
  id : NodeId
  addr : SocketAddr
  version : UInt8
deriving DecidableEq, Repr

/-- A peer in a walk. -/
structure TraversalCandidate where
  contact : TraversalContact
  state : CandidateState
  /-- Distance of the peer from the target. -/
  distance : NodeId
deriving DecidableEq, Repr

/-- What the walk is for. -/
inductive TraversalKind where
  | findNode
  | store
  | keyword (request : SearchKeyReq)
  | source (request : SearchSourceReq)
  | notes (size : UInt64)

/-- The inputs of a walk that decide its course; deadlines and cancellation are actions. -/
structure TraversalConfig where
  target : NodeId
  searchKind : TraversalKind
  phase2Fanout : Nat

namespace TraversalConfig

/-- `traversal_closest_limit`. -/
def closestLimit (cfg : TraversalConfig) : Nat :=
  match cfg.searchKind with
  | .store => max cfg.phase2Fanout K
  | _ => K

/-- The count byte of the queries, which is also the number of contacts they may be answered
with. -/
def reqCount (cfg : TraversalConfig) : UInt8 :=
  match cfg.searchKind with
  | .findNode => KADEMLIA_FIND_NODE
  | .store => KADEMLIA_STORE
  | _ => KADEMLIA_FIND_VALUE

end TraversalConfig

/-! ## The walk -/

/-- Where the loop is. -/
inductive Phase where
  /-- At the top of the loop. -/
  | top
  /-- Waiting for a query to end. -/
  | waiting
  /-- Past the loop. -/
  | finished
deriving DecidableEq, Repr

/-- A query that was launched. -/
structure Query where
  addr : SocketAddr
  request : Req
deriving DecidableEq, Repr

/-- The variables of the loop, and the queries launched so far. -/
structure Walk where
  candidates : List TraversalCandidate
  seen : List NodeId
  /-- The running tasks, by the identifier they will return. -/
  joinSet : List NodeId
  lastLookupResponseAt : Option Nat
  queries : List Query
  phase : Phase
deriving DecidableEq, Repr

/-- How a query ends: with a packet or with an error of the network layer. -/
inductive QueryResult where
  | ok (packet : KadPacket)
  | err
deriving DecidableEq, Repr

/-- What the environment decides. -/
inductive Event where
  /-- Neither cancelled nor out of time at the top of the loop. -/
  | launch
  /-- A query ends. -/
  | answered (id : NodeId) (result : QueryResult) (now : Nat)
  /-- The task of a query panics. -/
  | panicked (id : NodeId)
  /-- Cancelled or out of time, at the top of the loop or while it waits. -/
  | stop
deriving DecidableEq, Repr

namespace Walk

/-- A candidate that was not asked yet. -/
def newCandidate (target : NodeId) (contact : TraversalContact) : TraversalCandidate :=
  ⟨contact, .pending, target.distance contact.id⟩

/-- The initial candidates: sorted by distance, adjacent duplicates dropped. -/
def initialCandidates (target : NodeId) (initial : List TraversalContact) :
    List TraversalCandidate :=
  ((initial.map (newCandidate target)).mergeSort
    fun a b => (a.distance.cmp b.distance).isLE).destutter
    fun a b => ¬ a.contact.id = b.contact.id

/-- The walk before the loop. -/
def start (cfg : TraversalConfig) (initial : List TraversalContact) : Walk :=
  let candidates := initialCandidates cfg.target initial
  { candidates := candidates
    seen := candidates.map (·.contact.id)
    joinSet := []
    lastLookupResponseAt := none
    queries := []
    phase := .top }

/-- Launch the query to the candidate at an index. -/
def launchAt (cfg : TraversalConfig) (w : Walk) (idx : Nat) : Walk :=
  match w.candidates[idx]? with
  | some c =>
    { w with
      candidates := w.candidates.set idx { c with state := .inflight }
      queries := w.queries ++ [⟨c.contact.addr, ⟨cfg.reqCount, cfg.target, c.contact.id⟩⟩]
      joinSet := w.joinSet ++ [c.contact.id] }
  | none => w

/-- The indices of the nearest pending candidates, as many as may be launched. -/
def pendingClosest (w : Walk) : List Nat :=
  let inflightCount := w.candidates.countP (·.state = .inflight)
  let toLaunch := ALPHA - inflightCount
  ((w.candidates.zipIdx.filter (·.1.state = .pending)).take toLaunch).map Prod.snd

/-- The first half of a round. -/
def launch (cfg : TraversalConfig) (w : Walk) : Walk := w.pendingClosest.foldl (launchAt cfg) w

/-- Set the state of the candidate at an index, if there is one. -/
def mark (w : Walk) (idx : Option Nat) (state : CandidateState) : Walk :=
  match idx with
  | some idx =>
    { w with candidates := w.candidates.modify idx fun c => { c with state := state } }
  | none => w

/-- Insert a contact that was not seen before at its place. -/
def learn (cfg : TraversalConfig) (w : Walk) (entry : ContactEntry) : Walk :=
  if entry.nodeId ∈ w.seen then w
  else if entry.ip = 0 ∨ entry.udpPort = 0 then w
  else
    let c := newCandidate cfg.target ⟨entry.nodeId, .v4 entry.ipAddr entry.udpPort, entry.version⟩
    let pos := partitionPoint (fun x => decide (x.distance < c.distance)) w.candidates
    { w with
      seen := entry.nodeId :: w.seen
      candidates := w.candidates.insertIdx pos c }

/-- `find_node_lookup_converged`. -/
def findNodeLookupConverged (candidates : List TraversalCandidate) : Bool :=
  let closestResponded := (candidates.filter (·.state = .responded)).take K
  match closestResponded.getLast? with
  | none => false
  | some last =>
    if closestResponded.length < K then false
    else !candidates.any fun c =>
      (c.state = .pending ∨ c.state = .inflight) && (c.distance.cmp last.distance).isLE

/-- The checks at the end of a round. -/
def endRound (cfg : TraversalConfig) (w : Walk) : Walk :=
  let converged := match cfg.searchKind with
    | .findNode => findNodeLookupConverged w.candidates
    | _ => false
  let closestGoalDone := (w.candidates.take cfg.closestLimit).all fun c =>
    c.state = .responded ∨ c.state = .failed
  let anyInflight := w.candidates.any (·.state = .inflight)
  { w with phase := if converged || (closestGoalDone && !anyInflight) then .finished else .top }

/-- The second half of a round, after the task that returns `id` has left the join set. -/
def answer (cfg : TraversalConfig) (w : Walk) (id : NodeId) (result : QueryResult) (now : Nat) :
    Walk :=
  let candidateIdx := w.candidates.findIdx? (·.contact.id = id)
  match result with
  | .err => (w.mark candidateIdx .failed).endRound cfg
  | .ok (.res res) =>
    let w := { w.mark candidateIdx .responded with lastLookupResponseAt := some now }
    let responderAddr := match candidateIdx.bind fun idx => w.candidates[idx]? with
      | some c => c.contact.addr
      | none => .v4 .UNSPECIFIED 0
    match sanitizeResContacts res.contacts responderAddr cfg.reqCount.toNat with
    | some contacts => (contacts.foldl (learn cfg) w).endRound cfg
    | none => { w with phase := .top }
  | .ok _ => (w.mark candidateIdx .failed).endRound cfg

/-- One step of the walk. -/
def step (cfg : TraversalConfig) (w : Walk) : Event → Option Walk
  | .launch =>
    if w.phase = .top then
      let w := w.launch cfg
      some { w with phase := if w.joinSet = [] then .finished else .waiting }
    else none
  | .answered id result now =>
    if w.phase = .waiting ∧ id ∈ w.joinSet then
      some ({ w with joinSet := w.joinSet.erase id }.answer cfg id result now)
    else none
  | .panicked id =>
    if w.phase = .waiting ∧ id ∈ w.joinSet then
      some { w with joinSet := w.joinSet.erase id, phase := .top }
    else none
  | .stop => if w.phase = .finished then none else some { w with phase := .finished }

/-- The contacts of the candidates that answered, nearest first. -/
def responded (w : Walk) : List TraversalContact :=
  (w.candidates.filter (·.state = .responded)).map (·.contact)

/-- `TraversalResult::closest`. -/
def closest (cfg : TraversalConfig) (w : Walk) : List TraversalContact :=
  w.responded.take cfg.closestLimit

end Walk

end Dht

end Overlord.Kad
