import Overlord.Data.Aged
import Overlord.Kad.Net.PacketTracker
import Overlord.Kad.Proto.Packet

/-!
# The requests that were sent

`OutboundRequestTracker` remembers the requests of the last three minutes by address and opcode, so
that a response nobody asked for can be told from one that was.  New entries go to the front of a
deque and old ones are popped off its back; a lookup takes the newest match out of the middle.

Which requests vouch for a response is one table (`pairedRequests`, in
`tracked_request_opcode_for_response`), and which requests are remembered is another
(`tracks_outbound_request_opcode`); they do not agree on the two firewall checks
(`tracks_of_mem_pairedRequests`).

`lookup_trackedRequestOpcodeForResponse` says what a lookup does, once for all response opcodes.

* `Lookup` — the two outcomes: no request vouches for the response, or the newest one that does is
  taken out.
* `lookup_findAny`, `lookup_peekAndTake` — the two ways in which the source looks for it.
-/

set_option autoImplicit false

namespace Overlord.Kad.Net

structure OutboundRequestEntry where
  insertedAt : Nat
  ip : IpAddr
  opcode : UInt8
deriving DecidableEq, Repr

structure OutboundRequestTracker where
  /-- The deque, from its front. -/
  entries : List OutboundRequestEntry
  window : Duration
deriving DecidableEq, Repr

/-- `tracks_outbound_request_opcode`. -/
def tracksOutboundRequestOpcode (op : UInt8) : Bool :=
  op ∈ [opcode.BOOTSTRAP_REQ, opcode.HELLO_REQ, opcode.HELLO_RES, opcode.REQ,
    opcode.SEARCH_NOTES_REQ, opcode.PUBLISH_KEY_REQ, opcode.PUBLISH_SOURCE_REQ,
    opcode.PUBLISH_NOTES_REQ, opcode.FINDBUDDY_REQ, opcode.CALLBACK_REQ, opcode.PING]

/-- The entry is a request to this address with this opcode. -/
def OutboundRequestEntry.isFor (ip : IpAddr) (op : UInt8) (entry : OutboundRequestEntry) : Bool :=
  entry.ip = ip && entry.opcode = op

namespace OutboundRequestTracker

/-- `OutboundRequestTracker::new`. -/
def new (window : Duration) : OutboundRequestTracker := ⟨[], window⟩

/-- `prune`. -/
def prune (t : OutboundRequestTracker) (now : Nat) : OutboundRequestTracker :=
  { t with
    entries := t.entries.rdropWhile fun entry => t.window.nanos ≤ now - entry.insertedAt }

/-- `record`. -/
def record (t : OutboundRequestTracker) (now : Nat) (ip : IpAddr) (op : UInt8) :
    OutboundRequestTracker :=
  let t := t.prune now
  if !tracksOutboundRequestOpcode op then t
  else { t with entries := ⟨now, ip, op⟩ :: t.entries }

/-- `contains`. -/
def contains (t : OutboundRequestTracker) (now : Nat) (ip : IpAddr) (op : UInt8) (remove : Bool) :
    Bool × OutboundRequestTracker :=
  let t := t.prune now
  if t.entries.any (OutboundRequestEntry.isFor ip op) then
    (true, if remove then { t with entries := t.entries.eraseP (OutboundRequestEntry.isFor ip op) }
      else t)
  else (false, t)

/-- `find_any`. -/
def findAny (t : OutboundRequestTracker) (now : Nat) (ip : IpAddr) (remove : Bool) :
    List UInt8 → Option UInt8 × OutboundRequestTracker
  | [] => (none, t)
  | op :: ops =>
    let (found, t) := t.contains now ip op remove
    if found then (some op, t) else t.findAny now ip remove ops

/-- `tracked_request_opcode_for_response`. -/
def trackedRequestOpcodeForResponse (t : OutboundRequestTracker) (now : Nat) (ip : IpAddr)
    (responseOpcode : UInt8) : Option UInt8 × OutboundRequestTracker :=
  match responseOpcode with
  | opcode.BOOTSTRAP_RES => t.findAny now ip true [opcode.BOOTSTRAP_REQ]
  | opcode.HELLO_RES => t.findAny now ip true [opcode.HELLO_REQ]
  | opcode.HELLO_RES_ACK => t.findAny now ip true [opcode.HELLO_RES]
  | opcode.RES => t.findAny now ip true [opcode.REQ]
  | opcode.PUBLISH_RES =>
    let (found, t) := t.findAny now ip false
      [opcode.PUBLISH_KEY_REQ, opcode.PUBLISH_SOURCE_REQ, opcode.PUBLISH_NOTES_REQ]
    match found with
    | none => (none, t)
    | some matched => (some matched, (t.contains now ip matched true).2)
  | opcode.FIREWALLED_RES | opcode.FIREWALLED_ACK_RES =>
    t.findAny now ip true [opcode.FIREWALLED_REQ, opcode.FIREWALLED2_REQ]
  | opcode.FINDBUDDY_RES => t.findAny now ip true [opcode.FINDBUDDY_REQ]
  | opcode.PONG => t.findAny now ip true [opcode.PING]
  | _ => (none, t)

end OutboundRequestTracker

/-! ## The two tables -/

/-- The request opcodes that vouch for a response, in the order they are looked up. -/
def pairedRequests (responseOpcode : UInt8) : List UInt8 :=
  match responseOpcode with
  | opcode.BOOTSTRAP_RES => [opcode.BOOTSTRAP_REQ]
  | opcode.HELLO_RES => [opcode.HELLO_REQ]
  | opcode.HELLO_RES_ACK => [opcode.HELLO_RES]
  | opcode.RES => [opcode.REQ]
  | opcode.PUBLISH_RES =>
    [opcode.PUBLISH_KEY_REQ, opcode.PUBLISH_SOURCE_REQ, opcode.PUBLISH_NOTES_REQ]
  | opcode.FIREWALLED_RES | opcode.FIREWALLED_ACK_RES =>
    [opcode.FIREWALLED_REQ, opcode.FIREWALLED2_REQ]
  | opcode.FINDBUDDY_RES => [opcode.FINDBUDDY_REQ]
  | opcode.PONG => [opcode.PING]
  | _ => []

/-- The requests that vouch for a response but are not remembered. -/
theorem tracks_of_mem_pairedRequests {op responseOpcode : UInt8}
    (h : op ∈ pairedRequests responseOpcode) :
    tracksOutboundRequestOpcode op = false ↔
      op = opcode.FIREWALLED_REQ ∨ op = opcode.FIREWALLED2_REQ := by
  have hall : ∀ responseOpcode, ∀ op ∈ pairedRequests responseOpcode,
      (tracksOutboundRequestOpcode op = false ↔
        op = opcode.FIREWALLED_REQ ∨ op = opcode.FIREWALLED2_REQ) := by
    decide +kernel
  exact hall responseOpcode op h

namespace OutboundRequestTracker

variable {t : OutboundRequestTracker} {now : Nat} {ip : IpAddr}

/-- What a lookup for some opcodes can do. -/
inductive Lookup (t : OutboundRequestTracker) (now : Nat) (ip : IpAddr) (ops : List UInt8) :
    Option UInt8 × OutboundRequestTracker → Prop
  /-- There is no request with any of them. -/
  | none {t' : OutboundRequestTracker} (ht : t' = t ∨ t' = t.prune now)
    (hnone : ∀ op ∈ ops, (t.prune now).entries.any (OutboundRequestEntry.isFor ip op) = false) :
    Lookup t now ip ops (none, t')
  /-- The newest request with one of them is taken out. -/
  | taken {op : UInt8} (hop : op ∈ ops)
    (hany : (t.prune now).entries.any (OutboundRequestEntry.isFor ip op) = true) :
    Lookup t now ip ops (some op, { t.prune now with
      entries := (t.prune now).entries.eraseP (OutboundRequestEntry.isFor ip op) })

theorem prune_prune (t : OutboundRequestTracker) (now : Nat) :
    (t.prune now).prune now = t.prune now := by
  rw [prune, prune]
  congr 1
  exact List.rdropWhile_idempotent _ _

theorem contains_of_any {op : UInt8} {remove : Bool}
    (h : (t.prune now).entries.any (OutboundRequestEntry.isFor ip op) = true) :
    t.contains now ip op remove =
      (true, if remove then { t.prune now with
        entries := (t.prune now).entries.eraseP (OutboundRequestEntry.isFor ip op) }
        else t.prune now) :=
  if_pos h

theorem contains_of_not_any {op : UInt8} {remove : Bool}
    (h : (t.prune now).entries.any (OutboundRequestEntry.isFor ip op) = false) :
    t.contains now ip op remove = (false, t.prune now) :=
  if_neg (Bool.eq_false_iff.mp h)

/-- Looking for one more opcode, of which there is no request, makes no difference. -/
theorem Lookup.cons {op : UInt8} {ops : List UInt8} {result : Option UInt8 × OutboundRequestTracker}
    (h : (t.prune now).entries.any (OutboundRequestEntry.isFor ip op) = false)
    (hrest : Lookup (t.prune now) now ip ops result) : Lookup t now ip (op :: ops) result := by
  cases hrest with
  | none ht hnone =>
    rw [prune_prune, or_self] at ht
    refine .none (.inr ht) fun o ho => ?_
    rcases List.mem_cons.mp ho with rfl | ho
    · exact h
    · exact prune_prune t now ▸ hnone o ho
  | taken hop hany =>
    rw [prune_prune] at hany ⊢
    exact .taken (List.mem_cons_of_mem op hop) hany

/-- `find_any` is a lookup. -/
theorem lookup_findAny (t : OutboundRequestTracker) (now : Nat) (ip : IpAddr) (ops : List UInt8) :
    Lookup t now ip ops (t.findAny now ip true ops) := by
  induction ops generalizing t with
  | nil => exact .none (.inl rfl) nofun
  | cons op ops ih =>
    rw [findAny]
    cases hany : (t.prune now).entries.any (OutboundRequestEntry.isFor ip op) with
    | true =>
      rw [contains_of_any hany]
      exact .taken List.mem_cons_self hany
    | false =>
      rw [contains_of_not_any hany]
      exact .cons hany (ih (t.prune now))

/-- The two steps for `PUBLISH_RES`: look first and remove then. -/
def peekAndTake (t : OutboundRequestTracker) (now : Nat) (ip : IpAddr) (ops : List UInt8) :
    Option UInt8 × OutboundRequestTracker :=
  let (found, t) := t.findAny now ip false ops
  match found with
  | none => (none, t)
  | some matched => (some matched, (t.contains now ip matched true).2)

theorem lookup_peekAndTake (t : OutboundRequestTracker) (now : Nat) (ip : IpAddr)
    (ops : List UInt8) : Lookup t now ip ops (t.peekAndTake now ip ops) := by
  induction ops generalizing t with
  | nil => exact .none (.inl rfl) nofun
  | cons op ops ih =>
    rw [peekAndTake, findAny]
    cases hany : (t.prune now).entries.any (OutboundRequestEntry.isFor ip op) with
    | true =>
      rw [contains_of_any hany]
      show Lookup t now ip (op :: ops) (some op, ((t.prune now).contains now ip op true).2)
      rw [contains_of_any (by rw [prune_prune]; exact hany), prune_prune]
      exact .taken List.mem_cons_self hany
    | false =>
      rw [contains_of_not_any hany]
      exact .cons hany (ih (t.prune now))

/-- **What `tracked_request_opcode_for_response` does.** -/
theorem lookup_trackedRequestOpcodeForResponse (t : OutboundRequestTracker) (now : Nat)
    (ip : IpAddr) (responseOpcode : UInt8) :
    Lookup t now ip (pairedRequests responseOpcode)
      (t.trackedRequestOpcodeForResponse now ip responseOpcode) := by
  unfold trackedRequestOpcodeForResponse
  split
  case h_5 => exact lookup_peekAndTake t now ip _
  case h_10 =>
    have hnil : pairedRequests responseOpcode = [] := by
      unfold pairedRequests
      split <;> simp_all
    rw [hnil]
    exact .none (.inl rfl) nofun
  all_goals exact lookup_findAny t now ip _

end OutboundRequestTracker

end Overlord.Kad.Net
