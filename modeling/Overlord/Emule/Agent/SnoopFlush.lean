import Overlord.Emule.SnoopQueue
import Overlord.Machine.Calls
import Overlord.Machine.Run

/-!
# Reporting the snooped searches

`record_snoop_entry` and `flush_snoop_queue` of `agent/snoop.rs`.  Every search that is overheard is
merged into the snoop queue and pushed as an observation.  A flush sends a snapshot of the queue and
all observations to the coordinator: it takes the observations out of the list before the request
and puts them back, in front, if the request fails.

Any number of flushes may be under way, and the task that runs one may be aborted wherever it
awaits something.  `requests` and the serial numbers of the observations are bookkeeping that the
code does not have.

* `no_observation_lost` — an observation is still in the list or has been part of a request;
* `restore_puts_back_own` — a failed flush puts back what its request had, as one block and in its
  order;
* `flushes_keep_order` — the three facts about a run, with the order of recording kept throughout if
  no flush takes observations while another one holds some.

Overlapping flushes may put their blocks back in the wrong order, and one that is aborted while it
waits for the lock does not put it back at all (`failed_flushes_reorder`).
-/

set_option autoImplicit false

namespace Overlord.Emule.SnoopFlush

open Machine

/-- `SnoopObservation`. -/
structure SnoopObservation where
  family : SnoopFamily
  logicalKey : String
  target : String
  startPosition : Option UInt16
  size : Option UInt64
  restrictivePayloadHex : Option String
  observedAt : DateTime
deriving DecidableEq, Repr

/-- The observation that `record_snoop_entry` makes of an entry. -/
def observationOf (entry : SnoopEntry) : SnoopObservation :=
  match entry.shape with
  | .keyword startPosition restrictivePayloadHex =>
    ⟨.keyword, entry.logicalKey, entry.target, some startPosition, none, restrictivePayloadHex,
      entry.lastSeen⟩
  | .source startPosition size =>
    ⟨.source, entry.logicalKey, entry.target, some startPosition, some size, none, entry.lastSeen⟩
  | .notes size =>
    ⟨.notes, entry.logicalKey, entry.target, none, some size, none, entry.lastSeen⟩

/-- An observation with the number of its recording. -/
structure Recorded where
  serial : Nat
  observation : SnoopObservation
deriving DecidableEq, Repr

/-- What a flush hands to the coordinator client. -/
structure FlushRequest where
  /-- Which flush it is. -/
  flush : Nat
  entries : List SnoopEntry
  observations : List Recorded
deriving DecidableEq, Repr

/-- Where a flush is. -/
inductive FlushPhase where
  /-- Waiting for the queue. -/
  | called
  /-- Waiting for the observations. -/
  | snapshotted (entries : List SnoopEntry)
  /-- Waiting for the coordinator. -/
  | sent (observations : List Recorded)
  /-- The request has failed; waiting for the lock to put the observations back. -/
  | failed (observations : List Recorded) (error : String)
  | returned (result : Except String Unit)
  | aborted
deriving DecidableEq, Repr

structure Agent where
  queue : SnoopQueue
  observed : List Recorded := []
  flushes : List FlushPhase := []
  requests : List FlushRequest := []
  /-- How many observations have been recorded. -/
  recorded : Nat := 0

/-- `SnoopQueue::snapshot`. -/
def snapshot (queue : SnoopQueue) : List SnoopEntry :=
  queue.entries.insertionSort fun left right => left.logicalKey ≤ right.logicalKey

/-- The observations one by one back in front, the last one first. -/
def putBack (observations observed : List Recorded) : List Recorded :=
  observations.reverse.foldl (fun observed event => event :: observed) observed

inductive Op where
  /-- `record_snoop_entry` merges the entry into the queue. -/
  | enqueue (entry : SnoopEntry)
  /-- It pushes the observation. -/
  | observe (entry : SnoopEntry)
  /-- `flush_snoop_queue` is called. -/
  | flush
  /-- A flush gets the lock it waits for. -/
  | locked (flush : Nat)
  /-- The coordinator has answered a flush. -/
  | reply (flush : Nat) (result : Except String Unit)
  /-- The task of a flush is aborted. -/
  | abort (flush : Nat)

def Agent.setFlush (s : Agent) (flush : Nat) (phase : FlushPhase) : Agent :=
  { s with flushes := s.flushes.set flush phase }

/-- A flush goes on with the lock. -/
def Agent.locked (s : Agent) (flush : Nat) : FlushPhase → Option Agent
  | .called => some (s.setFlush flush (.snapshotted (snapshot s.queue)))
  | .snapshotted entries =>
    -- the list is taken and the request made without an `await` between
    some { s.setFlush flush (.sent s.observed) with
      observed := [], requests := s.requests ++ [⟨flush, entries, s.observed⟩] }
  | .failed observations error =>
    some { s.setFlush flush (.returned (.error error)) with
      observed := putBack observations s.observed }
  | _ => none

def step (s : Agent) : Op → Option Agent
  | .enqueue entry => some { s with queue := (s.queue.record entry).2 }
  | .observe entry =>
    some { s with
      observed := s.observed ++ [⟨s.recorded, observationOf entry⟩], recorded := s.recorded + 1 }
  | .flush => some { s with flushes := s.flushes ++ [.called] }
  | .locked flush => s.flushes[flush]?.bind (s.locked flush)
  | .reply flush result =>
    match s.flushes[flush]?, result with
    | some (.sent _), .ok () => some (s.setFlush flush (.returned (.ok ())))
    | some (.sent observations), .error error =>
      some (s.setFlush flush (.failed observations error))
    | _, _ => none
  | .abort flush =>
    match s.flushes[flush]? with
    | some (.returned _) => none
    | some _ => some (s.setFlush flush .aborted)
    | none => none

/-- The observations a flush has taken and may still put back. -/
def FlushPhase.held? : FlushPhase → Option (List Recorded)
  | .sent observations => some observations
  | .failed observations _ => some observations
  | _ => none

/-- What the flushes hold. -/
def Agent.held (s : Agent) : List (List Recorded) := s.flushes.filterMap FlushPhase.held?

/-- The observations of the requests that a flush has made. -/
def Agent.requestsOf (s : Agent) (flush : Nat) : List (List Recorded) :=
  (s.requests.filter (·.flush = flush)).map FlushRequest.observations

/-- Every observation is in the list or has been part of a request. -/
def Accounted (s : Agent) : Prop :=
  ∀ serial < s.recorded, (∃ r ∈ s.observed, r.serial = serial) ∨
    ∃ request ∈ s.requests, ∃ r ∈ request.observations, r.serial = serial

/-- The observations are in the order of their recording. -/
def InOrder (s : Agent) : Prop := s.observed.Pairwise fun r r' => r.serial < r'.serial

/-- The next thing the flush does is to take the observations. -/
def FlushPhase.takes : FlushPhase → Bool
  | .snapshotted _ => true
  | _ => false

/-- No flush takes the observations while another one holds some. -/
def Solo (s : Agent) : Op → Prop
  | .locked flush => s.flushes[flush]?.any FlushPhase.takes → s.held = []
  | _ => True

instance (s : Agent) : ∀ op, Decidable (Solo s op)
  | .locked flush =>
    inferInstanceAs (Decidable (s.flushes[flush]?.any FlushPhase.takes → s.held = []))
  | .enqueue _ | .observe _ | .flush | .reply _ _ | .abort _ => .isTrue trivial

/-! ## Outside the lock -/

/-- What an answer of the server, or an abort, makes of a flush. -/
inductive FlushPhase.Settles : FlushPhase → FlushPhase → Prop
  | returned (observations : List Recorded) : Settles (.sent observations) (.returned (.ok ()))
  | failed (observations : List Recorded) (error : String) :
    Settles (.sent observations) (.failed observations error)
  | aborted (phase : FlushPhase) : Settles phase .aborted

theorem settles_of_reply {s s' : Agent} {flush : Nat} {result : Except String Unit}
    (hstep : step s (.reply flush result) = some s') :
    ∃ phase phase' : FlushPhase, s.flushes[flush]? = some phase ∧ phase.Settles phase' ∧
      s' = s.setFlush flush phase' := by
  simp only [step] at hstep
  split at hstep
  next hphase => exact ⟨_, _, hphase, .returned _, (Option.some.inj hstep).symm⟩
  next hphase => exact ⟨_, _, hphase, .failed _ _, (Option.some.inj hstep).symm⟩
  next => cases hstep

theorem settles_of_abort {s s' : Agent} {flush : Nat}
    (hstep : step s (.abort flush) = some s') :
    ∃ phase phase' : FlushPhase, s.flushes[flush]? = some phase ∧ phase.Settles phase' ∧
      s' = s.setFlush flush phase' := by
  simp only [step] at hstep
  split at hstep
  next => cases hstep
  next hphase => exact ⟨_, _, hphase, .aborted _, (Option.some.inj hstep).symm⟩
  next => cases hstep

/-! ## Nothing is lost -/

theorem putBack_eq (observations observed : List Recorded) :
    putBack observations observed = observations ++ observed := by
  rw [putBack, List.foldl_reverse]
  induction observations with
  | nil => rfl
  | cons event observations ih => exact congrArg (event :: ·) ih

theorem Accounted.locked {s s' : Agent} {flush : Nat} {phase : FlushPhase} (h : Accounted s)
    (hlocked : s.locked flush phase = some s') : Accounted s' := by
  cases phase with
  | called => exact Option.some.inj hlocked ▸ h
  | snapshotted entries =>
    obtain rfl := Option.some.inj hlocked
    intro serial hserial
    right
    rcases h serial hserial with ⟨r, hr, heq⟩ | ⟨request, hrequest, r, hr, heq⟩
    · exact ⟨_, List.mem_append_right _ (List.mem_singleton_self _), r, hr, heq⟩
    · exact ⟨request, List.mem_append_left _ hrequest, r, hr, heq⟩
  | failed observations error =>
    obtain rfl := Option.some.inj hlocked
    intro serial hserial
    refine (h serial hserial).imp_left fun ⟨r, hr, heq⟩ => ⟨r, ?_, heq⟩
    show r ∈ putBack observations s.observed
    rw [putBack_eq]
    exact List.mem_append_right _ hr
  | sent observations => cases hlocked
  | returned result => cases hlocked
  | aborted => cases hlocked

theorem Accounted.step {s s' : Agent} {op : Op} (h : Accounted s) (hstep : step s op = some s') :
    Accounted s' := by
  cases op with
  | enqueue entry => exact Option.some.inj hstep ▸ h
  | observe entry =>
    obtain rfl := Option.some.inj hstep
    intro serial hserial
    rcases Nat.lt_succ_iff_lt_or_eq.mp hserial with hold | rfl
    · exact (h serial hold).imp_left fun ⟨r, hr, heq⟩ => ⟨r, List.mem_append_left _ hr, heq⟩
    · exact .inl ⟨_, List.mem_append_right _ (List.mem_singleton_self _), rfl⟩
  | flush => exact Option.some.inj hstep ▸ h
  | locked flush =>
    obtain ⟨phase, -, hlocked⟩ := Option.bind_eq_some_iff.mp hstep
    exact h.locked hlocked
  | reply flush result =>
    obtain ⟨_, _, -, -, rfl⟩ := settles_of_reply hstep
    exact h
  | abort flush =>
    obtain ⟨_, _, -, -, rfl⟩ := settles_of_abort hstep
    exact h

/-- **No observation is lost**, whatever fails, overlaps or is aborted. -/
theorem no_observation_lost (queue : SnoopQueue) (ops : List Op) :
    Always step Accounted { queue } ops :=
  fun _ _ _ hrun => run_invariant (fun _ _ _ h hstep => h.step hstep)
    (fun _ h => absurd h (Nat.not_lt_zero _)) hrun

/-- **A failed flush puts back what it took**, as one block in front of what has come since. -/
theorem restore_puts_back {s : Agent} {flush : Nat} {observations : List Recorded} {error : String}
    (h : s.flushes[flush]? = some (.failed observations error)) :
    step s (.locked flush) = some { s with
      flushes := s.flushes.set flush (.returned (.error error))
      observed := observations ++ s.observed } := by
  rw [step, h, Option.bind_some, Agent.locked, putBack_eq]
  rfl

/-! ## A flush and its request -/

/-- The observations of the requests that a flush must have made to be where it is.  Of one that has
come to its end nothing is asked. -/
def FlushPhase.made? : FlushPhase → Option (List (List Recorded))
  | .called => some []
  | .snapshotted _ => some []
  | .sent observations => some [observations]
  | .failed observations _ => some [observations]
  | .returned _ => none
  | .aborted => none

/-- Every flush has made the requests it must have made, and one that was not called none. -/
def Own (s : Agent) : Prop :=
  ∀ flush made, s.flushes[flush]?.elim (some []) FlushPhase.made? = some made →
    s.requestsOf flush = made

/-- A flush goes on and makes no request. -/
theorem Own.setFlush {s s' : Agent} {flush : Nat} {phase : FlushPhase} (h : Own s)
    (hflushes : s'.flushes = s.flushes.set flush phase) (hrequests : s'.requests = s.requests)
    (hmade : ∀ made, phase.made? = some made → s.requestsOf flush = made) : Own s' := by
  intro other made hother
  rw [Agent.requestsOf, hrequests]
  rw [hflushes, List.getElem?_set] at hother
  by_cases heq : flush = other
  · obtain rfl := heq
    by_cases hlt : flush < s.flushes.length
    · rw [if_pos rfl, if_pos hlt] at hother
      exact hmade made hother
    · refine h flush made ?_
      rw [List.getElem?_eq_none (Nat.not_lt.mp hlt)]
      rwa [if_pos rfl, if_neg hlt] at hother
  · rw [if_neg heq] at hother
    exact h other made hother

/-- What a flush must have made, it has. -/
theorem Own.requestsOf {s : Agent} {flush : Nat} {phase : FlushPhase} (h : Own s)
    (hphase : s.flushes[flush]? = some phase) {made : List (List Recorded)}
    (hmade : phase.made? = some made) : s.requestsOf flush = made :=
  h flush made (by rw [hphase]; exact hmade)

theorem Own.settles {s : Agent} {flush : Nat} {phase phase' : FlushPhase} (h : Own s)
    (hphase : s.flushes[flush]? = some phase) (hsettles : phase.Settles phase') :
    Own (s.setFlush flush phase') := by
  refine h.setFlush rfl rfl fun made hmade => ?_
  cases hsettles with
  | returned observations => cases hmade
  | failed observations error => exact h.requestsOf hphase hmade
  | aborted => cases hmade

theorem Own.locked {s s' : Agent} {flush : Nat} {phase : FlushPhase} (h : Own s)
    (hphase : s.flushes[flush]? = some phase) (hlocked : s.locked flush phase = some s') :
    Own s' := by
  cases phase with
  | called =>
    obtain rfl := Option.some.inj hlocked
    exact h.setFlush rfl rfl fun made hmade => h.requestsOf hphase hmade
  | snapshotted entries =>
    obtain rfl := Option.some.inj hlocked
    have hnone := h.requestsOf hphase rfl
    intro other made hother
    show ((s.requests ++ [_]).filter _).map _ = made
    rw [List.filter_append, List.map_append]
    change (s.flushes.set flush _)[other]?.elim _ _ = _ at hother
    rw [List.getElem?_set] at hother
    by_cases heq : flush = other
    · obtain rfl := heq
      have hlt : flush < s.flushes.length := (List.getElem?_eq_some_iff.mp hphase).1
      rw [if_pos rfl, if_pos hlt] at hother
      obtain rfl : [s.observed] = made := Option.some.inj hother
      rw [show (s.requests.filter (·.flush = flush)).map _ = [] from hnone]
      simp
    · rw [if_neg heq] at hother
      rw [show (s.requests.filter (·.flush = other)).map _ = made from h other made hother]
      simp [heq]
  | failed observations error =>
    obtain rfl := Option.some.inj hlocked
    exact h.setFlush rfl rfl fun made hmade => by cases hmade
  | sent observations => cases hlocked
  | returned result => cases hlocked
  | aborted => cases hlocked

theorem Own.step {s s' : Agent} {op : Op} (h : Own s) (hstep : step s op = some s') : Own s' := by
  cases op with
  | enqueue entry => exact Option.some.inj hstep ▸ h
  | observe entry => exact Option.some.inj hstep ▸ h
  | flush =>
    obtain rfl := Option.some.inj hstep
    intro flush made hmade
    refine h flush made ?_
    rcases lt_trichotomy flush s.flushes.length with hlt | rfl | hgt
    · rwa [List.getElem?_append_left hlt] at hmade
    · rw [List.getElem?_concat_length] at hmade
      rw [List.getElem?_eq_none (Nat.le_refl _)]
      exact hmade
    · rw [List.getElem?_eq_none (by simpa using hgt)] at hmade
      rwa [List.getElem?_eq_none hgt.le]
  | locked flush =>
    obtain ⟨phase, hphase, hlocked⟩ := Option.bind_eq_some_iff.mp hstep
    exact h.locked hphase hlocked
  | reply flush result =>
    obtain ⟨_, _, hphase, hsettles, rfl⟩ := settles_of_reply hstep
    exact h.settles hphase hsettles
  | abort flush =>
    obtain ⟨_, _, hphase, hsettles, rfl⟩ := settles_of_abort hstep
    exact h.settles hphase hsettles

/-- **A flush that has failed holds what its own request had**, and puts it back. -/
theorem restore_puts_back_own (queue : SnoopQueue) (ops : List Op) :
    Always step (fun s => ∀ (flush : Nat) (observations : List Recorded) (error : String),
      s.flushes[flush]? = some (.failed observations error) →
        s.requestsOf flush = [observations] ∧
        step s (.locked flush) = some { s with
          flushes := s.flushes.set flush (.returned (.error error))
          observed := observations ++ s.observed }) { queue } ops := by
  intro done s _ hrun flush observations error hphase
  have hstart : Own { queue } := fun _ _ hmade => Option.some.inj hmade
  have hown : Own s := run_invariant (fun _ _ _ h hstep => h.step hstep) hstart hrun
  exact ⟨hown.requestsOf hphase rfl, restore_puts_back hphase⟩

/-! ## The order of recording -/

/-- At most one flush holds observations, and they are older than those in the list. -/
structure Kept (s : Agent) : Prop where
  one : s.held.length ≤ 1
  sorted : (s.held.flatten ++ s.observed).Pairwise fun r r' => r.serial < r'.serial
  bound : ∀ r ∈ s.held.flatten ++ s.observed, r.serial < s.recorded

/-- A step that only drops observations, or none. -/
theorem Kept.of_sublist {s s' : Agent} (h : Kept s) (hone : s'.held.length ≤ s.held.length)
    (hsub : (s'.held.flatten ++ s'.observed).Sublist (s.held.flatten ++ s.observed))
    (hrecorded : s'.recorded = s.recorded) : Kept s' where
  one := hone.trans h.one
  sorted := h.sorted.sublist hsub
  bound r hr := hrecorded ▸ h.bound r (hsub.subset hr)

/-- A flush that lets go of what it holds, or keeps it. -/
theorem Kept.setFlush {s : Agent} {flush : Nat} {phase phase' : FlushPhase} (h : Kept s)
    (hphase : s.flushes[flush]? = some phase)
    (hheld : phase'.held?.toList.Sublist phase.held?.toList) : Kept (s.setFlush flush phase') := by
  obtain ⟨front, back, hbefore, hafter⟩ := filterMap_set_call FlushPhase.held? hphase
  have hsub : (s.setFlush flush phase').held.Sublist s.held := by
    show (List.filterMap _ (s.flushes.set flush phase')).Sublist (List.filterMap _ s.flushes)
    rw [hbefore, hafter]
    exact (hheld.append_left front).append_right back
  exact h.of_sublist hsub.length_le ((hsub.flatten).append_right _) rfl

theorem Kept.settles {s : Agent} {flush : Nat} {phase phase' : FlushPhase} (h : Kept s)
    (hphase : s.flushes[flush]? = some phase) (hsettles : phase.Settles phase') :
    Kept (s.setFlush flush phase') := by
  refine h.setFlush hphase ?_
  cases hsettles with
  | returned observations => exact List.nil_sublist _
  | failed observations error => exact List.Sublist.refl _
  | aborted => exact List.nil_sublist _

theorem Kept.locked {s s' : Agent} {flush : Nat} {phase : FlushPhase} (h : Kept s)
    (hphase : s.flushes[flush]? = some phase) (hsolo : Solo s (.locked flush))
    (hlocked : s.locked flush phase = some s') : Kept s' := by
  obtain ⟨front, back, hbefore, hafter⟩ := filterMap_set_call FlushPhase.held? hphase
  have hheld : s.held = front ++ phase.held?.toList ++ back := hbefore
  cases phase with
  | called => exact Option.some.inj hlocked ▸ h.setFlush hphase (List.Sublist.refl _)
  | snapshotted entries =>
    obtain rfl := Option.some.inj hlocked
    -- nothing is held, and afterwards this flush holds the whole list
    have hnone : s.held = [] := hsolo (by rw [hphase]; rfl)
    obtain ⟨rfl, rfl⟩ : front = [] ∧ back = [] := by simpa [hheld, FlushPhase.held?] using hnone
    have hnow : ∀ t : Agent, t.flushes = s.flushes.set flush (.sent s.observed) →
        t.held = [s.observed] := fun t ht => by rw [Agent.held, ht, hafter]; rfl
    have hall := h.sorted
    have hbound := h.bound
    rw [hnone] at hall hbound
    constructor
    · rw [hnow _ rfl]
      exact Nat.le_refl 1
    · rw [hnow _ rfl]
      simpa using hall
    · rw [hnow _ rfl]
      show ∀ r : Recorded, r ∈ _ → r.serial < s.recorded
      simpa using hbound
  | failed observations error =>
    obtain rfl := Option.some.inj hlocked
    -- what this flush holds is all that is held
    have hlength := h.one
    rw [hheld] at hlength
    obtain ⟨rfl, rfl⟩ : front = [] ∧ back = [] := by
      simp only [FlushPhase.held?, Option.toList_some, List.length_append, List.length_singleton]
        at hlength
      exact ⟨List.eq_nil_of_length_eq_zero (by omega), List.eq_nil_of_length_eq_zero (by omega)⟩
    have hnow : ∀ t : Agent, t.flushes = s.flushes.set flush (.returned (.error error)) →
        t.held = [] := fun t ht => by rw [Agent.held, ht, hafter]; rfl
    refine h.of_sublist ?_ ?_ rfl
    · rw [hnow _ rfl]
      exact Nat.zero_le _
    · rw [hnow _ rfl, hheld]
      show (putBack observations s.observed).Sublist _
      rw [putBack_eq]
      simp [FlushPhase.held?]
  | sent observations => cases hlocked
  | returned result => cases hlocked
  | aborted => cases hlocked

theorem Kept.step {s s' : Agent} {op : Op} (h : Kept s) (hsolo : Solo s op)
    (hstep : step s op = some s') : Kept s' := by
  cases op with
  | enqueue entry => exact Option.some.inj hstep ▸ { h with }
  | observe entry =>
    obtain rfl := Option.some.inj hstep
    refine ⟨h.one, ?_, ?_⟩
    · show (s.held.flatten ++ (s.observed ++ [_])).Pairwise _
      rw [← List.append_assoc, List.pairwise_append]
      exact ⟨h.sorted, List.pairwise_singleton _ _,
        fun r hr _ hlast => List.mem_singleton.mp hlast ▸ h.bound r hr⟩
    · show ∀ r ∈ s.held.flatten ++ (s.observed ++ [_]), r.serial < s.recorded + 1
      intro r hr
      rw [← List.append_assoc, List.mem_append] at hr
      rcases hr with hr | hr
      · exact Nat.lt_succ_of_lt (h.bound r hr)
      · exact List.mem_singleton.mp hr ▸ Nat.lt_succ_self _
  | flush =>
    obtain rfl := Option.some.inj hstep
    have hheld : (s.flushes ++ [FlushPhase.called]).filterMap FlushPhase.held? = s.held :=
      (filterMap_add_call _ _ _).trans (List.append_nil _)
    refine h.of_sublist ?_ ?_ rfl
    · exact (congrArg List.length hheld).le
    · show (List.flatten (List.filterMap _ _) ++ s.observed).Sublist _
      rw [hheld]
  | locked flush =>
    obtain ⟨phase, hphase, hlocked⟩ := Option.bind_eq_some_iff.mp hstep
    exact h.locked hphase hsolo hlocked
  | reply flush result =>
    obtain ⟨_, _, hphase, hsettles, rfl⟩ := settles_of_reply hstep
    exact h.settles hphase hsettles
  | abort flush =>
    obtain ⟨_, _, hphase, hsettles, rfl⟩ := settles_of_abort hstep
    exact h.settles hphase hsettles

theorem Kept.inOrder {s : Agent} (h : Kept s) : InOrder s :=
  (List.pairwise_append.mp h.sorted).2.1

theorem kept_of_meets {queue : SnoopQueue} {ops : List Op} (hsolo : Meets step Solo { queue } ops) :
    Always step InOrder { queue } ops := by
  intro done s hdone hrun
  have hstart : Kept { queue } := ⟨Nat.zero_le 1, .nil, nofun⟩
  exact (run_of_meets (H := fun _ _ => True) (fun _ => trivial) (fun _ _ _ _ _ => trivial)
    (fun _ _ _ h hsolo hstep => ⟨h.step hsolo hstep, trivial⟩) hstart (hsolo.of_prefix hdone)
    hrun).1.inOrder

/-- **Every observation stays in the list or is part of a request.**  A failed flush puts back what
its own request had, in its order, and the whole list stays in the order of recording if no flush
takes observations while another one holds some. -/
theorem flushes_keep_order (queue : SnoopQueue) (ops : List Op) :
    Always step Accounted { queue } ops ∧
      Always step (fun s => ∀ (flush : Nat) (observations : List Recorded) (error : String),
        s.flushes[flush]? = some (.failed observations error) →
          s.requestsOf flush = [observations] ∧
          step s (.locked flush) = some { s with
            flushes := s.flushes.set flush (.returned (.error error))
            observed := observations ++ s.observed }) { queue } ops ∧
      (Meets step Solo { queue } ops → Always step InOrder { queue } ops) :=
  ⟨no_observation_lost queue ops, restore_puts_back_own queue ops, kept_of_meets⟩

theorem failed_flush_keeps_order :
    let queue : SnoopQueue := ⟨⟨1, 1, 1, 1, 1⟩, [], fun _ => none, [], []⟩
    let entry : SnoopEntry := ⟨"notes:t", "t", .notes 1, 1, 0, 0, none⟩
    let ops : List Op := [.observe entry, .flush, .locked 0, .observe entry, .locked 0,
      .observe entry, .reply 0 (.error "offline"), .locked 0]
    Meets step Solo { queue } ops ∧ Always step InOrder { queue } ops ∧
      (run step { queue } ops).map (fun s => s.observed.map (·.serial)) = some [0, 1, 2] := by
  intro queue entry ops
  have hmeets : Meets step Solo { queue } ops := by decide +kernel
  exact ⟨hmeets, (flushes_keep_order queue ops).2.2 hmeets, by decide +kernel⟩

/-- **Two flushes that fail.**  The second one takes what is recorded after the first took its
observations, and puts it back in front of them.  A flush that is aborted after its request failed
puts nothing back. -/
theorem failed_flushes_reorder :
    let queue : SnoopQueue := ⟨⟨1, 1, 1, 1, 1⟩, [], fun _ => none, [], []⟩
    let entry : SnoopEntry := ⟨"notes:t", "t", .notes 1, 1, 0, 0, none⟩
    let serials (ops : List Op) := (run step { queue } ops).map fun s => s.observed.map (·.serial)
    serials [.observe entry, .flush, .locked 0, .locked 0, .observe entry, .flush, .locked 1,
        .locked 1, .reply 0 (.error "offline"), .locked 0, .reply 1 (.error "offline"),
        .locked 1] = some [1, 0] ∧
      serials [.observe entry, .flush, .locked 0, .locked 0, .reply 0 (.error "offline"),
        .abort 0] = some [] := by
  decide +kernel

end Overlord.Emule.SnoopFlush
