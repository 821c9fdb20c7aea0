import Overlord.Emule.UploadQueue
import Overlord.Data.KeyOrder

/-!
# What holds in every upload queue

The sessions of the queue are recorded twice: in the map, with their phase, and, while they wait, in
`waitingOrder`.  `Core` says that the two agree, that no peer has two sessions and that no more
sessions have a slot than there are slots.  Every step inside a call keeps it, and while it holds no
lookup of the ranking fails.  The two further parts of the invariant, `Inv`, come from whole loops:
trimming brings the number of waiters under the capacity, and promoting leaves nobody waiting beside
a free slot.

* `Core.drop`, `Core.promote` — the two steps inside a call.
* `Core.promoteLoop`, `Core.trimLoop` — the loops, each by induction on the waiters that are left.
* `standing` is what the invariant looks at in a session.  A change that keeps it in every session
  keeps the invariant (`Inv.of_standing`), as noting the time of a request does.
* `queue_after` — the result about whole runs.
-/

set_option autoImplicit false

namespace Overlord.Emule.UploadQueueState

open Machine

variable {q : UploadQueueState}

/-- The map and the waiting order agree. -/
structure Core (q : UploadQueueState) : Prop where
  /-- No peer has two sessions. -/
  peers : (q.sessions.map (·.key.peer.ident)).Nodup
  /-- The order names exactly the waiting sessions. -/
  waiting : (q.waitingOrder.map (·.ident)).Perm
    ((q.sessions.filter (·.phase = .waiting)).map (·.ident))
  active_le : q.activeSessionCount ≤ q.config.activeSlots

/-- The invariant between calls. -/
structure Inv (q : UploadQueueState) : Prop extends Core q where
  capacity : q.waitingOrder.length ≤ q.config.waitingCapacity
  /-- Nobody waits beside a free slot. -/
  conserving : q.waitingOrder = [] ∨ q.config.activeSlots ≤ q.activeSessionCount

namespace Core

theorem distinct (h : Core q) : Keyed.Distinct UploadSession.ident q.sessions :=
  List.Nodup.of_map KeyIdent.peer (by rw [List.map_map]; exact h.peers)

/-- The session of a key in the order. -/
theorem exists_session (h : Core q) {key : UploadSessionKey} (hkey : key ∈ q.waitingOrder) :
    ∃ session ∈ q.sessions, session.ident = key.ident ∧ session.phase = .waiting ∧
      q.getSession key = some session := by
  obtain ⟨session, hmem, hident⟩ :=
    List.mem_map.mp (h.waiting.mem_iff.mp (List.mem_map_of_mem hkey))
  obtain ⟨hmem, hphase⟩ := List.mem_filter.mp hmem
  exact ⟨session, hmem, hident, of_decide_eq_true hphase,
    h.distinct.get_eq_some_iff.mpr ⟨hmem, hident⟩⟩

theorem length_waitingOrder (h : Core q) :
    q.waitingOrder.length = q.sessions.countP (·.phase = .waiting) := by
  have hlength := h.waiting.length_eq
  rwa [List.length_map, List.length_map, ← List.countP_eq_length_filter] at hlength

end Core

/-! ## The ranking -/

/-- The keys of the order with their sessions. -/
def waiters (q : UploadQueueState) : List (UploadSessionKey × UploadSession) :=
  q.waitingOrder.filterMap fun key => (q.getSession key).map (key, ·)

theorem mapM_getSession {keys : List UploadSessionKey}
    (h : ∀ key ∈ keys, ∃ session, q.getSession key = some session) :
    (keys.mapM fun key => (q.getSession key).map (key, ·)) =
        some (keys.filterMap fun key => (q.getSession key).map (key, ·)) ∧
      (keys.filterMap fun key => (q.getSession key).map (key, ·)).map Prod.fst = keys := by
  induction keys with
  | nil => exact ⟨rfl, rfl⟩
  | cons key keys ih =>
    obtain ⟨session, hsession⟩ := h key List.mem_cons_self
    obtain ⟨hpairs, hfst⟩ := ih fun key hkey => h key (List.mem_cons_of_mem _ hkey)
    rw [List.filterMap_cons, hsession]
    refine ⟨?_, by rw [Option.map_some, List.map_cons, hfst]⟩
    rw [List.mapM_cons, hsession, hpairs]
    rfl

theorem Core.waiters_fst (h : Core q) : q.waiters.map Prod.fst = q.waitingOrder :=
  (mapM_getSession fun _ hkey => let ⟨session, _, _, _, hget⟩ := h.exists_session hkey
    ⟨session, hget⟩).2

/-- **The ranking never fails**, and sorts everybody in the order. -/
theorem Core.rankedWaitingKeys_eq (h : Core q) (now : Nat) :
    q.rankedWaitingKeys now = some ((q.waiters.mergeSort (ranksBefore now)).map Prod.fst) := by
  have hfilter : (q.waitingOrder.filter fun key => (q.getSession key).any (·.phase = .waiting)) =
      q.waitingOrder := by
    rw [List.filter_eq_self]
    intro key hkey
    obtain ⟨session, -, -, hphase, hget⟩ := h.exists_session hkey
    simp [hget, hphase]
  rw [rankedWaitingKeys, hfilter, (mapM_getSession fun _ hkey =>
    let ⟨session, _, _, _, hget⟩ := h.exists_session hkey
    ⟨session, hget⟩).1]
  rfl

theorem Core.exists_ranked (h : Core q) (now : Nat) :
    ∃ ranked, q.rankedWaitingKeys now = some ranked ∧ ranked.Perm q.waitingOrder :=
  ⟨_, h.rankedWaitingKeys_eq now, h.waiters_fst ▸ (List.mergeSort_perm q.waiters _).map Prod.fst⟩

theorem Core.bestWaitingKey_cases (h : Core q) (now : Nat) :
    (q.bestWaitingKey now = some none ∧ q.waitingOrder = []) ∨
      ∃ key ∈ q.waitingOrder, q.bestWaitingKey now = some (some key) := by
  obtain ⟨ranked, hranked, hperm⟩ := h.exists_ranked now
  rw [bestWaitingKey, hranked]
  cases ranked with
  | nil => exact .inl ⟨rfl, hperm.nil_eq.symm⟩
  | cons key keys => exact .inr ⟨key, hperm.mem_iff.mp List.mem_cons_self, rfl⟩

theorem Core.worstWaitingKey_cases (h : Core q) (now : Nat) :
    (q.worstWaitingKey now = some none ∧ q.waitingOrder = []) ∨
      ∃ key ∈ q.waitingOrder, q.worstWaitingKey now = some (some key) := by
  obtain ⟨ranked, hranked, hperm⟩ := h.exists_ranked now
  rw [worstWaitingKey, hranked]
  cases hlast : ranked.getLast? with
  | none =>
    rw [List.getLast?_eq_none_iff] at hlast
    subst hlast
    exact .inl ⟨rfl, hperm.nil_eq.symm⟩
  | some key =>
    exact .inr ⟨key, hperm.mem_iff.mp (List.mem_of_getLast? hlast), by rw [Option.map_some, hlast]⟩

theorem Core.exists_status (h : Core q) (key : UploadSessionKey) (now : Nat) :
    ∃ status, q.statusForKey key now = some status := by
  obtain ⟨ranked, hranked, -⟩ := h.exists_ranked now
  rw [statusForKey]
  split
  · rw [rankForKey, hranked]
    dsimp only [Option.bind_eq_bind, Option.bind_some]
    split
    · exact ⟨_, rfl⟩
    · exact ⟨_, rfl⟩
  · exact ⟨_, rfl⟩
  · exact ⟨_, rfl⟩
  · exact ⟨_, rfl⟩

/-! ## Dropping and promoting -/

/-- Drop a session from the map and the order. -/
theorem Core.drop (h : Core q) (key : UploadSessionKey) :
    Core ((q.removeSession key).unqueue key) where
  peers := h.peers.sublist (List.filter_sublist.map _)
  waiting := by
    have hperm := h.waiting.filter (· ≠ key.ident)
    simp only [List.filter_map] at hperm
    simp only [unqueue, removeSession, Keyed.remove]
    rw [List.filter_comm]
    exact hperm
  active_le := (List.filter_sublist.countP_le).trans h.active_le

/-- Dropping a waiting session frees no slot. -/
theorem Core.activeSessionCount_drop (h : Core q) {key : UploadSessionKey}
    (hkey : key ∈ q.waitingOrder) :
    ((q.removeSession key).unqueue key).activeSessionCount = q.activeSessionCount := by
  obtain ⟨session, hmem, hident, hphase, -⟩ := h.exists_session hkey
  obtain ⟨front, back, heq, hremove, -⟩ := h.distinct.exists_split hmem
  simp only [activeSessionCount, unqueue, removeSession]
  rw [← hident, hremove, heq, List.countP_append, List.countP_append, List.countP_cons, hphase]
  rfl

/-- The waiting session of a key gets a slot. -/
theorem Core.promote (h : Core q) {key : UploadSessionKey} (hkey : key ∈ q.waitingOrder)
    (hslot : q.activeSessionCount < q.config.activeSlots) (now : Nat) :
    Core ((q.unqueue key).modifySession key fun session =>
      { session with phase := .granted, lastActivity := now }) := by
  obtain ⟨session, hmem, hident, hphase, -⟩ := h.exists_session hkey
  obtain ⟨front, back, heq, hremove, hmodify⟩ := h.distinct.exists_split hmem
  have hdrop := (h.drop key).waiting
  simp only [unqueue, removeSession] at hdrop
  rw [← hident, hremove] at hdrop
  have hsessions := hmodify fun session => { session with phase := .granted, lastActivity := now }
  constructor
  · simp only [modifySession, unqueue]
    rw [← hident, hsessions]
    have hpeers := h.peers
    rw [heq] at hpeers
    simpa using hpeers
  · simp only [modifySession, unqueue]
    rw [← hident, hsessions]
    simpa using hdrop
  · have hcount : activeSessionCount ((q.unqueue key).modifySession key fun session =>
        { session with phase := .granted, lastActivity := now }) = q.activeSessionCount + 1 := by
      simp only [activeSessionCount, modifySession, unqueue]
      rw [← hident, hsessions, heq]
      simp only [List.countP_append, List.countP_cons, hphase, UploadSessionPhase.isActive]
      simp
      omega
    exact hcount.trans_le hslot

/-- A key of the order is taken out of it. -/
theorem length_filter_ident_lt {keys : List UploadSessionKey} {key : UploadSessionKey}
    (hkey : key ∈ keys) : (keys.filter (·.ident ≠ key.ident)).length < keys.length := by
  rw [← List.countP_eq_length_filter]
  refine List.countP_lt_length_iff.mpr ⟨key, hkey, by simp⟩

/-! ## The loops -/

/-- **Promoting leaves nobody waiting beside a free slot.** -/
theorem Core.promoteLoop (h : Core q) (now : Nat) {fuel : Nat}
    (hfuel : q.waitingOrder.length ≤ fuel) :
    ∃ q', UploadQueueState.promoteLoop now fuel q = some q' ∧ Core q' ∧ q'.config = q.config ∧
      q'.waitingOrder.length ≤ q.waitingOrder.length ∧
      (q'.waitingOrder = [] ∨ q.config.activeSlots ≤ q'.activeSessionCount) := by
  induction fuel generalizing q with
  | zero =>
    exact ⟨q, rfl, h, rfl, Nat.le_refl _, .inl (List.length_eq_zero_iff.mp (Nat.le_zero.mp hfuel))⟩
  | succ fuel ih =>
    rw [UploadQueueState.promoteLoop]
    by_cases hslot : q.activeSessionCount < q.config.activeSlots
    · rw [if_pos hslot]
      rcases h.bestWaitingKey_cases now with ⟨hbest, hempty⟩ | ⟨key, hkey, hbest⟩
      · rw [hbest]
        exact ⟨q, rfl, h, rfl, Nat.le_refl _, .inl hempty⟩
      · rw [hbest]
        have hlt := length_filter_ident_lt hkey
        obtain ⟨q', hq', hcore, hconfig, hlength, hdone⟩ := ih (h.promote hkey hslot now)
          (Nat.le_of_lt_succ (hlt.trans_le hfuel))
        exact ⟨q', hq', hcore, hconfig, hlength.trans hlt.le, hdone⟩
    · rw [if_neg hslot]
      exact ⟨q, rfl, h, rfl, Nat.le_refl _, .inr (Nat.not_lt.mp hslot)⟩

/-- **Trimming brings the waiters under the capacity** and frees no slot. -/
theorem Core.trimLoop (h : Core q) (now : Nat) {fuel : Nat}
    (hfuel : q.waitingOrder.length ≤ fuel) :
    ∃ q', UploadQueueState.trimLoop now fuel q = some q' ∧ Core q' ∧ q'.config = q.config ∧
      q'.waitingOrder.length ≤ q.config.waitingCapacity ∧
      q'.activeSessionCount = q.activeSessionCount ∧
      (q.waitingOrder = [] → q'.waitingOrder = []) := by
  induction fuel generalizing q with
  | zero =>
    have hempty := Nat.le_zero.mp hfuel
    exact ⟨q, rfl, h, rfl, hempty ▸ Nat.zero_le _, rfl, id⟩
  | succ fuel ih =>
    rw [UploadQueueState.trimLoop]
    by_cases hover : q.config.waitingCapacity < q.waitingOrder.length
    · rw [if_pos hover]
      rcases h.worstWaitingKey_cases now with ⟨-, hempty⟩ | ⟨key, hkey, hworst⟩
      · rw [hempty] at hover
        exact absurd hover (Nat.not_lt_zero _)
      · rw [hworst]
        have hlt := length_filter_ident_lt hkey
        obtain ⟨q', hq', hcore, hconfig, hcapacity, hactive, -⟩ := ih (h.drop key)
          (Nat.le_of_lt_succ (hlt.trans_le hfuel))
        refine ⟨q', hq', hcore, hconfig, hcapacity,
          hactive.trans (h.activeSessionCount_drop hkey), fun hempty => ?_⟩
        rw [hempty] at hkey
        exact absurd hkey List.not_mem_nil
    · rw [if_neg hover]
      exact ⟨q, rfl, h, rfl, Nat.not_lt.mp hover, rfl, id⟩

/-- Dropping any number of sessions. -/
theorem Core.dropAll (h : Core q) (keys : List UploadSessionKey) :
    Core (keys.foldl (fun q key => (q.removeSession key).unqueue key) q) ∧
      (keys.foldl (fun q key => (q.removeSession key).unqueue key) q).config = q.config ∧
      (keys.foldl (fun q key => (q.removeSession key).unqueue key) q).waitingOrder.length ≤
        q.waitingOrder.length := by
  induction keys generalizing q with
  | nil => exact ⟨h, rfl, Nat.le_refl _⟩
  | cons key keys ih =>
    obtain ⟨hcore, hconfig, hlength⟩ := ih (h.drop key)
    exact ⟨hcore, hconfig, hlength.trans (List.length_filter_le _ _)⟩

/-- **Reaping establishes the invariant.** -/
theorem Core.reap (h : Core q) (hcapacity : q.waitingOrder.length ≤ q.config.waitingCapacity)
    (now : Nat) : ∃ q', q.reapExpiredSessions now = some q' ∧ Inv q' ∧ q'.config = q.config := by
  rw [reapExpiredSessions]
  obtain ⟨hcore, hconfig, hlength⟩ := h.dropAll ((q.sessions.filter fun session =>
    timeoutOf q.config session.phase < now - session.lastActivity).map (·.key))
  obtain ⟨q', hq', hcore', hconfig', hlength', hdone⟩ := hcore.promoteLoop now (Nat.le_refl _)
  refine ⟨q', hq', ⟨hcore', ?_, ?_⟩, hconfig'.trans hconfig⟩
  · rw [hconfig', hconfig]
    exact hlength'.trans (hlength.trans hcapacity)
  · rwa [hconfig']

/-! ## The calls -/

/-- What the invariant looks at in a session: its key, and whether it has a slot. -/
def standing (session : UploadSession) : UploadSessionKey × Bool :=
  (session.key, session.phase.isActive)

theorem activeSessionCount_eq (q : UploadQueueState) :
    q.activeSessionCount = (q.sessions.map standing).countP Prod.snd := by
  rw [activeSessionCount, List.countP_map]
  rfl

theorem waiting_eq (l : List UploadSession) :
    (l.filter (·.phase = .waiting)).map (·.ident) =
      ((l.map standing).filter (!·.2)).map (·.1.ident) := by
  rw [List.filter_map, List.map_map]
  refine congrArg₂ _ rfl (List.filter_congr fun session _ => ?_)
  cases hphase : session.phase <;> simp [standing, hphase, UploadSessionPhase.isActive]

theorem Inv.of_standing (h : Inv q) {q' : UploadQueueState} (hconfig : q'.config = q.config)
    (horder : q'.waitingOrder = q.waitingOrder)
    (hstanding : q'.sessions.map standing = q.sessions.map standing) : Inv q' := by
  have hactive : q'.activeSessionCount = q.activeSessionCount := by
    rw [activeSessionCount_eq, hstanding, ← activeSessionCount_eq]
  refine ⟨⟨?_, ?_, ?_⟩, ?_, ?_⟩
  · have hpeers : ∀ l : List UploadSession,
        l.map (·.key.peer.ident) = (l.map standing).map (·.1.peer.ident) := fun l => by
      rw [List.map_map]
      rfl
    rw [hpeers, hstanding, ← hpeers]
    exact h.peers
  · rw [horder, waiting_eq, hstanding, ← waiting_eq]
    exact h.waiting
  · rw [hactive, hconfig]
    exact h.active_le
  · rw [horder, hconfig]
    exact h.capacity
  · rw [horder, hconfig, hactive]
    exact h.conserving

/-- Changing a session within its phase, or from granted to uploading. -/
theorem Inv.modify (h : Inv q) {key : UploadSessionKey} {f : UploadSession → UploadSession}
    (hf : ∀ session ∈ q.sessions, session.ident = key.ident →
      standing (f session) = standing session) : Inv (q.modifySession key f) := by
  refine h.of_standing rfl rfl ?_
  rw [modifySession, Keyed.modify, List.map_map]
  refine List.map_congr_left fun session hmem => ?_
  by_cases hident : session.ident = key.ident
  · rw [Function.comp_apply, if_pos hident, hf session hmem hident]
  · rw [Function.comp_apply, if_neg hident]

/-- Nobody of the peer is left: the map has no session to overwrite. -/
theorem insert_eq_cons {sessions : List UploadSession} {session : UploadSession}
    (h : ∀ other ∈ sessions, other.key.peer.ident ≠ session.key.peer.ident) :
    Keyed.insert UploadSession.ident session sessions = session :: sessions := by
  rw [Keyed.insert, Keyed.remove_eq_self]
  exact fun other hmem hident => h other hmem (congrArg KeyIdent.peer hident)

/-- The new key takes the place of the old one in the order. -/
theorem replaceWaitingKey_perm (q : UploadQueueState) (existingKey newKey : UploadSessionKey)
    {idents : List KeyIdent}
    (h : (q.waitingOrder.map (·.ident)).Perm (existingKey.ident :: idents)) :
    ((q.replaceWaitingKey existingKey newKey).waitingOrder.map (·.ident)).Perm
      (newKey.ident :: idents) := by
  obtain ⟨queued, hqueued, hident⟩ := List.mem_map.mp (h.mem_iff.mpr List.mem_cons_self)
  rw [replaceWaitingKey]
  cases hidx : q.waitingOrder.findIdx? (·.ident = existingKey.ident) with
  | none =>
    have hnone := List.findIdx?_eq_none_iff.mp hidx queued hqueued
    simp [hident] at hnone
  | some i =>
    obtain ⟨hlt, hfound, -⟩ := List.findIdx?_eq_some_iff_getElem.mp hidx
    obtain ⟨front, back, heq, hset⟩ := KeyOrder.exists_middle (List.getElem?_eq_getElem hlt)
    dsimp only
    rw [heq, List.map_append, List.map_cons, of_decide_eq_true hfound] at h
    rw [hset, List.map_append, List.map_cons]
    exact List.perm_middle.trans ((List.perm_middle.symm.trans h).cons_inv.cons _)

/-- A session moves to another key of the same peer. -/
theorem Inv.rekey (h : Inv q) (moved : UploadSession) {session : UploadSession}
    (hmem : session ∈ q.sessions)
    (hpeer : session.key.peer.ident = moved.key.peer.ident) (hphase : moved.phase = session.phase) :
    Inv ((if session.phase = .waiting
        then (q.removeSession session.key).replaceWaitingKey session.key moved.key
        else q.removeSession session.key).insertSession moved) := by
  obtain ⟨front, back, heq, hremove, -⟩ := h.distinct.exists_split hmem
  have hremove : Keyed.remove UploadSession.ident session.key.ident q.sessions = front ++ back :=
    hremove
  have hpeers := h.peers
  rw [heq, (List.perm_middle.map _).nodup_iff, List.map_cons, List.nodup_cons] at hpeers
  have hothers : ∀ other ∈ front ++ back, other.key.peer.ident ≠ moved.key.peer.ident := by
    intro other hother hident
    exact hpeers.1 (hpeer.trans hident.symm ▸ List.mem_map_of_mem hother)
  have hold : (q.waitingOrder.map (·.ident)).Perm
      (((session :: (front ++ back)).filter (·.phase = .waiting)).map (·.ident)) := by
    have hwaiting := h.waiting
    rw [heq] at hwaiting
    exact hwaiting.trans ((List.perm_middle.filter _).map _)
  generalize hqueue : (if session.phase = .waiting
    then (q.removeSession session.key).replaceWaitingKey session.key moved.key
    else q.removeSession session.key) = queue
  have hparts : queue.config = q.config ∧ queue.sessions = front ++ back ∧
      (queue.waitingOrder.map (·.ident)).Perm
        (((moved :: (front ++ back)).filter (·.phase = .waiting)).map (·.ident)) := by
    rw [← hqueue]
    by_cases hwaiting : session.phase = .waiting
    · rw [if_pos hwaiting]
      refine ⟨rfl, hremove, ?_⟩
      rw [List.filter_cons_of_pos (by simp [hphase, hwaiting]), List.map_cons]
      rw [List.filter_cons_of_pos (by simp [hwaiting]), List.map_cons] at hold
      exact replaceWaitingKey_perm (q.removeSession session.key) session.key moved.key hold
    · rw [if_neg hwaiting]
      refine ⟨rfl, hremove, ?_⟩
      rw [List.filter_cons_of_neg (by simp [hphase, hwaiting])]
      rwa [List.filter_cons_of_neg (by simp [hwaiting])] at hold
  obtain ⟨hconfig, hsessions, hwaiting⟩ := hparts
  have hinsert : (queue.insertSession moved).sessions = moved :: (front ++ back) := by
    rw [insertSession, hsessions, insert_eq_cons hothers]
  have hactive : (queue.insertSession moved).activeSessionCount = q.activeSessionCount := by
    rw [activeSessionCount, hinsert, activeSessionCount, heq, List.perm_middle.countP_eq,
      List.countP_cons, List.countP_cons, hphase]
  have hlength : queue.waitingOrder.length = q.waitingOrder.length := by
    have hnew := hwaiting.length_eq
    have hold := hold.length_eq
    rw [List.filter_cons, hphase] at hnew
    rw [List.filter_cons] at hold
    split at hnew <;> split at hold <;> simp_all
  refine ⟨⟨?_, ?_, ?_⟩, ?_, ?_⟩
  · rw [hinsert, List.map_cons, List.nodup_cons, ← hpeer]
    exact hpeers
  · rw [hinsert]
    exact hwaiting
  · rw [hactive]
    exact hconfig ▸ h.active_le
  · exact hlength.trans_le (hconfig ▸ h.capacity)
  · rw [hactive]
    rcases h.conserving with hempty | hfull
    · exact .inl (List.length_eq_zero_iff.mp (hlength.trans (List.length_eq_zero_iff.mpr hempty)))
    · exact .inr (hconfig ▸ hfull)

/-- The session of a new peer, and the queue with it. -/
theorem admitSession_spec {key : UploadSessionKey}
    (hnew : ∀ other ∈ q.sessions, other.key.peer.ident ≠ key.peer.ident) (connectionId now : Nat) :
    ∃ session : UploadSession, session.key = key ∧ session.connectionId = connectionId ∧
      (session.phase =
        if q.activeSessionCount < q.config.activeSlots then .granted else .waiting) ∧
      session.queuedAt = now ∧ session.waitingSequence = q.nextWaitingSequence ∧
      (q.admitSession key connectionId now).sessions = session :: q.sessions ∧
      ((q.admitSession key connectionId now).waitingOrder =
        if q.activeSessionCount < q.config.activeSlots then q.waitingOrder
        else q.waitingOrder ++ [key]) ∧
      (q.admitSession key connectionId now).config = q.config ∧
      (q.admitSession key connectionId now).nextWaitingSequence =
        min (q.nextWaitingSequence + 1) (2 ^ 64 - 1) :=
  ⟨_, rfl, rfl, rfl, rfl, rfl, insert_eq_cons hnew, rfl, rfl, rfl⟩

/-- A new session, with a slot or waiting. -/
theorem Inv.admitSession (h : Inv q) {key : UploadSessionKey}
    (hnew : ∀ other ∈ q.sessions, other.key.peer.ident ≠ key.peer.ident) (connectionId now : Nat) :
    Core (q.admitSession key connectionId now) ∧
      ((q.admitSession key connectionId now).waitingOrder = [] ∨
        q.config.activeSlots ≤ (q.admitSession key connectionId now).activeSessionCount) := by
  obtain ⟨session, hkey, -, hphase, -, -, hsessions, horder, hconfig, -⟩ :=
    admitSession_spec hnew connectionId now
  generalize q.admitSession key connectionId now = queue at hsessions horder hconfig ⊢
  subst hkey
  have hpeers : (queue.sessions.map (·.key.peer.ident)).Nodup := by
    rw [hsessions, List.map_cons, List.nodup_cons]
    refine ⟨fun hmem => ?_, h.peers⟩
    obtain ⟨other, hother, hident⟩ := List.mem_map.mp hmem
    exact hnew other hother hident
  have hactive : queue.activeSessionCount =
      q.activeSessionCount + if session.phase.isActive then 1 else 0 := by
    rw [activeSessionCount, hsessions, List.countP_cons, activeSessionCount]
  by_cases hslot : q.activeSessionCount < q.config.activeSlots
  · rw [if_pos hslot] at hphase horder
    rw [hphase, UploadSessionPhase.isActive, if_pos rfl] at hactive
    refine ⟨⟨hpeers, ?_, ?_⟩, ?_⟩
    · rw [hsessions, horder, List.filter_cons_of_neg (by simp [hphase])]
      exact h.waiting
    · rw [hactive, hconfig]
      exact hslot
    · rw [horder]
      exact h.conserving.imp_right fun hfull => absurd hfull (Nat.not_le.mpr hslot)
  · rw [if_neg hslot] at hphase horder
    rw [hphase, UploadSessionPhase.isActive, if_neg Bool.false_ne_true, Nat.add_zero] at hactive
    refine ⟨⟨hpeers, ?_, ?_⟩, ?_⟩
    · rw [hsessions, horder, List.filter_cons_of_pos (by simp [hphase]), List.map_append,
        List.map_cons, List.map_nil, List.map_cons]
      exact (List.perm_append_singleton _ _).trans (h.waiting.cons _)
    · rw [hactive, hconfig]
      exact h.active_le
    · rw [hactive]
      exact .inr (Nat.not_lt.mp hslot)

/-- The session found for a peer. -/
theorem sessionKeyForPeer_cases (q : UploadQueueState) (peer : UploadPeerIdentity) :
    (q.sessionKeyForPeer peer = none ∧
      ∀ session ∈ q.sessions, session.key.peer.ident ≠ peer.ident) ∨
    ∃ session ∈ q.sessions, q.sessionKeyForPeer peer = some session.key ∧
      session.key.peer.ident = peer.ident := by
  rw [sessionKeyForPeer]
  cases hfind : q.sessions.find? (·.key.peer.ident = peer.ident) with
  | none => exact .inl ⟨rfl, by simpa using hfind⟩
  | some session =>
    exact .inr ⟨session, List.mem_of_find?_eq_some hfind, rfl, by simpa using List.find?_some hfind⟩

theorem Inv.beginSession (h : Inv q) (key : UploadSessionKey) (connectionId now : Nat) :
    ∃ status q', q.beginSession key connectionId now = some (status, q') ∧ Inv q' ∧
      q'.config = q.config := by
  obtain ⟨q₁, hreap, h₁, hconfig⟩ := h.reap h.capacity now
  rw [UploadQueueState.beginSession, hreap, Option.bind_eq_bind, Option.bind_some]
  rcases sessionKeyForPeer_cases q₁ key.peer with ⟨hnone, hnew⟩ | ⟨session, hmem, hsome, hpeer⟩
  · obtain ⟨hcore, hconserving⟩ := h₁.admitSession hnew connectionId now
    obtain ⟨q₂, htrim, hcore₂, hconfig₂, hcapacity, hactive, hempty⟩ :=
      hcore.trimLoop now (Nat.le_refl _)
    obtain ⟨status, hstatus⟩ := hcore₂.exists_status key now
    rw [hnone]
    dsimp only
    rw [trimWaitingQueue, htrim, Option.bind_eq_bind, Option.bind_some, hstatus]
    refine ⟨status, q₂, rfl, ⟨hcore₂, hconfig₂ ▸ hcapacity, ?_⟩, hconfig₂.trans hconfig⟩
    rw [hconfig₂, hactive]
    exact hconserving.imp_left hempty
  · have hget : q₁.getSession session.key = some session :=
      h₁.distinct.get_eq_some_iff.mpr ⟨hmem, rfl⟩
    have hinv := h₁.rekey { session with
      key := key, connectionId := connectionId, lastActivity := now } hmem hpeer rfl
    obtain ⟨status, hstatus⟩ := hinv.exists_status key now
    rw [hsome]
    dsimp only at hstatus hinv ⊢
    rw [hget, Option.bind_eq_bind, Option.bind_some, hstatus]
    refine ⟨status, _, rfl, hinv, ?_⟩
    rw [insertSession]
    split
    · exact hconfig
    · exact hconfig

theorem Inv.pollSession (h : Inv q) (handle : UploadSessionHandle) (now : Nat)
    (refreshActivity : Bool) :
    ∃ status q', q.pollSession handle now refreshActivity = some (status, q') ∧ Inv q' ∧
      q'.config = q.config := by
  obtain ⟨q₁, hreap, h₁, hconfig⟩ := h.reap h.capacity now
  rw [UploadQueueState.pollSession, hreap, Option.bind_eq_bind, Option.bind_some]
  split
  · exact ⟨_, _, rfl, h₁, hconfig⟩
  · next session hget =>
    split
    · exact ⟨_, _, rfl, h₁, hconfig⟩
    · have hinv : Inv (if refreshActivity = true then q₁.modifySession handle.key fun session =>
          { session with lastActivity := now } else q₁) := by
        split
        · exact h₁.modify fun _ _ _ => rfl
        · exact h₁
      obtain ⟨status, hstatus⟩ := hinv.exists_status handle.key now
      dsimp only
      rw [hstatus]
      refine ⟨status, _, rfl, hinv, ?_⟩
      split
      · exact hconfig
      · exact hconfig

theorem Inv.noteRequestParts (h : Inv q) (handle : UploadSessionHandle) (now : Nat) :
    ∃ status q', q.noteRequestParts handle now = some (status, q') ∧ Inv q' ∧
      q'.config = q.config := by
  obtain ⟨q₁, hreap, h₁, hconfig⟩ := h.reap h.capacity now
  rw [UploadQueueState.noteRequestParts, hreap, Option.bind_eq_bind, Option.bind_some]
  split
  · exact ⟨_, _, rfl, h₁, hconfig⟩
  · next session hget =>
    split
    · exact ⟨_, _, rfl, h₁, hconfig⟩
    · have h₂ : Inv (q₁.modifySession handle.key fun session =>
          { session with lastActivity := now }) := h₁.modify fun _ _ _ => rfl
      dsimp only
      split
      · next hactive =>
        refine ⟨_, _, rfl, h₂.modify fun other hother hident => ?_, hconfig⟩
        -- only the session of the handle has its key, and it has a slot
        obtain ⟨original, horiginal, rfl⟩ := List.mem_map.mp hother
        have hmodified : (if original.ident = handle.key.ident
            then { original with lastActivity := now } else original).ident = original.ident := by
          split
          · rfl
          · rfl
        have horiginal' := h₁.distinct.get_eq_some_iff.mpr ⟨horiginal, hmodified.symm.trans hident⟩
        rw [if_pos (hmodified.symm.trans hident)]
        rw [Option.some.inj (horiginal'.symm.trans hget)]
        exact Prod.ext rfl hactive.symm
      · obtain ⟨status, hstatus⟩ := h₂.exists_status handle.key now
        rw [hstatus]
        exact ⟨status, _, rfl, h₂, hconfig⟩

/-- A session with a slot is not in the order, so releasing a session drops its key in either
case. -/
theorem Core.release_eq_drop (h : Core q) {key : UploadSessionKey} {session : UploadSession}
    (hget : q.getSession key = some session) :
    (if session.phase = .waiting then (q.removeSession key).unqueue key
      else q.removeSession key) = (q.removeSession key).unqueue key := by
  split
  · rfl
  · next hphase =>
    have hnone : ∀ queued ∈ q.waitingOrder, decide (queued.ident ≠ key.ident) = true := by
      intro queued hqueued
      refine decide_eq_true fun hident => hphase ?_
      obtain ⟨other, -, -, hwaiting, hother⟩ := h.exists_session hqueued
      rw [getSession, hident] at hother
      rwa [Option.some.inj (hget.symm.trans hother)]
    rw [unqueue]
    exact congrArg (UploadQueueState.mk _ _ · _) (List.filter_eq_self.mpr hnone).symm

theorem Inv.releaseSession (h : Inv q) (handle : UploadSessionHandle) (now : Nat) :
    ∃ q', q.releaseSession handle now = some q' ∧ Inv q' ∧ q'.config = q.config := by
  rw [UploadQueueState.releaseSession]
  split
  · exact ⟨q, rfl, h, rfl⟩
  · next session hget =>
    split
    · exact ⟨q, rfl, h, rfl⟩
    · dsimp only
      rw [h.release_eq_drop hget]
      have hcapacity : ((q.removeSession handle.key).unqueue handle.key).waitingOrder.length ≤
          q.config.waitingCapacity := (List.length_filter_le _ _).trans h.capacity
      obtain ⟨q₁, hreap, h₁, hconfig⟩ := (h.drop handle.key).reap hcapacity now
      obtain ⟨q₂, hpromote, h₂, hconfig₂, hlength, hdone⟩ := h₁.promoteLoop now (Nat.le_refl _)
      rw [hreap, Option.bind_eq_bind, Option.bind_some]
      refine ⟨q₂, hpromote, ⟨h₂, ?_, ?_⟩, hconfig₂.trans hconfig⟩
      · rw [hconfig₂]
        exact hlength.trans h₁.capacity
      · rwa [hconfig₂]

/-- **Every call returns and keeps the invariant.** -/
theorem Inv.step (h : Inv q) (call : Call) :
    ∃ q', UploadQueueState.step q call = some q' ∧ Inv q' ∧ q'.config = q.config := by
  cases call with
  | beginSession key connectionId now =>
    obtain ⟨status, q', hcall, hq'⟩ := h.beginSession key connectionId now
    exact ⟨q', by rw [UploadQueueState.step, hcall]; rfl, hq'⟩
  | pollSession handle now refresh =>
    obtain ⟨status, q', hcall, hq'⟩ := h.pollSession handle now refresh
    exact ⟨q', by rw [UploadQueueState.step, hcall]; rfl, hq'⟩
  | noteRequestParts handle now =>
    obtain ⟨status, q', hcall, hq'⟩ := h.noteRequestParts handle now
    exact ⟨q', by rw [UploadQueueState.step, hcall]; rfl, hq'⟩
  | releaseSession handle now => exact h.releaseSession handle now

theorem inv_new (config : UploadQueueConfig) : Inv (new config) :=
  ⟨⟨List.nodup_nil, .nil, Nat.zero_le _⟩, Nat.zero_le _, .inl rfl⟩

/-- **The upload queue, after any calls.**  No call panics.  No more sessions have a slot than there
are slots; the order lists exactly the waiting sessions, each once; no more wait than the capacity
allows; no peer has two sessions; and nobody waits beside a free slot. -/
theorem queue_after (config : UploadQueueConfig) (calls : List Call) :
    ∃ q, run UploadQueueState.step (new config) calls = some q ∧
      q.activeSessionCount ≤ config.activeSlots ∧
      (q.waitingOrder.map (·.ident)).Nodup ∧
      (∀ key : UploadSessionKey, key.ident ∈ q.waitingOrder.map (·.ident) ↔
        ∃ session ∈ q.sessions, session.key.ident = key.ident ∧ session.phase = .waiting) ∧
      q.sessions.countP (·.phase = .waiting) ≤ config.waitingCapacity ∧
      q.sessions.Pairwise (fun a b => a.key.peer.ident ≠ b.key.peer.ident) ∧
      ((∃ session ∈ q.sessions, session.phase = .waiting) →
        config.activeSlots ≤ q.activeSessionCount) := by
  have hstep : ∀ (q : UploadQueueState) (call : Call), q.config = config ∧ Inv q →
      ∃ q', UploadQueueState.step q call = some q' ∧ q'.config = config ∧ Inv q' := by
    rintro q call ⟨hconfig, hinv⟩
    obtain ⟨q', hq', hinv', hconfig'⟩ := hinv.step call
    exact ⟨q', hq', hconfig'.trans hconfig, hinv'⟩
  obtain ⟨q, hrun, rfl, hinv⟩ := exists_run hstep calls ⟨rfl, inv_new config⟩
  have hwaiting : ∀ key : UploadSessionKey, key.ident ∈ q.waitingOrder.map (·.ident) ↔
      ∃ session ∈ q.sessions, session.key.ident = key.ident ∧ session.phase = .waiting := by
    intro key
    rw [hinv.waiting.mem_iff, List.mem_map]
    constructor
    · rintro ⟨session, hmem, hident⟩
      obtain ⟨hmem, hphase⟩ := List.mem_filter.mp hmem
      exact ⟨session, hmem, hident, of_decide_eq_true hphase⟩
    · rintro ⟨session, hmem, hident, hphase⟩
      exact ⟨session, List.mem_filter.mpr ⟨hmem, decide_eq_true hphase⟩, hident⟩
  refine ⟨q, hrun, hinv.active_le, ?_, hwaiting, ?_, List.pairwise_map.mp hinv.peers, ?_⟩
  · exact hinv.waiting.nodup_iff.mpr (hinv.distinct.sublist (List.filter_sublist.map _))
  · rw [← hinv.length_waitingOrder]
    exact hinv.capacity
  · rintro ⟨session, hmem, hphase⟩
    refine hinv.conserving.resolve_left fun hempty => ?_
    have hident := (hwaiting session.key).mpr ⟨session, hmem, rfl, hphase⟩
    rw [hempty] at hident
    exact absurd hident List.not_mem_nil

end Overlord.Emule.UploadQueueState
