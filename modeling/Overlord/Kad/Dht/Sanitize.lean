import Overlord.Kad.Dht.Traversal

/-!
# The contacts that are taken from a response

`sanitize_res_contacts` filters the contacts of a `RES` packet in one pass.  An entry is dropped if
its address or port is zero, if its address has been seen before, or if two addresses of its /24
network have been taken; a responder with an IPv4 address counts as seen and as one of its network.
The addresses that are seen include those of entries that were dropped for their network.

`Sanitizer.Inv` says what the variables of the loop are after any part of the list, and
`sanitizeResContacts_spec` what the result is: nothing that clusters is let through, and nothing is
dropped without one of these reasons.

* `Round` — what one pass of the loop does with an entry; it is either taken or dropped for one of
  the three reasons.
* `Repeats`, `occupants` — the reasons in terms of the list, not of the variables of the loop.
-/

set_option autoImplicit false

namespace Overlord.Kad.Dht

/-! ## What the result should be -/

/-- An entry that can be contacted. -/
def Valid (entry : ContactEntry) : Prop := entry.ip ≠ 0 ∧ entry.udpPort ≠ 0

instance (entry : ContactEntry) : Decidable (Valid entry) := inferInstanceAs (Decidable (_ ∧ _))

/-- The address of a responder, if it is one of IPv4. -/
def responderIp : SocketAddr → Option Ipv4Addr
  | .v4 ip _ => some ip
  | .v6 _ _ _ _ => none

/-- How many addresses of a /24 network there are, the responder's included. -/
def occupants (responder : SocketAddr) (entries : List ContactEntry) (net : UInt32) : Nat :=
  entries.countP (fun entry => ipv4Prefix24 entry.ipAddr = net) +
    ((responderIp responder).toList.countP fun ip => ipv4Prefix24 ip = net)

/-- The address of an entry has been seen. -/
def Repeats (responder : SocketAddr) (earlier : List ContactEntry) (ip : Ipv4Addr) : Prop :=
  responderIp responder = some ip ∨ ∃ entry ∈ earlier, Valid entry ∧ entry.ipAddr = ip

/-! ## The loop -/

namespace Sanitizer

variable {responder : SocketAddr} {processed : List ContactEntry} {s : Sanitizer}
  {entry : ContactEntry}

/-- The variables of the loop after a part of the list. -/
structure Inv (responder : SocketAddr) (processed : List ContactEntry) (s : Sanitizer) : Prop where
  seen_iff : ∀ ip, ip ∈ s.seenIps ↔ Repeats responder processed ip
  counts : ∀ net, s.prefixCounts net = occupants responder s.sanitized net
  counts_le : ∀ net, s.prefixCounts net ≤ 2
  sublist : s.sanitized.Sublist processed
  valid : ∀ entry ∈ s.sanitized, Valid entry
  nodup : (s.sanitized.map (·.ipAddr)).Nodup
  responder_ne : ∀ entry ∈ s.sanitized, responderIp responder ≠ some entry.ipAddr

theorem inv_start (responder : SocketAddr) : Inv responder [] (start responder) := by
  cases responder with
  | v4 ip port =>
    refine ⟨fun other => ?_, fun net => ?_, fun net => ?_, .slnil, fun _ h => (by cases h),
      List.nodup_nil, fun _ h => by cases h⟩
    · simp [start, Repeats, responderIp, eq_comm]
    · simp only [start, occupants, responderIp, Option.toList_some, List.countP_nil, Nat.zero_add,
        List.countP_singleton, decide_eq_true_eq]
      by_cases hnet : net = ipv4Prefix24 ip
      · rw [hnet, Function.update_self, if_pos rfl]
      · rw [Function.update_of_ne hnet, if_neg (Ne.symm hnet)]
    · show Function.update (fun _ => 0) (ipv4Prefix24 ip) 1 net ≤ 2
      by_cases hnet : net = ipv4Prefix24 ip
      · rw [hnet, Function.update_self]
        decide
      · rw [Function.update_of_ne hnet]
        decide
  | v6 ip port flowinfo scopeId =>
    refine ⟨fun other => ?_, fun net => rfl, fun net => Nat.zero_le _, .slnil,
      fun _ h => (by cases h), List.nodup_nil, fun _ h => by cases h⟩
    simp [start, Repeats, responderIp]

/-- A valid entry adds its address to those that are seen. -/
theorem repeats_append (hvalid : Valid entry) (ip : Ipv4Addr) :
    Repeats responder (processed ++ [entry]) ip ↔
      entry.ipAddr = ip ∨ Repeats responder processed ip := by
  simp only [Repeats, List.mem_append, List.mem_singleton, or_and_right, exists_or,
    exists_eq_left, hvalid, true_and]
  rw [← or_assoc, or_comm]

theorem repeats_append_invalid (hvalid : ¬ Valid entry) (ip : Ipv4Addr) :
    Repeats responder (processed ++ [entry]) ip ↔ Repeats responder processed ip := by
  simp only [Repeats, List.mem_append, List.mem_singleton, or_and_right, exists_or,
    exists_eq_left, hvalid, false_and, or_false]

/-- What one round does to an entry: it drops it for one of three reasons, or takes it. -/
inductive Round (responder : SocketAddr) (processed : List ContactEntry) (s : Sanitizer)
    (entry : ContactEntry) (s' : Sanitizer) : Prop where
  | invalid (hvalid : ¬ Valid entry) (hs : s' = s)
  | repeats (hvalid : Valid entry) (hseen : Repeats responder processed entry.ipAddr) (hs : s' = s)
  | crowded (hvalid : Valid entry) (hseen : ¬ Repeats responder processed entry.ipAddr)
      (hcount : 2 ≤ s.prefixCounts (ipv4Prefix24 entry.ipAddr))
      (hs : s' = { s with seenIps := entry.ipAddr :: s.seenIps })
  | taken (hvalid : Valid entry) (hseen : ¬ Repeats responder processed entry.ipAddr)
      (hcount : s.prefixCounts (ipv4Prefix24 entry.ipAddr) < 2)
      (hs : s' = ⟨entry.ipAddr :: s.seenIps,
        Function.update s.prefixCounts (ipv4Prefix24 entry.ipAddr)
          (s.prefixCounts (ipv4Prefix24 entry.ipAddr) + 1), s.sanitized ++ [entry]⟩)

theorem round_step (h : Inv responder processed s) (entry : ContactEntry) :
    Round responder processed s entry (s.step entry) := by
  rw [step]
  split
  next hzero => exact .invalid (fun hvalid => hzero.elim hvalid.1 hvalid.2) rfl
  next hzero =>
    have hvalid : Valid entry := not_or.mp hzero
    dsimp only
    split
    next hseen => exact .repeats hvalid ((h.seen_iff _).mp hseen) rfl
    next hseen =>
      have hseen := fun hrepeats => hseen ((h.seen_iff _).mpr hrepeats)
      split
      next hcount => exact .crowded hvalid hseen hcount rfl
      next hcount => exact .taken hvalid hseen (Nat.lt_of_not_le hcount) rfl

theorem inv_step (h : Inv responder processed s) (entry : ContactEntry) :
    Inv responder (processed ++ [entry]) (s.step entry) := by
  have hsublist : s.sanitized.Sublist (processed ++ [entry]) :=
    h.sublist.trans (List.sublist_append_left _ _)
  cases round_step h entry with
  | invalid hvalid hs =>
    rw [hs]
    exact { h with
      seen_iff := fun ip => (h.seen_iff ip).trans (repeats_append_invalid hvalid ip).symm
      sublist := hsublist }
  | repeats hvalid hseen hs =>
    rw [hs]
    refine { h with seen_iff := fun ip => ?_, sublist := hsublist }
    rw [repeats_append hvalid, h.seen_iff]
    exact ⟨.inr, fun hip => hip.elim (fun heq => heq ▸ hseen) id⟩
  | crowded hvalid hseen hcount hs =>
    rw [hs]
    refine { h with seen_iff := fun ip => ?_, sublist := hsublist }
    rw [repeats_append hvalid, ← h.seen_iff, List.mem_cons, eq_comm]
  | taken hvalid hseen hcount hs =>
    rw [hs]
    have hresponder : responderIp responder ≠ some entry.ipAddr := fun hip => hseen (.inl hip)
    have hnew : entry.ipAddr ∉ s.sanitized.map (·.ipAddr) := by
      intro hmem
      obtain ⟨other, hother, heq⟩ := List.mem_map.mp hmem
      exact hseen (.inr ⟨other, h.sublist.mem hother, h.valid other hother, heq⟩)
    have hoccupants : ∀ net, occupants responder (s.sanitized ++ [entry]) net =
        occupants responder s.sanitized net +
          if ipv4Prefix24 entry.ipAddr = net then 1 else 0 := by
      intro net
      simp only [occupants, List.countP_append, List.countP_singleton, decide_eq_true_eq]
      omega
    refine ⟨fun ip => ?_, fun net => ?_, fun net => ?_, ?_, ?_, ?_, ?_⟩
    · rw [repeats_append hvalid, ← h.seen_iff, List.mem_cons, eq_comm]
    · rw [hoccupants]
      dsimp only
      by_cases hnet : net = ipv4Prefix24 entry.ipAddr
      · rw [hnet, Function.update_self, if_pos rfl, h.counts]
      · rw [Function.update_of_ne hnet, if_neg (Ne.symm hnet), h.counts, Nat.add_zero]
    · dsimp only
      by_cases hnet : net = ipv4Prefix24 entry.ipAddr
      · rw [hnet, Function.update_self]
        exact hcount
      · rw [Function.update_of_ne hnet]
        exact h.counts_le net
    · exact h.sublist.append (List.Sublist.refl _)
    · intro other hother
      rcases List.mem_append.mp hother with hother | hother
      · exact h.valid other hother
      · exact List.mem_singleton.mp hother ▸ hvalid
    · rw [List.map_append, List.map_singleton]
      exact List.nodup_append.mpr ⟨h.nodup, List.nodup_singleton _, fun ip hip other hother heq =>
        hnew (List.mem_singleton.mp hother ▸ heq ▸ hip)⟩
    · intro other hother
      rcases List.mem_append.mp hother with hother | hother
      · exact h.responder_ne other hother
      · exact List.mem_singleton.mp hother ▸ hresponder

/-- **After any part of the list.** -/
theorem inv_foldl (responder : SocketAddr) (entries : List ContactEntry) :
    Inv responder entries (entries.foldl step (start responder)) := by
  induction entries using List.reverseRecOn with
  | nil => exact inv_start responder
  | append_singleton entries entry ih =>
    rw [List.foldl_append]
    exact inv_step ih entry

/-- The rest of the list adds some of its entries to the result. -/
theorem exists_foldl (s : Sanitizer) (entries : List ContactEntry) :
    ∃ more, (entries.foldl step s).sanitized = s.sanitized ++ more ∧ more.Sublist entries := by
  induction entries generalizing s with
  | nil => exact ⟨[], (List.append_nil _).symm, .slnil⟩
  | cons entry entries ih =>
    obtain ⟨more, hmore, hsublist⟩ := ih (s.step entry)
    rw [List.foldl_cons, hmore, step]
    split
    · exact ⟨more, rfl, hsublist.cons _⟩
    · dsimp only
      split
      · exact ⟨more, rfl, hsublist.cons _⟩
      · split
        · exact ⟨more, rfl, hsublist.cons _⟩
        · exact ⟨entry :: more, List.append_assoc _ _ _, hsublist.cons_cons _⟩

end Sanitizer

/-- **The contacts that are taken.**  A list that is too long is refused as a whole.  Otherwise some
of its entries are taken, in order: they can be contacted, their addresses are distinct and not the
responder's, and no /24 network has more than two of them, the responder included.  An entry that
can be contacted is dropped only if its address is the responder's or that of an earlier entry, or
if its network had two already. -/
theorem sanitizeResContacts_spec (contacts : List ContactEntry) (responder : SocketAddr)
    (maxContacts : Nat) :
    (sanitizeResContacts contacts responder maxContacts = none ↔ maxContacts < contacts.length) ∧
    ∀ taken, sanitizeResContacts contacts responder maxContacts = some taken →
      taken.Sublist contacts ∧ (∀ entry ∈ taken, entry.ip ≠ 0 ∧ entry.udpPort ≠ 0) ∧
      (taken.map (·.ipAddr)).Nodup ∧
      (∀ entry ∈ taken, responderIp responder ≠ some entry.ipAddr) ∧
      (∀ net, occupants responder taken net ≤ 2) ∧
      ∀ front entry back, contacts = front ++ entry :: back → entry.ip ≠ 0 ∧ entry.udpPort ≠ 0 →
        ∃ before after, sanitizeResContacts front responder maxContacts = some before ∧
          (taken = before ++ entry :: after ∨
            (taken = before ++ after ∧ after.Sublist back ∧
              (Repeats responder front entry.ipAddr ∨
                2 ≤ occupants responder before (ipv4Prefix24 entry.ipAddr)))) := by
  rw [sanitizeResContacts]
  split
  next hlong => exact ⟨iff_of_true rfl hlong, nofun⟩
  next hlong =>
    refine ⟨iff_of_false nofun hlong, fun taken htaken => ?_⟩
    obtain rfl := Option.some.inj htaken
    have hinv := Sanitizer.inv_foldl responder contacts
    refine ⟨hinv.sublist, hinv.valid, hinv.nodup, hinv.responder_ne,
      fun net => (hinv.counts net) ▸ hinv.counts_le net, fun front entry back hsplit hvalid => ?_⟩
    subst hsplit
    have hfront : sanitizeResContacts front responder maxContacts =
        some (front.foldl Sanitizer.step (.start responder)).sanitized := by
      rw [List.length_append] at hlong
      exact if_neg (by omega)
    have hbefore := Sanitizer.inv_foldl responder front
    rw [List.foldl_append, List.foldl_cons]
    generalize front.foldl Sanitizer.step (.start responder) = s at hfront hbefore ⊢
    obtain ⟨after, hafter, hsublist⟩ := Sanitizer.exists_foldl (s.step entry) back
    rw [hafter]
    refine ⟨s.sanitized, after, hfront, ?_⟩
    cases Sanitizer.round_step hbefore entry with
    | invalid hinvalid hs => exact absurd hvalid hinvalid
    | repeats _ hseen hs =>
      rw [hs]
      exact .inr ⟨rfl, hsublist, .inl hseen⟩
    | crowded _ _ hcount hs =>
      rw [hs]
      exact .inr ⟨rfl, hsublist, .inr (hbefore.counts _ ▸ hcount)⟩
    | taken _ _ _ hs =>
      rw [hs]
      exact .inl (List.append_assoc _ _ _)

end Overlord.Kad.Dht
