import Overlord.Machine.Run
import Overlord.Wire.KeyStream

/-!
# Reading frames from a channel

A reader takes a frame from a byte stream in *stages*: it asks for some bytes, waits until all of
them are there, decrypts them, and what it has read so far says how many it needs next, or that the
frame is complete (`Framing`).  Bytes arrive in any pieces.  A read that is waiting can be given up,
and the bytes of the frame that it has taken from the stream are then gone; those of the stage it
was waiting in have not even moved the cipher.

* `Parses framing front bytes result` — after `front`, the bytes are taken in stages, and the frame
  is complete with the last of them; a frame that is refused may be refused before.
* `Receiver` is a reader with its end of the channel, and what the peer has sent as it is still to
  come.
* `Receiver.Aligned` — what is still to come begins with what the read that is under way lacks.
  Every event keeps it, except for giving up a read that has taken something.
* `Receiver.returned_of_run` — if no such read is given up, the frames that have been returned are
  the first ones that were sent, and all of them once nothing is left to come.
-/

set_option autoImplicit false

namespace Wire

open Machine

/-- How a reader goes on. -/
inductive Stage (α : Type) where
  /-- It needs so many bytes. -/
  | need (n : Nat)
  | complete (result : Except String α)
deriving DecidableEq

/-- What a reader does after some bytes of a frame. -/
abbrev Framing (α : Type) : Type := List UInt8 → Stage α

variable {κ α β : Type}

/-- From `front` on, the bytes are read to the end of the frame. -/
inductive Parses (framing : Framing α) : List UInt8 → List UInt8 → Except String α → Prop
  | complete {front bytes : List UInt8} {result : Except String α}
      (h : framing front = .complete result) (hend : ∀ a, result = .ok a → bytes = []) :
      Parses framing front bytes result
  | need {front piece bytes : List UInt8} {result : Except String α} {n : Nat}
      (h : framing front = .need n) (hpiece : piece.length = n)
      (hrest : Parses framing (front ++ piece) bytes result) :
      Parses framing front (piece ++ bytes) result

/-- A reader, and the bytes that it has not read. -/
structure Receiver (κ α : Type) where
  cipher : Option κ
  /-- Read before, in the clear. -/
  prefetched : List UInt8
  /-- On their way. -/
  flight : List UInt8
  /-- In the buffer of the socket. -/
  incoming : List UInt8
  /-- The bytes of the stages that are complete. -/
  front : List UInt8
  /-- Of the stage under way, what was prefetched. -/
  clear : List UInt8
  /-- Of the stage under way, what was taken from the socket. -/
  taken : List UInt8
  returned : List α
  /-- A read has failed, or has met the end of the stream. -/
  ended : Bool
deriving DecidableEq

namespace Receiver

/-- A reader at its start, with what it was left and what will come. -/
def new (cipher : Option κ) (prefetched flight : List UInt8) : Receiver κ α :=
  ⟨cipher, prefetched, flight, [], [], [], [], [], false⟩

/-- What can happen to a reader. -/
inductive Event where
  /-- Bytes arrive. -/
  | arrive (n : Nat)
  /-- The read that is under way, or a new one, takes bytes from the socket. -/
  | read (n : Nat)
  /-- The read is given up. -/
  | cancel
  /-- The stream has ended. -/
  | close
deriving DecidableEq, Repr

variable (cipher : KeyStream κ) (framing : Framing α)

/-- The bytes of a stage, once they are all there. -/
def stageBytes (r : Receiver κ α) : List UInt8 := r.clear ++ (cipher.crypt r.cipher r.taken).1

/-- The reader after a stage, as it starts the next one. -/
def settle (r : Receiver κ α) (front : List UInt8) : Receiver κ α :=
  { r with
    cipher := (cipher.crypt r.cipher r.taken).2, front := front, clear := [], taken := [] }

/-- What follows a stage. -/
def advance (r : Receiver κ α) : Receiver κ α :=
  let front := r.front ++ r.stageBytes cipher
  match framing front with
  | .need _ => r.settle cipher front
  | .complete (.ok a) => { r.settle cipher [] with returned := r.returned ++ [a] }
  | .complete (.error _) => { r.settle cipher [] with ended := true }

/-- Take bytes for a stage of `need` bytes: those that were prefetched, then some from the
socket. -/
def take (r : Receiver κ α) (need n : Nat) : Receiver κ α :=
  let fetched := need - (r.clear.length + r.taken.length)
  { r with
    prefetched := r.prefetched.drop fetched
    incoming := r.incoming.drop n
    clear := r.clear ++ r.prefetched.take fetched
    taken := r.taken ++ r.incoming.take n }

/-- One step of a reader. -/
def step (r : Receiver κ α) : Event → Option (Receiver κ α)
  | .arrive n =>
    some { r with flight := r.flight.drop n, incoming := r.incoming ++ r.flight.take n }
  | .read n =>
    if r.ended then none
    else match framing r.front with
      | .complete _ => none
      | .need need =>
        let taken := r.take need n
        if n ≤ r.incoming.length ∧ taken.clear.length + taken.taken.length ≤ need then
          if taken.clear.length + taken.taken.length = need then
            some (taken.advance cipher framing)
          else some taken
        else none
  | .cancel => some { r with front := [], clear := [], taken := [] }
  | .close =>
    if r.ended then none
    else if r.flight = [] ∧ r.incoming = [] ∧ r.prefetched = [] then some { r with ended := true }
    else none

/-- A read is given up only while it has not taken anything. -/
def CancelsClean (r : Receiver κ α) : Event → Prop
  | .cancel => r.front = [] ∧ r.clear = [] ∧ r.taken = []
  | .arrive _ | .read _ | .close => True

instance (r : Receiver κ α) : (event : Event) → Decidable (r.CancelsClean event)
  | .cancel => inferInstanceAs (Decidable (_ ∧ _ ∧ _))
  | .arrive _ | .read _ | .close => instDecidableTrue

/-! ## What is still to come -/

/-- The bytes that a reader will see from the stage on that is under way, decrypted. -/
def text (r : Receiver κ α) : List UInt8 :=
  r.clear ++ r.prefetched ++ (cipher.crypt r.cipher (r.taken ++ r.incoming ++ r.flight)).1

/-- What is to come: what the frame under way lacks, and the frames after it. -/
def Comes (encode : β → List UInt8) (decode : β → Except String α) (r : Receiver κ α) :
    List β → Prop
  | [] => r.front = [] ∧ r.text cipher = []
  | b :: bs => ∃ tail, Parses framing r.front tail (decode b) ∧
    r.text cipher = tail ++ (bs.map encode).flatten

/-- A read can go on, and what comes next is what it lacks. -/
structure Ready (rest : List β) (encode : β → List UInt8) (decode : β → Except String α)
    (r : Receiver κ α) : Prop where
  /-- The stage under way is not complete. -/
  needs : ∃ need, framing r.front = .need need ∧ r.clear.length + r.taken.length < need
  /-- What was prefetched is taken first. -/
  order : r.taken = [] ∨ r.prefetched = []
  comes : r.Comes cipher framing encode decode rest

/-- The frames that were returned are the first ones that were sent, and the others are to come. -/
def Aligned (sent : List β) (encode : β → List UInt8) (decode : β → Except String α)
    (r : Receiver κ α) : Prop :=
  ∃ done rest, sent = done ++ rest ∧ done.map decode = r.returned.map .ok ∧
    (r.ended = false → r.Ready cipher framing rest encode decode)

/-- The frames that were sent are those that the reader expects. -/
structure Expects (framing : Framing α) (sent : List β) (encode : β → List UInt8)
    (decode : β → Except String α) : Prop where
  start : ∃ n, framing [] = .need n
  pos : ∀ front n, framing front = .need n → 0 < n
  parses : ∀ b ∈ sent, Parses framing [] (encode b) (decode b)

variable {cipher framing} {sent rest : List β} {encode : β → List UInt8}
  {decode : β → Except String α} {r r' : Receiver κ α}

/-- Between two frames. -/
theorem ready_of_front_eq_nil (h : Expects framing sent encode decode) (hrest : rest ⊆ sent)
    (hfront : r.front = []) (hclear : r.clear = []) (htaken : r.taken = [])
    (htext : r.text cipher = (rest.map encode).flatten) :
    r.Ready cipher framing rest encode decode where
  needs := by
    obtain ⟨n, hn⟩ := h.start
    refine ⟨n, hfront ▸ hn, ?_⟩
    rw [hclear, htaken]
    exact h.pos [] n hn
  order := .inl htaken
  comes := by
    cases rest with
    | nil => exact ⟨hfront, htext⟩
    | cons b bs =>
      refine ⟨encode b, ?_, htext⟩
      rw [hfront]
      exact h.parses b (hrest List.mem_cons_self)

theorem Comes.congr (h : r.Comes cipher framing encode decode rest) (hfront : r'.front = r.front)
    (htext : r'.text cipher = r.text cipher) : r'.Comes cipher framing encode decode rest := by
  cases rest with
  | nil => rwa [Comes, hfront, htext]
  | cons b bs => rwa [Comes, hfront, htext]

/-- Taking bytes for a stage does not change what is to come. -/
theorem text_take (need n : Nat) : (r.take need n).text cipher = r.text cipher := by
  simp [text, take]

theorem order_take (horder : r.taken = [] ∨ r.prefetched = []) {need n : Nat}
    (hfits : (r.take need n).clear.length + (r.take need n).taken.length ≤ need)
    (hn : n ≤ r.incoming.length) :
    (r.take need n).taken = [] ∨ (r.take need n).prefetched = [] := by
  rcases horder with htaken | hprefetched
  · simp only [take, htaken, List.length_append, List.length_take, List.nil_append,
      List.length_nil] at hfits ⊢
    by_cases hlong : need - (r.clear.length + 0) < r.prefetched.length
    · -- what was prefetched fills the stage, so that nothing is taken from the socket
      have hzero : n = 0 := by omega
      exact .inl (by rw [hzero, List.take_zero])
    · exact .inr (List.drop_eq_nil_of_le (by omega))
  · exact .inr (by simp [take, hprefetched])

/-- After a stage, its bytes are no longer to come. -/
theorem text_settle (horder : r.taken = [] ∨ r.prefetched = []) (front : List UInt8) :
    r.text cipher = r.stageBytes cipher ++ (r.settle cipher front).text cipher := by
  simp only [text, settle, stageBytes, List.append_assoc, List.nil_append, KeyStream.crypt_append]
  rcases horder with htaken | hprefetched
  · simp [htaken]
  · simp [hprefetched]

theorem text_advance (horder : r.taken = [] ∨ r.prefetched = []) :
    r.text cipher = r.stageBytes cipher ++ (r.advance cipher framing).text cipher := by
  rw [advance]
  split
  · exact text_settle horder _
  · exact text_settle horder []
  · exact text_settle horder []

/-- **A stage.**  The bytes of a complete stage are those that the frame goes on with. -/
theorem aligned_advance (h : Expects framing sent encode decode) {done : List β}
    (hsent : sent = done ++ rest) (hdone : done.map decode = r.returned.map .ok)
    (horder : r.taken = [] ∨ r.prefetched = []) {need : Nat} (hneed : framing r.front = .need need)
    (hfull : r.clear.length + r.taken.length = need)
    (hcomes : r.Comes cipher framing encode decode rest) :
    (r.advance cipher framing).Aligned cipher framing sent encode decode ∧
      ((∀ b ∈ rest, ∃ a, decode b = .ok a) → (r.advance cipher framing).ended = r.ended) := by
  have hlength : (r.stageBytes cipher).length = need := by
    rw [stageBytes, List.length_append, KeyStream.length_crypt, hfull]
  cases rest with
  | nil =>
    -- nothing is to come, but the stage has bytes
    have hpos := h.pos r.front need hneed
    have hnil := (List.append_eq_nil_iff.mp ((text_settle horder []).symm.trans hcomes.2)).1
    rw [hnil] at hlength
    exact absurd hlength (Nat.ne_of_lt hpos)
  | cons b bs =>
    obtain ⟨tail, hparses, htext⟩ := hcomes
    cases hparses with
    | complete hcomplete hend => exact absurd (hneed.symm.trans hcomplete) nofun
    | @need _ piece bytes _ n hn hpiece hrest =>
      obtain rfl : need = n := Stage.need.inj (hneed.symm.trans hn)
      have hsplit : ∀ front, r.stageBytes cipher = piece ∧
          (r.settle cipher front).text cipher = bytes ++ (bs.map encode).flatten := by
        intro front
        rw [text_settle horder front, List.append_assoc] at htext
        exact List.append_inj htext (hlength.trans hpiece.symm)
      obtain ⟨rfl, -⟩ := hsplit []
      rw [advance]
      cases hrest with
      | complete hcomplete hend =>
        simp only [hcomplete]
        cases hdecode : decode b with
        | ok a =>
          obtain rfl := hend a hdecode
          refine ⟨⟨done ++ [b], bs, by rw [hsent, List.append_assoc, List.singleton_append], ?_,
            fun _ => ready_of_front_eq_nil h ?_ rfl rfl rfl (hsplit []).2⟩, fun _ => rfl⟩
          · simp [hdone, hdecode]
          · rw [hsent]
            exact fun c hc => List.mem_append_right _ (List.mem_cons_of_mem _ hc)
        | error message =>
          refine ⟨⟨done, b :: bs, hsent, hdone, nofun⟩, fun hok => ?_⟩
          obtain ⟨a, ha⟩ := hok b List.mem_cons_self
          exact absurd (hdecode.symm.trans ha) nofun
      | need hmore hpiece' hrest' =>
        simp only [hmore]
        refine ⟨⟨done, b :: bs, hsent, hdone, fun _ => ?_⟩, fun _ => rfl⟩
        exact ⟨⟨_, hmore, h.pos _ _ hmore⟩, .inl rfl, _, .need hmore hpiece' hrest', (hsplit _).2⟩

/-- **One step.**  Every event keeps the reader aligned, if it does not give up a read that has
taken something. -/
theorem Aligned.step (hexpects : Expects framing sent encode decode)
    (h : r.Aligned cipher framing sent encode decode) {event : Event}
    (hclean : r.CancelsClean event) (hstep : r.step cipher framing event = some r') :
    r'.Aligned cipher framing sent encode decode := by
  obtain ⟨done, rest, hsent, hdone, hready⟩ := h
  cases event with
  | arrive n =>
    obtain rfl := Option.some.inj hstep
    refine ⟨done, rest, hsent, hdone, fun hrunning => ?_⟩
    have hready := hready hrunning
    have htext : text cipher { r with
        flight := r.flight.drop n, incoming := r.incoming ++ r.flight.take n } = r.text cipher := by
      simp [text]
    exact ⟨hready.needs, hready.order, hready.comes.congr rfl htext⟩
  | read n =>
    rw [Receiver.step] at hstep
    split at hstep
    · cases hstep
    · next hrunning =>
      have hready := hready (Bool.eq_false_iff.mpr hrunning)
      split at hstep
      · cases hstep
      · next need hneed =>
        dsimp only at hstep
        split at hstep
        · next hfits =>
          have horder := order_take hready.order hfits.2 hfits.1
          have hcomes : (r.take need n).Comes cipher framing encode decode rest :=
            hready.comes.congr rfl (text_take need n)
          split at hstep
          · next hfull =>
            obtain rfl := Option.some.inj hstep
            exact (aligned_advance (r := r.take need n) hexpects hsent hdone horder hneed hfull
              hcomes).1
          · next hfull =>
            obtain rfl := Option.some.inj hstep
            exact ⟨done, rest, hsent, hdone, fun _ =>
              ⟨⟨need, hneed, Nat.lt_of_le_of_ne hfits.2 hfull⟩, horder, hcomes⟩⟩
        · cases hstep
  | cancel =>
    obtain rfl := Option.some.inj hstep
    obtain ⟨hfront, hclear, htaken⟩ := hclean
    refine ⟨done, rest, hsent, hdone, fun hrunning => ?_⟩
    have hready := hready hrunning
    have hsame : ({ r with front := [], clear := [], taken := [] } : Receiver κ α) = r := by
      obtain ⟨_, _, _, _, front, clear, taken, _, _⟩ := r
      obtain rfl : front = [] := hfront
      obtain rfl : clear = [] := hclear
      obtain rfl : taken = [] := htaken
      rfl
    exact hsame ▸ hready
  | close =>
    rw [Receiver.step] at hstep
    split at hstep
    · cases hstep
    · split at hstep
      · obtain rfl := Option.some.inj hstep
        exact ⟨done, rest, hsent, hdone, nofun⟩
      · cases hstep

/-! ## Runs -/

/-- At the start nothing has been read. -/
theorem aligned_new (h : Expects framing sent encode decode) {channel : Option κ}
    {prefetched flight : List UInt8}
    (hwire : prefetched ++ (cipher.crypt channel flight).1 = (sent.map encode).flatten) :
    (new channel prefetched flight : Receiver κ α).Aligned cipher framing sent encode decode :=
  ⟨[], sent, rfl, rfl, fun _ =>
    ready_of_front_eq_nil h (List.Subset.refl _) rfl rfl rfl hwire⟩

/-- A frame that is still to come lacks more than the stage under way has taken. -/
theorem Ready.le_length_text {b : β} {bs : List β}
    (h : r.Ready cipher framing (b :: bs) encode decode) {need : Nat}
    (hneed : framing r.front = .need need) : need ≤ (r.text cipher).length := by
  obtain ⟨tail, hparses, htext⟩ := h.comes
  cases hparses with
  | complete hcomplete hend => exact absurd (hneed.symm.trans hcomplete) nofun
  | need hn hpiece hrest =>
    obtain rfl := Stage.need.inj (hneed.symm.trans hn)
    rw [htext, List.append_assoc, List.length_append, hpiece]
    exact Nat.le_add_right _ _

/-- **What a reader returns.**  If no read is given up after it has taken something, the frames that
were returned are the first ones that were sent, and all of them once nothing is left to come. -/
theorem returned_of_run (h : Expects framing sent encode decode) {channel : Option κ}
    {prefetched flight : List UInt8}
    (hwire : prefetched ++ (cipher.crypt channel flight).1 = (sent.map encode).flatten)
    {events : List Event}
    (hmeets : Meets (step cipher framing) CancelsClean (new channel prefetched flight) events)
    (hrun : run (step cipher framing) (new channel prefetched flight) events = some r) :
    r.returned.map .ok <+: sent.map decode ∧
      (r.ended = false → r.prefetched = [] → r.incoming = [] → r.flight = [] →
        r.returned.map .ok = sent.map decode) := by
  obtain ⟨⟨done, rest, hsent, hdone, hready⟩, -⟩ := run_of_meets
    (I := Aligned cipher framing sent encode decode) (H := fun _ _ => True) (fun _ => trivial)
    (fun _ _ _ _ _ => trivial) (fun _ _ _ hr hclean hstep => ⟨hr.step h hclean hstep, trivial⟩)
    (aligned_new h hwire) hmeets hrun
  refine ⟨?_, fun hrunning hprefetched hincoming hflight => ?_⟩
  · rw [hsent, List.map_append, hdone]
    exact List.prefix_append _ _
  · cases rest with
    | nil => rw [hsent, List.append_nil, hdone]
    | cons b bs =>
      have hready := hready hrunning
      obtain ⟨need, hneed, hlt⟩ := hready.needs
      have hle := hready.le_length_text hneed
      rw [text, hprefetched, hincoming, hflight] at hle
      simp only [List.append_nil, List.length_append, KeyStream.length_crypt] at hle
      omega

/-- **A reader gets on.**  If bytes of a frame are in the socket, a read completes the stage under
way. -/
theorem exists_step (h : Expects framing sent encode decode)
    (hok : ∀ b ∈ sent, ∃ a, decode b = .ok a)
    (hr : r.Aligned cipher framing sent encode decode) (hrunning : r.ended = false)
    (hflight : r.flight = []) :
    r.returned.map .ok = sent.map decode ∨
      ∃ n r', r.step cipher framing (.read n) = some r' ∧
        r'.Aligned cipher framing sent encode decode ∧ r'.ended = false ∧ r'.flight = [] ∧
        (r'.text cipher).length < (r.text cipher).length := by
  obtain ⟨done, rest, hsent, hdone, hready⟩ := hr
  have hready := hready hrunning
  cases rest with
  | nil => exact .inl (by rw [hsent, List.append_nil, hdone])
  | cons b bs =>
    obtain ⟨need, hneed, hlt⟩ := hready.needs
    have hle := hready.le_length_text hneed
    simp only [text, hflight, List.append_nil, List.length_append, KeyStream.length_crypt] at hle
    -- take what lacks of the stage
    obtain ⟨n, hn⟩ : ∃ n, n = need - ((r.take need 0).clear.length + r.taken.length) := ⟨_, rfl⟩
    have hclear : (r.take need n).clear = (r.take need 0).clear := rfl
    have hlength : (r.take need 0).clear.length =
        r.clear.length + min (need - (r.clear.length + r.taken.length)) r.prefetched.length := by
      simp [take]
    have htaken : (r.take need n).taken.length = r.taken.length + min n r.incoming.length := by
      simp [take]
    have hfits : n ≤ r.incoming.length := by omega
    have hfull : (r.take need n).clear.length + (r.take need n).taken.length = need := by
      rw [hclear, htaken]
      omega
    have horder := order_take hready.order hfull.le hfits
    have hcomes : (r.take need n).Comes cipher framing encode decode (b :: bs) :=
      hready.comes.congr rfl (text_take need n)
    obtain ⟨haligned, hended⟩ :=
      aligned_advance h hsent hdone horder (r := r.take need n) hneed hfull hcomes
    refine .inr ⟨n, (r.take need n).advance cipher framing, ?_, haligned, ?_, ?_, ?_⟩
    · simp only [step, hrunning, hneed, hfits, hfull, le_refl, and_self, Bool.false_eq_true,
        if_true, if_false]
    · exact (hended fun b' hb' => hok b' (hsent ▸ List.mem_append_right _ hb')).trans hrunning
    · rw [advance]
      split <;> exact hflight
    · have hstage : (stageBytes cipher (r.take need n)).length = need := by
        rw [stageBytes, List.length_append, KeyStream.length_crypt, hfull]
      have hpos := h.pos r.front need hneed
      have htext : (r.text cipher).length =
          need + (text cipher ((r.take need n).advance cipher framing)).length := by
        rw [← text_take (r := r) need n, text_advance horder, List.length_append, hstage]
      omega

/-- **Everything can be read.** -/
theorem exists_run_returned (h : Expects framing sent encode decode)
    (hok : ∀ b ∈ sent, ∃ a, decode b = .ok a) {channel : Option κ} {prefetched flight : List UInt8}
    (hwire : prefetched ++ (cipher.crypt channel flight).1 = (sent.map encode).flatten) :
    ∃ events r, run (step cipher framing) (new channel prefetched flight) events = some r ∧
      r.returned.map .ok = sent.map decode := by
  have hreads : ∀ m (r : Receiver κ α), (r.text cipher).length = m →
      r.Aligned cipher framing sent encode decode → r.ended = false → r.flight = [] →
      ∃ events r', run (step cipher framing) r events = some r' ∧
        r'.returned.map .ok = sent.map decode := by
    intro m
    induction m using Nat.strong_induction_on with
    | _ m ih =>
      intro r hm hr hrunning hflight
      rcases exists_step h hok hr hrunning hflight with
        hall | ⟨n, r₁, hstep, hr₁, hrunning₁, hflight₁, hlt⟩
      · exact ⟨[], r, rfl, hall⟩
      · obtain ⟨events, r', hrun, hall⟩ := ih _ (hm ▸ hlt) r₁ rfl hr₁ hrunning₁ hflight₁
        exact ⟨.read n :: events, r', by rw [run, hstep]; exact hrun, hall⟩
  -- first let everything arrive
  have hclean : (new channel prefetched flight : Receiver κ α).CancelsClean
      (.arrive flight.length) := trivial
  have harrive := (aligned_new h hwire).step h hclean rfl
  obtain ⟨events, r, hrun, hall⟩ := hreads _ _ rfl harrive rfl (List.drop_length)
  exact ⟨.arrive flight.length :: events, r, hrun, hall⟩

end Receiver

end Wire
