import Mathlib

/-!
# Binary readers and writers

A reader consumes bytes from the front of a buffer and may fail; a writer produces bytes and may
fail too.  This file has the two monads, the fixed-width little-endian primitives, the counted
loop, and the three things one ever wants to know about a format built from them:

* `Reads g bs a` — the reader `g` turns exactly the bytes `bs` into `a`, whatever comes after them.
  This is one half of a round trip, and it composes along `bind` (`Reads.bind`), so the round trip
  of a record is the round trips of its fields put next to each other.
* `Yields g P` — whenever `g` succeeds its answer satisfies `P`.  This is what a decoder promises
  about the values it lets through, again composed field by field.
* `getMany_map` — relabelling what a reader returns commutes with looping it, so that two readers
  which differ only in how they present a field can be compared.

Nothing here knows about any particular format.
-/

set_option autoImplicit false

namespace Wire

/-- A buffer. -/
abbrev Bytes := List UInt8

/-- A reader: it consumes a front part of the buffer and returns a value, or fails. -/
abbrev Get (ε : Type) := StateT Bytes (Except ε)

variable {ε π α β γ : Type}

/-! ## Exact consumption -/

/-- The reader `g` consumes exactly `bs` and answers `a`, independently of what follows. -/
def Reads (g : Get ε α) (bs : Bytes) (a : α) : Prop :=
  ∀ rest, g.run (bs ++ rest) = .ok (a, rest)

theorem Reads.pure (a : α) : Reads (pure a : Get ε α) [] a :=
  fun _ => rfl

theorem Reads.bind {g : Get ε α} {f : α → Get ε β} {bs cs : Bytes} {a : α} {b : β}
    (hg : Reads g bs a) (hf : Reads (f a) cs b) : Reads (g >>= f) (bs ++ cs) b := by
  intro rest
  rw [StateT.run_bind, List.append_assoc, hg (cs ++ rest)]
  exact hf rest

theorem Reads.map {g : Get ε α} {bs : Bytes} {a : α} (f : α → β) (hg : Reads g bs a) :
    Reads (f <$> g) bs (f a) := by
  intro rest
  rw [StateT.run_map, hg rest]
  rfl

/-- The last field of a record: what it consumes is the end of the record's bytes. -/
theorem Reads.bind_pure {g : Get ε α} {bs : Bytes} {a : α} (f : α → β) (hg : Reads g bs a) :
    Reads (g >>= fun x => Pure.pure (f x)) bs (f a) := by
  have h : Reads (g >>= fun x => Pure.pure (f x)) (bs ++ []) (f a) := hg.bind (Reads.pure (f a))
  rwa [List.append_nil] at h

/-- Read the whole of a buffer. -/
theorem Reads.run_nil {g : Get ε α} {bs : Bytes} {a : α} (hg : Reads g bs a) :
    g.run bs = .ok (a, []) := by
  have h := hg []
  rwa [List.append_nil] at h

/-- The first of several fields that are joined in order. -/
theorem Reads.field {g : Get ε α} {f : α → Get ε β} {bs : Bytes} {rest : List Bytes} {a : α} {b : β}
    (hg : Reads g bs a) (hf : Reads (f a) rest.flatten b) :
    Reads (g >>= f) (bs :: rest).flatten b := by
  rw [List.flatten_cons]
  exact hg.bind hf

/-- The last of several fields that are joined in order. -/
theorem Reads.lastField {g : Get ε α} {bs : Bytes} {a : α} {f : α → β} (hg : Reads g bs a) :
    Reads (g >>= fun x => Pure.pure (f x)) [bs].flatten (f a) := by
  rw [List.flatten_singleton]
  exact hg.bind_pure f

/-! ## Postconditions -/

/-- Whatever `g` returns satisfies `P`. -/
def Yields (g : Get ε α) (P : α → Prop) : Prop :=
  ∀ s a s', g.run s = .ok (a, s') → P a

theorem Yields.of_run {g : Get ε α} {P : α → Prop} {s s' : Bytes} {a : α} (h : Yields g P)
    (hr : g.run s = .ok (a, s')) : P a :=
  h s a s' hr

theorem Yields.trivial (g : Get ε α) : Yields g fun _ => True :=
  fun _ _ _ _ => True.intro

theorem Yields.pure {a : α} {P : α → Prop} (h : P a) : Yields (Pure.pure a : Get ε α) P := by
  intro s b s' hr
  cases hr
  exact h

theorem Yields.throw (e : ε) (P : α → Prop) : Yields (throw e : Get ε α) P := by
  intro s a s' hr
  cases hr

theorem Yields.mono {g : Get ε α} {P Q : α → Prop} (h : Yields g P) (hPQ : ∀ a, P a → Q a) :
    Yields g Q :=
  fun s a s' hr => hPQ a (h s a s' hr)

/-- A successful sequence is two successful readers, one after the other. -/
theorem run_bind_ok {g : Get ε α} {f : α → Get ε β} {s s' : Bytes} {b : β}
    (h : (g >>= f).run s = .ok (b, s')) :
    ∃ a s₁, g.run s = .ok (a, s₁) ∧ (f a).run s₁ = .ok (b, s') := by
  rw [StateT.run_bind] at h
  cases hg : g.run s with
  | error e => rw [hg] at h; cases h
  | ok p => rw [hg] at h; exact ⟨p.1, p.2, rfl, h⟩

theorem Yields.bind {g : Get ε α} {f : α → Get ε β} {P : α → Prop} {Q : β → Prop}
    (hg : Yields g P) (hf : ∀ a, P a → Yields (f a) Q) : Yields (g >>= f) Q := by
  intro s b s' hr
  obtain ⟨a, s₁, h₁, h₂⟩ := run_bind_ok hr
  exact hf a (hg s a s₁ h₁) s₁ b s' h₂

/-- Skip a field about which nothing needs to be known. -/
theorem Yields.skip {g : Get ε α} {f : α → Get ε β} {Q : β → Prop}
    (hf : ∀ a, Yields (f a) Q) : Yields (g >>= f) Q :=
  (Yields.trivial g).bind fun a _ => hf a

/-! ## Fixed-width primitives -/

/-- The first `n` bytes, or `eof` when the buffer is shorter. -/
def getExact (eof : ε) (n : Nat) : Get ε Bytes := fun s =>
  if n ≤ s.length then .ok (s.take n, s.drop n) else .error eof

theorem reads_getExact (eof : ε) (bs : Bytes) : Reads (getExact eof bs.length) bs bs := by
  intro rest
  show (if bs.length ≤ (bs ++ rest).length then _ else _) = _
  rw [if_pos (by simp)]
  simp

theorem yields_getExact (eof : ε) (n : Nat) : Yields (getExact eof n) fun bs => bs.length = n := by
  intro s bs s' hr
  change (if n ≤ s.length then _ else _) = _ at hr
  split at hr
  · rename_i hn
    cases hr
    simpa using hn
  · cases hr

/-- An array of `n` bytes. -/
def getArray (eof : ε) (n : Nat) : Get ε (Vector UInt8 n) := fun s =>
  if h : n ≤ s.length then .ok (⟨(s.take n).toArray, by simp [h]⟩, s.drop n) else .error eof

theorem reads_getArray (eof : ε) {n : Nat} (v : Vector UInt8 n) :
    Reads (getArray eof n) v.toList v := by
  intro rest
  have hlen : n ≤ (v.toList ++ rest).length := by simp
  show (if h : n ≤ (v.toList ++ rest).length then _ else _) = _
  rw [dif_pos hlen]
  simp [← Vector.toList_toArray]

/-- The little-endian value of a byte string. -/
def ofLe : Bytes → Nat
  | [] => 0
  | b :: bs => b.toNat + 256 * ofLe bs

/-- The `n` low bytes of a number, least significant first. -/
def toLe : Nat → Nat → Bytes
  | 0, _ => []
  | n + 1, v => UInt8.ofNat v :: toLe n (v / 256)

@[simp] theorem length_toLe (n v : Nat) : (toLe n v).length = n := by
  induction n generalizing v with
  | zero => rfl
  | succ n ih => simp [toLe, ih]

theorem ofLe_toLe (n v : Nat) : ofLe (toLe n v) = v % 256 ^ n := by
  induction n generalizing v with
  | zero => simp [toLe, ofLe, Nat.mod_one]
  | succ n ih =>
    rw [toLe, ofLe, ih, Nat.pow_succ', Nat.mod_mul]
    simp

theorem ofLe_lt (bs : Bytes) : ofLe bs < 256 ^ bs.length := by
  induction bs with
  | nil => exact Nat.one_pos
  | cons b bs ih =>
    have hb := b.toNat_lt
    rw [ofLe, List.length_cons, Nat.pow_succ]
    omega

theorem toLe_ofLe (bs : Bytes) : toLe bs.length (ofLe bs) = bs := by
  induction bs with
  | nil => rfl
  | cons b bs ih =>
    have hb := b.toNat_lt
    have hlow : UInt8.ofNat (b.toNat + 256 * ofLe bs) = b := by
      rw [← UInt8.toNat_inj, UInt8.toNat_ofNat', Nat.add_mul_mod_self_left]
      exact Nat.mod_eq_of_lt hb
    have hhigh : (b.toNat + 256 * ofLe bs) / 256 = ofLe bs := by omega
    rw [ofLe, List.length_cons, toLe, hlow, hhigh, ih]

/-- One byte. -/
def getU8 (eof : ε) : Get ε UInt8
  | [] => .error eof
  | b :: s => .ok (b, s)

/-- A little-endian `u16`. -/
def getU16 (eof : ε) : Get ε UInt16 := do
  return UInt16.ofNat (ofLe (← getExact eof 2))

/-- A little-endian `u32`. -/
def getU32 (eof : ε) : Get ε UInt32 := do
  return UInt32.ofNat (ofLe (← getExact eof 4))

/-- A little-endian `u64`. -/
def getU64 (eof : ε) : Get ε UInt64 := do
  return UInt64.ofNat (ofLe (← getExact eof 8))

/-- The bytes of a `u8`, as a writer emits them. -/
def putU8 (v : UInt8) : Bytes := [v]

/-- The two bytes of a little-endian `u16`. -/
def putU16 (v : UInt16) : Bytes := toLe 2 v.toNat

/-- The four bytes of a little-endian `u32`. -/
def putU32 (v : UInt32) : Bytes := toLe 4 v.toNat

/-- The eight bytes of a little-endian `u64`. -/
def putU64 (v : UInt64) : Bytes := toLe 8 v.toNat

@[simp] theorem length_putU8 (v : UInt8) : (putU8 v).length = 1 := rfl

@[simp] theorem length_putU16 (v : UInt16) : (putU16 v).length = 2 := length_toLe 2 _

@[simp] theorem length_putU32 (v : UInt32) : (putU32 v).length = 4 := length_toLe 4 _

@[simp] theorem length_putU64 (v : UInt64) : (putU64 v).length = 8 := length_toLe 8 _

theorem reads_getU8 (eof : ε) (v : UInt8) : Reads (getU8 eof) (putU8 v) v :=
  fun _ => rfl

/-- A fixed-width read is `getExact` followed by an interpretation, so it reads back whatever the
interpretation recovers from the bytes. -/
private theorem reads_word (eof : ε) (n : Nat) (f : Nat → α) (v : Nat) :
    Reads (getExact eof n >>= fun bs => pure (f (ofLe bs))) (toLe n v) (f (v % 256 ^ n)) := by
  have h := reads_getExact eof (toLe n v)
  rw [length_toLe] at h
  rw [← ofLe_toLe]
  exact h.bind_pure (fun bs => f (ofLe bs))

theorem reads_getU16 (eof : ε) (v : UInt16) : Reads (getU16 eof) (putU16 v) v := by
  have h := reads_word eof 2 UInt16.ofNat v.toNat
  rwa [show 256 ^ 2 = 2 ^ 16 from rfl, Nat.mod_eq_of_lt v.toNat_lt, UInt16.ofNat_toNat] at h

theorem reads_getU32 (eof : ε) (v : UInt32) : Reads (getU32 eof) (putU32 v) v := by
  have h := reads_word eof 4 UInt32.ofNat v.toNat
  rwa [show 256 ^ 4 = 2 ^ 32 from rfl, Nat.mod_eq_of_lt v.toNat_lt, UInt32.ofNat_toNat] at h

theorem reads_getU64 (eof : ε) (v : UInt64) : Reads (getU64 eof) (putU64 v) v := by
  have h := reads_word eof 8 UInt64.ofNat v.toNat
  rwa [show 256 ^ 8 = 2 ^ 64 from rfl, Nat.mod_eq_of_lt v.toNat_lt, UInt64.ofNat_toNat] at h

/-- A counted byte string, when the count it was written with comes back as its length. -/
theorem Reads.counted {g : Get ε α} {count : α → Nat} {bs cs : Bytes} {a : α} {f : Bytes → β}
    (eof : ε) (hg : Reads g bs a) (hcount : count a = cs.length) :
    Reads (g >>= fun n => getExact eof (count n) >>= fun data => Pure.pure (f data)) (bs ++ cs)
      (f cs) := by
  refine hg.bind ?_
  rw [hcount]
  exact (reads_getExact eof cs).bind_pure f

/-! ## The rest of the buffer -/

/-- Everything that is left. -/
def getRest : Get ε Bytes := fun s => .ok (s, [])

/-- How many bytes are left. -/
def remaining : Get ε Nat := fun s => .ok (s.length, s)

theorem run_remaining (bs : Bytes) : (remaining : Get ε Nat).run bs = .ok (bs.length, bs) :=
  rfl

/-- Run the first reader of a sequence. -/
theorem run_bind_of_ok {g : Get ε α} {f : α → Get ε β} {s s' : Bytes} {a : α}
    (hg : g.run s = .ok (a, s')) : (g >>= f).run s = (f a).run s' := by
  rw [StateT.run_bind, hg]
  rfl

/-- Peel the first field off a buffer that is read to its end. -/
theorem Reads.run_bind {g : Get ε α} {f : α → Get ε β} {bs cs : Bytes} {a : α}
    (hg : Reads g bs a) : (g >>= f).run (bs ++ cs) = (f a).run cs :=
  run_bind_of_ok (hg cs)

/-- The same when the buffer is given as its fields. -/
theorem Reads.run_field {g : Get ε α} {f : α → Get ε β} {bs : Bytes} {rest : List Bytes} {a : α}
    (hg : Reads g bs a) : (g >>= f).run (bs :: rest).flatten = (f a).run rest.flatten := by
  rw [List.flatten_cons]
  exact hg.run_bind

/-! ## Counted loops -/

/-- `n` elements, one after the other. -/
def getMany (n : Nat) (g : Get ε α) : Get ε (List α) :=
  match n with
  | 0 => pure []
  | n + 1 => do
    let a ← g
    let as ← getMany n g
    return a :: as

/-- All the elements of a list, one after the other. -/
def putMany (w : α → Except π Bytes) : List α → Except π Bytes
  | [] => pure []
  | a :: as => do
    let bs ← w a
    let cs ← putMany w as
    return bs ++ cs

theorem yields_getMany {g : Get ε α} {P : α → Prop} (hg : Yields g P) (n : Nat) :
    Yields (getMany n g) fun as => as.length = n ∧ ∀ a ∈ as, P a := by
  induction n with
  | zero => exact Yields.pure ⟨rfl, by simp⟩
  | succ n ih =>
    refine hg.bind fun a ha => ih.bind fun as has => Yields.pure ⟨by simp [has.1], ?_⟩
    intro b hb
    rcases List.mem_cons.mp hb with rfl | hb
    · exact ha
    · exact has.2 b hb

theorem getMany_map (f : α → β) (g : Get ε α) (n : Nat) :
    getMany n (f <$> g) = List.map f <$> getMany n g := by
  induction n with
  | zero => simp [getMany]
  | succ n ih => simp [getMany, ih]

/-- A successful composite writer is made of successful parts. -/
theorem bind_ok {x : Except π α} {f : α → Except π β} {b : β} (h : (x >>= f) = .ok b) :
    ∃ a, x = .ok a ∧ f a = .ok b := by
  cases x with
  | error e => cases h
  | ok a => exact ⟨a, rfl, h⟩

/-- A writer that succeeds on a list succeeds on each of its elements. -/
theorem putMany_cons_ok {w : α → Except π Bytes} {a : α} {as : List α} {bs : Bytes}
    (h : putMany w (a :: as) = .ok bs) :
    ∃ b cs, w a = .ok b ∧ putMany w as = .ok cs ∧ bs = b ++ cs := by
  obtain ⟨b, hb, h⟩ := bind_ok h
  obtain ⟨cs, hcs, h⟩ := bind_ok h
  cases h
  exact ⟨b, cs, hb, hcs, rfl⟩

theorem putMany_isOk_iff (w : α → Except π Bytes) (as : List α) :
    (∃ bs, putMany w as = .ok bs) ↔ ∀ a ∈ as, ∃ bs, w a = .ok bs := by
  induction as with
  | nil => simp [putMany, pure, Except.pure]
  | cons a as ih =>
    constructor
    · rintro ⟨bs, h⟩
      obtain ⟨b, cs, hb, hcs, -⟩ := putMany_cons_ok h
      intro x hx
      rcases List.mem_cons.mp hx with rfl | hx
      · exact ⟨b, hb⟩
      · exact ih.mp ⟨cs, hcs⟩ x hx
    · intro h
      obtain ⟨b, hb⟩ := h a (List.mem_cons_self ..)
      obtain ⟨cs, hcs⟩ := ih.mpr fun x hx => h x (List.mem_cons_of_mem _ hx)
      exact ⟨b ++ cs, by rw [putMany, hb, hcs]; rfl⟩

/-- **Round trip of a list.**  If every element is read back from what was written for it, so is
the list. -/
theorem reads_getMany {w : α → Except π Bytes} {g : Get ε β} {f : α → β} {as : List α}
    (hw : ∀ a ∈ as, ∀ bs, w a = .ok bs → Reads g bs (f a)) {bs : Bytes}
    (h : putMany w as = .ok bs) : Reads (getMany as.length g) bs (as.map f) := by
  induction as generalizing bs with
  | nil =>
    cases h
    exact Reads.pure []
  | cons a as ih =>
    obtain ⟨b, cs, hb, hcs, rfl⟩ := putMany_cons_ok h
    have hrest := ih (fun a' ha' => hw a' (List.mem_cons_of_mem a ha')) hcs
    exact (hw a List.mem_cons_self b hb).bind (hrest.bind_pure (fun l => f a :: l))

/-- The same for a writer that cannot fail. -/
theorem reads_getMany_map {w : α → Bytes} {g : Get ε β} {f : α → β} {as : List α}
    (hw : ∀ a ∈ as, Reads g (w a) (f a)) :
    Reads (getMany as.length g) (as.flatMap w) (as.map f) := by
  induction as with
  | nil => exact Reads.pure []
  | cons a as ih =>
    have hrest := ih fun a' ha' => hw a' (List.mem_cons_of_mem a ha')
    exact (hw a List.mem_cons_self).bind (hrest.bind_pure (fun l => f a :: l))

theorem reads_getMany_flatMap {w : α → Bytes} {g : Get ε α} {as : List α}
    (hw : ∀ a ∈ as, Reads g (w a) a) : Reads (getMany as.length g) (as.flatMap w) as := by
  have h : Reads (getMany as.length g) (as.flatMap w) (as.map id) := reads_getMany_map hw
  rwa [List.map_id] at h

/-! ## How much is taken -/

/-- Whatever `g` reads, it takes at least `n` bytes of the buffer. -/
def Takes (n : Nat) (g : Get ε α) : Prop :=
  ∀ s a s', g.run s = .ok (a, s') → s'.length + n ≤ s.length

theorem Takes.pure (a : α) : Takes 0 (Pure.pure a : Get ε α) := by
  intro s b s' hr
  cases hr
  exact Nat.le_refl _

theorem Takes.throw (n : Nat) (e : ε) : Takes n (throw e : Get ε α) := by
  intro s a s' hr
  cases hr

theorem Takes.mono {m n : Nat} {g : Get ε α} (h : Takes n g) (hle : m ≤ n) : Takes m g :=
  fun s a s' hr => Nat.le_trans (Nat.add_le_add_left hle _) (h s a s' hr)

/-- It takes no bytes that were not there. -/
theorem Takes.zero {n : Nat} {g : Get ε α} (h : Takes n g) : Takes 0 g := h.mono (Nat.zero_le n)

theorem Takes.bind {m n : Nat} {g : Get ε α} {f : α → Get ε β} (hg : Takes m g)
    (hf : ∀ a, Takes n (f a)) : Takes (m + n) (g >>= f) := by
  intro s b s' hr
  obtain ⟨a, s₁, h₁, h₂⟩ := run_bind_ok hr
  have hm := hg s a s₁ h₁
  have hn := hf a s₁ b s' h₂
  omega

/-- A field first, of whatever width, and then what has to be taken. -/
theorem Takes.skip {n : Nat} {g : Get ε α} {f : α → Get ε β} (hg : Takes 0 g)
    (hf : ∀ a, Takes n (f a)) : Takes n (g >>= f) :=
  (hg.bind hf).mono (Nat.le_of_eq (Nat.zero_add n).symm)

theorem Takes.map {n : Nat} {g : Get ε α} (f : α → β) (h : Takes n g) : Takes n (f <$> g) := by
  rw [map_eq_pure_bind]
  exact h.bind fun a => Takes.pure (f a)

theorem Takes.ite {n : Nat} {c : Prop} [Decidable c] {g g' : Get ε α} (h : Takes n g)
    (h' : Takes n g') : Takes n (if c then g else g') := by
  split
  · exact h
  · exact h'

theorem takes_getExact (eof : ε) (n : Nat) : Takes n (getExact eof n) := by
  intro s bs s' hr
  change (if n ≤ s.length then _ else _) = _ at hr
  split at hr
  · cases hr
    rw [List.length_drop]
    omega
  · cases hr

theorem takes_getArray (eof : ε) (n : Nat) : Takes n (getArray eof n) := by
  intro s v s' hr
  change (if h : n ≤ s.length then _ else _) = _ at hr
  split at hr
  · cases hr
    rw [List.length_drop]
    omega
  · cases hr

theorem takes_getU8 (eof : ε) : Takes 1 (getU8 eof) := by
  intro s b s' hr
  cases s with
  | nil => cases hr
  | cons c s => cases hr; exact Nat.le_refl _

theorem takes_getU16 (eof : ε) : Takes 2 (getU16 eof) :=
  (takes_getExact eof 2).bind fun _ => Takes.pure _

theorem takes_getU32 (eof : ε) : Takes 4 (getU32 eof) :=
  (takes_getExact eof 4).bind fun _ => Takes.pure _

theorem takes_getU64 (eof : ε) : Takes 8 (getU64 eof) :=
  (takes_getExact eof 8).bind fun _ => Takes.pure _

theorem takes_remaining : Takes 0 (remaining : Get ε Nat) := by
  intro s n s' hr
  cases hr
  exact Nat.le_refl _

theorem takes_getMany {k : Nat} {g : Get ε α} (h : Takes k g) (n : Nat) :
    Takes (n * k) (getMany n g) := by
  induction n with
  | zero => exact (Takes.pure []).mono (Nat.zero_mul k).le
  | succ n ih =>
    have hmany := h.bind fun a => ih.bind fun as => Takes.pure (a :: as)
    exact hmany.mono (by rw [Nat.succ_mul]; omega)

/-! ## Chains -/

/-- Elements up to the end of the buffer, with fuel. -/
def decodeChain (element : Get ε α) : Nat → Bytes → Except ε (List α)
  | _, [] => .ok []
  | 0, _ :: _ => .ok []
  | fuel + 1, cursor => do
    let (a, rest) ← element.run cursor
    return a :: (← decodeChain element fuel rest)

/-- Elements up to the end of the buffer.  A unit of fuel for each byte is enough for elements that
take at least one byte (`decodeAll_eq`). -/
def decodeAll (element : Get ε α) (bs : Bytes) : Except ε (List α) :=
  decodeChain element bs.length bs

/-- More fuel than bytes makes no difference. -/
theorem decodeChain_fuel {element : Get ε α} (htakes : Takes 1 element) {fuel : Nat}
    {cursor : Bytes} (hfuel : cursor.length ≤ fuel) :
    decodeChain element fuel cursor = decodeAll element cursor := by
  suffices h : ∀ n cursor fuel fuel', cursor.length ≤ n → cursor.length ≤ fuel →
      cursor.length ≤ fuel' →
        decodeChain element fuel cursor = decodeChain element fuel' cursor from
    h cursor.length cursor fuel cursor.length (Nat.le_refl _) hfuel (Nat.le_refl _)
  intro n
  induction n with
  | zero =>
    intro cursor fuel fuel' hn _ _
    rw [List.eq_nil_of_length_eq_zero (Nat.le_zero.mp hn), decodeChain, decodeChain]
  | succ n ih =>
    intro cursor fuel fuel' hn hfuel hfuel'
    match cursor, fuel, fuel' with
    | [], _, _ => rw [decodeChain, decodeChain]
    | b :: tail, fuel + 1, fuel' + 1 =>
      rw [decodeChain.eq_3 _ _ _ (List.cons_ne_nil b tail),
        decodeChain.eq_3 _ _ _ (List.cons_ne_nil b tail)]
      cases hrun : element.run (b :: tail) with
      | error message => rfl
      | ok out =>
        have hrest := htakes _ out.1 out.2 hrun
        simp only [List.length_cons] at hn hfuel hfuel' hrest
        have hnext := ih out.2 fuel fuel' (by omega) (by omega) (by omega)
        show (do return out.1 :: (← decodeChain element fuel out.2)) =
          (do return out.1 :: (← decodeChain element fuel' out.2) : Except ε (List α))
        rw [hnext]

/-- The loop without fuel. -/
theorem decodeAll_eq {element : Get ε α} (htakes : Takes 1 element) {cursor : Bytes}
    (hne : cursor ≠ []) :
    decodeAll element cursor = do
      let (a, rest) ← element.run cursor
      return a :: (← decodeAll element rest) := by
  obtain ⟨b, tail, rfl⟩ := List.exists_cons_of_ne_nil hne
  rw [decodeAll, List.length_cons, decodeChain.eq_3 _ _ _ hne]
  cases hrun : element.run (b :: tail) with
  | error message => rfl
  | ok out =>
    have hrest := htakes _ out.1 out.2 hrun
    have hfuel : decodeChain element tail.length out.2 = decodeAll element out.2 :=
      decodeChain_fuel htakes (by simp only [List.length_cons] at hrest; omega)
    show (do return out.1 :: (← decodeChain element tail.length out.2)) = _
    rw [hfuel]
    rfl

/-- What every element promises, all elements of a buffer keep. -/
theorem Yields.of_decodeAll {element : Get ε α} {P : α → Prop} (h : Yields element P) {bs : Bytes}
    {as : List α} (has : decodeAll element bs = .ok as) : ∀ a ∈ as, P a := by
  rw [decodeAll] at has
  generalize bs.length = fuel at has
  induction fuel generalizing bs as with
  | zero =>
    have hnil : as = [] := by cases bs <;> exact (Except.ok.inj has).symm
    exact fun a ha => absurd ha (hnil ▸ List.not_mem_nil)
  | succ fuel ih =>
    cases bs with
    | nil =>
      obtain rfl : [] = as := Except.ok.inj has
      exact fun a ha => absurd ha List.not_mem_nil
    | cons b bs =>
      obtain ⟨⟨a, rest⟩, hrun, hmore⟩ := bind_ok has
      obtain ⟨more, hchain, hcons⟩ := bind_ok hmore
      obtain rfl : a :: more = as := Except.ok.inj hcons
      intro c hc
      rcases List.mem_cons.mp hc with rfl | hc
      · exact h.of_run hrun
      · exact ih hchain c hc

end Wire
