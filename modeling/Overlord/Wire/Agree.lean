import Overlord.Wire.Get

/-!
# Readers that agree

Two readers of one format, written apart, rarely return the same values or the same errors.  What
they must agree on is which buffers they accept and where the rest of the buffer starts.
`Agree R g h` says that, with `R` for what is still to be compared of the answers, and composes
along `bind` like `Reads` does.

* `Agree.bind` — two readers agree if their first steps do and what follows does, for related
  answers.
* `agree_getExact_getU16`, … — a field that one of them reads as a number and the other as bytes.
-/

set_option autoImplicit false

namespace Wire

variable {ε η α α' β β' : Type}

/-- Two outcomes of a read: failures both, or answers related by `R` with the same rest. -/
inductive SameOutcome (R : α → β → Prop) :
    Except ε (α × Bytes) → Except η (β × Bytes) → Prop
  | error (e : ε) (e' : η) : SameOutcome R (.error e) (.error e')
  | ok {a : α} {b : β} (rest : Bytes) (h : R a b) : SameOutcome R (.ok (a, rest)) (.ok (b, rest))

/-- The readers accept the same buffers, stop at the same place and answer alike. -/
def Agree (R : α → β → Prop) (g : Get ε α) (h : Get η β) : Prop :=
  ∀ s, SameOutcome R (g.run s) (h.run s)

variable {R : α → β → Prop} {g : Get ε α} {h : Get η β}

theorem Agree.pure {a : α} {b : β} (hab : R a b) :
    Agree R (pure a : Get ε α) (pure b : Get η β) :=
  fun s => .ok s hab

theorem Agree.throw (e : ε) (e' : η) : Agree R (throw e : Get ε α) (throw e' : Get η β) :=
  fun _ => .error e e'

theorem Agree.bind {S : α' → β' → Prop} {f : α → Get ε α'} {k : β → Get η β'}
    (hg : Agree R g h) (hf : ∀ a b, R a b → Agree S (f a) (k b)) :
    Agree S (g >>= f) (h >>= k) := by
  intro s
  rw [StateT.run_bind, StateT.run_bind]
  have hs := hg s
  generalize g.run s = x, h.run s = y at hs
  cases hs with
  | error e e' => exact .error e e'
  | ok rest hab => exact hf _ _ hab rest

theorem Agree.map {S : α' → β' → Prop} {f : α → α'} {k : β → β'} (hg : Agree R g h)
    (hf : ∀ a b, R a b → S (f a) (k b)) : Agree S (f <$> g) (k <$> h) := by
  rw [← bind_pure_comp, ← bind_pure_comp]
  exact hg.bind fun a b hab => .pure (hf a b hab)

/-- A relabelling on one side only. -/
theorem Agree.map_right {S : α → β' → Prop} {k : β → β'} (hg : Agree R g h)
    (hf : ∀ a b, R a b → S a (k b)) : Agree S g (k <$> h) := by
  have hmap : Agree S (id <$> g) (k <$> h) := hg.map hf
  rwa [id_map] at hmap

theorem Agree.mono {S : α → β → Prop} (hg : Agree R g h) (hRS : ∀ a b, R a b → S a b) :
    Agree S g h := by
  have hmap : Agree S g (id <$> h) := hg.map_right hRS
  rwa [id_map] at hmap

/-- What agreement says about one buffer: the same verdict, and on success the same rest. -/
theorem Agree.toOption_map {γ : Type} {f : α → γ} {k : β → γ} (hg : Agree R g h)
    (hf : ∀ a b, R a b → f a = k b) (s : Bytes) :
    (g.run s).toOption.map (fun r => (f r.1, r.2)) =
      (h.run s).toOption.map (fun r => (k r.1, r.2)) := by
  have hs := hg s
  generalize g.run s = x, h.run s = y at hs
  cases hs with
  | error e e' => rfl
  | ok rest hab => exact congrArg (fun c => some (c, rest)) (hf _ _ hab)

/-! ## The primitives -/

/-- The answers are equal and of the length that was asked for. -/
theorem agree_getExact (e : ε) (e' : η) (n : Nat) :
    Agree (fun bs cs => bs = cs ∧ bs.length = n) (getExact e n) (getExact e' n) := by
  intro s
  show SameOutcome _ (if n ≤ s.length then _ else _) (if n ≤ s.length then _ else _)
  split
  case isTrue hn => exact .ok _ ⟨rfl, List.length_take_of_le hn⟩
  case isFalse => exact .error e e'

theorem agree_getU8 (e : ε) (e' : η) : Agree Eq (getU8 e) (getU8 e') := by
  rintro (_ | ⟨b, s⟩)
  · exact .error e e'
  · exact .ok s rfl

theorem agree_getU16 (e : ε) (e' : η) : Agree Eq (getU16 e) (getU16 e') :=
  (agree_getExact e e' 2).bind fun _ _ hbs => .pure (congrArg _ (congrArg ofLe hbs.1))

theorem agree_getU32 (e : ε) (e' : η) : Agree Eq (getU32 e) (getU32 e') :=
  (agree_getExact e e' 4).bind fun _ _ hbs => .pure (congrArg _ (congrArg ofLe hbs.1))

/-- One byte, taken as a string or as a number. -/
theorem agree_getExact_getU8 (e : ε) (e' : η) :
    Agree (fun bs b => bs = [b]) (getExact e 1) (getU8 e') := by
  rintro (_ | ⟨b, s⟩)
  · exact .error e e'
  · exact .ok s rfl

/-- A number that one reader keeps as its bytes: the other one builds it from the same bytes. -/
theorem agree_getExact_bind (e : ε) (e' : η) (n : Nat) (k : Bytes → β) :
    Agree (fun bs b => b = k bs ∧ bs.length = n) (getExact e n)
      (getExact e' n >>= fun bs => Pure.pure (k bs)) := by
  rw [bind_pure_comp]
  exact (agree_getExact e e' n).map_right fun bs cs h => ⟨by rw [h.1], h.2⟩

/-- Two bytes taken as they are, where the other reader takes the number. -/
theorem agree_getExact_getU16 (e : ε) (e' : η) :
    Agree (fun bs (v : UInt16) => ofLe bs = v.toNat) (getExact e 2) (getU16 e') := by
  refine (agree_getExact_bind e e' 2 _).mono fun bs v h => ?_
  have hlt := ofLe_lt bs
  rw [h.2] at hlt
  rw [h.1, UInt16.toNat_ofNat_of_lt' hlt]

end Wire
