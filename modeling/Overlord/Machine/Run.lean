import Mathlib

/-!
# Runs of a machine and their invariants

A machine is a partial step function: `step s a` is the state after the action `a`, or `none` when
`a` cannot happen in `s`.  Nondeterminism sits in the actions.  A run is a list of actions, and a
property of a system is a property of every state that some run reaches.

* `run step s as` executes a list of actions.
* `Always step P s as` — `P` holds in every state along the run, the first one included.
* `Meets step C s as` — every step of the run is taken in a state that satisfies the condition `C`.
* `run_invariant` is the induction once and for all, and `always_iff_meets` its form for a property
  that needs a condition on the steps, when that condition is exact.
-/

set_option autoImplicit false

namespace Machine

variable {S A : Type} (step : S → A → Option S)

/-- The state after a list of actions, if they can happen in this order. -/
def run (s : S) : List A → Option S
  | [] => some s
  | a :: as => (step s a).bind fun s' => run s' as

/-- The property holds in every state along the run. -/
def Always (P : S → Prop) (s : S) (as : List A) : Prop :=
  ∀ done s', done <+: as → run step s done = some s' → P s'

/-- Every step of the run is taken in a state that satisfies the condition. -/
def Meets (C : S → A → Prop) (s : S) : List A → Prop
  | [] => True
  | a :: as => ∀ s', step s a = some s' → C s a ∧ Meets C s' as

variable {step}

theorem run_cons_eq_some {s s' : S} {a : A} {as : List A} (h : run step s (a :: as) = some s') :
    ∃ s₁, step s a = some s₁ ∧ run step s₁ as = some s' :=
  Option.bind_eq_some_iff.mp h

/-- **Induction over a run.** -/
theorem run_invariant {I : S → Prop} (hstep : ∀ s a s', I s → step s a = some s' → I s')
    {as : List A} {s s' : S} (hs : I s) (h : run step s as = some s') : I s' := by
  induction as generalizing s with
  | nil => exact Option.some.inj h ▸ hs
  | cons a as ih =>
    obtain ⟨s₁, h₁, h₂⟩ := run_cons_eq_some h
    exact ih (hstep s a s₁ hs h₁) h₂

/-- **A machine that does not get stuck.**  If every action can happen while an invariant holds,
and keeps it, then every list of actions can. -/
theorem exists_run {I : S → Prop} (hstep : ∀ s a, I s → ∃ s', step s a = some s' ∧ I s')
    (as : List A) {s : S} (hs : I s) : ∃ s', run step s as = some s' ∧ I s' := by
  induction as generalizing s with
  | nil => exact ⟨s, rfl, hs⟩
  | cons a as ih =>
    obtain ⟨s₁, h₁, hs₁⟩ := hstep s a hs
    obtain ⟨s', h', hs'⟩ := ih hs₁
    exact ⟨s', by rw [run, h₁]; exact h', hs'⟩

theorem always_nil {P : S → Prop} {s : S} : Always step P s [] ↔ P s := by
  constructor
  · exact fun h => h [] s (List.prefix_refl []) rfl
  · intro h done s' hdone hrun
    obtain rfl := List.prefix_nil.mp hdone
    exact Option.some.inj hrun ▸ h

theorem always_cons {P : S → Prop} {s : S} {a : A} {as : List A} :
    Always step P s (a :: as) ↔ P s ∧ ∀ s', step s a = some s' → Always step P s' as := by
  constructor
  · refine fun h => ⟨h [] s (List.nil_prefix) rfl, fun s' hs' done s'' hdone hrun => ?_⟩
    refine h (a :: done) s'' (List.cons_prefix_cons.mpr ⟨rfl, hdone⟩) ?_
    rw [run, hs']
    exact hrun
  · rintro ⟨hs, h⟩ done s'' hdone hrun
    cases done with
    | nil => exact Option.some.inj hrun ▸ hs
    | cons b done =>
      obtain ⟨rfl, htail⟩ := List.cons_prefix_cons.mp hdone
      obtain ⟨s₁, h₁, h₂⟩ := run_cons_eq_some hrun
      exact h s₁ h₁ done s'' htail h₂

instance Meets.decidable {C : S → A → Prop} [∀ s a, Decidable (C s a)] :
    ∀ (as : List A) (s : S), Decidable (Meets step C s as)
  | [], _ => .isTrue trivial
  | a :: as, s =>
    match h : step s a with
    | none => .isTrue fun _ hs' => absurd (h.symm.trans hs') nofun
    | some s₁ =>
      have := Meets.decidable (C := C) as s₁
      decidable_of_iff (C s a ∧ Meets step C s₁ as)
        ⟨fun hC _ hs' => Option.some.inj (h.symm.trans hs') ▸ hC, fun hC => hC s₁ h⟩

theorem meets_and {C D : S → A → Prop} {as : List A} {s : S} :
    Meets step (fun s a => C s a ∧ D s a) s as ↔ Meets step C s as ∧ Meets step D s as := by
  induction as generalizing s with
  | nil => exact (and_iff_left trivial).symm
  | cons a as ih =>
    simp only [Meets, ih, ← forall_and]
    exact forall₂_congr fun s' hs' => and_and_and_comm

/-- Conditions that agree in every state along a run are met by the same steps of it. -/
theorem Always.meets_congr {I : S → Prop} {C D : S → A → Prop} {as : List A} {s : S}
    (h : Always step I s as) (hCD : ∀ s a s', I s → step s a = some s' → (C s a ↔ D s a)) :
    Meets step C s as ↔ Meets step D s as := by
  induction as generalizing s with
  | nil => exact Iff.rfl
  | cons a as ih =>
    obtain ⟨hs, hrest⟩ := always_cons.mp h
    exact forall₂_congr fun s' hs' => and_congr (hCD s a s' hs hs') (ih (hrest s' hs'))

theorem Meets.of_prefix {C : S → A → Prop} {as bs : List A} {s : S} (h : Meets step C s bs)
    (hpre : as <+: bs) : Meets step C s as := by
  induction as generalizing s bs with
  | nil => trivial
  | cons a as ih =>
    obtain ⟨bs, rfl, htail⟩ : ∃ l, bs = a :: l ∧ as <+: l := by
      obtain ⟨t, rfl⟩ := hpre
      exact ⟨as ++ t, rfl, List.prefix_append as t⟩
    exact fun s' hs' => ⟨(h s' hs').1, ih (h s' hs').2 htail⟩

/-- The rest of a run that meets a condition meets it. -/
theorem Meets.of_append {C : S → A → Prop} {as bs : List A} {s s' : S}
    (h : Meets step C s (as ++ bs)) (hrun : run step s as = some s') : Meets step C s' bs := by
  induction as generalizing s with
  | nil => exact Option.some.inj hrun ▸ h
  | cons a as ih =>
    obtain ⟨s₁, h₁, h₂⟩ := run_cons_eq_some hrun
    exact ih (h s₁ h₁).2 h₂

/-- **Induction over a run that meets a condition.**  A preorder that holds across each step holds
across the run. -/
theorem run_of_meets {I : S → Prop} {H : S → S → Prop} {C : S → A → Prop} (hrefl : ∀ s, H s s)
    (htrans : ∀ s s' s'', H s s' → H s' s'' → H s s'')
    (hstep : ∀ s a s', I s → C s a → step s a = some s' → I s' ∧ H s s')
    {as : List A} {s s' : S} (hs : I s) (hmeets : Meets step C s as)
    (hrun : run step s as = some s') : I s' ∧ H s s' := by
  induction as generalizing s with
  | nil => exact Option.some.inj hrun ▸ ⟨hs, hrefl s⟩
  | cons a as ih =>
    obtain ⟨s₁, h₁, h₂⟩ := run_cons_eq_some hrun
    obtain ⟨hC, hmeets⟩ := hmeets s₁ h₁
    obtain ⟨hs₁, hH⟩ := hstep s a s₁ hs hC h₁
    obtain ⟨hs', hH'⟩ := ih hs₁ hmeets h₂
    exact ⟨hs', htrans s s₁ s' hH hH'⟩

theorem run_append {as bs : List A} {s s' : S} (h : run step s (as ++ bs) = some s') :
    ∃ s₁, run step s as = some s₁ ∧ run step s₁ bs = some s' := by
  induction as generalizing s with
  | nil => exact ⟨s, rfl, h⟩
  | cons a as ih =>
    obtain ⟨s₁, h₁, h₂⟩ := run_cons_eq_some h
    obtain ⟨s₂, h₃, h₄⟩ := ih h₂
    exact ⟨s₂, by rw [run, h₁]; exact h₃, h₄⟩

/-- **An invariant under an exact condition.**  If, in states with a background invariant `J`, a
step keeps `I` exactly when it meets `C`, then `I` holds along a run exactly when every step of the
run meets `C`. -/
theorem always_iff_meets {I J : S → Prop} {C : S → A → Prop}
    (hJ : ∀ s a s', J s → step s a = some s' → J s')
    (hI : ∀ s a s', J s → I s → step s a = some s' → (I s' ↔ C s a))
    {as : List A} {s : S} (hJs : J s) (hIs : I s) :
    Always step I s as ↔ Meets step C s as := by
  induction as generalizing s with
  | nil => exact iff_of_true (always_nil.mpr hIs) trivial
  | cons a as ih =>
    rw [always_cons, Meets, and_iff_right hIs]
    refine forall₂_congr fun s' hs' => ?_
    rw [← hI s a s' hJs hIs hs']
    constructor
    · intro h
      have hIs' : I s' := h [] s' (List.nil_prefix) rfl
      exact ⟨hIs', (ih (hJ s a s' hJs hs') hIs').mp h⟩
    · rintro ⟨hIs', h⟩
      exact (ih (hJ s a s' hJs hs') hIs').mpr h

end Machine
