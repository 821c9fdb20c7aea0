import Overlord.Machine.Run

/-!
# What a run adds up to

A machine that hands something on in some of its steps is described by what each step adds.
`outputs step out s as` is all that the steps of a run add, in their order, and `outputs_eq` the
induction over the run: a part of the state that grows by `out` in every step has grown by `outputs`
in the end.  `growth_le` is the same for a quantity of which only a bound is known.
-/

set_option autoImplicit false

namespace Machine

variable {S A B : Type}

/-- What the steps of a run add. -/
def outputs (step : S → A → Option S) (out : S → A → List B) (s : S) : List A → List B
  | [] => []
  | a :: as => out s a ++ (match step s a with
    | some s' => outputs step out s' as
    | none => [])

variable {step : S → A → Option S} {out : S → A → List B}

theorem outputs_cons {s s' : S} {a : A} (h : step s a = some s') (as : List A) :
    outputs step out s (a :: as) = out s a ++ outputs step out s' as := by
  rw [outputs, h]

/-- **What has been put out in the end** is what the steps have added. -/
theorem outputs_eq {I : S → Prop} {f : S → List B}
    (hstep : ∀ s a s', I s → step s a = some s' → I s' ∧ f s' = f s ++ out s a)
    {as : List A} {s s' : S} (hs : I s) (h : run step s as = some s') :
    I s' ∧ f s' = f s ++ outputs step out s as := by
  induction as generalizing s with
  | nil =>
    obtain rfl := Option.some.inj h
    exact ⟨hs, (List.append_nil _).symm⟩
  | cons a as ih =>
    obtain ⟨s₁, h₁, h₂⟩ := run_cons_eq_some h
    obtain ⟨hs₁, hf⟩ := hstep s a s₁ hs h₁
    obtain ⟨hs', hf'⟩ := ih hs₁ h₂
    exact ⟨hs', by rw [hf', hf, outputs_cons h₁, List.append_assoc]⟩

/-- **A quantity that grows by at most `d` in every step.** -/
theorem growth_le {M : Type} [AddCommMonoid M] [PartialOrder M] [IsOrderedAddMonoid M]
    {I : S → Prop} {f : S → M} {d : M}
    (hstep : ∀ s a s', I s → step s a = some s' → I s' ∧ f s' ≤ f s + d)
    {as : List A} {s s' : S} (hs : I s) (h : run step s as = some s') :
    I s' ∧ f s' ≤ f s + as.length • d := by
  induction as generalizing s with
  | nil =>
    obtain rfl := Option.some.inj h
    simpa using hs
  | cons a as ih =>
    obtain ⟨s₁, h₁, h₂⟩ := run_cons_eq_some h
    obtain ⟨hs₁, hf⟩ := hstep s a s₁ hs h₁
    obtain ⟨hs', hf'⟩ := ih hs₁ h₂
    refine ⟨hs', hf'.trans ?_⟩
    rw [List.length_cons, succ_nsmul', ← add_assoc]
    exact add_le_add_left hf _

/-- What a run puts out comes from one of its steps. -/
theorem exists_of_mem_outputs {as : List A} {s s' : S} {b : B} (hrun : run step s as = some s')
    (hb : b ∈ outputs step out s as) :
    ∃ done a s₁, (done ++ [a]) <+: as ∧ run step s done = some s₁ ∧ b ∈ out s₁ a := by
  induction as generalizing s with
  | nil => exact absurd hb List.not_mem_nil
  | cons a as ih =>
    obtain ⟨s₁, h₁, h₂⟩ := run_cons_eq_some hrun
    rw [outputs_cons h₁] at hb
    rcases List.mem_append.mp hb with hb | hb
    · exact ⟨[], a, s, by simp, rfl, hb⟩
    · obtain ⟨done, a', s₂, hpre, hdone, hout⟩ := ih h₂ hb
      refine ⟨a :: done, a', s₂, by simpa using hpre, ?_, hout⟩
      rw [run, h₁]
      exact hdone

end Machine
