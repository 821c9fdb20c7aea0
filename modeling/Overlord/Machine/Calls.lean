import Mathlib.Data.List.Basic

/-!
# Calls in progress

A machine with any number of calls under way keeps the state of each one in a list and replaces one
of them at a time.  `filterMap_set_call` says what that does to anything that is collected from the
list.
-/

set_option autoImplicit false

namespace Machine

theorem getElem?_add_call {Call : Type*} {calls : List Call} {call c : Call} {i : Nat}
    (h : (calls ++ [call])[i]? = some c) : calls[i]? = some c ∨ c = call := by
  rw [List.getElem?_append] at h
  split at h
  · exact .inl h
  · exact .inr (List.mem_singleton.mp (List.mem_of_getElem? h))

variable {Call β : Type*} (f : Call → Option β)

theorem filterMap_cons_toList (call : Call) (calls : List Call) :
    (call :: calls).filterMap f = (f call).toList ++ calls.filterMap f := by
  rw [List.filterMap_cons]
  cases f call <;> rfl

/-- A call that starts. -/
theorem filterMap_add_call (calls : List Call) (call : Call) :
    (calls ++ [call]).filterMap f = calls.filterMap f ++ (f call).toList := by
  rw [List.filterMap_append, filterMap_cons_toList, List.filterMap_nil, List.append_nil]

/-- **A call that goes on.**  What the other calls contribute stays in its place. -/
theorem filterMap_set_call {calls : List Call} {i : Nat} {call : Call} (h : calls[i]? = some call) :
    ∃ front back, calls.filterMap f = front ++ (f call).toList ++ back ∧
      ∀ call', (calls.set i call').filterMap f = front ++ (f call').toList ++ back := by
  induction calls generalizing i with
  | nil => cases h
  | cons first calls ih =>
    cases i with
    | zero =>
      obtain rfl := Option.some.inj h
      exact ⟨[], _, filterMap_cons_toList f _ _, fun call' => filterMap_cons_toList f _ _⟩
    | succ i =>
      obtain ⟨front, back, hcalls, hset⟩ := ih h
      refine ⟨(f first).toList ++ front, back, ?_, fun call' => ?_⟩
      · rw [filterMap_cons_toList, hcalls, List.append_assoc, List.append_assoc, List.append_assoc]
      · rw [List.set_cons_succ, filterMap_cons_toList, hset, List.append_assoc, List.append_assoc,
          List.append_assoc]

/-- A call that goes on without a change in what it contributes. -/
theorem filterMap_set_call_of_eq {calls : List Call} {i : Nat} {call call' : Call}
    (h : calls[i]? = some call) (heq : f call' = f call) :
    (calls.set i call').filterMap f = calls.filterMap f := by
  obtain ⟨front, back, hcalls, hset⟩ := filterMap_set_call f h
  rw [hset, hcalls, heq]

end Machine
