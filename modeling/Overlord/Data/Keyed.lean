import Mathlib

/-!
# Lists with distinct keys

A hash map whose iteration order does not matter, as the list of its elements.  Every element
carries its key, and two elements never have the same one.

* `get`, `remove`, `insert` and `modify` are the operations of the map.
* `Distinct` is its invariant.
* `Distinct.exists_split` takes a list apart at the element of a key; what the operations do there
  is read off the three parts.
-/

set_option autoImplicit false

namespace Keyed

variable {α κ : Type} [DecidableEq κ] (key : α → κ)

/-- The element of a key. -/
def get (k : κ) (l : List α) : Option α := l.find? (key · = k)

/-- Drop the element of a key. -/
def remove (k : κ) (l : List α) : List α := l.filter (key · ≠ k)

/-- Put an element in, in place of the one of its key. -/
def insert (a : α) (l : List α) : List α := a :: remove key (key a) l

/-- Change the element of a key. -/
def modify (k : κ) (f : α → α) (l : List α) : List α := l.map fun a => if key a = k then f a else a

/-- No two elements have the same key. -/
def Distinct (l : List α) : Prop := (l.map key).Nodup

variable {key} {k : κ} {a : α} {l : List α}

theorem mem_of_get (h : get key k l = some a) : a ∈ l := List.mem_of_find?_eq_some h

theorem key_of_get (h : get key k l = some a) : key a = k := by simpa using List.find?_some h

theorem get_eq_none_iff : get key k l = none ↔ ∀ a ∈ l, key a ≠ k := by
  simp [get]

theorem remove_eq_self (h : ∀ a ∈ l, key a ≠ k) : remove key k l = l := by
  simpa [remove] using h

theorem modify_eq_self (h : ∀ a ∈ l, key a ≠ k) (f : α → α) : modify key k f l = l :=
  (List.map_congr_left fun a ha => if_neg (h a ha)).trans (List.map_id l)

theorem get_remove_of_ne {k' : κ} (h : k ≠ k') : get key k (remove key k' l) = get key k l := by
  rw [get, get, remove, List.find?_filter]
  congr 1
  funext a
  by_cases ha : key a = k
  · simp [ha, h]
  · simp [ha]

theorem modify_cons (f : α → α) :
    modify key k f (a :: l) = (if key a = k then f a else a) :: modify key k f l := rfl

theorem get_cons : get key k (a :: l) = if key a = k then some a else get key k l := by
  by_cases ha : key a = k <;> simp [get, ha]

theorem get_modify {f : α → α} (hf : ∀ a ∈ l, key a = k → key (f a) = k) :
    get key k (modify key k f l) = (get key k l).map f := by
  induction l with
  | nil => rfl
  | cons a l ih =>
    have ih := ih fun b hb => hf b (List.mem_cons_of_mem a hb)
    rw [modify_cons, get_cons, get_cons, ih]
    by_cases ha : key a = k
    · rw [if_pos ha, if_pos (hf a List.mem_cons_self ha), if_pos ha, Option.map_some]
    · rw [if_neg ha, if_neg ha, if_neg ha]

theorem get_modify_of_ne {k' : κ} {f : α → α} (hf : ∀ a ∈ l, key a = k' → key (f a) = k')
    (h : k ≠ k') : get key k (modify key k' f l) = get key k l := by
  induction l with
  | nil => rfl
  | cons a l ih =>
    have ih := ih fun b hb => hf b (List.mem_cons_of_mem a hb)
    rw [modify_cons, get_cons, get_cons, ih]
    by_cases ha : key a = k'
    · rw [if_pos ha, hf a List.mem_cons_self ha, ha, if_neg h.symm, if_neg h.symm]
    · rw [if_neg ha]

theorem get_remove_self : get key k (remove key k l) = none := by
  simp [get, remove, List.find?_filter]

theorem get_snoc : get key k (l ++ [a]) =
    (get key k l).or (if key a = k then some a else none) := by
  by_cases ha : key a = k <;> simp [get, ha]

namespace Distinct

theorem remove (h : Distinct key l) (k : κ) : Distinct key (remove key k l) :=
  h.sublist (List.filter_sublist.map key)

omit [DecidableEq κ] in
theorem ne_of_middle {front back : List α} (h : Distinct key (front ++ a :: back)) :
    (∀ b ∈ front, key b ≠ key a) ∧ ∀ b ∈ back, key b ≠ key a := by
  rw [Distinct, List.map_append, List.map_cons, List.nodup_append, List.nodup_cons] at h
  obtain ⟨-, ⟨hback, -⟩, hfront⟩ := h
  exact ⟨fun b hb => hfront _ (List.mem_map_of_mem hb) _ List.mem_cons_self,
    fun b hb heq => hback (heq ▸ List.mem_map_of_mem hb)⟩

theorem modify_middle {front back : List α} (h : Distinct key (front ++ a :: back)) (f : α → α) :
    modify key (key a) f (front ++ a :: back) = front ++ f a :: back := by
  obtain ⟨hfront, hback⟩ := h.ne_of_middle
  rw [modify, List.map_append, List.map_cons, if_pos rfl]
  exact congrArg₂ _ (modify_eq_self hfront f) (congrArg _ (modify_eq_self hback f))

/-- **A list taken apart at an element.** -/
theorem exists_split (h : Distinct key l) (ha : a ∈ l) :
    ∃ front back, l = front ++ a :: back ∧ Keyed.remove key (key a) l = front ++ back ∧
      ∀ f, modify key (key a) f l = front ++ f a :: back := by
  obtain ⟨front, back, rfl⟩ := List.append_of_mem ha
  obtain ⟨hfront, hback⟩ := h.ne_of_middle
  refine ⟨front, back, rfl, ?_, h.modify_middle⟩
  have hself : Keyed.remove key (key a) [a] = [] := by simp [Keyed.remove]
  rw [Keyed.remove, List.filter_append, ← List.singleton_append, List.filter_append]
  exact congrArg₂ _ (remove_eq_self hfront) (congrArg₂ _ hself (remove_eq_self hback))

theorem get_eq_some_iff (h : Distinct key l) : get key k l = some a ↔ a ∈ l ∧ key a = k := by
  refine ⟨fun hget => ⟨mem_of_get hget, key_of_get hget⟩, ?_⟩
  rintro ⟨ha, rfl⟩
  cases hget : get key (key a) l with
  | none => exact absurd rfl (get_eq_none_iff.mp hget a ha)
  | some b =>
    exact congrArg some (List.inj_on_of_nodup_map h (mem_of_get hget) ha (key_of_get hget))

theorem modify {f : α → α} (h : Distinct key l) (hf : ∀ a ∈ l, key a = k → key (f a) = k) :
    Distinct key (Keyed.modify key k f l) := by
  have hkeys : (Keyed.modify key k f l).map key = l.map key := by
    rw [Keyed.modify, List.map_map]
    refine List.map_congr_left fun a ha => ?_
    by_cases hk : key a = k
    · rw [Function.comp_apply, if_pos hk, hf a ha hk, hk]
    · rw [Function.comp_apply, if_neg hk]
  rwa [Distinct, hkeys]

theorem snoc (h : Distinct key l) (hget : get key (key a) l = none) : Distinct key (l ++ [a]) := by
  rw [Distinct, List.map_append, List.map_singleton]
  refine List.nodup_append.mpr ⟨h, List.nodup_singleton _, fun x hx y hy => ?_⟩
  obtain ⟨b, hb, rfl⟩ := List.mem_map.mp hx
  rw [List.mem_singleton.mp hy]
  exact get_eq_none_iff.mp hget b hb

end Distinct

end Keyed
