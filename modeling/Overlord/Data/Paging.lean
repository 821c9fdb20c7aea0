import Mathlib.Data.List.Chain

/-!
# Splitting a list into pages

A list is split greedily: an element is put on the current page unless that makes it overfull, in
which case it starts the next page.  A page always takes its first element.

* `pages` is the result, for a test that says when a page is overfull: it has all elements in order
  (`flatten_pages`), no page is empty (`ne_nil_of_mem_pages`), a page of several elements is not
  overfull (`not_over_of_mem_pages`), and no page could have taken the first element of the next one
  (`isChain_pages`).
* `pagesM` is the loop with a test that may fail.  It succeeds exactly if every test between two
  pages does (`pagesM_eq_ok_iff`), where a failing test counts as overfull for the split.
-/

set_option autoImplicit false

namespace Paging

variable {α ε : Type}

/-! ## A test that does not fail -/

/-- The loop, with the current page. -/
def loop (exceeds : List α → Bool) : List α → List α → List (List α)
  | [], [] => []
  | current, [] => [current]
  | [], a :: rest => loop exceeds [a] rest
  | current, a :: rest =>
    if exceeds (current ++ [a]) then current :: loop exceeds [a] rest
    else loop exceeds (current ++ [a]) rest

/-- The pages of a list. -/
def pages (exceeds : List α → Bool) (l : List α) : List (List α) := loop exceeds [] l

section Pure

variable {exceeds : List α → Bool} {current l rest : List α} {a : α}

theorem loop_nil (hcurrent : current ≠ []) : loop exceeds current [] = [current] := by
  cases current with
  | nil => exact absurd rfl hcurrent
  | cons b bs => rfl

theorem loop_cons (hcurrent : current ≠ []) : loop exceeds current (a :: rest) =
    if exceeds (current ++ [a]) then current :: loop exceeds [a] rest
    else loop exceeds (current ++ [a]) rest := by
  cases current with
  | nil => exact absurd rfl hcurrent
  | cons b bs => rfl

/-- The first page starts with the elements it had. -/
theorem exists_loop_eq (hcurrent : current ≠ []) (l : List α) :
    ∃ more next, loop exceeds current l = (current ++ more) :: next := by
  induction l generalizing current with
  | nil => exact ⟨[], [], by rw [loop_nil hcurrent, List.append_nil]⟩
  | cons a rest ih =>
    rw [loop_cons hcurrent]
    split
    · exact ⟨[], _, by rw [List.append_nil]⟩
    · obtain ⟨more, next, heq⟩ := ih (List.append_ne_nil_of_right_ne_nil current
        (List.cons_ne_nil a []))
      exact ⟨a :: more, next, by rw [heq, List.append_assoc, List.singleton_append]⟩

theorem flatten_loop (l : List α) : (loop exceeds current l).flatten = current ++ l := by
  induction l generalizing current with
  | nil =>
    cases current with
    | nil => rfl
    | cons b bs => rw [loop_nil (List.cons_ne_nil b bs), List.flatten_singleton, List.append_nil]
  | cons a rest ih =>
    by_cases hcurrent : current = []
    · subst hcurrent
      exact ih
    · rw [loop_cons hcurrent]
      split
      · rw [List.flatten_cons, ih, List.singleton_append]
      · rw [ih, List.append_assoc, List.singleton_append]

theorem ne_nil_of_mem_loop {page : List α} (hpage : page ∈ loop exceeds current l) : page ≠ [] := by
  induction l generalizing current with
  | nil =>
    cases current with
    | nil => cases hpage
    | cons b bs => exact List.mem_singleton.mp hpage ▸ List.cons_ne_nil b bs
  | cons a rest ih =>
    by_cases hcurrent : current = []
    · subst hcurrent
      exact ih hpage
    · rw [loop_cons hcurrent] at hpage
      split at hpage
      · rcases List.mem_cons.mp hpage with rfl | hpage
        · exact hcurrent
        · exact ih hpage
      · exact ih hpage

theorem not_over_of_mem_loop (hover : 2 ≤ current.length → exceeds current = false) {page : List α}
    (hpage : page ∈ loop exceeds current l) (hlength : 2 ≤ page.length) : exceeds page = false := by
  have hone : ∀ a : α, 2 ≤ [a].length → exceeds [a] = false := fun a h => absurd h (by simp)
  induction l generalizing current with
  | nil =>
    cases current with
    | nil => cases hpage
    | cons b bs =>
      obtain rfl := List.mem_singleton.mp hpage
      exact hover hlength
  | cons a rest ih =>
    by_cases hcurrent : current = []
    · subst hcurrent
      exact ih (hone a) hpage
    · rw [loop_cons hcurrent] at hpage
      split at hpage
      next =>
        rcases List.mem_cons.mp hpage with rfl | hpage
        · exact hover hlength
        · exact ih (hone a) hpage
      next hfits => exact ih (fun _ => Bool.eq_false_iff.mpr hfits) hpage

theorem isChain_loop (current l : List α) :
    (loop exceeds current l).IsChain fun p q => ∀ a ∈ q.head?, exceeds (p ++ [a]) = true := by
  induction l generalizing current with
  | nil =>
    cases current with
    | nil => exact .nil
    | cons b bs => exact .singleton _
  | cons a rest ih =>
    by_cases hcurrent : current = []
    · subst hcurrent
      exact ih [a]
    · rw [loop_cons hcurrent]
      split
      next hfull =>
        obtain ⟨more, next, heq⟩ : ∃ more next, loop exceeds [a] rest = ([a] ++ more) :: next :=
          exists_loop_eq (List.cons_ne_nil a []) rest
        have htail := ih [a]
        rw [heq] at htail ⊢
        refine List.isChain_cons_cons.mpr ⟨fun b hb => ?_, htail⟩
        obtain rfl : a = b := Option.some.inj hb
        exact hfull
      next => exact ih _

theorem flatten_pages (l : List α) : (pages exceeds l).flatten = l := flatten_loop l

theorem ne_nil_of_mem_pages {page : List α} (hpage : page ∈ pages exceeds l) : page ≠ [] :=
  ne_nil_of_mem_loop hpage

theorem not_over_of_mem_pages {page : List α} (hpage : page ∈ pages exceeds l)
    (hlength : 2 ≤ page.length) : exceeds page = false :=
  not_over_of_mem_loop (fun h => absurd h (by simp)) hpage hlength

theorem exists_pages_eq (hne : l ≠ []) : ∃ first rest, pages exceeds l = first :: rest := by
  obtain ⟨a, l, rfl⟩ := List.exists_cons_of_ne_nil hne
  obtain ⟨more, next, heq⟩ : ∃ more next, loop exceeds [a] l = ([a] ++ more) :: next :=
    exists_loop_eq (List.cons_ne_nil a []) l
  exact ⟨_, _, heq⟩

theorem isChain_pages (l : List α) :
    (pages exceeds l).IsChain fun p q => ∀ a ∈ q.head?, exceeds (p ++ [a]) = true :=
  isChain_loop [] l

end Pure

/-! ## Reading a chain of pages -/

theorem forall_mem_of_head {P : α → Prop} {page : List α}
    (hlong : 2 ≤ page.length → ∀ a ∈ page, P a) (hhead : ∀ a ∈ page.head?, P a) :
    ∀ a ∈ page, P a := by
  match page with
  | [] => nofun
  | [b] => exact fun a ha => hhead a (List.mem_singleton.mp ha ▸ rfl)
  | b :: c :: rest => exact hlong (by simp)

/-- What holds on every page of several elements, and for the first element of every page, holds for
all elements. -/
theorem forall_mem_flatten_of_isChain {P : α → Prop} {first : List α} {pages : List (List α)}
    (hlong : ∀ page ∈ first :: pages, 2 ≤ page.length → ∀ a ∈ page, P a)
    (hfirst : ∀ a ∈ first.head?, P a)
    (hchain : (first :: pages).IsChain fun _ q => ∀ a ∈ q.head?, P a) :
    ∀ a ∈ (first :: pages).flatten, P a := by
  have hon : ∀ a ∈ first, P a := forall_mem_of_head (hlong first List.mem_cons_self) hfirst
  induction pages generalizing first with
  | nil => simpa using hon
  | cons next pages ih =>
    obtain ⟨hhead, htail⟩ := List.isChain_cons_cons.mp hchain
    have hrest : ∀ page ∈ next :: pages, 2 ≤ page.length → ∀ a ∈ page, P a :=
      fun page hpage => hlong page (List.mem_cons_of_mem first hpage)
    intro a ha
    rw [List.flatten_cons, List.mem_append] at ha
    rcases ha with ha | ha
    · exact hon a ha
    · exact ih hrest hhead htail
        (forall_mem_of_head (hrest next List.mem_cons_self) hhead) a ha

/-- A relation that only looks at the earlier of two pages is a condition on all but the last. -/
theorem isChain_iff_forall_dropLast {β : Type} {R : β → β → Prop} {S : β → Prop} {l : List β}
    (h : ∀ p ∈ l, ∀ q ∈ l, R p q ↔ S p) : l.IsChain R ↔ ∀ p ∈ l.dropLast, S p := by
  induction l with
  | nil => exact ⟨fun _ => nofun, fun _ => .nil⟩
  | cons p rest ih =>
    cases rest with
    | nil => exact ⟨fun _ => nofun, fun _ => .singleton p⟩
    | cons q rest =>
      rw [List.isChain_cons_cons, List.dropLast_cons_cons, List.forall_mem_cons,
        h p List.mem_cons_self q (List.mem_cons_of_mem p List.mem_cons_self),
        ih fun p' hp' q' hq' =>
          h p' (List.mem_cons_of_mem p hp') q' (List.mem_cons_of_mem p hq')]

/-! ## A test that may fail -/

/-- The loop with a test that may fail. -/
def loopM (exceeds? : List α → Except ε Bool) : List α → List α → Except ε (List (List α))
  | [], [] => .ok []
  | current, [] => .ok [current]
  | [], a :: rest => loopM exceeds? [a] rest
  | current, a :: rest => do
    if ← exceeds? (current ++ [a]) then
      return current :: (← loopM exceeds? [a] rest)
    else
      loopM exceeds? (current ++ [a]) rest

/-- The pages, if no test fails. -/
def pagesM (exceeds? : List α → Except ε Bool) (l : List α) : Except ε (List (List α)) :=
  loopM exceeds? [] l

/-- The test with a failure read as overfull. -/
def overfull (exceeds? : List α → Except ε Bool) (page : List α) : Bool :=
  match exceeds? page with
  | .ok b => b
  | .error _ => true

/-- The tests between two pages of a list do not fail. -/
def Tested (exceeds? : List α → Except ε Bool) (pages : List (List α)) : Prop :=
  pages.IsChain fun p q => ∀ a ∈ q.head?, ∃ b, exceeds? (p ++ [a]) = .ok b

section Fallible

variable {exceeds? : List α → Except ε Bool} {current l rest : List α} {a : α}

theorem loopM_cons (hcurrent : current ≠ []) : loopM exceeds? current (a :: rest) =
    match exceeds? (current ++ [a]) with
    | .error e => .error e
    | .ok true => (loopM exceeds? [a] rest).map (current :: ·)
    | .ok false => loopM exceeds? (current ++ [a]) rest := by
  obtain ⟨b, bs, rfl⟩ := List.exists_cons_of_ne_nil hcurrent
  rw [loopM]
  · cases exceeds? (b :: bs ++ [a]) with
    | error e => rfl
    | ok full =>
      cases full with
      | true => cases loopM exceeds? [a] rest <;> rfl
      | false => rfl
  · exact List.cons_ne_nil b bs

/-- A run that succeeds gives the pages, and it does so if all tests between two pages succeed. -/
theorem loopM_eq_ok_iff (current l : List α) {result : List (List α)} :
    loopM exceeds? current l = .ok result ↔
      result = loop (overfull exceeds?) current l ∧ Tested exceeds? result := by
  induction l generalizing current result with
  | nil =>
    cases current with
    | nil =>
      refine ⟨fun h => ?_, fun h => by rw [h.1]; rfl⟩
      obtain rfl := Except.ok.inj h
      exact ⟨rfl, .nil⟩
    | cons b bs =>
      refine ⟨fun h => ?_, fun h => by rw [h.1]; rfl⟩
      obtain rfl := Except.ok.inj h
      exact ⟨rfl, .singleton _⟩
  | cons a rest ih =>
    by_cases hcurrent : current = []
    · subst hcurrent
      exact ih [a]
    · rw [loopM_cons hcurrent, loop_cons hcurrent, overfull]
      -- the first page of the rest starts with the element that was tested
      obtain ⟨more, next, heq⟩ : ∃ more next,
          loop (overfull exceeds?) [a] rest = ([a] ++ more) :: next :=
        exists_loop_eq (List.cons_ne_nil a []) rest
      cases htest : exceeds? (current ++ [a]) with
      | error e =>
        refine ⟨nofun, fun h => ?_⟩
        obtain ⟨rfl, hall⟩ := h
        rw [if_pos rfl, heq] at hall
        obtain ⟨b, hb⟩ := (List.isChain_cons_cons.mp hall).1 a rfl
        rw [htest] at hb
        cases hb
      | ok full =>
        cases full with
        | false => exact ih (current ++ [a])
        | true =>
          dsimp only
          rw [if_pos rfl]
          refine ⟨fun h => ?_, fun h => ?_⟩
          · obtain ⟨tail, htail, rfl⟩ : ∃ tail, loopM exceeds? [a] rest = .ok tail ∧
                current :: tail = result := by
              cases hrest : loopM exceeds? [a] rest with
              | error e => rw [hrest] at h; cases h
              | ok tail => rw [hrest] at h; exact ⟨tail, rfl, Except.ok.inj h⟩
            obtain ⟨rfl, hall⟩ := (ih [a]).mp htail
            refine ⟨rfl, ?_⟩
            rw [heq] at hall ⊢
            refine List.isChain_cons_cons.mpr ⟨fun b hb => ?_, hall⟩
            obtain rfl : a = b := Option.some.inj hb
            exact ⟨true, htest⟩
          · obtain ⟨rfl, hall⟩ := h
            have htail : loopM exceeds? [a] rest = .ok (loop (overfull exceeds?) [a] rest) :=
              (ih [a]).mpr ⟨rfl, hall.of_cons⟩
            rw [htail]
            rfl

theorem pagesM_eq_ok_iff (l : List α) {result : List (List α)} :
    pagesM exceeds? l = .ok result ↔
      result = pages (overfull exceeds?) l ∧ Tested exceeds? result :=
  loopM_eq_ok_iff [] l

/-- A page of several elements was found to have room for its last one. -/
theorem eq_ok_false_of_mem_pages {page : List α} (hpage : page ∈ pages (overfull exceeds?) l)
    (hlength : 2 ≤ page.length) : exceeds? page = .ok false := by
  have hover := not_over_of_mem_pages hpage hlength
  rw [overfull] at hover
  split at hover
  next b htest => rw [htest, hover]
  next => cases hover

/-- With no failing test, each page was found to have no room for the first element of the next. -/
theorem isChain_pages_of_tested (htested : Tested exceeds? (pages (overfull exceeds?) l)) :
    (pages (overfull exceeds?) l).IsChain fun p q =>
      ∀ a ∈ q.head?, exceeds? (p ++ [a]) = .ok true := by
  have hfull : (pages (overfull exceeds?) l).IsChain fun p q =>
      ∀ a ∈ q.head?, overfull exceeds? (p ++ [a]) = true := isChain_pages l
  rw [Tested, List.isChain_iff_getElem] at htested
  rw [List.isChain_iff_getElem] at hfull ⊢
  intro i hi a ha
  obtain ⟨b, hb⟩ := htested i hi a ha
  have hover := hfull i hi a ha
  rw [overfull, hb] at hover
  rw [hb, show b = true from hover]

end Fallible

end Paging
