import Overlord.Data.Paging
import Overlord.Kad.Proto.Decoded

/-!
# The pages of a search response

`split_stock_search_responses` cuts a response into pages that stay below a datagram size.  It
encodes every candidate page to learn its length, and encoding does not fail: it panics when a
count does not fit its field.  So a response that cannot be encoded brings down the splitter as
well, although `encoded_search_response_len` would count it as too long.

* `splitStockSearchResponses_eq` — the loop is `Paging.pagesM`.
* `IsPaging` is what the pages are for: nothing is lost, no page is too long, and none is cut short.
* `splitStockSearchResponses_iff` — the splitter returns such pages exactly if `Splittable` holds.
* `splitStockSearchResponses_ok` — a response that fits is cut, and so does every page.
-/

set_option autoImplicit false

namespace Overlord.Emule

open Kad Wire

/-! ## The splitter -/

/-- `encoded_search_response_len`. -/
def encodedSearchResponseLen (senderId target : NodeId) (results : List SearchResultEntry) :
    Except Panic Nat :=
  return (← KadPacket.encode (.searchRes ⟨senderId, target, results⟩)).length

/-- One round of the loop in `split_stock_search_responses`: the pages so far and the page being
filled. -/
def splitStep (maxPacketBytes : Nat) (senderId target : NodeId)
    (acc : List SearchRes × List SearchResultEntry) (result : SearchResultEntry) :
    Except Panic (List SearchRes × List SearchResultEntry) :=
  if acc.2.isEmpty then return (acc.1, [result])
  else do
    let candidate := acc.2 ++ [result]
    if maxPacketBytes < (← encodedSearchResponseLen senderId target candidate) then
      return (acc.1 ++ [⟨senderId, target, acc.2⟩], [result])
    else return (acc.1, candidate)

/-- `split_stock_search_responses`. -/
def splitStockSearchResponses (response : SearchRes) (maxPacketBytes : Nat) :
    Except Panic (List SearchRes) :=
  if maxPacketBytes = 0 ∨ response.results.length ≤ 1 then return [response]
  else do
    let (pages, current) ←
      response.results.foldlM (splitStep maxPacketBytes response.senderId response.target) ([], [])
    return if current.isEmpty then pages
      else pages ++ [⟨response.senderId, response.target, current⟩]

/-- The results of a response fit its counts. -/
def ResultsFit (results : List SearchResultEntry) : Prop :=
  results.length < 2 ^ 16 ∧ ∀ r ∈ results, TagsFit r.tags

theorem encode_searchRes_isOk {p : SearchRes} (h : ResultsFit p.results) :
    ∃ bs, KadPacket.encode (.searchRes p) = .ok bs :=
  (KadPacket.encode_isOk_iff (.searchRes p)).mpr h

/-- A response whose first result has too many tags is not encoded. -/
theorem encode_searchRes_panics {senderId target : NodeId} {r : SearchResultEntry}
    {rest : List SearchResultEntry} (h : 2 ^ 8 ≤ r.tags.length)
    (hcount : (r :: rest).length < 2 ^ 16) :
    KadPacket.encode (.searchRes ⟨senderId, target, r :: rest⟩) =
      .error ⟨"tag count exceeds u8"⟩ := by
  have htags : writeTags r.tags = .error ⟨"tag count exceeds u8"⟩ := by
    rw [writeTags, expectBelow, if_neg (by omega)]
    rfl
  have hentry : SearchResultEntry.write r = .error ⟨"tag count exceeds u8"⟩ := by
    rw [SearchResultEntry.write, htags]
    rfl
  rw [KadPacket.encode, KadPacket.encodeBody, SearchRes.write, putMany, hentry, expectBelow,
    if_pos hcount]
  rfl

/-! ## The loop -/

/-- The test of the loop. -/
def tooLong (maxPacketBytes : Nat) (senderId target : NodeId) (page : List SearchResultEntry) :
    Except Panic Bool :=
  (encodedSearchResponseLen senderId target page).map fun len => decide (maxPacketBytes < len)

variable {maxPacketBytes : Nat} {senderId target : NodeId}

theorem tooLong_eq_ok_iff {page : List SearchResultEntry} {b : Bool} :
    tooLong maxPacketBytes senderId target page = .ok b ↔
      ∃ bs, KadPacket.encode (.searchRes ⟨senderId, target, page⟩) = .ok bs ∧
        decide (maxPacketBytes < bs.length) = b := by
  rw [tooLong, encodedSearchResponseLen]
  cases KadPacket.encode (.searchRes ⟨senderId, target, page⟩) with
  | error e => exact ⟨nofun, fun ⟨_, h, _⟩ => nomatch h⟩
  | ok bs =>
    refine ⟨fun h => ⟨bs, rfl, Except.ok.inj h⟩, fun ⟨bs', hbs, h⟩ => ?_⟩
    obtain rfl := Except.ok.inj hbs
    exact congrArg Except.ok h

/-- A test succeeds exactly if the candidate page can be encoded. -/
theorem exists_tooLong_eq_ok_iff {page : List SearchResultEntry} :
    (∃ b, tooLong maxPacketBytes senderId target page = .ok b) ↔ ResultsFit page := by
  rw [show ResultsFit page ↔ ∃ bs, KadPacket.encode (.searchRes ⟨senderId, target, page⟩) = .ok bs
    from (KadPacket.encode_isOk_iff (.searchRes ⟨senderId, target, page⟩)).symm]
  refine ⟨fun ⟨b, hb⟩ => ?_, fun ⟨bs, hbs⟩ => ⟨_, tooLong_eq_ok_iff.mpr ⟨bs, hbs, rfl⟩⟩⟩
  obtain ⟨bs, hbs, -⟩ := tooLong_eq_ok_iff.mp hb
  exact ⟨bs, hbs⟩

theorem splitStep_of_ne_nil {pages : List SearchRes} {current : List SearchResultEntry}
    (hcurrent : current ≠ []) (result : SearchResultEntry) :
    splitStep maxPacketBytes senderId target (pages, current) result =
      (tooLong maxPacketBytes senderId target (current ++ [result])).map fun full =>
        if full then (pages ++ [⟨senderId, target, current⟩], [result])
        else (pages, current ++ [result]) := by
  have hempty : ¬ current.isEmpty = true := by simpa using hcurrent
  rw [splitStep, if_neg hempty, tooLong]
  dsimp only
  cases encodedSearchResponseLen senderId target (current ++ [result]) with
  | error e => rfl
  | ok len =>
    show (if maxPacketBytes < len then _ else _) = Except.ok (if decide _ = true then _ else _)
    by_cases hmax : maxPacketBytes < len
    · rw [if_pos hmax, if_pos (decide_eq_true hmax)]
      rfl
    · rw [if_neg hmax, if_neg (by simpa using hmax)]
      rfl

/-- The loop of the source, started on some pages, is the loop of `Paging`. -/
theorem foldlM_splitStep (results : List SearchResultEntry) (pages : List SearchRes)
    (current : List SearchResultEntry) :
    (results.foldlM (splitStep maxPacketBytes senderId target) (pages, current)).map
        (fun acc => if acc.2.isEmpty then acc.1 else acc.1 ++ [⟨senderId, target, acc.2⟩]) =
      (Paging.loopM (tooLong maxPacketBytes senderId target) current results).map fun more =>
        pages ++ more.map fun page => ⟨senderId, target, page⟩ := by
  induction results generalizing pages current with
  | nil =>
    cases current with
    | nil => exact congrArg Except.ok (List.append_nil pages).symm
    | cons r rs => rfl
  | cons result results ih =>
    rw [List.foldlM_cons]
    by_cases hcurrent : current = []
    · subst hcurrent
      exact ih pages [result]
    rw [splitStep_of_ne_nil hcurrent, Paging.loopM_cons hcurrent]
    cases tooLong maxPacketBytes senderId target (current ++ [result]) with
    | error e => rfl
    | ok full =>
      cases full with
      | false => exact ih pages (current ++ [result])
      | true =>
        refine (ih (pages ++ [⟨senderId, target, current⟩]) [result]).trans ?_
        cases Paging.loopM (tooLong maxPacketBytes senderId target) [result] results with
        | error e => rfl
        | ok more => exact congrArg Except.ok (List.append_assoc pages _ _)

theorem splitStockSearchResponses_eq {response : SearchRes} (hmax : maxPacketBytes ≠ 0)
    (hlength : 2 ≤ response.results.length) :
    splitStockSearchResponses response maxPacketBytes =
      (Paging.pagesM (tooLong maxPacketBytes response.senderId response.target)
        response.results).map
          fun pages => pages.map fun page => ⟨response.senderId, response.target, page⟩ := by
  rw [splitStockSearchResponses, if_neg (by omega)]
  refine Eq.trans ?_ (foldlM_splitStep response.results [] [])
  cases response.results.foldlM
    (splitStep maxPacketBytes response.senderId response.target) ([], []) <;> rfl

/-! ## What the pages are for -/

/-- The pages of a response: together they are the response, none is empty unless the response was,
and for a positive limit no page of several results exceeds it and no page could have taken the
first result of the next one. -/
structure IsPaging (response : SearchRes) (maxPacketBytes : Nat) (pages : List SearchRes) :
    Prop where
  header : ∀ page ∈ pages, page.senderId = response.senderId ∧ page.target = response.target
  results : (pages.map (·.results)).flatten = response.results
  nonempty : response.results ≠ [] → ∀ page ∈ pages, page.results ≠ []
  short : 0 < maxPacketBytes → ∀ page ∈ pages, 2 ≤ page.results.length →
    ∃ bs, KadPacket.encode (.searchRes page) = .ok bs ∧ bs.length ≤ maxPacketBytes
  full : 0 < maxPacketBytes → pages.IsChain fun p q => ∀ r ∈ q.results.head?,
    ∃ bs, KadPacket.encode (.searchRes { p with results := p.results ++ [r] }) = .ok bs ∧
      maxPacketBytes < bs.length

/-- The results page by page, with a page that cannot be encoded read as too long. -/
def resultPages (response : SearchRes) (maxPacketBytes : Nat) : List (List SearchResultEntry) :=
  Paging.pages (Paging.overfull (tooLong maxPacketBytes response.senderId response.target))
    response.results

/-- The splitter looks at no page it cannot encode: all results fit, and a page that is followed by
another has room in the result count for one more. -/
def Splittable (response : SearchRes) (maxPacketBytes : Nat) : Prop :=
  maxPacketBytes = 0 ∨ response.results.length ≤ 1 ∨
    (∀ r ∈ response.results, TagsFit r.tags) ∧
      ∀ page ∈ (resultPages response maxPacketBytes).dropLast, page.length + 1 < 2 ^ 16

theorem isPaging_singleton {response : SearchRes}
    (h : maxPacketBytes = 0 ∨ response.results.length ≤ 1) :
    IsPaging response maxPacketBytes [response] where
  header := by simp
  results := by simp
  nonempty hne := by simpa using hne
  short hmax page hpage hlength := by
    rw [List.mem_singleton.mp hpage] at hlength
    omega
  full _ := .singleton response

/-- The pages that pass all tests between them are what the pages are for. -/
theorem isPaging_of_tested {response : SearchRes}
    (htested : Paging.Tested (tooLong maxPacketBytes response.senderId response.target)
      (resultPages response maxPacketBytes)) :
    IsPaging response maxPacketBytes ((resultPages response maxPacketBytes).map fun page =>
      ⟨response.senderId, response.target, page⟩) where
  header := by simp
  results := by
    rw [List.map_map]
    exact (congrArg List.flatten (List.map_id _)).trans (Paging.flatten_pages _)
  nonempty _ page hpage := by
    obtain ⟨results, hresults, rfl⟩ := List.mem_map.mp hpage
    exact Paging.ne_nil_of_mem_pages hresults
  short _ page hpage hlength := by
    obtain ⟨results, hresults, rfl⟩ := List.mem_map.mp hpage
    have htest := Paging.eq_ok_false_of_mem_pages hresults hlength
    obtain ⟨bs, hbs, hle⟩ := tooLong_eq_ok_iff.mp htest
    exact ⟨bs, hbs, Nat.le_of_not_lt (of_decide_eq_false hle)⟩
  full _ := by
    rw [List.isChain_map]
    refine (Paging.isChain_pages_of_tested htested).imp fun p q h r hr => ?_
    obtain ⟨bs, hbs, hlt⟩ := tooLong_eq_ok_iff.mp (h r hr)
    exact ⟨bs, hbs, of_decide_eq_true hlt⟩

/-! ## When there are pages -/

section Tests

variable {response : SearchRes}

/-- With results that fit, a test between two pages only depends on the length of the first. -/
theorem tested_iff_of_tagsFit (hfits : ∀ r ∈ response.results, TagsFit r.tags) :
    Paging.Tested (tooLong maxPacketBytes response.senderId response.target)
        (resultPages response maxPacketBytes) ↔
      ∀ page ∈ (resultPages response maxPacketBytes).dropLast, page.length + 1 < 2 ^ 16 := by
  have hmem : ∀ page ∈ resultPages response maxPacketBytes, ∀ r ∈ page, TagsFit r.tags :=
    fun page hpage r hr =>
      hfits r (Paging.flatten_pages response.results ▸ List.mem_flatten.mpr ⟨page, hpage, hr⟩)
  refine Paging.isChain_iff_forall_dropLast fun p hp q hq => ?_
  obtain ⟨a, rest, rfl⟩ := List.exists_cons_of_ne_nil (Paging.ne_nil_of_mem_pages hq)
  constructor
  · intro htest
    have hcandidate : ResultsFit (p ++ [a]) := exists_tooLong_eq_ok_iff.mp (htest a rfl)
    simpa using hcandidate.1
  · intro hlength b hb
    obtain rfl : a = b := Option.some.inj hb
    refine exists_tooLong_eq_ok_iff.mpr ⟨by simpa using hlength, fun r hr => ?_⟩
    rcases List.mem_append.mp hr with hr | hr
    · exact hmem p hp r hr
    · rw [List.mem_singleton.mp hr]
      exact hmem _ hq a List.mem_cons_self

/-- A response whose tests all succeed has results that fit, if there is a test at all: every page
of several results was a candidate, and so was every page with the first result of the next. -/
theorem tagsFit_of_tested (hlength : 2 ≤ response.results.length)
    (htested : Paging.Tested (tooLong maxPacketBytes response.senderId response.target)
      (resultPages response maxPacketBytes)) :
    ∀ r ∈ response.results, TagsFit r.tags := by
  obtain ⟨first, rest, heq⟩ : ∃ first rest, resultPages response maxPacketBytes = first :: rest :=
    Paging.exists_pages_eq (List.ne_nil_of_length_pos (by omega))
  have hflatten : (first :: rest).flatten = response.results :=
    heq ▸ Paging.flatten_pages response.results
  have hlong : ∀ page ∈ first :: rest, 2 ≤ page.length → ∀ r ∈ page, TagsFit r.tags :=
    fun page hpage htwo => (exists_tooLong_eq_ok_iff.mp
      ⟨false, Paging.eq_ok_false_of_mem_pages (heq ▸ hpage) htwo⟩).2
  have hcandidate : (first :: rest).IsChain fun p q =>
      ∀ a ∈ q.head?, ∀ r ∈ p ++ [a], TagsFit r.tags :=
    (heq ▸ htested : Paging.Tested _ (first :: rest)).imp
      fun p q h a ha => (exists_tooLong_eq_ok_iff.mp (h a ha)).2
  have hfirst : ∀ r ∈ first.head?, TagsFit r.tags := by
    intro r hr
    have hr : r ∈ first := List.mem_of_mem_head? hr
    cases rest with
    | nil =>
      rw [List.flatten_singleton] at hflatten
      exact hlong first List.mem_cons_self (hflatten ▸ hlength) r hr
    | cons next rest =>
      have hnext : next ∈ resultPages response maxPacketBytes := by simp [heq]
      obtain ⟨a, more, rfl⟩ := List.exists_cons_of_ne_nil (Paging.ne_nil_of_mem_pages hnext)
      exact (List.isChain_cons_cons.mp hcandidate).1 a rfl r (List.mem_append_left _ hr)
  rw [← hflatten]
  exact Paging.forall_mem_flatten_of_isChain hlong hfirst
    (hcandidate.imp fun p q h a ha => h a ha a (by simp))

/-- The splitter returns pages exactly if all tests between them succeed. -/
theorem splitStockSearchResponses_eq_ok_iff (hmax : maxPacketBytes ≠ 0)
    (hlength : 2 ≤ response.results.length) {pages : List SearchRes} :
    splitStockSearchResponses response maxPacketBytes = .ok pages ↔
      pages = (resultPages response maxPacketBytes).map
          (fun page => ⟨response.senderId, response.target, page⟩) ∧
        Paging.Tested (tooLong maxPacketBytes response.senderId response.target)
          (resultPages response maxPacketBytes) := by
  rw [splitStockSearchResponses_eq hmax hlength]
  constructor
  · intro h
    cases hpages : Paging.pagesM (tooLong maxPacketBytes response.senderId response.target)
        response.results with
    | error e => rw [hpages] at h; cases h
    | ok results =>
      rw [hpages] at h
      obtain ⟨rfl, htested⟩ := (Paging.pagesM_eq_ok_iff response.results).mp hpages
      exact ⟨(Except.ok.inj h).symm, htested⟩
  · rintro ⟨rfl, htested⟩
    rw [(Paging.pagesM_eq_ok_iff response.results).mpr ⟨rfl, htested⟩]
    rfl

theorem exists_pages_of_splittable (h : Splittable response maxPacketBytes) :
    ∃ pages, splitStockSearchResponses response maxPacketBytes = .ok pages ∧
      IsPaging response maxPacketBytes pages := by
  by_cases hsmall : maxPacketBytes = 0 ∨ response.results.length ≤ 1
  · exact ⟨[response], if_pos hsmall, isPaging_singleton hsmall⟩
  · obtain ⟨hfits, hroom⟩ := (or_assoc.mpr h).resolve_left hsmall
    obtain ⟨hmax, hlength⟩ := not_or.mp hsmall
    have htested := (tested_iff_of_tagsFit hfits).mpr hroom
    exact ⟨_, (splitStockSearchResponses_eq_ok_iff hmax (by omega)).mpr ⟨rfl, htested⟩,
      isPaging_of_tested htested⟩

theorem splittable_of_eq_ok {pages : List SearchRes}
    (h : splitStockSearchResponses response maxPacketBytes = .ok pages) :
    Splittable response maxPacketBytes := by
  by_cases hsmall : maxPacketBytes = 0 ∨ response.results.length ≤ 1
  · exact or_assoc.mp (.inl hsmall)
  · obtain ⟨hmax, hlength⟩ := not_or.mp hsmall
    obtain ⟨-, htested⟩ := (splitStockSearchResponses_eq_ok_iff hmax (by omega)).mp h
    have hfits := tagsFit_of_tested (by omega) htested
    exact .inr (.inr ⟨hfits, (tested_iff_of_tagsFit hfits).mp htested⟩)

end Tests

/-- **The splitter returns the pages of a response exactly if it can encode all it looks at.** -/
theorem splitStockSearchResponses_iff (response : SearchRes) (maxPacketBytes : Nat) :
    (∃ pages, splitStockSearchResponses response maxPacketBytes = .ok pages ∧
      IsPaging response maxPacketBytes pages) ↔ Splittable response maxPacketBytes :=
  ⟨fun ⟨_, h, _⟩ => splittable_of_eq_ok h, exists_pages_of_splittable⟩

/-- Two results, the first with one tag more than a result may have. -/
def crowdedResponse : SearchRes :=
  ⟨NodeId.ZERO, NodeId.ZERO,
    [⟨⟨NodeId.ZERO.toBeBytes⟩, List.replicate 256 ⟨.short 1, .u8 0⟩⟩,
      ⟨⟨NodeId.ZERO.toBeBytes⟩, []⟩]⟩

/-- The splitter does not count it as too long. -/
theorem splitStockSearchResponses_panics :
    splitStockSearchResponses crowdedResponse 1420 = .error ⟨"tag count exceeds u8"⟩ := by
  have htest : tooLong 1420 NodeId.ZERO NodeId.ZERO
      ([⟨⟨NodeId.ZERO.toBeBytes⟩, List.replicate 256 ⟨.short 1, .u8 0⟩⟩] ++
        [⟨⟨NodeId.ZERO.toBeBytes⟩, []⟩]) = .error ⟨"tag count exceeds u8"⟩ := by
    rw [tooLong, encodedSearchResponseLen, List.singleton_append, encode_searchRes_panics]
    · rfl
    · rw [List.length_replicate]
      decide
    · decide
  rw [splitStockSearchResponses_eq (by decide) (by decide)]
  show Except.map _ (Paging.loopM (tooLong 1420 NodeId.ZERO NodeId.ZERO)
    [⟨⟨NodeId.ZERO.toBeBytes⟩, List.replicate 256 ⟨.short 1, .u8 0⟩⟩]
    [⟨⟨NodeId.ZERO.toBeBytes⟩, []⟩]) = _
  rw [Paging.loopM_cons (List.cons_ne_nil _ _), htest]
  rfl

/-! ## Responses that fit -/

theorem length_lt_of_mem_dropLast {α : Type} {pages : List (List α)}
    (hne : ∀ page ∈ pages, page ≠ []) {page : List α} (hpage : page ∈ pages.dropLast) :
    page.length < pages.flatten.length := by
  have hpages : pages ≠ [] := fun h => by simp [h] at hpage
  have hlast : 0 < (pages.getLast hpages).length :=
    List.length_pos_of_ne_nil (hne _ (List.getLast_mem hpages))
  have hle : page.length ≤ pages.dropLast.flatten.length :=
    (List.sublist_flatten_of_mem hpage).length_le
  conv_rhs => rw [← List.dropLast_append_getLast hpages]
  rw [List.flatten_append, List.length_append, List.flatten_singleton]
  omega

theorem IsPaging.resultsFit {response : SearchRes} {pages : List SearchRes}
    (hpaging : IsPaging response maxPacketBytes pages) (h : ResultsFit response.results) :
    ∀ page ∈ pages, ResultsFit page.results := by
  intro page hpage
  have hsub : page.results.Sublist response.results := by
    rw [← hpaging.results]
    exact List.sublist_flatten_of_mem (List.mem_map_of_mem hpage)
  exact ⟨hsub.length_le.trans_lt h.1, fun r hr => h.2 r (hsub.subset hr)⟩

/-- **Cutting a response that fits succeeds, and every page fits.** -/
theorem splitStockSearchResponses_ok {response : SearchRes} (h : ResultsFit response.results)
    (maxPacketBytes : Nat) :
    ∃ pages, splitStockSearchResponses response maxPacketBytes = .ok pages ∧
      ∀ page ∈ pages, ResultsFit page.results := by
  have hroom : ∀ page ∈ (resultPages response maxPacketBytes).dropLast,
      page.length + 1 < 2 ^ 16 := by
    intro page hpage
    have hlt := length_lt_of_mem_dropLast (fun _ => Paging.ne_nil_of_mem_pages) hpage
    rw [Paging.flatten_pages] at hlt
    exact Nat.lt_of_le_of_lt hlt h.1
  obtain ⟨pages, hpages, hpaging⟩ := exists_pages_of_splittable (.inr (.inr ⟨h.2, hroom⟩))
  exact ⟨pages, hpages, hpaging.resultsFit h⟩

end Overlord.Emule
