import ListQuery.Proofs.Listing.Parts
import ListQuery.Proofs.Number.Ceiling
import ListQuery.Proofs.Sql.Clause
import Mathlib.Order.Interval.Finset.Nat
/-!
Going through the pages of a list. What is said about a page is computed with doubles, while its
statement asks for a window of rows in whole numbers. Up to `2^53` rows the two agree: following the
next page from the first one on shows every row once.
-/
namespace ListQuery

open Sql Number

/-- The window that the last two arguments of a statement ask for. -/
def Sql.Statement.window? (s : Statement) : Option Window :=
  match s.arguments.reverse with
  | .int offset :: .int limit :: _ => some ⟨limit, offset⟩
  | _ => none

/-- The rows in a window, by their places in a list of so many rows. -/
def Sql.Window.rows (w : Window) (total : Int) : Finset Nat :=
  (Finset.range total.toNat).filter fun i => w.offset ≤ i ∧ i < w.offset + w.limit

namespace Page

theorem offset_nonneg (p : Page) : 0 ≤ p.offset := by
  have number_pos := p.number_pos
  have size_pos := p.size_pos
  exact Int.mul_nonneg (by omega) (by omega)

theorem mem_rows_iff (p : Page) {total : Int} {i : Nat} : i ∈ p.window.rows total ↔
    p.offset ≤ i ∧ i < p.offset + p.size ∧ i < total := by
  rw [Window.rows, Finset.mem_filter, Finset.mem_range, window]
  dsimp only
  omega

theorem card_rows (p : Page) (total : Int) :
    ((p.window.rows total).card : Int) = max 0 (min p.size (total - p.offset)) := by
  have front := p.offset_nonneg
  have size_pos := p.size_pos
  have interval : p.window.rows total =
      Finset.Ico p.offset.toNat (min (p.offset + p.size) total).toNat := by
    ext i
    rw [mem_rows_iff, Finset.mem_Ico]
    omega
  rw [interval, Nat.card_Ico]
  omega

section
variable (p : Page) {total : Int} (nonneg : 0 ≤ total) (bound : total ≤ 2 ^ 53)
include nonneg bound

/-- The pages in front of the last one are those with rows behind them. -/
theorem exists_pageCount : ∃ count, p.pageCount total = .ok count ∧
    ∀ n, 1 ≤ n → (n < count ↔ n * p.size < total) := by
  have size_pos := p.size_pos
  obtain ⟨size, size_eq⟩ : ∃ size : Nat, p.size = size := Int.eq_ofNat_of_zero_le (by omega)
  obtain ⟨rows, rfl⟩ : ∃ rows : Nat, total = rows := Int.eq_ofNat_of_zero_le nonneg
  by_cases empty : (rows : Int) ≤ 0
  · refine ⟨0, by rw [pageCount, if_pos empty], fun n n_pos => ?_⟩
    have := Int.mul_pos n_pos size_pos
    omega
  · have some_size : 0 < size := by omega
    have few : rows ≤ twoTo 53 := by exact_mod_cast bound
    obtain ⟨count, rounded, below⟩ := Binary64.exists_ceil_quotient some_size few
    refine ⟨count, ?_, fun n n_pos => ?_⟩
    · rw [pageCount, if_neg empty, size_eq, Int.toNat_natCast, Int.toNat_natCast, rounded]
    · obtain ⟨m, rfl⟩ : ∃ m : Nat, n = m := Int.eq_ofNat_of_zero_le (by omega)
      have same := below m (by omega)
      rw [size_eq]
      exact_mod_cast same

/-- What is said about a page. -/
theorem exists_pageMeta : ∃ m, p.pageMeta total = .ok m ∧ m.page = p.number ∧
    m.count = (p.window.rows total).card ∧
    m.previousPage = (if 1 < p.number then some (p.number - 1) else none) ∧
    m.nextPage = if p.number * p.size < total then some (p.number + 1) else none := by
  obtain ⟨count, counted, below⟩ := p.exists_pageCount nonneg bound
  refine ⟨_, by rw [pageMeta, counted]; rfl, rfl, (p.card_rows total).symm, rfl, ?_⟩
  simp only [below p.number p.number_pos]

end

end Page

/-- A page that was looked at: what is said about it, and the window that its statement asks for. -/
structure PageVisit where
  details : PageMeta
  window : Window

namespace ListRequest

variable {r : ListRequest} {s : Statement} {total : Int}

/-- The same list at another page. -/
def onPage (r : ListRequest) (page : Int) : ListRequest :=
  { r with options := { r.options with page } }

theorem size_onPage (r : ListRequest) (page : Int) : (r.onPage page).page.size = r.page.size := rfl

theorem number_onPage {page : Int} (pos : 1 ≤ page) : (r.onPage page).page.number = page :=
  if_pos pos

/-- The arguments for the rows are those of the count, and then the window. -/
theorem exists_count_of_rows (built : r.rowsStatement = .ok s) :
    ∃ count, r.countStatement = .ok count ∧
      s.arguments = count.arguments ++ [.int r.page.size, .int r.page.offset] := by
  obtain ⟨selected, made, rfl⟩ := map_eq_ok_iff.mp built
  obtain ⟨source, criteria, terms, tables, found, _, rfl⟩ := rows_eq_ok_iff.mp made
  let counted : Select := ⟨.count, source, criteria, [], none⟩
  have counts : r.count = .ok counted :=
    matching_eq_ok_iff.mpr ⟨source, criteria, tables, found, rfl⟩
  refine ⟨counted.statement, map_eq_ok_iff.mpr ⟨counted, counts, rfl⟩, ?_⟩
  rw [Select.arguments_statement, Select.arguments_statement, List.append_assoc]
  rfl

theorem window?_of_rows (built : r.rowsStatement = .ok s) : s.window? = some r.page.window := by
  obtain ⟨count, _, arguments⟩ := exists_count_of_rows built
  rw [Statement.window?, arguments, List.reverse_append]
  rfl

/-- Every page of a list has a statement if one of them has. -/
theorem exists_rows_onPage (built : r.rowsStatement = .ok s) (page : Int) :
    ∃ t, (r.onPage page).rowsStatement = .ok t := by
  obtain ⟨selected, made, _⟩ := map_eq_ok_iff.mp built
  obtain ⟨source, criteria, terms, tables, found, ordered, _⟩ := rows_eq_ok_iff.mp made
  have again : (r.onPage page).rows = .ok _ :=
    rows_eq_ok_iff.mpr ⟨source, criteria, terms, tables, found, ordered, rfl⟩
  exact ⟨_, map_eq_ok_iff.mpr ⟨_, again, rfl⟩⟩

/-- What a page of a list shows, when so many rows pass. -/
structure Shows (r : ListRequest) (total page : Int) (v : PageVisit) : Prop where
  window : ∃ t, (r.onPage page).rowsStatement = .ok t ∧ t.window? = some v.window
  details : (r.onPage page).page.pageMeta total = .ok v.details

/-- The pages that are seen from a page on, going to the next page as long as there is one. -/
inductive Browses (r : ListRequest) (total : Int) : Int → List PageVisit → Prop
  | last {page : Int} {v : PageVisit} (shown : r.Shows total page v)
      (ends : v.details.nextPage = none) : Browses r total page [v]
  | next {page next : Int} {v : PageVisit} {rest : List PageVisit} (shown : r.Shows total page v)
      (leads : v.details.nextPage = some next) (later : Browses r total next rest) :
      Browses r total page (v :: rest)

theorem Shows.unique {page : Int} {v w : PageVisit} (first : r.Shows total page v)
    (second : r.Shows total page w) : v = w := by
  obtain ⟨⟨t, built, asked⟩, said⟩ := first
  obtain ⟨⟨u, again, asks⟩, tells⟩ := second
  rw [built] at again
  cases again
  rw [asked] at asks
  rw [said] at tells
  cases v
  cases w
  cases asks
  cases tells
  rfl

/-- There is one way through the pages. -/
theorem Browses.unique {page : Int} {visits others : List PageVisit}
    (one : r.Browses total page visits) (other : r.Browses total page others) :
    visits = others := by
  induction one generalizing others with
  | last shown ends =>
    cases other with
    | last again => rw [shown.unique again]
    | next again leads =>
      rw [shown.unique again, leads] at ends
      cases ends
  | next shown leads _ ih =>
    cases other with
    | last again ends =>
      rw [shown.unique again, ends] at leads
      cases leads
    | next again goes later =>
      rw [shown.unique again, goes] at leads
      cases leads
      rw [shown.unique again, ih later]

theorem Browses.limit_eq {page : Int} {visits : List PageVisit}
    (seen : r.Browses total page visits) : ∀ v ∈ visits, v.window.limit = r.page.size := by
  have limit {page : Int} {v : PageVisit} (shown : r.Shows total page v) :
      v.window.limit = r.page.size := by
    obtain ⟨t, built, asked⟩ := shown.window
    rw [window?_of_rows built] at asked
    rw [← Option.some.inj asked]
    rfl
  induction seen with
  | last shown _ => exact List.forall_mem_singleton.mpr (limit shown)
  | next shown _ _ ih => exact List.forall_mem_cons.mpr ⟨limit shown, ih⟩

/-- Visits that show the rows from a place on, each of them once, and that lead back to a page. -/
structure ShowRows (total start : Int) (before : Option Int) (visits : List PageVisit) : Prop where
  apart : visits.Pairwise fun v w => Disjoint (v.window.rows total) (w.window.rows total)
  complete : ∀ i : Nat, (∃ v ∈ visits, i ∈ v.window.rows total) ↔ start ≤ i ∧ i < total
  counts : ∀ v ∈ visits, v.details.count = (v.window.rows total).card
  back : visits.map (·.details.previousPage) =
    (before :: visits.map (some ·.details.page)).dropLast

section
variable (built : r.rowsStatement = .ok s) (nonneg : 0 ≤ total) (bound : total ≤ 2 ^ 53)
include built nonneg bound

theorem exists_visit {page : Int} (pos : 1 ≤ page) : ∃ v, r.Shows total page v ∧
    v.window = (r.onPage page).page.window ∧ v.details.page = page ∧
    v.details.count = (v.window.rows total).card ∧
    v.details.previousPage = (if 1 < page then some (page - 1) else none) ∧
    v.details.nextPage = if page * r.page.size < total then some (page + 1) else none := by
  obtain ⟨t, asks⟩ := exists_rows_onPage built page
  obtain ⟨details, told, number, count, previous, next⟩ :=
    (r.onPage page).page.exists_pageMeta nonneg bound
  rw [number_onPage pos] at number previous next
  exact ⟨⟨details, (r.onPage page).page.window⟩, ⟨⟨t, asks, window?_of_rows asks⟩, told⟩, rfl,
    number, count, previous, next⟩

/-- From a page on, going to the next page shows the rows from that page on. -/
theorem exists_browse (page : Int) (pos : 1 ≤ page) : ∃ visits, r.Browses total page visits ∧
    ShowRows total ((page - 1) * r.page.size) (if 1 < page then some (page - 1) else none)
      visits := by
  obtain ⟨v, shown, window, number, count, previous, next⟩ :=
    exists_visit built nonneg bound pos
  have size_pos := r.page.size_pos
  have width : (page + 1) * r.page.size = page * r.page.size + r.page.size := by ring
  have behind : (page - 1) * r.page.size + r.page.size = page * r.page.size := by ring
  have here (i : Nat) : i ∈ v.window.rows total ↔
      (page - 1) * r.page.size ≤ i ∧ i < page * r.page.size ∧ i < total := by
    rw [window, Page.mem_rows_iff, Page.offset, number_onPage pos, size_onPage, behind]
  -- the rows behind the page get fewer with each page
  by_cases more : page * r.page.size < total
  · obtain ⟨rest, later, shows⟩ := exists_browse (page + 1) (by omega)
    rw [if_pos more] at next
    rw [Int.add_sub_cancel, if_pos (by omega)] at shows
    refine ⟨v :: rest, .next shown next later, ⟨?_, ?_, ?_, ?_⟩⟩
    · refine List.pairwise_cons.mpr ⟨fun w member => Finset.disjoint_left.mpr ?_, shows.apart⟩
      intro i mine other
      have later_row := (shows.complete i).mp ⟨w, member, other⟩
      have row := (here i).mp mine
      omega
    · intro i
      rw [List.exists_mem_cons_iff, here, shows.complete]
      omega
    · exact List.forall_mem_cons.mpr ⟨count, shows.counts⟩
    · rw [List.map_cons, List.map_cons, shows.back, previous, number]
      rfl
  · rw [if_neg more] at next
    refine ⟨[v], .last shown next, ⟨List.pairwise_singleton _ v, ?_, ?_, ?_⟩⟩
    · intro i
      rw [List.exists_mem_cons_iff, here]
      simp
      omega
    · exact List.forall_mem_singleton.mpr count
    · rw [List.map_singleton, previous]
      rfl
termination_by (total - page * r.page.size).toNat
decreasing_by omega

/-- Going from the first page to the next one as long as there is one ends, and every row is shown
once on the way: the windows that the statements ask for do not overlap and leave no row out, a page
says how many rows its window has, and it leads back to the page that was seen before it. -/
theorem pages_show_every_row_once : ∃ visits, r.Browses total 1 visits ∧
    (∀ others, r.Browses total 1 others → others = visits) ∧
    (∀ v ∈ visits, v.window.limit = atLeastOne 10 r.options.limit) ∧
    ShowRows total 0 none visits := by
  obtain ⟨visits, seen, shows⟩ := exists_browse built nonneg bound 1 (by decide)
  rw [Int.sub_self, Int.zero_mul, if_neg (by decide)] at shows
  exact ⟨visits, seen, fun _ other => other.unique seen, seen.limit_eq, shows⟩

end

theorem pages_show_every_row_once_for_three :
    let r : ListRequest := ⟨"activities", { Options.default with limit := 3 }, []⟩
    (∃ s, r.rowsStatement = .ok s) ∧ (0 : Int) ≤ 2 ^ 53 ∧ (2 : Int) ^ 53 ≤ 2 ^ 53 ∧
      ∃ visits, r.Browses (2 ^ 53) 1 visits ∧
        (∀ others, r.Browses (2 ^ 53) 1 others → others = visits) ∧
        (∀ v ∈ visits, v.window.limit = atLeastOne 10 r.options.limit) ∧
        ShowRows (2 ^ 53) 0 none visits := by
  intro r
  obtain ⟨s, built⟩ : ∃ s, r.rowsStatement = .ok s := by unfold r; exact ⟨_, rfl⟩
  have nonneg : (0 : Int) ≤ 2 ^ 53 := by decide
  exact ⟨⟨s, built⟩, nonneg, le_rfl, pages_show_every_row_once built nonneg le_rfl⟩

end ListRequest

end ListQuery
