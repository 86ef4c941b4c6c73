import ListQuery.Listing.Page
import ListQuery.Proofs.Number.Ceiling
import ListQuery.Proofs.Steps
import Mathlib.Data.Rat.Floor
/-!
How many pages a list has. The number of pages is computed with doubles, and so is whether there is
a next page; both are right for the numbers of rows whose quotient by the page size is rounded up as
if it were exact.
-/
namespace ListQuery

open Number

theorem Number.ceilDiv_eq_ceil {num den : Nat} (pos : 0 < den) :
    (ceilDiv num den : Int) = ⌈(num : ℚ) / den⌉ := by
  have den_pos : (0 : ℚ) < den := by exact_mod_cast pos
  refine eq_of_forall_lt_iff fun z => ?_
  rw [Int.lt_ceil, lt_div_iff₀ den_pos]
  rcases lt_or_ge z 0 with negative | nonneg
  · have below : (z : ℚ) * den < 0 :=
      mul_neg_of_neg_of_pos (by exact_mod_cast negative) den_pos
    exact iff_of_true (negative.trans_le (Int.natCast_nonneg _))
      (below.trans_le (Nat.cast_nonneg num))
  · obtain ⟨k, rfl⟩ := Int.eq_ofNat_of_zero_le nonneg
    have whole : k < ceilDiv num den ↔ k * den < num := lt_ceilDiv_iff pos
    exact_mod_cast whole

/-- What is said about a page is exact: the number of pages is that of the pages that the rows fill,
the last of them possibly in part, and there is a next page where rows are left behind this one. -/
structure PageMeta.IsExact (m : PageMeta) (page limit total : Int) : Prop where
  pageCount : m.pageCount = ⌈(total : ℚ) / limit⌉
  nextPage : m.nextPage = if max page 1 * limit < total then some (max page 1 + 1) else none

namespace Page

theorem number_of (page limit : Int) : (of page limit).number = max page 1 := by
  change atLeastOne 1 page = max page 1
  rw [atLeastOne]
  omega

theorem size_of {limit : Int} (page : Int) (pos : 1 ≤ limit) : (of page limit).size = limit :=
  if_pos pos

/-- There are more pages than a number exactly when as many pages do not hold all rows. -/
theorem lt_ceil_iff {limit total n : Int} (pos : 1 ≤ limit) :
    n < ⌈(total : ℚ) / limit⌉ ↔ n * limit < total := by
  have limit_pos : (0 : ℚ) < limit := by exact_mod_cast pos
  rw [Int.lt_ceil, lt_div_iff₀ limit_pos]
  exact_mod_cast Iff.rfl

theorem pageCount_of_pageMeta {p : Page} {total : Int} {m : PageMeta}
    (told : p.pageMeta total = .ok m) : p.pageCount total = .ok m.pageCount ∧
      m.nextPage = if p.number < m.pageCount then some (p.number + 1) else none := by
  obtain ⟨count, counted, same⟩ := bind_eq_ok_iff.mp told
  cases same
  exact ⟨counted, rfl⟩

theorem exists_pageMeta_iff {p : Page} {total : Int} :
    (∃ m, p.pageMeta total = .ok m) ↔ ∃ count, p.pageCount total = .ok count :=
  ⟨fun ⟨_, told⟩ => ⟨_, (pageCount_of_pageMeta told).1⟩,
    fun ⟨_, counted⟩ => ⟨_, bind_eq_ok_iff.mpr ⟨_, counted, rfl⟩⟩⟩

theorem pageCount_eq_ok_iff {p : Page} {size rows : Nat} (sized : p.size = size) {count : Int} :
    p.pageCount rows = .ok count ↔
      (Binary64.quotient? rows size).bind Binary64.ceil? = some count := by
  have pos : 0 < size := by
    have := p.size_pos
    omega
  rw [pageCount, sized, Int.toNat_natCast, Int.toNat_natCast]
  split
  · next empty =>
    have none_there : rows = 0 := by omega
    have zero := (Binary64.ceil_quotient_iff_keepsCeiling pos).mpr .zero
    have no_page : ceilDiv 0 size = 0 := Nat.div_eq_of_lt (by omega)
    rw [none_there, zero, no_page]
    simp
  · cases (Binary64.quotient? rows size).bind Binary64.ceil? <;> simp

/-- Only a quotient that is too large has no ceiling. -/
theorem exists_pageCount_iff {p : Page} {size rows : Nat} (sized : p.size = size) :
    (∃ count, p.pageCount rows = .ok count) ↔ rows < Binary64.overflowRatio * size := by
  have pos : 0 < size := by
    have := p.size_pos
    omega
  simp only [pageCount_eq_ok_iff sized]
  rw [← Binary64.roundUnits_lt_overflow_iff pos, Binary64.quotient?, Binary64.ofRatio]
  split
  · next fits => exact iff_of_true ⟨_, rfl⟩ fits
  · next large => exact iff_of_false (by simp [Binary64.finite?]) large

/-- What is said about a page is exact for the numbers of rows whose quotient by the limit keeps its
ceiling, and for no others; something is said where the quotient is not too large for a double. -/
theorem page_count_exact_iff {page limit total : Int} (limit_pos : 1 ≤ limit)
    (nonneg : 0 ≤ total) :
    ((∃ m, (of page limit).pageMeta total = .ok m ∧ m.IsExact page limit total) ↔
      Binary64.KeepsCeiling limit.toNat total.toNat) ∧
    ((∃ m, (of page limit).pageMeta total = .ok m) ↔
      total < Binary64.overflowRatio * limit) := by
  have sized := size_of page limit_pos
  obtain ⟨size, rfl⟩ : ∃ size : Nat, limit = size := Int.eq_ofNat_of_zero_le (by omega)
  obtain ⟨rows, rfl⟩ : ∃ rows : Nat, total = rows := Int.eq_ofNat_of_zero_le nonneg
  have size_pos : 0 < size := by omega
  have ceiling : (ceilDiv rows size : Int) = ⌈((rows : Int) : ℚ) / ((size : Int) : ℚ)⌉ := by
    rw [Int.cast_natCast, Int.cast_natCast, ceilDiv_eq_ceil size_pos]
  have kept : (Binary64.quotient? rows size).bind Binary64.ceil? =
      some (ceilDiv rows size : Int) ↔ Binary64.KeepsCeiling size rows :=
    Binary64.ceil_quotient_iff_keepsCeiling size_pos
  rw [← pageCount_eq_ok_iff sized, ceiling] at kept
  rw [Int.toNat_natCast, Int.toNat_natCast, ← kept]
  refine ⟨⟨?_, fun counted => ?_⟩, ?_⟩
  · rintro ⟨m, told, exact_count⟩
    rw [← exact_count.pageCount]
    exact (pageCount_of_pageMeta told).1
  · refine ⟨_, bind_eq_ok_iff.mpr ⟨_, counted, rfl⟩, rfl, ?_⟩
    simp only [number_of, lt_ceil_iff limit_pos]
  · rw [exists_pageMeta_iff, exists_pageCount_iff sized]
    exact_mod_cast Iff.rfl

/-- One row more than there are whole numbers up to `2^53`, ten to a page. -/
theorem page_count_exact_iff_for_tens : (1 : Int) ≤ 10 ∧ (0 : Int) ≤ 2 ^ 53 + 1 ∧
    ∃ m, (of 2 10).pageMeta (2 ^ 53 + 1) = .ok m ∧ m.IsExact 2 10 (2 ^ 53 + 1) := by
  have limit_pos : (1 : Int) ≤ 10 := by decide
  have nonneg : (0 : Int) ≤ 2 ^ 53 + 1 := by decide
  have keeps : Binary64.KeepsCeiling 10 (900719925474099 * 10 + 3) :=
    .clear (by decide) (by decide) (by decide) (by decide +kernel)
  exact ⟨limit_pos, nonneg, (page_count_exact_iff limit_pos nonneg).1.mpr keeps⟩

/-- With one row on each page the last of `2^53 + 1` pages is not counted, and no page leads to
it. -/
theorem last_page_not_counted : ¬∃ m, (of (2 ^ 53) 1).pageMeta (2 ^ 53 + 1) = .ok m ∧
    m.IsExact (2 ^ 53) 1 (2 ^ 53 + 1) := by
  rintro ⟨m, told, exact_count⟩
  have count : (of (2 ^ 53) 1).pageCount (2 ^ 53 + 1) = .ok (2 ^ 53) := by decide +kernel
  obtain ⟨counted, next⟩ := pageCount_of_pageMeta told
  rw [count, Except.ok.injEq] at counted
  rw [exact_count.nextPage, ← counted] at next
  exact absurd next (by decide)

end Page

end ListQuery
