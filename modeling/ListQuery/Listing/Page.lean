import ListQuery.Number.Binary64
import ListQuery.Query.Options
import ListQuery.Sql.Select
/-!
Pages of a list: the window of rows that a page shows, and what is said about a page beside its
rows. The number of pages is the quotient of rows and page size as a double, rounded up.
-/
namespace ListQuery

open Number

/-- A page number and a page size, both at least one. -/
structure Page where
  number : Int
  size : Int
  number_pos : 1 ≤ number
  size_pos : 1 ≤ size
  deriving DecidableEq, Repr

structure PageMeta where
  page : Int
  limit : Int
  /-- Rows on this page. -/
  count : Int
  previousPage : Option Int
  nextPage : Option Int
  pageCount : Int
  totalRecords : Int
  deriving DecidableEq, Repr

/-- The number of pages does not fit into a double. -/
inductive PageFault where
  | quotientTooLarge
  deriving DecidableEq, Repr

def PageFault.message : PageFault → String
  | .quotientTooLarge => "integer division result too large for a float"

def atLeastOne (fallback n : Int) : Int := if 1 ≤ n then n else fallback

theorem one_le_atLeastOne {fallback : Int} (h : 1 ≤ fallback) (n : Int) :
    1 ≤ atLeastOne fallback n := by
  unfold atLeastOne
  split <;> assumption

namespace Page

/-- The page asked for, with the defaults in place of numbers below one. -/
def of (number size : Int) : Page where
  number := atLeastOne defaultPage number
  size := atLeastOne defaultLimit size
  number_pos := one_le_atLeastOne (by decide) number
  size_pos := one_le_atLeastOne (by decide) size

/-- Rows in front of the page. -/
def offset (p : Page) : Int := (p.number - 1) * p.size

def window (p : Page) : Sql.Window := ⟨p.size, p.offset⟩

/-- The number of pages of a list. -/
def pageCount (p : Page) (total : Int) : Except PageFault Int :=
  if total ≤ 0 then .ok 0
  else
    match (Binary64.quotient? total.toNat p.size.toNat).bind Binary64.ceil? with
    | some n => .ok n
    | none => .error .quotientTooLarge

def pageMeta (p : Page) (total : Int) : Except PageFault PageMeta := do
  let pageCount ← p.pageCount total
  .ok {
    page := p.number
    limit := p.size
    count := max 0 (min p.size (total - p.offset))
    previousPage := if 1 < p.number then some (p.number - 1) else none
    nextPage := if p.number < pageCount then some (p.number + 1) else none
    pageCount
    totalRecords := total }

end Page

end ListQuery
