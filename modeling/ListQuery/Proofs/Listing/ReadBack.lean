import ListQuery.Proofs.Listing.Written
import ListQuery.Proofs.Sql.ReadBack
/-!
The statements of lists as a database reads them. Behind the tables of the list the text of either
statement holds a condition, or none where every row passes, and the rows that it is true of are
those that the description asks for. The conditions of joins are raw text and may hold marks; what
is read does not depend on what becomes of those that name no argument.
-/
namespace ListQuery

open Sql

theorem Sql.Select.compiled_eq_ok_iff {strays : StrayMarks} {s : Select} {st : Statement} :
    s.compiled strays = .ok st ↔ s.refusal? strays = none ∧ st = s.statement := by
  rw [compiled]
  cases s.refusal? strays with
  | none =>
    constructor
    · intro h
      exact ⟨rfl, (Except.ok.inj h).symm⟩
    · rintro ⟨_, rfl⟩
      rfl
  | some name => exact ⟨nofun, fun h => nomatch h.1⟩

namespace ListRequest

/-- The statements that are written for a list, each with what it selects. -/
inductive Builds (strays : StrayMarks) (r : ListRequest) : Projection → Statement → Prop
  | rows {st : Statement} : r.rowsUnder strays = .ok st → Builds strays r (.allOf r.table) st
  | count {st : Statement} : r.countUnder strays = .ok st → Builds strays r .count st

/-- What the text of a statement says of a row behind what is selected and the tables of a list. -/
def whereTruth? {Cell : Type} (tests : CellTests Cell) (row : Row Cell) (r : ListRequest)
    (projection : Projection) (st : Statement) : Option Truth :=
  match sourceOf r.table r.joins with
  | .ok source => st.whereTruth? tests row ("SELECT " ++ projection.text ++ source.text)
  | .error _ => none

/-- Stray marks are refused, or the condition of each join closes the marks that it opens. -/
def MarksResolved (strays : StrayMarks) (r : ListRequest) : Prop :=
  strays = .refused ∨ ∀ j ∈ r.joins, MarksClosed j.condition.toList

section
variable {r : ListRequest} {strays : StrayMarks} {projection : Projection} {st : Statement}

theorem Builds.exists_select (built : r.Builds strays projection st) :
    ∃ s, (r.rows = .ok s ∨ r.count = .ok s) ∧ s.projection = projection ∧
      s.refusal? strays = none ∧ st = s.statement := by
  cases built with
  | rows built =>
    obtain ⟨s, rows, made⟩ := bind_eq_ok_iff.mp built
    obtain ⟨_, _, _, _, _, _, rfl⟩ := rows_eq_ok_iff.mp rows
    exact ⟨_, .inl rows, rfl, Select.compiled_eq_ok_iff.mp made⟩
  | count built =>
    obtain ⟨s, count, made⟩ := bind_eq_ok_iff.mp built
    obtain ⟨_, _, _, _, rfl⟩ := matching_eq_ok_iff.mp count
    exact ⟨_, .inr count, rfl, Select.compiled_eq_ok_iff.mp made⟩

section
variable {s : Select} (selected : r.rows = .ok s ∨ r.count = .ok s)
include selected

theorem whereTruth?_of_selected {Cell : Type} (tests : CellTests Cell) (row : Row Cell) :
    r.whereTruth? tests row s.projection s.statement =
      s.statement.whereTruth? tests row s.frontText := by
  rw [whereTruth?, source_of_built selected]
  rfl

theorem marksClosed_of_selected (closed : ∀ j ∈ r.joins, MarksClosed j.condition.toList) :
    ∀ t ∈ s.source.joins, MarksClosed t.condition.toList :=
  forall_condition_of_sourceOf (P := fun text => MarksClosed text.toList)
    (source_of_built selected) closed

theorem compiled_eq_statement
    (marks : strays = .kept ∨ ∀ j ∈ r.joins, Unmarked j.condition.toList) :
    s.compiled strays = .ok s.statement := by
  rcases marks with rfl | plain
  · rfl
  · have conditions := forall_condition_of_sourceOf (P := fun text => Unmarked text.toList)
      (source_of_built selected) plain
    have passed := Select.refusal?_of_unmarked (wellFormed_of_built selected) conditions strays
    exact Select.compiled_eq_ok_iff.mpr ⟨passed, rfl⟩

end

section
variable (marks : strays = .kept ∨ ∀ j ∈ r.joins, Unmarked j.condition.toList)
include marks

/-- Where stray marks are kept, or the conditions of joins have no marks, no statement is refused
for a mark. -/
theorem rowsUnder_eq_rowsStatement : r.rowsUnder strays = r.rowsStatement := by
  rw [rowsUnder, rowsStatement]
  cases selected : r.rows with
  | error fault => rfl
  | ok s => exact compiled_eq_statement (.inl selected) marks

theorem countUnder_eq_countStatement : r.countUnder strays = r.countStatement := by
  rw [countUnder, countStatement]
  cases selected : r.count with
  | error fault => rfl
  | ok s => exact compiled_eq_statement (.inr selected) marks

end

section
variable {Cell : Type} (tests : CellTests Cell) (row : Row Cell)
  (built : r.Builds strays projection st)
include built

theorem where_iff {t : Truth} (read : r.whereTruth? tests row projection st = some t) :
    t = .yes ↔ r.options.Holds tests row := by
  obtain ⟨s, selected, rfl, _, rfl⟩ := built.exists_select
  obtain ⟨_, meaning⟩ := Options.criteria_meaning tests row (criteria_of_built selected)
  rw [whereTruth?_of_selected selected] at read
  exact (Select.whereTruth?_statement (wellFormed_of_built selected) tests row read).trans meaning

theorem exists_where (resolved : r.MarksResolved strays) :
    ∃ t, r.whereTruth? tests row projection st = some t := by
  obtain ⟨s, selected, rfl, passed, rfl⟩ := built.exists_select
  rw [whereTruth?_of_selected selected]
  refine Select.exists_whereTruth? (wellFormed_of_built selected) tests row ?_
  rcases resolved with rfl | closed
  · exact .inl passed
  · exact .inr (marksClosed_of_selected selected closed)

end

end

end ListRequest

end ListQuery
