import ListQuery.Proofs.Listing.Buildable
import ListQuery.Proofs.Listing.ReadBack
import ListQuery.Proofs.Query.Mirror
/-!
Lists without their plain filter. In a description that comes from a request every entry of the
filter is an equality condition too, so leaving the filter out changes neither whether the
statements can be written nor which rows they pass.
-/
namespace ListQuery

open Sql Column

def Options.withoutFilter (o : Options) : Options := { o with filter := .empty }

def ListRequest.withoutFilter (r : ListRequest) : ListRequest :=
  { r with options := r.options.withoutFilter }

/-- Two statements for a list, under what becomes of stray marks, whose texts are true of the same
rows. Where such marks are refused or closed, both can be read. -/
structure ListRequest.SameRows (strays : StrayMarks) (r : ListRequest) (projection : Projection)
    (st less : Statement) : Prop where
  same : ∀ {Cell : Type} (tests : CellTests Cell) (row : Row Cell) {t v : Truth},
    r.whereTruth? tests row projection st = some t →
      r.whereTruth? tests row projection less = some v → (t = .yes ↔ v = .yes)
  readable : r.MarksResolved strays → ∀ {Cell : Type} (tests : CellTests Cell) (row : Row Cell),
    ∃ t v, r.whereTruth? tests row projection st = some t ∧
      r.whereTruth? tests row projection less = some v

section
variable {Cell : Type} (tests : CellTests Cell) (row : Row Cell) {o : Options}

/-- An equality condition asks for what an entry of the filter asks for. -/
theorem Condition.holds_equality_iff {column : String} {v : Value} :
    (⟨column, Operator.eq.name, v⟩ : Condition).Holds tests row ↔
      v.Accepts tests .eq (row (resolve column)) := by
  have known : Operator.ofName? Operator.eq.name = some .eq := rfl
  simp [Holds, known]

theorem Options.holds_withoutFilter_iff (mirrored : o.IsMirrored) :
    o.withoutFilter.Holds tests row ↔ o.Holds tests row := by
  constructor
  · intro holds
    refine ⟨holds.conditions, fun e member => ?_, holds.filterOr, holds.search⟩
    exact (Condition.holds_equality_iff tests row).mp (holds.conditions _ (mirrored e member))
  · intro holds
    exact ⟨holds.conditions, nofun, holds.filterOr, holds.search⟩

end

/-- Without the filter there are fewer criteria to write. -/
theorem Options.exists_criteria_withoutFilter {o : Options} {cs : List Criterion}
    (found : o.criteria = .ok cs) : ∃ fewer, o.withoutFilter.criteria = .ok fewer := by
  obtain ⟨conditions, _, filterOr, search⟩ := exists_criteria_iff.mp ⟨cs, found⟩
  exact exists_criteria_iff.mpr ⟨conditions, ⟨[], rfl⟩, filterOr, search⟩

namespace ListRequest

variable {r : ListRequest} {strays : StrayMarks} {projection : Projection} {st less : Statement}

/-- Without the filter a statement is still selected, and it differs in nothing but its criteria. -/
theorem exists_select_withoutFilter {s : Select} :
    (r.rows = .ok s → ∃ cs, r.withoutFilter.rows = .ok { s with criteria := cs }) ∧
      (r.count = .ok s → ∃ cs, r.withoutFilter.count = .ok { s with criteria := cs }) := by
  constructor
  · intro rows
    obtain ⟨source, criteria, terms, tables, found, ordered, rfl⟩ := rows_eq_ok_iff.mp rows
    obtain ⟨fewer, without⟩ := Options.exists_criteria_withoutFilter found
    exact ⟨fewer, rows_eq_ok_iff.mpr ⟨source, fewer, terms, tables, without, ordered, rfl⟩⟩
  · intro count
    obtain ⟨source, criteria, tables, found, rfl⟩ := matching_eq_ok_iff.mp count
    obtain ⟨fewer, without⟩ := Options.exists_criteria_withoutFilter found
    exact ⟨fewer, matching_eq_ok_iff.mpr ⟨source, fewer, tables, without, rfl⟩⟩

theorem builds_withoutFilter (marks : strays = .kept ∨ ∀ j ∈ r.joins, Unmarked j.condition.toList)
    (built : r.Builds strays projection st) :
    ∃ less, r.withoutFilter.Builds strays projection less := by
  cases built with
  | rows built =>
    obtain ⟨s, rows, _⟩ := bind_eq_ok_iff.mp built
    obtain ⟨cs, fewer⟩ := exists_select_withoutFilter.1 rows
    have made : r.withoutFilter.rowsStatement =
        .ok (Select.statement { s with criteria := cs }) := by
      rw [rowsStatement, fewer]
      rfl
    exact ⟨_, .rows ((rowsUnder_eq_rowsStatement (r := r.withoutFilter) marks).trans made)⟩
  | count built =>
    obtain ⟨s, count, _⟩ := bind_eq_ok_iff.mp built
    obtain ⟨cs, fewer⟩ := exists_select_withoutFilter.2 count
    have made : r.withoutFilter.countStatement =
        .ok (Select.statement { s with criteria := cs }) := by
      rw [countStatement, fewer]
      rfl
    exact ⟨_, .count ((countUnder_eq_countStatement (r := r.withoutFilter) marks).trans made)⟩

/-- The statements of a mirrored description, with its filter and without it. -/
theorem sameRows_withoutFilter (mirrored : r.options.IsMirrored)
    (built : r.Builds strays projection st)
    (fewer : r.withoutFilter.Builds strays projection less) :
    r.SameRows strays projection st less where
  same tests row t v read again := by
    rw [where_iff tests row built read, ← Options.holds_withoutFilter_iff tests row mirrored]
    exact (where_iff tests row fewer again).symm
  readable resolved Cell tests row := by
    obtain ⟨t, read⟩ := exists_where tests row built resolved
    obtain ⟨v, again⟩ := exists_where tests row fewer resolved
    exact ⟨t, v, read, again⟩

/-- Of a description that was read from parameters the filter can be left out: both statements are
still written, and their texts are true of the same rows as before. Where stray marks are refused,
this takes joins without marks, since a mark may name an argument of the filter. -/
theorem filter_adds_nothing {params : List (String × String)} {o : Options}
    (parsed : Options.ofParams params = .ok o) (table : String) (joins : List Join)
    (marks : strays = .kept ∨ ∀ j ∈ joins, Unmarked j.condition.toList)
    (built : (mk table o joins).Builds strays projection st) :
    ∃ less, (mk table o.withoutFilter joins).Builds strays projection less ∧
      (mk table o joins).SameRows strays projection st less := by
  obtain ⟨less, fewer⟩ := builds_withoutFilter marks built
  exact ⟨less, fewer, sameRows_withoutFilter (Options.isMirrored_ofParams parsed) built fewer⟩

theorem filter_adds_nothing_for_two_owners :
    ∃ o, Options.ofParams [("filter[user_id]", "1"), ("filter[user_id][eq]", "[]"),
        ("filter[kind][ne]", "null"), ("filterOr[kind]", "run"), ("search[title]", "10%")] = .ok o ∧
      o.filter.keys = ["user_id"] ∧
      let joins : List Join := [⟨"users", "users.id = %(param_1)s", none⟩]
      ∃ st, (mk "activities" o joins).Builds .kept .count st ∧
        ∃ less, (mk "activities" o.withoutFilter joins).Builds .kept .count less ∧
          (mk "activities" o joins).SameRows .kept .count st less := by
  obtain ⟨o, parsed, keys, st, built⟩ : ∃ o, Options.ofParams [("filter[user_id]", "1"),
      ("filter[user_id][eq]", "[]"), ("filter[kind][ne]", "null"), ("filterOr[kind]", "run"),
      ("search[title]", "10%")] = .ok o ∧ o.filter.keys = ["user_id"] ∧
      ∃ st, (mk "activities" o [⟨"users", "users.id = %(param_1)s", none⟩]).countUnder .kept =
        .ok st := ⟨_, rfl, by decide, _, rfl⟩
  have fewer := filter_adds_nothing parsed _ _ (.inl rfl) (.count built)
  exact ⟨o, parsed, keys, st, .count built, fewer⟩

example :
    let r : ListRequest := ⟨"activities", Options.default.addCondition ⟨"user_id", "eq", .int 5⟩,
      [⟨"users", "users.id = %(param_4)s", none⟩]⟩
    (r.rowsUnder .refused).isOk = true ∧
      r.withoutFilter.rowsUnder .refused = .error (.strayMark "param_4") := by
  decide +kernel

end ListRequest

end ListQuery
