import ListQuery.Proofs.Listing.Written
import ListQuery.Proofs.Sql.Relation
/-!
The relation a list selects from. The columns of a list are selected under the bare name of its
table, which FROM may introduce as a quoted name. The two part where the bare name is folded, taken
apart or not read at all.
-/
namespace ListQuery

open Sql Column

namespace ListRequest

/-- Without joins the columns that are selected are those of the relation behind FROM exactly when
the name of the table is free: FROM quotes other names, and what is selected is never quoted. -/
theorem selects_introduced_iff (reserved : String → Bool) {r : ListRequest} {st : Statement}
    (single : r.joins = []) (built : r.rowsStatement = .ok st) :
    SelectsIntroduced reserved st.text ↔ IsFree reserved r.table := by
  obtain ⟨s, rows, rfl⟩ := map_eq_ok_iff.mp built
  have formed := wellFormed_of_built (.inl rows)
  obtain ⟨source, _, _, tables, _, _, rfl⟩ := rows_eq_ok_iff.mp rows
  obtain ⟨safe, main, joined⟩ := sourceOf_eq_ok_iff.mp tables
  rw [single] at joined
  have alone : source.joins = [] := (Except.ok.inj joined).symm
  have names := Select.writtenNames?_text formed rfl alone
  change writtenNames? _ = some (_, (quoteName source.table).toList) at names
  rw [main] at names
  rw [SelectsIntroduced, names, ← exists_relation?_iff safe]
  constructor
  · rintro ⟨_, _, relation, same, read, introduced⟩
    cases same
    exact ⟨relation, read, introduced⟩
  · rintro ⟨relation, read, introduced⟩
    exact ⟨_, _, relation, rfl, read, introduced⟩

/-- A table whose name is free. -/
theorem selects_introduced_iff_for_activities :
    let reserved := reservedWords.contains
    let r : ListRequest := ⟨"activities", Options.default, []⟩
    ∃ st, r.joins = [] ∧ r.rowsStatement = .ok st ∧ IsFree reserved r.table ∧
      SelectsIntroduced reserved st.text := by
  intro reserved r
  have small : folded r.table = r.table := by decide +kernel
  have free : IsFree reserved r.table :=
    ⟨folded_eq_self_iff.mp small, by decide +kernel, by decide +kernel⟩
  have built : r.rowsStatement = .ok ⟨"SELECT activities.* \nFROM activities " ++
      "ORDER BY created_at DESC \n LIMIT $1 OFFSET $2", [.int 10, .int 0]⟩ := by decide +kernel
  exact ⟨_, rfl, built, free, (selects_introduced_iff reserved rfl built).mpr free⟩

/-- A capital is kept behind FROM and folded where the columns are selected. -/
theorem capital_table_not_introduced :
    let r : ListRequest := ⟨"Activities", Options.default, []⟩
    let text := "SELECT Activities.* \nFROM \"Activities\" " ++
      "ORDER BY created_at DESC \n LIMIT $1 OFFSET $2"
    let reserved := reservedWords.contains
    r.rowsStatement = .ok ⟨text, [.int 10, .int 0]⟩ ∧
      relation? reserved "Activities".toList = some ["activities"] ∧
      relation? reserved "\"Activities\"".toList = some ["Activities"] ∧
      ¬SelectsIntroduced reserved text := by
  intro r text reserved
  have built : r.rowsStatement = .ok ⟨text, [.int 10, .int 0]⟩ := by decide +kernel
  have names : writtenNames? text = some ("Activities".toList, "\"Activities\"".toList) := by
    decide +kernel
  have selected : relation? reserved "Activities".toList = some ["activities"] := by decide +kernel
  have introduced : relation? reserved "\"Activities\"".toList = some ["Activities"] := by
    decide +kernel
  refine ⟨built, selected, introduced, ?_⟩
  rintro ⟨_, _, relation, named, read, same⟩
  rw [names] at named
  cases named
  have together := (selected.symm.trans read).trans (same.symm.trans introduced)
  exact absurd together (by decide)

end ListRequest

end ListQuery
