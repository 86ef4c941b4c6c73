import ListQuery.Proofs.Listing.Written
/-!
The count of a list counts the rows of all its pages. Behind what they select both statements have
the same text, up to the order and the window of the rows, and the arguments of the window come
last.
-/
namespace ListQuery.ListRequest

open Sql

/-- Where the rows have a statement, the count has one for the same rows: it ends where the order
begins, and it has all arguments but those of the window. -/
theorem count_reads_same_rows {table : String} {o : Options} {joins : List Join} {rows : Statement}
    (plain : ∀ j ∈ joins, Unmarked j.condition.toList)
    (built : (mk table o joins).rowsStatement = .ok rows) :
    ∃ count body terms, (mk table o joins).countStatement = .ok count ∧
      orderTerms table defaultOrderColumn o.order (!joins.isEmpty) = .ok terms ∧ terms ≠ [] ∧
      count.text = "SELECT count(*) AS count_1" ++ body ∧
      rows.text = "SELECT " ++ table ++ ".*" ++ body ++ orderText terms ++
        windowText (count.arguments.length + 1) ∧
      rows.arguments = count.arguments ++
        [.int (Page.of o.page o.limit).size, .int (Page.of o.page o.limit).offset] := by
  obtain ⟨selected, made, rfl⟩ := map_eq_ok_iff.mp built
  have formed := wellFormed_of_built (.inl made)
  obtain ⟨source, criteria, terms, tables, found, ordered, rfl⟩ := rows_eq_ok_iff.mp made
  let counted : Select := ⟨.count, source, criteria, [], none⟩
  have counts : (mk table o joins).count = .ok counted :=
    matching_eq_ok_iff.mpr ⟨source, criteria, tables, found, rfl⟩
  have unmarked : ∀ t ∈ source.joins, Unmarked t.condition.toList :=
    forall_condition_of_sourceOf (P := fun text => Unmarked text.toList) tables plain
  have ordering := (isSafe_orderTerms ordered).1
  have arguments : counted.statement.arguments = argumentsOf (wherePieces criteria) := by
    rw [Select.arguments_statement]
    exact List.append_nil _
  refine ⟨counted.statement, counted.bodyText, terms, map_eq_ok_iff.mpr ⟨_, counts, rfl⟩, ordered,
    ordering, ?_, ?_, ?_⟩
  · rw [Select.text_eq_body (wellFormed_of_built (.inr counts)) unmarked]
    exact String.append_empty
  · have projection : "SELECT " ++ table ++ ".*" = "SELECT " ++ (Projection.allOf table).text :=
      String.append_assoc
    rw [Select.text_eq_body formed unmarked, ofList_numberedChars_window ordering, arguments,
      ← String.append_assoc, projection]
    rfl
  · rw [Select.arguments_statement, arguments]
    rfl

theorem count_reads_same_rows_for_shared_activities :
    let shared : Join := ⟨"shares s", "s.activity_id = activities.id AND s.note LIKE '50%'", none⟩
    let o : Options := { Options.default with
      page := 3
      filterOr := .ofList [("s.user_id", .int 7), ("user_id", .texts ["7", "8"])]
      search := .ofList [("title", .text "run")] }
    (∀ j ∈ [shared], Unmarked j.condition.toList) ∧
      ∃ rows, (mk "activities" o [shared]).rowsStatement = .ok rows ∧
        ∃ count body terms, (mk "activities" o [shared]).countStatement = .ok count ∧
          orderTerms "activities" defaultOrderColumn o.order (!List.isEmpty [shared]) = .ok terms ∧
          terms ≠ [] ∧
          count.text = "SELECT count(*) AS count_1" ++ body ∧
          rows.text = "SELECT " ++ "activities" ++ ".*" ++ body ++ orderText terms ++
            windowText (count.arguments.length + 1) ∧
          rows.arguments = count.arguments ++
            [.int (Page.of o.page o.limit).size, .int (Page.of o.page o.limit).offset] := by
  intro shared o
  have plain : ∀ j ∈ [shared], Unmarked j.condition.toList :=
    List.forall_mem_singleton.mpr (by unfold Unmarked; decide +kernel)
  obtain ⟨rows, built⟩ : ∃ rows, (mk "activities" o [shared]).rowsStatement = .ok rows := by
    unfold o shared
    exact ⟨_, rfl⟩
  exact ⟨plain, rows, built, count_reads_same_rows plain built⟩

end ListQuery.ListRequest
