import ListQuery.Proofs.Sql.Evaluation
import ListQuery.Proofs.Sql.Layout
/-!
Statements read back from their text. Behind what is selected and the tables, the text of a
statement is read as its criteria, its order and its window. Only a mark that a condition of a join
opens and does not close can spoil this, and a compiler that refuses such marks leaves none.
-/
namespace ListQuery.Sql

namespace Statement

/-- The tokens behind a given front of a statement, in which the marks are numbered. -/
def tokensBehind? (st : Statement) (front : String) : Option (List Token) :=
  (st.text.toList.dropPrefix? (numberMarks st.arguments.length front.toList)).bind
    (tokens? st.arguments)

/-- What the text behind a given front says of a row, if it can be read. -/
def whereTruth? {Cell : Type} (tests : CellTests Cell) (row : Row Cell) (st : Statement)
    (front : String) : Option Truth :=
  (st.tokensBehind? front).bind (clauseValue? (Predicate.truth tests row))

end Statement

namespace Select

variable {s : Select} (formed : s.WellFormed)
include formed

/-- The text behind the tables is read as what is written there, or a mark runs over into it. -/
theorem tokensBehind?_statement :
    s.statement.tokensBehind? s.frontText = some s.tailTokens ∨
      s.statement.tokensBehind? s.frontText = none ∧ ¬MarksClosed s.frontText.toList ∧
        s.refusal? .refused ≠ none := by
  have blank := s.leadsBlank_tailPieces.beginsBlank_marked 1
  obtain ⟨behind, parts, cases⟩ :=
    followsApart_of_beginsBlank s.statement.arguments.length (s := s.frontText.toList) blank
  rw [← toList_text] at parts
  rw [Statement.tokensBehind?, parts, List.dropPrefix?_append_of_beq _ (beq_self_eq_true _)]
  rcases cases with rfl | ⟨percent, unclosed, stray⟩
  · have reads := reads_tail formed [] []
    rw [List.nil_append, List.append_nil, argumentsOf_tailPieces] at reads
    rw [(numberMarks_tailPieces formed).1]
    exact .inl reads
  · refine .inr ⟨?_, unclosed, ?_⟩
    · cases read : tokens? s.statement.arguments behind with
      | none => exact read
      | some tokens => exact absurd percent (Spells.percent_not_mem read)
    · rw [refusal?, markedChars_pieces]
      exact mt Option.map_eq_none_iff.mp stray

/-- What is read behind the tables says of a row what the criteria say. -/
theorem whereTruth?_statement {Cell : Type} (tests : CellTests Cell) (row : Row Cell) {t : Truth}
    (read : s.statement.whereTruth? tests row s.frontText = some t) :
    t = .yes ↔ ∀ c ∈ s.criteria, c.truth tests row = .yes := by
  rcases tokensBehind?_statement formed with tokens | ⟨unread, _⟩
  · have written := Criterion.wellFormed_written formed.criteria
    rw [Statement.whereTruth?, tokens, Option.bind_some, tailTokens,
      clauseValue?_clauseTokens (endsClause_tail _ _) written] at read
    rw [← Option.some.inj read]
    exact Criterion.all_written tests row
  · rw [Statement.whereTruth?, unread] at read
    cases read

/-- Where the conditions of joins close their marks, or stray marks are refused, the text behind the
tables can be read. -/
theorem tokensBehind?_of_resolved
    (resolved : s.refusal? .refused = none ∨
      ∀ j ∈ s.source.joins, MarksClosed j.condition.toList) :
    s.statement.tokensBehind? s.frontText = some s.tailTokens := by
  rcases tokensBehind?_statement formed with tokens | ⟨_, unclosed, stray⟩
  · exact tokens
  · rcases resolved with passed | closed
    · exact absurd passed stray
    · exact absurd (marksClosed_frontText formed closed) unclosed

theorem exists_whereTruth? {Cell : Type} (tests : CellTests Cell) (row : Row Cell)
    (resolved : s.refusal? .refused = none ∨
      ∀ j ∈ s.source.joins, MarksClosed j.condition.toList) :
    ∃ t, s.statement.whereTruth? tests row s.frontText = some t := by
  have written := Criterion.wellFormed_written formed.criteria
  rw [Statement.whereTruth?, tokensBehind?_of_resolved formed resolved, Option.bind_some,
    tailTokens, clauseValue?_clauseTokens (endsClause_tail _ _) written]
  exact ⟨_, rfl⟩

/-- No mark is stray where the conditions of joins have none. -/
theorem refusal?_of_unmarked (plain : ∀ j ∈ s.source.joins, Unmarked j.condition.toList)
    (strays : StrayMarks) : s.refusal? strays = none := by
  cases strays with
  | kept => rfl
  | refused =>
    have unmarked := (unmarked_frontText formed plain).append_take s.head?_tailPieces
    rw [refusal?, StrayMarks.refusal?, markedChars_pieces, strayMark?_append unmarked,
      (numberMarks_tailPieces formed).2]
    rfl

end Select

end ListQuery.Sql
