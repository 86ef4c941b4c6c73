import ListQuery.Proofs.Listing.Meaning
import ListQuery.Proofs.Listing.Parts
import ListQuery.Proofs.Sql.Layout
/-!
The statements of lists have safe names only. So nothing a description says can bring another
character into them than the few that statements are made of.
-/
namespace ListQuery

open Sql Column

section
variable {table : String} {joins : List Join} {source : Source}
  (h : sourceOf table joins = .ok source)
include h

theorem wellFormed_sourceOf : source.WellFormed := by
  obtain ⟨safe, main, joined⟩ := sourceOf_eq_ok_iff.mp h
  refine ⟨main ▸ safe, forall_mem_of_mapM joined fun j _ t made => ?_⟩
  obtain ⟨name, _, named, given, rfl⟩ := Join.joinedTable_eq_ok_iff.mp made
  exact ⟨named, given⟩

/-- The conditions in a statement are those of the joins. -/
theorem forall_condition_of_sourceOf {P : String → Prop} (each : ∀ j ∈ joins, P j.condition) :
    ∀ t ∈ source.joins, P t.condition := by
  obtain ⟨_, _, joined⟩ := sourceOf_eq_ok_iff.mp h
  refine forall_mem_of_mapM joined fun j member t made => ?_
  obtain ⟨name, _, _, _, rfl⟩ := Join.joinedTable_eq_ok_iff.mp made
  exact each j member

end

theorem isSafe_orderTerm {table column : String} {hasJoins descending : Bool} {t : OrderTerm}
    (h : orderTerm table column hasJoins descending = .ok t) : IsSafe t.column := by
  obtain ⟨name, named, rfl⟩ := map_eq_ok_iff.mp h
  obtain ⟨rfl, safe⟩ := safeName_eq_ok_iff.mp named
  exact safe

/-- There is always an order, by columns with safe names. -/
theorem isSafe_orderTerms {table fallback : String} {order : List OrderClause} {hasJoins : Bool}
    {terms : List OrderTerm} (h : orderTerms table fallback order hasJoins = .ok terms) :
    terms ≠ [] ∧ ∀ t ∈ terms, IsSafe t.column := by
  rw [orderTerms] at h
  split at h
  · obtain ⟨t, made, rfl⟩ := map_eq_ok_iff.mp h
    exact ⟨List.cons_ne_nil t [], List.forall_mem_singleton.mpr (isSafe_orderTerm made)⟩
  · next some_clause =>
    constructor
    · rintro rfl
      have length := (mapM_eq_ok_iff.mp h).length_eq
      exact some_clause (List.isEmpty_iff.mpr (List.length_eq_zero_iff.mp length))
    · exact forall_mem_of_mapM h fun _ _ t made => isSafe_orderTerm made

theorem Options.wellFormed_criteria {o : Options} {cs : List Criterion} (h : o.criteria = .ok cs) :
    ∀ c ∈ cs, c.WellFormed := by
  let tests : CellTests Unit := ⟨fun _ _ _ => false, fun _ _ => false⟩
  exact (criteria_meaning tests (fun _ => none) h).1

namespace ListRequest

variable {r : ListRequest} {s : Select}

/-- Whichever statement is built, all names in it are safe. -/
theorem wellFormed_of_built (built : r.rows = .ok s ∨ r.count = .ok s) : s.WellFormed := by
  have source := wellFormed_sourceOf (source_of_built built)
  have criteria := Options.wellFormed_criteria (criteria_of_built built)
  rcases built with rows | count
  · obtain ⟨_, _, terms, tables, _, ordered, rfl⟩ := rows_eq_ok_iff.mp rows
    exact ⟨(sourceOf_eq_ok_iff.mp tables).1, source, criteria, (isSafe_orderTerms ordered).2⟩
  · obtain ⟨_, _, _, _, rfl⟩ := matching_eq_ok_iff.mp count
    exact ⟨trivial, source, criteria, fun _ member => absurd member List.not_mem_nil⟩

theorem readsPlainly_of_built {table : String} {o : Options}
    (built : (mk table o []).rows = .ok s ∨ (mk table o []).count = .ok s) :
    ReadsPlainly table s.statement.text := by
  obtain ⟨_, main, joined⟩ := sourceOf_eq_ok_iff.mp (source_of_built built)
  have single : s.source.joins = [] := (Except.ok.inj joined).symm
  have reads := Select.readsPlainly_of_single (wellFormed_of_built built) single
  rw [main] at reads
  exact reads

/-- Without joins a statement has only a few characters, whatever the description says. -/
theorem text_has_statement_chars {table : String} {o : Options} {s : Statement}
    (built : (mk table o []).rowsStatement = .ok s ∨ (mk table o []).countStatement = .ok s) :
    ReadsPlainly table s.text ∧ ∀ c ∈ "';\\-/".toList, c ∉ s.text.toList := by
  have reads : ReadsPlainly table s.text := by
    rcases built with rows | count
    · obtain ⟨selection, made, rfl⟩ := map_eq_ok_iff.mp rows
      exact readsPlainly_of_built (.inl made)
    · obtain ⟨selection, made, rfl⟩ := map_eq_ok_iff.mp count
      exact readsPlainly_of_built (.inr made)
  have foreign : ("';\\-/".toList.all fun c => isStatementChar c == false && c != '"') = true := by
    decide
  refine ⟨reads, fun c member => ?_⟩
  obtain ⟨other, unquoted⟩ := Bool.and_eq_true_iff.mp (List.all_eq_true.mp foreign c member)
  exact reads.not_mem (beq_iff_eq.mp other) (bne_iff_ne.mp unquoted)

theorem text_has_statement_chars_for_hostile_values :
    let o : Options := { Options.default with
      filter := .ofList [("tags.name", .text "x'; DROP TABLE user; --"), ("kind", .list [])]
      conditions := [⟨"a.b.title", "ne", .texts ["/*", "*/"]⟩, ⟨"kind", "gte", .text "\\"⟩]
      search := .ofList [("body", .text "100%' --")]
      order := [⟨"a.b.c", "DESC; --"⟩] }
    ∃ s, (mk "user" o []).rowsStatement = .ok s ∧
      ReadsPlainly "user" s.text ∧ ∀ c ∈ "';\\-/".toList, c ∉ s.text.toList := by
  intro o
  obtain ⟨s, built⟩ : ∃ s, (mk "user" o []).rowsStatement = .ok s := by
    unfold o
    exact ⟨_, rfl⟩
  exact ⟨s, built, text_has_statement_chars (.inl built)⟩

end ListRequest

end ListQuery
