import ListQuery.Proofs.Sql.Layout
/-!
The arguments of conditions. They stand in the pieces of a clause in the order of its criteria; what
is left out of a clause because it always or never holds has none. The same goes for whatever else
the predicates of a clause have.
-/
namespace ListQuery.Sql

def Predicate.arguments : Predicate → List Scalar
  | .always | .never | .isNull _ | .isNotNull _ => []
  | .compare _ _ v => [v]
  | .oneOf _ items | .noneOf _ items => items
  | .matching _ pattern => [.text pattern]

def Criterion.arguments : Criterion → List Scalar
  | .single p => p.arguments
  | .anyOf members => members.flatMap Predicate.arguments

theorem flatMap_filter_of_nil {α β : Type} {f : α → List β} {keep : α → Bool} {items : List α}
    (dropped : ∀ a ∈ items, keep a = false → f a = []) :
    (items.filter keep).flatMap f = items.flatMap f := by
  induction items with
  | nil => rfl
  | cons a rest ih =>
    rw [List.forall_mem_cons] at dropped
    rw [List.flatMap_cons, ← ih dropped.2]
    cases kept : keep a with
    | true => rw [List.filter_cons_of_pos kept, List.flatMap_cons]
    | false => rw [List.filter_cons_of_neg (by simp [kept]), dropped.1 kept, List.nil_append]

/-- What is picked from groups with nothing to pick between neighbours is picked from the groups. -/
theorem filterMap_intercalate {α β : Type} {f : α → Option β} {separator : List α}
    (nothing : separator.filterMap f = []) (groups : List (List α)) :
    (separator.intercalate groups).filterMap f = groups.flatMap (List.filterMap f) := by
  induction groups with
  | nil => rfl
  | cons first rest ih =>
    cases rest with
    | nil => rw [List.intercalate_singleton, List.flatMap_singleton]
    | cons second more =>
      rw [List.intercalate_cons_cons, List.filterMap_append, List.filterMap_append, ih, nothing,
        List.append_nil]
      rfl

theorem argumentsOf_separated (separator : String) (groups : List (List Piece)) :
    argumentsOf (separated separator groups) = groups.flatMap argumentsOf :=
  filterMap_intercalate rfl groups

theorem argumentsOf_argumentList (items : List Scalar) :
    argumentsOf (argumentList items) = items := by
  rw [argumentList, argumentsOf_separated, List.flatMap_map]
  exact List.flatMap_singleton' items

theorem Predicate.argumentsOf_pieces (p : Predicate) : argumentsOf p.pieces = p.arguments := by
  cases p with
  | always | never | compare _ _ _ | isNull _ | isNotNull _ | matching _ _ => rfl
  | oneOf column items | noneOf column items =>
    rw [pieces, argumentsOf_append]
    change argumentsOf (argumentList items) ++ [] = items
    rw [argumentsOf_argumentList, List.append_nil]

namespace Criterion

theorem argumentsOf_pieces (c : Criterion) (alone : Bool) :
    argumentsOf (c.pieces alone) = c.arguments := by
  cases c with
  | single p => exact p.argumentsOf_pieces
  | anyOf members =>
    have choice : argumentsOf (separated " OR " (members.map Predicate.pieces)) =
        members.flatMap Predicate.arguments := by
      rw [argumentsOf_separated, List.flatMap_map]
      simp only [Predicate.argumentsOf_pieces]
    cases alone with
    | true => exact choice
    | false =>
      change argumentsOf (separated " OR " (members.map Predicate.pieces) ++ [.text ")"]) = _
      rw [argumentsOf_append, choice]
      exact List.append_nil _

/-- What the predicates of a criterion have, in order. -/
def gather {α : Type} (f : Predicate → List α) : Criterion → List α
  | .single p => f p
  | .anyOf members => members.flatMap f

theorem arguments_eq_gather : arguments = gather Predicate.arguments := by
  funext c
  cases c <;> rfl

section
variable {α : Type} {f : Predicate → List α}

theorem gather_possible (never : f .never = []) (members : List Predicate) :
    (possible members).flatMap f = members.flatMap f := by
  have kept : (members.filter (· ≠ .never)).flatMap f = members.flatMap f := by
    apply flatMap_filter_of_nil
    intro p _ left_out
    have equal : p = .never := by simpa using left_out
    rw [equal, never]
  rw [possible]
  split
  · next none_left =>
    rw [none_left] at kept
    rw [← kept, List.flatMap_singleton, never, List.flatMap_nil]
  · exact kept

theorem gather_reduced (never : f .never = []) (c : Criterion) :
    c.reduced.gather f = c.gather f := by
  cases c with
  | single p => rfl
  | anyOf members =>
    have same := gather_possible never members
    rw [reduced]
    split
    · next p only =>
      rw [only, List.flatMap_singleton] at same
      exact same
    · exact same

theorem gather_simplify (always : f .always = []) {criteria : List Criterion}
    (may_hold : .single .never ∉ criteria) :
    (simplify criteria).flatMap (gather f) = criteria.flatMap (gather f) := by
  have kept : (criteria.filter (· ≠ .single .always)).flatMap (gather f) =
      criteria.flatMap (gather f) := by
    apply flatMap_filter_of_nil
    intro c _ left_out
    have equal : c = .single .always := by simpa using left_out
    rw [equal, gather, always]
  rw [simplify, if_neg (by simpa using may_hold)]
  split
  · next none_left =>
    rw [none_left] at kept
    rw [← kept]
    split
    · rfl
    · rw [List.flatMap_singleton, gather, always, List.flatMap_nil]
  · exact kept

/-- What predicates that always or never hold have none of, the criteria that are written have as
all criteria do. -/
theorem gather_written (never : f .never = []) (always : f .always = [])
    {criteria : List Criterion} (may_hold : .single .never ∉ criteria) :
    (written criteria).flatMap (gather f) = criteria.flatMap (gather f) := by
  rw [written, List.flatMap_map]
  simp only [gather_reduced never]
  exact gather_simplify always may_hold

end

end Criterion

theorem argumentsOf_conjunctionPieces (criteria : List Criterion) :
    argumentsOf (conjunctionPieces criteria) = criteria.flatMap Criterion.arguments := by
  match criteria with
  | [] => rfl
  | [c] =>
    rw [List.flatMap_singleton]
    exact c.argumentsOf_pieces true
  | c :: d :: rest =>
    change argumentsOf (separated " AND " _) = _
    rw [argumentsOf_separated, List.flatMap_map]
    simp only [Criterion.argumentsOf_pieces]

/-- The arguments of a clause that may hold, in the order of its criteria. -/
theorem argumentsOf_wherePieces {criteria : List Criterion}
    (may_hold : .single .never ∉ criteria) :
    argumentsOf (wherePieces criteria) = criteria.flatMap Criterion.arguments := by
  rw [wherePieces, argumentsOf_conjunctionPieces, Criterion.arguments_eq_gather,
    Criterion.gather_written rfl rfl may_hold]

/-- A clause that cannot hold is written as such and nothing else. -/
theorem wherePieces_of_never {criteria : List Criterion} (never : .single .never ∈ criteria) :
    wherePieces criteria = [.text " \nWHERE ", .text "false"] := by
  rw [wherePieces, Criterion.written, Criterion.simplify,
    if_pos (List.contains_iff_mem.mpr never)]
  rfl

/-- The text of a statement whose clause cannot hold: the first number is left to the window. -/
theorem Select.text_of_never {s : Select} (formed : s.WellFormed)
    (plain : ∀ j ∈ s.source.joins, Unmarked j.condition.toList)
    (never : .single .never ∈ s.criteria) :
    s.statement.text = "SELECT " ++ s.projection.text ++ s.source.text ++ " \nWHERE false" ++
      String.ofList (numberedChars 1 (orderPieces s.order ++ windowPieces s.window)) := by
  have clause := wherePieces_of_never never
  have body : s.bodyText = s.source.text ++ " \nWHERE false" := by
    rw [bodyText, clause]
    rfl
  have number : s.nextNumber = 1 := by
    rw [nextNumber, clause]
    rfl
  rw [text_eq_body formed plain, body, number]
  simp only [String.append_assoc]

end ListQuery.Sql
