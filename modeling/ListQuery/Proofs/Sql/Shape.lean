import ListQuery.Proofs.Sql.Numbering
import Mathlib.Data.List.Forall2
/-!
Statements of one shape. They differ in nothing but the values of their arguments, and then they
have the same text: an argument is written as its number, and a criterion is left out for what it
is and never for what it compares with.
-/
namespace ListQuery.Sql

/-- Pieces that differ at most in the value of the argument. -/
inductive Piece.Like : Piece → Piece → Prop
  | text (s : String) : Like (.text s) (.text s)
  | argument (v w : Scalar) : Like (.argument v) (.argument w)

/-- Statements with the same text and the same number of arguments. -/
structure Statement.SameText (s t : Statement) : Prop where
  text : s.text = t.text
  arguments : s.arguments.length = t.arguments.length

section
variable {ps qs : List Piece} (like : List.Forall₂ Piece.Like ps qs)
include like

theorem markedChars_eq_of_like (number : Nat) : markedChars number ps = markedChars number qs := by
  induction like generalizing number with
  | nil => rfl
  | cons piece _ ih =>
    cases piece with
    | text s => rw [markedChars, markedChars, ih]
    | argument v w => rw [markedChars, markedChars, ih]

theorem length_argumentsOf_eq_of_like : (argumentsOf ps).length = (argumentsOf qs).length := by
  induction like with
  | nil => rfl
  | cons piece _ ih =>
    cases piece with
    | text s => exact ih
    | argument v w => exact congrArg Nat.succ ih

theorem Statement.sameText_ofPieces : (ofPieces ps).SameText (ofPieces qs) := by
  have number : (argumentsOf ps).length = (argumentsOf qs).length :=
    length_argumentsOf_eq_of_like like
  refine ⟨?_, number⟩
  change String.ofList (numberMarks (argumentsOf ps).length (markedChars 1 ps)) =
    String.ofList (numberMarks (argumentsOf qs).length (markedChars 1 qs))
  rw [number, markedChars_eq_of_like like]

end

theorem forall₂_of_length_eq {α β : Type} {R : α → β → Prop} {as : List α} {bs : List β}
    (same : as.length = bs.length) (all : ∀ a b, R a b) : List.Forall₂ R as bs :=
  List.forall₂_of_length_eq_of_get same fun _ _ _ => all _ _

theorem isEmpty_eq_of_forall₂ {α β : Type} {R : α → β → Prop} {as : List α} {bs : List β}
    (h : List.Forall₂ R as bs) : as.isEmpty = bs.isEmpty := by cases h <;> rfl

theorem forall₂_text (s : String) : List.Forall₂ Piece.Like [.text s] [.text s] :=
  .cons (.text s) .nil

theorem forall₂_separated (separator : String) {ps qs : List (List Piece)}
    (groups : List.Forall₂ (List.Forall₂ Piece.Like) ps qs) :
    List.Forall₂ Piece.Like (separated separator ps) (separated separator qs) := by
  induction groups with
  | nil => exact .nil
  | cons first others ih =>
    cases others with
    | nil =>
      rw [separated, separated, List.intercalate_singleton, List.intercalate_singleton]
      exact first
    | cons second more =>
      rw [separated, separated, List.intercalate_cons_cons, List.intercalate_cons_cons]
      exact List.rel_append (List.rel_append first (forall₂_text separator)) ih

theorem forall₂_argumentList {items others : List Scalar} (same : items.length = others.length) :
    List.Forall₂ Piece.Like (argumentList items) (argumentList others) := by
  refine forall₂_separated ", " (List.rel_map (R := fun _ _ => True) (fun v w _ => ?_)
    (forall₂_of_length_eq same fun _ _ => trivial))
  exact .cons (.argument v w) .nil

/-- Predicates of the same kind on the same column, with as many items to choose from. -/
inductive Predicate.Like : Predicate → Predicate → Prop
  | always : Like .always .always
  | never : Like .never .never
  | compare (column : String) (op : Operator) (v w : Scalar) :
    Like (.compare column op v) (.compare column op w)
  | isNull (column : String) : Like (.isNull column) (.isNull column)
  | isNotNull (column : String) : Like (.isNotNull column) (.isNotNull column)
  | oneOf (column : String) {items others : List Scalar} (same : items.length = others.length) :
    Like (.oneOf column items) (.oneOf column others)
  | noneOf (column : String) {items others : List Scalar} (same : items.length = others.length) :
    Like (.noneOf column items) (.noneOf column others)
  | matching (column pattern other : String) :
    Like (.matching column pattern) (.matching column other)

inductive Criterion.Like : Criterion → Criterion → Prop
  | single {p q : Predicate} (like : p.Like q) : Like (.single p) (.single q)
  | anyOf {ps qs : List Predicate} (like : List.Forall₂ Predicate.Like ps qs) :
    Like (.anyOf ps) (.anyOf qs)

namespace Predicate

theorem Like.refl (p : Predicate) : p.Like p := by
  cases p with
  | always => exact .always
  | never => exact .never
  | compare column op v => exact .compare column op v v
  | isNull column => exact .isNull column
  | isNotNull column => exact .isNotNull column
  | oneOf column items => exact .oneOf column rfl
  | noneOf column items => exact .noneOf column rfl
  | matching column pattern => exact .matching column pattern pattern

theorem like_within (column : String) {items others : List Scalar}
    (same : items.length = others.length) :
    (within column items).Like (within column others) := by
  cases items with
  | nil =>
    rw [List.length_eq_zero_iff.mp same.symm]
    exact .never
  | cons v rest =>
    cases others with
    | nil => cases same
    | cons w more => exact .oneOf column same

theorem like_without (column : String) {items others : List Scalar}
    (same : items.length = others.length) :
    (without column items).Like (without column others) := by
  cases items with
  | nil =>
    rw [List.length_eq_zero_iff.mp same.symm]
    exact .always
  | cons v rest =>
    cases others with
    | nil => cases same
    | cons w more => exact .noneOf column same

variable {p q : Predicate} (like : p.Like q)
include like

theorem Like.never_iff : p = .never ↔ q = .never := by cases like <;> simp

theorem Like.always_iff : p = .always ↔ q = .always := by cases like <;> simp

theorem Like.pieces : List.Forall₂ Piece.Like p.pieces q.pieces := by
  cases like with
  | always | never | isNull column | isNotNull column => exact forall₂_text _
  | compare column op v w => exact .cons (.text _) (.cons (.argument v w) .nil)
  | oneOf column same | noneOf column same =>
    exact .cons (.text _) (List.rel_append (forall₂_argumentList same) (forall₂_text _))
  | matching column pattern other => exact .cons (.text _) (.cons (.argument _ _) .nil)

end Predicate

namespace Criterion

theorem forall₂_possible {ps qs : List Predicate} (like : List.Forall₂ Predicate.Like ps qs) :
    List.Forall₂ Predicate.Like (possible ps) (possible qs) := by
  have kept : List.Forall₂ Predicate.Like (ps.filter (· ≠ .never)) (qs.filter (· ≠ .never)) :=
    List.rel_filter (fun p q alike => by simp [alike.never_iff]) like
  rw [possible, possible]
  revert kept
  cases ps.filter (· ≠ .never) with
  | nil =>
    intro kept
    rw [List.forall₂_nil_left_iff.mp kept]
    exact .cons .never .nil
  | cons p rest =>
    intro kept
    obtain ⟨q, more, _, _, same⟩ := List.forall₂_cons_left_iff.mp kept
    rw [same] at kept ⊢
    exact kept

variable {c d : Criterion} {cs ds : List Criterion}

theorem Like.reduced (like : c.Like d) : c.reduced.Like d.reduced := by
  cases like with
  | single like => exact .single like
  | anyOf members =>
    rw [Criterion.reduced, Criterion.reduced]
    have kept := forall₂_possible members
    revert kept
    generalize possible _ = ps
    generalize possible _ = qs
    intro kept
    -- one member stands alone on both sides, or on neither
    cases kept with
    | nil => exact .anyOf .nil
    | cons first others =>
      cases others with
      | nil => exact .single first
      | cons second more => exact .anyOf (.cons first (.cons second more))

theorem Like.never_iff (like : c.Like d) : c = .single .never ↔ d = .single .never := by
  cases like with
  | single like => simp [like.never_iff]
  | anyOf members => simp

theorem Like.always_iff (like : c.Like d) : c = .single .always ↔ d = .single .always := by
  cases like with
  | single like => simp [like.always_iff]
  | anyOf members => simp

theorem mem_never_iff (like : List.Forall₂ Like cs ds) :
    .single .never ∈ cs ↔ .single .never ∈ ds := by
  induction like with
  | nil => rfl
  | cons first _ ih =>
    rw [List.mem_cons, List.mem_cons, ih, eq_comm, first.never_iff, eq_comm]

theorem forall₂_simplify (like : List.Forall₂ Like cs ds) :
    List.Forall₂ Like (simplify cs) (simplify ds) := by
  have kept : List.Forall₂ Like (cs.filter (· ≠ .single .always))
      (ds.filter (· ≠ .single .always)) :=
    List.rel_filter (fun c d alike => by simp [alike.always_iff]) like
  have contained : cs.contains (.single .never) = ds.contains (.single .never) := by
    rw [Bool.eq_iff_iff, List.contains_iff_mem, List.contains_iff_mem]
    exact mem_never_iff like
  rw [simplify, simplify, contained, isEmpty_eq_of_forall₂ like]
  split
  · exact .cons (.single .never) .nil
  · revert kept
    cases cs.filter (· ≠ .single .always) with
    | nil =>
      intro kept
      rw [List.forall₂_nil_left_iff.mp kept]
      cases ds.isEmpty with
      | true => exact .nil
      | false => exact .cons (.single .always) .nil
    | cons c rest =>
      intro kept
      obtain ⟨d, more, _, _, same⟩ := List.forall₂_cons_left_iff.mp kept
      rw [same] at kept ⊢
      exact kept

theorem forall₂_written (like : List.Forall₂ Like cs ds) :
    List.Forall₂ Like (written cs) (written ds) :=
  List.rel_map (fun _ _ alike => alike.reduced) (forall₂_simplify like)

theorem Like.pieces (like : c.Like d) (alone : Bool) :
    List.Forall₂ Piece.Like (c.pieces alone) (d.pieces alone) := by
  cases like with
  | single like => exact like.pieces
  | anyOf members =>
    have choice := forall₂_separated " OR " (List.rel_map (fun _ _ alike => alike.pieces) members)
    rw [Criterion.pieces, Criterion.pieces]
    cases alone with
    | true => exact choice
    | false => exact .cons (.text _) (List.rel_append choice (forall₂_text _))

theorem forall₂_conjunctionPieces (like : List.Forall₂ Like cs ds) :
    List.Forall₂ Piece.Like (conjunctionPieces cs) (conjunctionPieces ds) := by
  cases like with
  | nil => exact .nil
  | cons first others =>
    cases others with
    | nil => exact .cons (.text _) (first.pieces true)
    | cons second more =>
      exact .cons (.text _) (forall₂_separated " AND "
        (List.rel_map (fun _ _ alike => alike.pieces false) (.cons first (.cons second more))))

end Criterion

/-- Statements that differ at most in the values of their arguments. -/
structure Select.Like (s t : Select) : Prop where
  projection : s.projection = t.projection
  source : s.source = t.source
  criteria : List.Forall₂ Criterion.Like s.criteria t.criteria
  order : s.order = t.order
  window : s.window.isSome = t.window.isSome

theorem forall₂_windowPieces {w v : Option Window} (same : w.isSome = v.isSome) :
    List.Forall₂ Piece.Like (windowPieces w) (windowPieces v) := by
  cases w with
  | none =>
    cases v with
    | none => exact .nil
    | some _ => cases same
  | some _ =>
    cases v with
    | none => cases same
    | some _ =>
      exact .cons (.text _) (.cons (.argument _ _) (.cons (.text _) (.cons (.argument _ _) .nil)))

/-- Statements of one shape have the same text. -/
theorem Select.Like.sameText {s t : Select} (like : s.Like t) :
    s.statement.SameText t.statement := by
  refine Statement.sameText_ofPieces ?_
  have written := Criterion.forall₂_conjunctionPieces (Criterion.forall₂_written like.criteria)
  have texts {ps : List Piece} (plain : ∀ p ∈ ps, ∃ s, p = .text s) :
      List.Forall₂ Piece.Like ps ps :=
    List.forall₂_same.mpr fun p member => by
      obtain ⟨s, rfl⟩ := plain p member
      exact .text s
  rw [pieces, pieces, bodyPieces, bodyPieces, like.projection, like.source, like.order]
  refine List.rel_append (List.rel_append (.cons (.text _) (.cons (.text _) written))
    (texts fun p member => ?_)) (forall₂_windowPieces like.window)
  rw [orderPieces] at member
  split at member
  · cases member
  · exact ⟨_, List.mem_singleton.mp member⟩

end ListQuery.Sql
