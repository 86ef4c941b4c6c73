import ListQuery.Sql.Predicate
/-!
Truth in SQL. A condition on a row is true, false or unknown, and a cell that holds null makes every
comparison with it unknown. A row passes where all criteria are true; leaving out the criteria and
the members of choices that cannot matter does not change which rows pass.
-/
namespace ListQuery.Sql

inductive Truth where
  | yes
  | no
  | unknown
  deriving DecidableEq, Repr

namespace Truth

def ofBool (b : Bool) : Truth := if b then yes else no

def opposite : Truth → Truth
  | yes => no
  | no => yes
  | unknown => unknown

def both : Truth → Truth → Truth
  | no, _ | _, no => no
  | yes, yes => yes
  | _, _ => unknown

def either : Truth → Truth → Truth
  | yes, _ | _, yes => yes
  | no, no => no
  | _, _ => unknown

def all (truths : List Truth) : Truth := truths.foldl both yes

def any (truths : List Truth) : Truth := truths.foldl either no

@[simp] theorem ofBool_eq_yes {b : Bool} : ofBool b = yes ↔ b = true := by cases b <;> decide

@[simp] theorem both_eq_yes {s t : Truth} : both s t = yes ↔ s = yes ∧ t = yes := by
  cases s <;> cases t <;> decide

@[simp] theorem either_eq_yes {s t : Truth} : either s t = yes ↔ s = yes ∨ t = yes := by
  cases s <;> cases t <;> decide

@[simp] theorem yes_both (t : Truth) : both yes t = t := by cases t <;> rfl

@[simp] theorem no_either (t : Truth) : either no t = t := by cases t <;> rfl

theorem foldl_both_eq_yes {start : Truth} {truths : List Truth} :
    truths.foldl both start = yes ↔ start = yes ∧ ∀ t ∈ truths, t = yes := by
  induction truths generalizing start with
  | nil => simp
  | cons t rest ih =>
    rw [List.foldl_cons, ih, both_eq_yes, List.forall_mem_cons, and_assoc]

theorem foldl_either_eq_yes {start : Truth} {truths : List Truth} :
    truths.foldl either start = yes ↔ start = yes ∨ ∃ t ∈ truths, t = yes := by
  induction truths generalizing start with
  | nil => simp
  | cons t rest ih =>
    rw [List.foldl_cons, ih, either_eq_yes, or_assoc]
    simp only [List.mem_cons, exists_eq_or_imp]

theorem all_eq_yes {truths : List Truth} : all truths = yes ↔ ∀ t ∈ truths, t = yes := by
  rw [all, foldl_both_eq_yes]
  exact and_iff_right rfl

theorem any_eq_yes {truths : List Truth} : any truths = yes ↔ ∃ t ∈ truths, t = yes := by
  rw [any, foldl_either_eq_yes]
  exact or_iff_right nofun

theorem either_eq_no {s t : Truth} : either s t = no ↔ s = no ∧ t = no := by
  cases s <;> cases t <;> decide

theorem opposite_eq_yes {t : Truth} : t.opposite = yes ↔ t = no := by cases t <;> decide

theorem foldl_either_eq_no {start : Truth} {truths : List Truth} :
    truths.foldl either start = no ↔ start = no ∧ ∀ t ∈ truths, t = no := by
  induction truths generalizing start with
  | nil => simp
  | cons t rest ih =>
    rw [List.foldl_cons, ih, either_eq_no, List.forall_mem_cons, and_assoc]

theorem any_eq_no {truths : List Truth} : any truths = no ↔ ∀ t ∈ truths, t = no := by
  rw [any, foldl_either_eq_no]
  exact and_iff_right rfl

/-- The truth of a test of a cell; a null cell leaves it open. -/
def ofCell {Cell : Type} (cell : Option Cell) (test : Cell → Bool) : Truth :=
  match cell with
  | some v => ofBool (test v)
  | none => unknown

theorem ofCell_eq_yes {Cell : Type} {cell : Option Cell} {test : Cell → Bool} :
    ofCell cell test = yes ↔ ∃ v, cell = some v ∧ test v = true := by
  cases cell <;> simp [ofCell]

theorem ofCell_eq_no {Cell : Type} {cell : Option Cell} {test : Cell → Bool} :
    ofCell cell test = no ↔ ∃ v, cell = some v ∧ test v = false := by
  cases cell with
  | none => simp [ofCell]
  | some v => cases h : test v <;> simp [ofCell, ofBool, h]

end Truth

/-- What a database can tell of a value in a cell: how it compares with an argument, and whether its
text matches a pattern without regard to case. -/
structure CellTests (Cell : Type) where
  compares : Operator → Cell → Scalar → Bool
  resembles : Cell → String → Bool

/-- The value of each column, or null. -/
abbrev Row (Cell : Type) := String → Option Cell

section
variable {Cell : Type} (tests : CellTests Cell) (row : Row Cell)

/-- Whether a cell equals one of several arguments. -/
def CellTests.amongst (cell : Option Cell) (items : List Scalar) : Truth :=
  .any (items.map fun item => .ofCell cell (tests.compares .eq · item))

def Predicate.truth : Predicate → Truth
  | .always => .yes
  | .never => .no
  | .compare column op v => .ofCell (row column) (tests.compares op · v)
  | .isNull column => .ofBool (row column).isNone
  | .isNotNull column => .ofBool (row column).isSome
  | .oneOf column items => tests.amongst (row column) items
  | .noneOf column items => (tests.amongst (row column) items).opposite
  | .matching column pattern => .ofCell (row column) (tests.resembles · pattern)

def Criterion.truth : Criterion → Truth
  | .single p => p.truth tests row
  | .anyOf members => .any (members.map (Predicate.truth tests row))

@[simp] theorem Predicate.truth_within (column : String) (items : List Scalar) :
    (within column items).truth tests row = tests.amongst (row column) items := by
  cases items <;> rfl

@[simp] theorem Predicate.truth_without (column : String) (items : List Scalar) :
    (without column items).truth tests row = (tests.amongst (row column) items).opposite := by
  cases items <;> rfl

theorem Criterion.truth_anyOf_eq_yes {members : List Predicate} :
    (anyOf members).truth tests row = .yes ↔ ∃ p ∈ members, p.truth tests row = .yes := by
  rw [truth, Truth.any_eq_yes]
  constructor
  · rintro ⟨t, member, holds⟩
    obtain ⟨p, inside, rfl⟩ := List.mem_map.mp member
    exact ⟨p, inside, holds⟩
  · rintro ⟨p, inside, holds⟩
    exact ⟨_, List.mem_map_of_mem inside, holds⟩

theorem CellTests.amongst_eq_yes {cell : Option Cell} {items : List Scalar} :
    tests.amongst cell items = .yes ↔
      ∃ x, cell = some x ∧ ∃ v ∈ items, tests.compares .eq x v = true := by
  rw [amongst, Truth.any_eq_yes]
  constructor
  · rintro ⟨t, member, holds⟩
    obtain ⟨v, inside, rfl⟩ := List.mem_map.mp member
    obtain ⟨x, value, equal⟩ := Truth.ofCell_eq_yes.mp holds
    exact ⟨x, value, v, inside, equal⟩
  · rintro ⟨x, value, v, inside, equal⟩
    exact ⟨_, List.mem_map_of_mem inside, Truth.ofCell_eq_yes.mpr ⟨x, value, equal⟩⟩

theorem CellTests.opposite_amongst_eq_yes {cell : Option Cell} {items : List Scalar} :
    (tests.amongst cell items).opposite = .yes ↔
      items = [] ∨ ∃ x, cell = some x ∧ ∀ v ∈ items, tests.compares .eq x v = false := by
  have excluded : (tests.amongst cell items).opposite = .yes ↔
      ∀ v ∈ items, ∃ x, cell = some x ∧ tests.compares .eq x v = false := by
    rw [Truth.opposite_eq_yes, amongst, Truth.any_eq_no, List.forall_mem_map]
    exact forall₂_congr fun v _ => Truth.ofCell_eq_no
  rw [excluded]
  cases items with
  | nil => simp
  | cons v rest =>
    constructor
    · intro h
      obtain ⟨x, value, _⟩ := h v List.mem_cons_self
      refine .inr ⟨x, value, fun w member => ?_⟩
      obtain ⟨y, same, different⟩ := h w member
      rw [value] at same
      cases same
      exact different
    · rintro (none_left | ⟨x, value, different⟩)
      · cases none_left
      · intro w member
        exact ⟨x, value, different w member⟩

namespace Criterion

theorem exists_mem_possible {members : List Predicate} :
    (∃ p ∈ possible members, p.truth tests row = .yes) ↔
      ∃ p ∈ members, p.truth tests row = .yes := by
  have kept : (∃ p ∈ members.filter (· ≠ .never), p.truth tests row = .yes) ↔
      ∃ p ∈ members, p.truth tests row = .yes := by
    constructor
    · rintro ⟨p, member, holds⟩
      exact ⟨p, (List.mem_filter.mp member).1, holds⟩
    · rintro ⟨p, member, holds⟩
      have real : p ≠ .never := by
        rintro rfl
        cases holds
      exact ⟨p, List.mem_filter.mpr ⟨member, decide_eq_true real⟩, holds⟩
  rw [possible, ← kept]
  split
  · next none_kept =>
    rw [none_kept]
    simp [Predicate.truth]
  · rfl

/-- A choice is no less and no more true without the members that cannot hold. -/
theorem truth_reduced (c : Criterion) : c.reduced.truth tests row = .yes ↔
    c.truth tests row = .yes := by
  cases c with
  | single p => rfl
  | anyOf members =>
    rw [truth_anyOf_eq_yes, ← exists_mem_possible tests row, reduced]
    split
    · next p only =>
      rw [only]
      simp [truth]
    · exact truth_anyOf_eq_yes tests row

theorem forall_mem_simplify {criteria : List Criterion} :
    (∀ c ∈ simplify criteria, c.truth tests row = .yes) ↔
      ∀ c ∈ criteria, c.truth tests row = .yes := by
  by_cases false_inside : criteria.contains (.single .never) = true
  · rw [simplify, if_pos false_inside]
    constructor
    · intro h
      cases h _ (List.mem_singleton_self _)
    · intro h
      cases h _ (List.mem_of_elem_eq_true false_inside)
  · have kept : (∀ c ∈ criteria.filter (· ≠ .single .always), c.truth tests row = .yes) ↔
        ∀ c ∈ criteria, c.truth tests row = .yes := by
      constructor
      · intro h c member
        by_cases trivial : c = .single .always
        · rw [trivial]
          rfl
        · exact h c (List.mem_filter.mpr ⟨member, decide_eq_true trivial⟩)
      · intro h c member
        exact h c (List.mem_filter.mp member).1
    rw [simplify, if_neg false_inside, ← kept]
    split
    · next none_kept =>
      rw [none_kept]
      split <;> simp [truth, Predicate.truth]
    · rfl

/-- The criteria that are written down let the same rows pass as all criteria. -/
theorem all_written {criteria : List Criterion} :
    Truth.all ((written criteria).map (truth tests row)) = .yes ↔
      ∀ c ∈ criteria, c.truth tests row = .yes := by
  rw [Truth.all_eq_yes, written, List.map_map, List.forall_mem_map, ← forall_mem_simplify]
  exact forall₂_congr fun c _ => truth_reduced tests row c

end Criterion

end

end ListQuery.Sql
