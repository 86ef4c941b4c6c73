import ListQuery.Listing.Where
import ListQuery.Proofs.Listing.Parts
import ListQuery.Proofs.Sql.Clause
import ListQuery.Proofs.Sql.Truth
/-!
What a description says of a row, in its own words, and that its criteria say the same.
-/
namespace ListQuery

open Sql Column Text

def Value.scalar? : Value → Option Scalar
  | .scalar s => some s
  | _ => none

theorem Value.argument_eq_ok_iff {v : Value} {s : Scalar} : v.argument = .ok s ↔ v = .scalar s := by
  cases v <;> simp [Value.argument]

theorem Value.arguments_eq_ok_iff {items : List Value} {arguments : List Scalar} :
    Value.arguments items = .ok arguments ↔ items = arguments.map .scalar := by
  rw [Value.arguments, mapM_eq_ok_iff]
  simp only [Value.argument_eq_ok_iff]
  rw [← List.forall₂_map_right_iff, List.forall₂_eq_eq_eq]

theorem filterMap_scalar?_map (arguments : List Scalar) :
    (arguments.map Value.scalar).filterMap Value.scalar? = arguments := by
  rw [List.filterMap_map]
  exact List.filterMap_some

/-- The predicates that comparisons become, with the values they are for. -/
inductive Compares (name : String) : Operator → Value → Predicate → Prop
  | isNull : Compares name .eq .null (.isNull name)
  | isNotNull : Compares name .ne .null (.isNotNull name)
  | within (arguments : List Scalar) :
      Compares name .eq (.list (arguments.map .scalar)) (.within name arguments)
  | without (arguments : List Scalar) :
      Compares name .ne (.list (arguments.map .scalar)) (.without name arguments)
  | compare (op : Operator) (v : Scalar) : Compares name op (.scalar v) (.compare name op v)

theorem comparison_eq_ok_iff {name : String} {op : Operator} {c : Condition} {p : Predicate} :
    comparison name op c = .ok p ↔ Compares name op c.value p := by
  obtain ⟨column, operator, value⟩ := c
  constructor
  · intro h
    unfold comparison at h
    split at h
    · next null =>
      cases h
      rw [null]
      exact .isNull
    · next null =>
      cases h
      rw [null]
      exact .isNotNull
    · cases h
    · next items list =>
      obtain ⟨arguments, read, same⟩ := bind_eq_ok_iff.mp h
      cases same
      rw [list, Value.arguments_eq_ok_iff.mp read]
      exact .within arguments
    · next items list =>
      obtain ⟨arguments, read, same⟩ := bind_eq_ok_iff.mp h
      cases same
      rw [list, Value.arguments_eq_ok_iff.mp read]
      exact .without arguments
    · cases h
    · obtain ⟨argument, read, same⟩ := bind_eq_ok_iff.mp h
      cases same
      rw [Value.argument_eq_ok_iff.mp read]
      exact .compare _ argument
  · intro h
    cases h with
    | isNull | isNotNull | compare _ _ => rfl
    | within arguments | without arguments =>
      exact bind_eq_ok_iff.mpr ⟨arguments, Value.arguments_eq_ok_iff.mpr rfl, rfl⟩

theorem Condition.predicate_eq_ok_iff {c : Condition} {p : Predicate} : c.predicate = .ok p ↔
    ∃ op, Operator.ofName? c.operator = some op ∧ IsSafe (resolve c.column) ∧
      comparison (resolve c.column) op c = .ok p := by
  rw [Condition.predicate]
  cases Operator.ofName? c.operator with
  | none => exact ⟨nofun, fun ⟨_, known, _⟩ => nomatch known⟩
  | some op =>
    constructor
    · intro h
      obtain ⟨name, named, h⟩ := bind_eq_ok_iff.mp h
      obtain ⟨rfl, safe⟩ := sqlColumn_eq_ok_iff.mp named
      exact ⟨op, rfl, safe, h⟩
    · rintro ⟨_, same, safe, h⟩
      cases same
      exact bind_eq_ok_iff.mpr ⟨_, sqlColumn_eq_ok_iff.mpr ⟨rfl, safe⟩, h⟩

theorem wellFormed_within {name : String} (safe : IsSafe name) (items : List Scalar) :
    (Predicate.within name items).WellFormed := by
  cases items with
  | nil => trivial
  | cons v rest => exact ⟨safe, List.cons_ne_nil v rest⟩

theorem wellFormed_without {name : String} (safe : IsSafe name) (items : List Scalar) :
    (Predicate.without name items).WellFormed := by
  cases items with
  | nil => trivial
  | cons v rest => exact ⟨safe, List.cons_ne_nil v rest⟩

section
variable {Cell : Type} (tests : CellTests Cell) (row : Row Cell)

/-- Whether a cell, which may be null, is what an operator and a value ask for. -/
def Value.Accepts (op : Operator) (cell : Option Cell) : Value → Prop
  | .null =>
    match op with
    | .eq => cell = none
    | .ne => cell ≠ none
    | _ => False
  | .scalar v => ∃ x, cell = some x ∧ tests.compares op x v = true
  | .list items =>
    match op with
    | .eq => ∃ x, cell = some x ∧ ∃ v ∈ items.filterMap Value.scalar?, tests.compares .eq x v = true
    | .ne =>
      items = [] ∨
        ∃ x, cell = some x ∧ ∀ v ∈ items.filterMap Value.scalar?, tests.compares .eq x v = false
    | _ => False
  | .object _ | .date _ | .moment _ => False

def Condition.Holds (c : Condition) : Prop :=
  ∃ op, Operator.ofName? c.operator = some op ∧ c.value.Accepts tests op (row (resolve c.column))

/-- Whether a term is found in a column. -/
def Value.IsFound (column : String) (term : Value) : Prop :=
  ∃ sought x, searchText term = .ok sought ∧ row (resolve column) = some x ∧
    tests.resembles x (containsPattern sought) = true

/-- What a description asks of a row. -/
structure Options.Holds (o : Options) : Prop where
  conditions : ∀ c ∈ o.conditions, c.Holds tests row
  filter : ∀ e ∈ o.filter.entries, e.2.Accepts tests .eq (row (resolve e.1))
  filterOr : o.filterOr.entries = [] ∨
    ∃ e ∈ o.filterOr.entries, e.2.Accepts tests .eq (row (resolve e.1))
  search : o.search.entries = [] ∨ ∃ e ∈ o.search.entries, e.2.IsFound tests row e.1

theorem comparison_meaning {name : String} {op : Operator} {c : Condition} {p : Predicate}
    (safe : IsSafe name) (h : comparison name op c = .ok p) :
    p.WellFormed ∧ (p.truth tests row = .yes ↔ c.value.Accepts tests op (row name)) := by
  obtain ⟨column, operator, value⟩ := c
  cases comparison_eq_ok_iff.mp h with
  | isNull => exact ⟨safe, by simp [Predicate.truth, Value.Accepts]⟩
  | isNotNull => exact ⟨safe, by simp [Predicate.truth, Value.Accepts, Option.isSome_iff_ne_none]⟩
  | within arguments =>
    refine ⟨wellFormed_within safe _, ?_⟩
    rw [Predicate.truth_within, CellTests.amongst_eq_yes, Value.Accepts, filterMap_scalar?_map]
  | without arguments =>
    refine ⟨wellFormed_without safe _, ?_⟩
    rw [Predicate.truth_without, CellTests.opposite_amongst_eq_yes, Value.Accepts,
      filterMap_scalar?_map, List.map_eq_nil_iff]
  | compare op v => exact ⟨safe, Truth.ofCell_eq_yes⟩

/-- A plain equality is the comparison by that operator. -/
theorem equality_eq_comparison (column : String) (v : Value) : equality column v =
    (sqlColumn column >>= fun name => comparison name .eq ⟨column, Operator.eq.name, v⟩) := by
  cases v <;> rfl

theorem equality_meaning {column : String} {v : Value} {p : Predicate}
    (h : equality column v = .ok p) :
    p.WellFormed ∧ (p.truth tests row = .yes ↔ v.Accepts tests .eq (row (resolve column))) := by
  rw [equality_eq_comparison] at h
  obtain ⟨name, named, h⟩ := bind_eq_ok_iff.mp h
  obtain ⟨rfl, safe⟩ := sqlColumn_eq_ok_iff.mp named
  exact comparison_meaning tests row safe h

theorem Condition.predicate_meaning {c : Condition} {p : Predicate} (h : c.predicate = .ok p) :
    p.WellFormed ∧ (p.truth tests row = .yes ↔ c.Holds tests row) := by
  obtain ⟨op, known, safe, h⟩ := predicate_eq_ok_iff.mp h
  obtain ⟨formed, meaning⟩ := comparison_meaning tests row safe h
  refine ⟨formed, meaning.trans ?_⟩
  rw [Holds, known]
  simp

theorem searchPredicate_meaning {column : String} {term : Value} {p : Predicate}
    (h : searchPredicate column term = .ok p) :
    p.WellFormed ∧ (p.truth tests row = .yes ↔ term.IsFound tests row column) := by
  obtain ⟨sought, found, h⟩ := bind_eq_ok_iff.mp h
  obtain ⟨name, named, same⟩ := bind_eq_ok_iff.mp h
  cases same
  obtain ⟨rfl, safe⟩ := sqlColumn_eq_ok_iff.mp named
  refine ⟨safe, ?_⟩
  rw [Predicate.truth, Truth.ofCell_eq_yes, Value.IsFound, found]
  simp

namespace Options

/-- A choice holds where one of its entries does, or where there is none. -/
theorem choice_meaning {predicate : String → Value → Except QueryFault Predicate}
    {P : String → Value → Prop} {m : OrderedMap Value} {cs : List Criterion}
    (each : ∀ {column v p}, predicate column v = .ok p →
      p.WellFormed ∧ (p.truth tests row = .yes ↔ P column v))
    (h : choice predicate m = .ok cs) :
    (∀ c ∈ cs, c.WellFormed) ∧
      ((∀ c ∈ cs, c.truth tests row = .yes) ↔ m.entries = [] ∨ ∃ e ∈ m.entries, P e.1 e.2) := by
  rw [choice] at h
  split at h
  · next empty =>
    cases h
    exact ⟨by simp, by simp [List.isEmpty_iff.mp empty]⟩
  · next some_entry =>
    obtain ⟨members, run, rfl⟩ := map_eq_ok_iff.mp h
    have filled : m.entries ≠ [] := fun none_left => some_entry (List.isEmpty_iff.mpr none_left)
    have alternatives := exists_mem_iff_of_mapM run (P := fun e => P e.1 e.2)
      (Q := fun p => p.truth tests row = .yes) fun e _ p made => (each made).2
    have formed := forall_mem_of_mapM run (P := Predicate.WellFormed) fun e _ p made =>
      (each made).1
    have some_member : members ≠ [] := by
      rintro rfl
      exact filled (List.length_eq_zero_iff.mp (mapM_eq_ok_iff.mp run).length_eq)
    constructor
    · intro c member
      rw [List.mem_singleton.mp member]
      exact ⟨some_member, formed⟩
    · simp only [List.mem_singleton, forall_eq, Criterion.truth_anyOf_eq_yes, alternatives, filled,
        false_or]

theorem singles_meaning {α : Type} {predicate : α → Except QueryFault Predicate} {P : α → Prop}
    {inputs : List α} {cs : List Criterion}
    (each : ∀ {a p}, predicate a = .ok p → p.WellFormed ∧ (p.truth tests row = .yes ↔ P a))
    (h : inputs.mapM (fun a => (predicate a).map .single) = .ok cs) :
    (∀ c ∈ cs, c.WellFormed) ∧
      ((∀ c ∈ cs, c.truth tests row = .yes) ↔ ∀ a ∈ inputs, P a) := by
  constructor
  · refine forall_mem_of_mapM h fun a _ c made => ?_
    obtain ⟨p, found, rfl⟩ := map_eq_ok_iff.mp made
    exact (each found).1
  · refine forall_mem_iff_of_mapM h fun a _ c made => ?_
    obtain ⟨p, found, rfl⟩ := map_eq_ok_iff.mp made
    exact (each found).2

/-- The criteria of a description say of a row what the description says. -/
theorem criteria_meaning {o : Options} {cs : List Criterion} (h : o.criteria = .ok cs) :
    (∀ c ∈ cs, c.WellFormed) ∧ ((∀ c ∈ cs, c.truth tests row = .yes) ↔ o.Holds tests row) := by
  obtain ⟨conditions, hc, h⟩ := bind_eq_ok_iff.mp h
  obtain ⟨filters, hf, h⟩ := bind_eq_ok_iff.mp h
  obtain ⟨alternatives, ha, h⟩ := bind_eq_ok_iff.mp h
  obtain ⟨terms, ht, same⟩ := bind_eq_ok_iff.mp h
  cases same
  obtain ⟨formed_c, mean_c⟩ := singles_meaning tests row
    (fun made => Condition.predicate_meaning tests row made) hc
  obtain ⟨formed_f, mean_f⟩ := singles_meaning tests row
    (fun made => equality_meaning tests row made) hf
  obtain ⟨formed_a, mean_a⟩ := choice_meaning tests row
    (fun made => equality_meaning tests row made) ha
  obtain ⟨formed_t, mean_t⟩ := choice_meaning tests row
    (fun made => searchPredicate_meaning tests row made) ht
  simp only [List.forall_mem_append]
  refine ⟨⟨⟨⟨formed_c, formed_f⟩, formed_a⟩, formed_t⟩, ?_⟩
  rw [mean_c, mean_f, mean_a, mean_t]
  constructor
  · rintro ⟨⟨⟨conditions, filter⟩, filterOr⟩, search⟩
    exact ⟨conditions, filter, filterOr, search⟩
  · rintro ⟨conditions, filter, filterOr, search⟩
    exact ⟨⟨⟨conditions, filter⟩, filterOr⟩, search⟩

end Options

end

end ListQuery
