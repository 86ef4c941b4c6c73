import ListQuery.Proofs.Listing.Buildable
/-!
Exactly when a statement is refused. The checks stand in several places and look at names that have
been resolved, put behind the table and resolved again; here is what they amount to. With values
that requests carry and joins that name tables, a statement that cannot be written is always refused
for a name, an operator or a value.
-/
namespace ListQuery

open Sql Column Text

/-- The faults for which a statement is refused. The others are about an input that is none, or
about a mark. -/
def QueryFault.IsRefusal : QueryFault → Prop
  | .unsafeName _ | .unsupportedValue _ | .unknownOperator _ _ | .scalarNeeded _ _ => True
  | .blankTable | .itemNotText | .whole _ | .strayMark _ => False

/-- A step towards a statement that fails with refusals only. -/
def OnlyRefused {α : Type} (x : Except QueryFault α) : Prop :=
  ∀ fault, x = .error fault → fault.IsRefusal

namespace OnlyRefused

variable {α β : Type}

theorem ok (a : α) : OnlyRefused (.ok a) := nofun

theorem error {fault : QueryFault} (refusal : fault.IsRefusal) :
    OnlyRefused (.error fault : Except QueryFault α) := by
  intro other same
  cases same
  exact refusal

theorem of_exists_ok {x : Except QueryFault α} (done : ∃ a, x = .ok a) : OnlyRefused x := by
  obtain ⟨a, rfl⟩ := done
  exact ok a

theorem bind {x : Except QueryFault α} {f : α → Except QueryFault β} (first : OnlyRefused x)
    (later : ∀ a, OnlyRefused (f a)) : OnlyRefused (x >>= f) := by
  intro fault failed
  rcases bind_eq_error_iff.mp failed with early | ⟨a, _, late⟩
  · exact first fault early
  · exact later a fault late

theorem map {x : Except QueryFault α} (f : α → β) (first : OnlyRefused x) :
    OnlyRefused (x.map f) := by
  cases x with
  | ok a => exact ok (f a)
  | error fault => exact error (first fault rfl)

theorem mapM {f : α → Except QueryFault β} {inputs : List α}
    (each : ∀ a ∈ inputs, OnlyRefused (f a)) : OnlyRefused (inputs.mapM f) := by
  intro fault failed
  obtain ⟨a, member, blocked⟩ := exists_mem_of_mapM_eq_error failed
  exact each a member fault blocked

theorem safeName (name : String) : OnlyRefused (ListQuery.safeName name) := by
  rw [ListQuery.safeName]
  split
  · exact ok name
  · exact error trivial

theorem arguments (items : List Value) : OnlyRefused (Value.arguments items) :=
  mapM fun v _ => by
    cases v with
    | scalar s => exact ok s
    | null | list _ | object _ | date _ | moment _ => exact error trivial

theorem comparison (name : String) (op : Operator) (c : Condition) :
    OnlyRefused (ListQuery.comparison name op c) := by
  obtain ⟨column, operator, value⟩ := c
  cases value with
  | null => cases op <;> first | exact ok _ | exact error trivial
  | list items =>
    cases op <;> first | exact bind (arguments items) fun _ => ok _ | exact error trivial
  | scalar s => exact ok _
  | object _ | date _ | moment _ => exact error trivial

theorem equality (column : String) (value : Value) :
    OnlyRefused (ListQuery.equality column value) := by
  rw [equality_eq_comparison]
  exact bind (safeName _) fun name => comparison name .eq _

theorem predicate (c : Condition) : OnlyRefused c.predicate := by
  rw [Condition.predicate]
  split
  · exact error trivial
  · exact bind (safeName _) fun name => comparison name _ c

theorem searchPredicate {column : String} {term : Value} (typed : term.IsTyped) :
    OnlyRefused (ListQuery.searchPredicate column term) :=
  bind (of_exists_ok (Value.exists_searchText typed)) fun _ => bind (safeName _) fun _ => ok _

theorem choice {predicate : String → Value → Except QueryFault Predicate} {m : OrderedMap Value}
    (each : ∀ e ∈ m.entries, OnlyRefused (predicate e.1 e.2)) :
    OnlyRefused (Options.choice predicate m) := by
  rw [Options.choice]
  split
  · exact ok []
  · exact map _ (mapM each)

theorem criteria {o : Options} (typed : o.IsTyped) : OnlyRefused o.criteria := by
  have conditions : OnlyRefused o.conditionCriteria := mapM fun c _ => map _ (predicate c)
  have filters : OnlyRefused o.filterCriteria := mapM fun e _ => map _ (equality e.1 e.2)
  have alternatives : OnlyRefused o.filterOrCriteria := choice fun e _ => equality e.1 e.2
  have terms : OnlyRefused o.searchCriteria := choice fun e member =>
    searchPredicate (typed.search e member)
  exact bind conditions fun _ => bind filters fun _ => bind alternatives fun _ =>
    bind terms fun _ => ok _

theorem orderTerms (table fallback : String) (order : List OrderClause) (hasJoins : Bool) :
    OnlyRefused (ListQuery.orderTerms table fallback order hasJoins) := by
  rw [ListQuery.orderTerms]
  split
  · exact map _ (map _ (safeName _))
  · exact mapM fun _ _ => map _ (safeName _)

/-- A step that succeeds unless something stands against it is refused exactly then. -/
theorem exists_refusal_iff {x : Except QueryFault α} {P : Prop} (refused : OnlyRefused x)
    (succeeds : (∃ a, x = .ok a) ↔ ¬P) : (∃ fault, x = .error fault ∧ fault.IsRefusal) ↔ P := by
  cases x with
  | ok a => exact iff_of_false nofun (succeeds.mp ⟨a, rfl⟩)
  | error fault =>
    exact iff_of_true ⟨fault, rfl, refused fault rfl⟩ (not_not.mp fun h => nomatch succeeds.mpr h)

end OnlyRefused

/-- A join that names a table, by a text that is not blank. -/
def Join.NamesTable (j : Join) : Prop := ∃ c ∈ j.table.toList, isBlank c = false

instance (j : Join) : Decidable j.NamesTable :=
  List.decidableBEx (fun c => isBlank c = false) j.table.toList

/-- A join whose table or whose alias cannot be written. An empty alias is none. -/
def Join.IsUnsafe (j : Join) : Prop :=
  (∃ name, j.tableName? = some name ∧ ¬IsSafe name) ∨
    ∃ name, j.tableAlias = some name ∧ name ≠ "" ∧ ¬IsSafe name

section
variable {j : Join} (named : j.NamesTable)
include named

theorem Join.exists_tableName? : ∃ name, j.tableName? = some name := by
  obtain ⟨c, member, solid⟩ := named
  obtain ⟨w, listed, _⟩ := exists_mem_words member solid
  have some_word : j.tableWords ≠ [] := List.ne_nil_of_mem (List.mem_map_of_mem listed)
  exact ⟨_, List.head?_eq_some_head some_word⟩

theorem Join.exists_joinedTable_iff : (∃ t, j.joinedTable = .ok t) ↔ ¬j.IsUnsafe := by
  obtain ⟨name, found⟩ := exists_tableName? named
  have written (given : String) :
      j.writtenAlias = some given ↔ j.tableAlias = some given ∧ given ≠ "" := by
    rw [writtenAlias, Option.filter_eq_some_iff]
    simp
  constructor
  · rintro ⟨t, h⟩
    obtain ⟨_, same, safe, given, _⟩ := joinedTable_eq_ok_iff.mp h
    rintro (⟨other, here, odd⟩ | ⟨other, here, some_char, odd⟩)
    · rw [same] at here
      cases here
      exact odd safe
    · exact odd (given other ((written other).mpr ⟨here, some_char⟩))
  · intro clean
    have safe : IsSafe name := by_contra fun odd => clean (.inl ⟨name, found, odd⟩)
    refine ⟨_, joinedTable_eq_ok_iff.mpr ⟨name, found, safe, fun given here => ?_, rfl⟩⟩
    obtain ⟨there, some_char⟩ := (written given).mp here
    exact by_contra fun odd => clean (.inr ⟨given, there, some_char, odd⟩)

theorem OnlyRefused.joinedTable : OnlyRefused j.joinedTable := by
  obtain ⟨name, found⟩ := j.exists_tableName? named
  rw [Join.joinedTable, found]
  refine bind (safeName name) fun _ => bind ?_ fun _ => ok _
  cases j.writtenAlias with
  | none => exact ok none
  | some given => exact map some (safeName given)

end

/-- The operators that put values in an order. -/
def orderingNames : List String := [Operator.gt, .gte, .lt, .lte].map Operator.name

/-- A condition that no predicate is written for, whatever its column is. -/
inductive Condition.IsUnusable (c : Condition) : Prop
  | unknown (h : c.operator ∉ operatorNames)
  | unordered (ordering : c.operator ∈ orderingNames)
      (value : c.value = .null ∨ ∃ items, c.value = .list items)

theorem Condition.not_isUnusable_iff {c : Condition} (typed : c.value.IsTyped) :
    ¬c.IsUnusable ↔ c.operator ∈ operatorNames ∧ c.Comparable := by
  have split : c.operator ∈ operatorNames ↔ (c.operator = Operator.eq.name ∨
      c.operator = Operator.ne.name) ∨ c.operator ∈ orderingNames := by
    simp [operatorNames, orderingNames, Operator.all, or_assoc]
  have bounded : (∃ s, c.value = .scalar s) ↔
      ¬(c.value = .null ∨ ∃ items, c.value = .list items) := by
    cases value : c.value with
    | null | scalar _ | list _ => simp
    | object _ | date _ | moment _ =>
      rw [value] at typed
      cases typed
  constructor
  · intro usable
    have known : c.operator ∈ operatorNames := by_contra fun h => usable (.unknown h)
    refine ⟨known, ?_⟩
    rcases split.mp known with (eq | ne) | ordering
    · exact .inl eq
    · exact .inr (.inl ne)
    · exact .inr (.inr (bounded.mpr fun value => usable (.unordered ordering value)))
  · rintro ⟨known, comparable⟩ (unknown | ⟨ordering, value⟩)
    · exact unknown known
    · rcases comparable with eq | ne | scalar
      · rw [eq] at ordering
        exact absurd ordering (by decide)
      · rw [ne] at ordering
        exact absurd ordering (by decide)
      · exact bounded.mp scalar value

namespace ListRequest

section
variable (r : ListRequest)

def HasUnsafeTable : Prop := ¬IsSafe r.table ∨ ∃ j ∈ r.joins, j.IsUnsafe

def HasUnusableCondition : Prop := ∃ c ∈ r.options.conditions, c.IsUnusable

/-- The columns that rows are chosen by. -/
def chosenBy : List String :=
  r.options.conditions.map (·.column) ++ r.options.filter.keys ++ r.options.filterOr.keys ++
    r.options.search.keys

def HasUnsafeColumn : Prop := ∃ column ∈ r.chosenBy, ¬IsSafe (resolve column)

/-- The name that an order by a column is written with. It is resolved, put behind the table if it
is bare and there are joins, and resolved again. -/
def orderedBy (column : String) : String :=
  let name := resolve column
  resolve (if r.joins ≠ [] ∧ '.' ∉ name.toList then r.table ++ "." ++ name else name)

def orderColumns : List String :=
  if r.options.order = [] then [r.orderedBy "created_at"]
  else r.options.order.map fun clause => r.orderedBy clause.column

def HasUnsafeOrder : Prop := ∃ name ∈ r.orderColumns, ¬IsSafe name

end

variable {r : ListRequest}

theorem orderedBy_eq (r : ListRequest) (column : String) :
    r.orderedBy column = resolve (qualify r.table (resolve column) !r.joins.isEmpty) := by
  have joined : (!r.joins.isEmpty && !isDotted (resolve column)) = true ↔
      r.joins ≠ [] ∧ '.' ∉ (resolve column).toList := by
    simp [isDotted]
  rw [orderedBy, qualify]
  simp only [joined]

theorem orderColumns_eq (r : ListRequest) : r.orderColumns =
    orderNames r.table defaultOrderColumn r.options.order !r.joins.isEmpty := by
  have fallback : resolve "created_at" = defaultOrderColumn := by decide +kernel
  simp only [orderColumns, orderNames, orderedBy_eq, fallback, List.isEmpty_iff]

section
variable (named : ∀ j ∈ r.joins, j.NamesTable)
include named

theorem exists_source_iff : (∃ s, sourceOf r.table r.joins = .ok s) ↔ ¬r.HasUnsafeTable := by
  have joined : (∃ ts, r.joins.mapM Join.joinedTable = .ok ts) ↔ ∀ j ∈ r.joins, ¬j.IsUnsafe := by
    rw [exists_mapM_eq_ok_iff]
    exact forall₂_congr fun j member => Join.exists_joinedTable_iff (named j member)
  rw [HasUnsafeTable, not_or, not_not, not_exists]
  simp only [not_and]
  rw [← joined]
  constructor
  · rintro ⟨s, h⟩
    obtain ⟨safe, _, made⟩ := sourceOf_eq_ok_iff.mp h
    exact ⟨safe, _, made⟩
  · rintro ⟨safe, ts, made⟩
    exact ⟨⟨r.table, ts⟩, sourceOf_eq_ok_iff.mpr ⟨safe, rfl, made⟩⟩

theorem onlyRefused_source : OnlyRefused (sourceOf r.table r.joins) :=
  .bind (.safeName _) fun _ =>
    .bind (.mapM fun j member => .joinedTable (named j member)) fun _ => .ok _

end

theorem exists_criteria_iff (typed : r.options.IsTyped) : (∃ cs, r.options.criteria = .ok cs) ↔
    ¬r.HasUnusableCondition ∧ ¬r.HasUnsafeColumn := by
  have conditions : (∀ c ∈ r.options.conditions,
        c.operator ∈ operatorNames ∧ c.Comparable ∧ IsSafe (resolve c.column)) ↔
      (∀ c ∈ r.options.conditions, ¬c.IsUnusable) ∧
        ∀ c ∈ r.options.conditions, IsSafe (resolve c.column) := by
    rw [← forall₂_and]
    refine forall₂_congr fun c member => ?_
    rw [Condition.not_isUnusable_iff (typed.conditions c member), and_assoc]
  rw [Options.exists_typed_criteria_iff typed, conditions, HasUnusableCondition, HasUnsafeColumn]
  simp only [not_exists, not_and, not_not, chosenBy, List.forall_mem_append, List.forall_mem_map,
    and_assoc]

section
variable (named : ∀ j ∈ r.joins, j.NamesTable) (typed : r.options.IsTyped)
include named typed

theorem exists_count_iff : (∃ s, r.count = .ok s) ↔
    ¬(r.HasUnsafeTable ∨ r.HasUnusableCondition ∨ r.HasUnsafeColumn) := by
  rw [count, exists_matching_iff_parts, exists_source_iff named, exists_criteria_iff typed, not_or,
    not_or]

theorem onlyRefused_matching (projection : Projection) : OnlyRefused (r.matching projection) :=
  .bind (onlyRefused_source named) fun _ => .bind (.criteria typed) fun _ => .ok _

/-- The number of rows cannot be asked for exactly when a table, a condition or a column stands
against it, and the rows themselves exactly when an order does so besides; nothing else can go
wrong. -/
theorem refused_iff :
    ((∃ fault, r.countStatement = .error fault ∧ fault.IsRefusal) ↔
      r.HasUnsafeTable ∨ r.HasUnusableCondition ∨ r.HasUnsafeColumn) ∧
    ((∃ fault, r.rowsStatement = .error fault ∧ fault.IsRefusal) ↔
      r.HasUnsafeTable ∨ r.HasUnusableCondition ∨ r.HasUnsafeColumn ∨ r.HasUnsafeOrder) ∧
    ∀ fault, r.countStatement = .error fault ∨ r.rowsStatement = .error fault →
      fault.IsRefusal := by
  have count_refused : OnlyRefused r.countStatement :=
    .map _ (onlyRefused_matching named typed .count)
  have rows_refused : OnlyRefused r.rowsStatement :=
    .map _ (.bind (onlyRefused_matching named typed _) fun _ =>
      .bind (.orderTerms _ _ _ _) fun _ => .ok _)
  have ordered : (∀ name ∈ orderNames r.table defaultOrderColumn r.options.order !r.joins.isEmpty,
      IsSafe name) ↔ ¬r.HasUnsafeOrder := by
    rw [← orderColumns_eq, HasUnsafeOrder]
    simp only [not_exists, not_and, not_not]
  refine ⟨count_refused.exists_refusal_iff ?_, rows_refused.exists_refusal_iff ?_, ?_⟩
  · rw [countStatement, exists_map_eq_ok_iff, exists_count_iff named typed]
  · rw [rowsStatement, exists_map_eq_ok_iff, exists_rows_iff_parts, exists_count_iff named typed,
      ordered]
    tauto
  · rintro fault (count | rows)
    · exact count_refused fault count
    · exact rows_refused fault rows

end

/-- A column whose last two segments start with a digit is refused, while a digit at the front of a
bare column is hidden behind the table. -/
theorem refused_iff_for_numbered_order :
    let r : ListRequest := ⟨"activities",
      { Options.default with
        filter := .ofList [("user_id", .int 7)]
        order := [⟨"9lives", "ASC"⟩, ⟨"tags.1.name", "DESC"⟩] },
      [⟨"tags AS t", "t.id = activities.tag_id", none⟩]⟩
    (∀ j ∈ r.joins, j.NamesTable) ∧ r.options.IsTyped ∧
      r.orderColumns = ["activities.9lives", "1.name"] ∧ IsSafe "activities.9lives" ∧
      ∃ fault, r.rowsStatement = .error fault ∧ fault.IsRefusal := by
  intro r
  have named : ∀ j ∈ r.joins, j.NamesTable := by decide +kernel
  have short : (7 : Nat) < Number.tenTo Number.maxWholeDigits :=
    Nat.lt_of_lt_of_le (by decide) (Number.tenTo_le_tenTo (m := 1) (by decide))
  have typed : r.options.IsTyped :=
    ⟨List.forall_mem_singleton.mpr short, nofun, nofun, nofun⟩
  have columns : r.orderColumns = ["activities.9lives", "1.name"] := by decide +kernel
  have unsafe_order : r.HasUnsafeOrder := by
    rw [HasUnsafeOrder, columns]
    exact ⟨"1.name", by decide, by decide +kernel⟩
  obtain ⟨_, rows, _⟩ := refused_iff named typed
  exact ⟨named, typed, columns, by decide +kernel, rows.mpr (.inr (.inr (.inr unsafe_order)))⟩

end ListRequest

end ListQuery
