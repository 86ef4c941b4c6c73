import ListQuery.Proofs.Column.Resolve
import ListQuery.Proofs.Listing.Meaning
import ListQuery.Proofs.Policy.Accepted
import ListQuery.Proofs.Query.Parsed
/-!
When a description that passed its check has statements. The check looks at names, operators and
bounds; whether an operator fits its value, and whether the resolved name of a column is safe, is
seen only when the statements are written.
-/
namespace ListQuery

open Sql Column Number

/-- The operator and the value go together: only equality and its opposite take null or a list. -/
def Condition.Comparable (c : Condition) : Prop :=
  c.operator = Operator.eq.name ∨ c.operator = Operator.ne.name ∨ ∃ s, c.value = .scalar s

theorem Operator.mem_operatorNames {name : String} {op : Operator}
    (found : ofName? name = some op) : name ∈ operatorNames := by
  rw [← name_of_ofName? found]
  cases op <;> decide

theorem exists_safeName_iff {name : String} : (∃ n, safeName name = .ok n) ↔ IsSafe name := by
  constructor
  · rintro ⟨n, h⟩
    exact (safeName_eq_ok_iff.mp h).2
  · intro safe
    exact ⟨name, safeName_eq_ok_iff.mpr ⟨rfl, safe⟩⟩

theorem Value.exists_arguments {items : List Value} (h : ∃ texts : List String,
    items = texts.map Value.text) : ∃ arguments, Value.arguments items = .ok arguments := by
  obtain ⟨texts, rfl⟩ := h
  refine exists_mapM_eq_ok_iff.mpr fun item member => ?_
  obtain ⟨s, _, rfl⟩ := List.mem_map.mp member
  exact ⟨.text s, rfl⟩

theorem exists_comparison_iff {name : String} {op : Operator} {c : Condition}
    (typed : c.value.IsTyped) : (∃ p, comparison name op c = .ok p) ↔
      op = .eq ∨ op = .ne ∨ ∃ s, c.value = .scalar s := by
  obtain ⟨column, operator, value⟩ := c
  cases value with
  | null => cases op <;> simp [comparison]
  | scalar s => simp [comparison, Value.argument, bind, Except.bind]
  | list items =>
    obtain ⟨arguments, read⟩ := Value.exists_arguments typed
    cases op <;> simp [comparison, read, bind, Except.bind]
  | object _ => cases typed
  | date _ => cases typed
  | moment _ => cases typed

theorem exists_sqlColumn_bind_iff {α : Type} {column : String}
    {f : String → Except QueryFault α} :
    (∃ a, (sqlColumn column >>= f) = .ok a) ↔
      IsSafe (resolve column) ∧ ∃ a, f (resolve column) = .ok a := by
  constructor
  · rintro ⟨a, h⟩
    obtain ⟨name, named, made⟩ := bind_eq_ok_iff.mp h
    obtain ⟨rfl, safe⟩ := sqlColumn_eq_ok_iff.mp named
    exact ⟨safe, a, made⟩
  · rintro ⟨safe, a, made⟩
    exact ⟨a, bind_eq_ok_iff.mpr ⟨_, sqlColumn_eq_ok_iff.mpr ⟨rfl, safe⟩, made⟩⟩

theorem exists_equality_iff {column : String} {v : Value} (typed : v.IsTyped) :
    (∃ p, equality column v = .ok p) ↔ IsSafe (resolve column) := by
  rw [equality_eq_comparison, exists_sqlColumn_bind_iff]
  exact and_iff_left ((exists_comparison_iff typed).mpr (.inl rfl))

theorem Condition.exists_predicate_iff {c : Condition} (typed : c.value.IsTyped) :
    (∃ p, c.predicate = .ok p) ↔
      c.operator ∈ operatorNames ∧ c.Comparable ∧ IsSafe (resolve c.column) := by
  by_cases known : c.operator ∈ operatorNames
  · obtain ⟨op, _, named⟩ := List.mem_map.mp known
    have found : Operator.ofName? c.operator = some op := by
      rw [← named]
      exact Operator.ofName?_name op
    have opens : c.predicate = (sqlColumn c.column >>= fun name => comparison name op c) := by
      rw [predicate, found]
    have same (other : Operator) : op = other ↔ c.operator = other.name := by
      rw [← named]
      cases op <;> cases other <;> decide
    rw [opens, exists_sqlColumn_bind_iff, exists_comparison_iff typed, same, same, and_comm,
      and_iff_right known]
    rfl
  · refine iff_of_false ?_ fun h => known h.1
    rintro ⟨p, made⟩
    obtain ⟨op, found, _⟩ := predicate_eq_ok_iff.mp made
    exact known (Operator.mem_operatorNames found)

theorem Value.exists_searchText {term : Value} (typed : term.IsTyped) :
    ∃ sought, searchText term = .ok sought := by
  cases term with
  | null => exact ⟨_, rfl⟩
  | scalar s =>
    cases s with
    | bool b => exact ⟨_, rfl⟩
    | int n =>
      refine ⟨wholeText n, ?_⟩
      change (writeWhole n).mapError _ = _
      rw [writeWhole_of_lt typed]
      rfl
    | float x => exact ⟨_, rfl⟩
    | text s => exact ⟨_, rfl⟩
  | list items =>
    obtain ⟨texts, rfl⟩ := typed
    obtain ⟨written, run⟩ : ∃ written, (texts.map Value.text).mapM itemText = .ok written := by
      refine exists_mapM_eq_ok_iff.mpr fun item member => ?_
      obtain ⟨s, _, rfl⟩ := List.mem_map.mp member
      exact ⟨s, rfl⟩
    refine ⟨_, bind_eq_ok_iff.mpr ⟨written, run, rfl⟩⟩
  | object _ => cases typed
  | date _ => cases typed
  | moment _ => cases typed

theorem exists_searchPredicate_iff {column : String} {term : Value} (typed : term.IsTyped) :
    (∃ p, searchPredicate column term = .ok p) ↔ IsSafe (resolve column) := by
  obtain ⟨sought, found⟩ := Value.exists_searchText typed
  have opens : searchPredicate column term = (sqlColumn column >>= fun name =>
      .ok (.matching name (Text.containsPattern sought))) := by
    rw [searchPredicate, found]
    rfl
  rw [opens, exists_sqlColumn_bind_iff]
  exact and_iff_left ⟨_, rfl⟩

namespace Options

theorem exists_choice_iff {predicate : String → Value → Except QueryFault Predicate}
    {m : OrderedMap Value} : (∃ cs, choice predicate m = .ok cs) ↔
      ∀ e ∈ m.entries, ∃ p, predicate e.1 e.2 = .ok p := by
  rw [choice]
  split
  · next empty =>
    have none_inside : m.entries = [] := List.isEmpty_iff.mp empty
    simp [none_inside]
  · rw [exists_map_eq_ok_iff, exists_mapM_eq_ok_iff]

theorem exists_criteria_iff {o : Options} : (∃ cs, o.criteria = .ok cs) ↔
    (∃ cs, o.conditionCriteria = .ok cs) ∧ (∃ cs, o.filterCriteria = .ok cs) ∧
      (∃ cs, o.filterOrCriteria = .ok cs) ∧ ∃ cs, o.searchCriteria = .ok cs := by
  constructor
  · rintro ⟨cs, h⟩
    obtain ⟨conditions, hc, h⟩ := bind_eq_ok_iff.mp h
    obtain ⟨filters, hf, h⟩ := bind_eq_ok_iff.mp h
    obtain ⟨alternatives, ha, h⟩ := bind_eq_ok_iff.mp h
    obtain ⟨terms, ht, _⟩ := bind_eq_ok_iff.mp h
    exact ⟨⟨_, hc⟩, ⟨_, hf⟩, ⟨_, ha⟩, ⟨_, ht⟩⟩
  · rintro ⟨⟨_, hc⟩, ⟨_, hf⟩, ⟨_, ha⟩, ⟨_, ht⟩⟩
    rw [criteria, hc, hf, ha, ht]
    exact ⟨_, rfl⟩

/-- The criteria of a description with values that requests carry. -/
theorem exists_typed_criteria_iff {o : Options} (typed : o.IsTyped) : (∃ cs, o.criteria = .ok cs) ↔
    (∀ c ∈ o.conditions,
        c.operator ∈ operatorNames ∧ c.Comparable ∧ IsSafe (resolve c.column)) ∧
      (∀ column ∈ o.filter.keys, IsSafe (resolve column)) ∧
      (∀ column ∈ o.filterOr.keys, IsSafe (resolve column)) ∧
      ∀ column ∈ o.search.keys, IsSafe (resolve column) := by
  have conditions : (∃ cs, o.conditionCriteria = .ok cs) ↔ ∀ c ∈ o.conditions,
      c.operator ∈ operatorNames ∧ c.Comparable ∧ IsSafe (resolve c.column) := by
    rw [conditionCriteria, exists_mapM_eq_ok_iff]
    refine forall₂_congr fun c member => ?_
    rw [exists_map_eq_ok_iff, Condition.exists_predicate_iff (typed.conditions c member)]
  have filters : (∃ cs, o.filterCriteria = .ok cs) ↔
      ∀ column ∈ o.filter.keys, IsSafe (resolve column) := by
    rw [filterCriteria, exists_mapM_eq_ok_iff, OrderedMap.keys, List.forall_mem_map]
    refine forall₂_congr fun e member => ?_
    rw [exists_map_eq_ok_iff, exists_equality_iff (typed.filter e member)]
  have alternatives : (∃ cs, o.filterOrCriteria = .ok cs) ↔
      ∀ column ∈ o.filterOr.keys, IsSafe (resolve column) := by
    rw [filterOrCriteria, exists_choice_iff, OrderedMap.keys, List.forall_mem_map]
    exact forall₂_congr fun e member => exists_equality_iff (typed.filterOr e member)
  have terms : (∃ cs, o.searchCriteria = .ok cs) ↔
      ∀ column ∈ o.search.keys, IsSafe (resolve column) := by
    rw [searchCriteria, exists_choice_iff, OrderedMap.keys, List.forall_mem_map]
    exact forall₂_congr fun e member => exists_searchPredicate_iff (typed.search e member)
  rw [exists_criteria_iff, conditions, filters, alternatives, terms]

/-- The criteria of a description with known operators. -/
theorem exists_criteria_iff_of_isTyped {o : Options} (typed : o.IsTyped)
    (known : ∀ c ∈ o.conditions, c.operator ∈ operatorNames) : (∃ cs, o.criteria = .ok cs) ↔
      (∀ c ∈ o.conditions, c.Comparable ∧ IsSafe (resolve c.column)) ∧
        (∀ column ∈ o.filter.keys, IsSafe (resolve column)) ∧
        (∀ column ∈ o.filterOr.keys, IsSafe (resolve column)) ∧
        ∀ column ∈ o.search.keys, IsSafe (resolve column) := by
  rw [exists_typed_criteria_iff typed]
  exact and_congr_left fun _ => forall₂_congr fun c member => and_iff_right (known c member)

end Options

theorem exists_orderTerm_iff {table column : String} {hasJoins descending : Bool} :
    (∃ t, orderTerm table column hasJoins descending = .ok t) ↔
      IsSafe (resolve (qualify table column hasJoins)) := by
  rw [orderTerm, exists_map_eq_ok_iff, exists_safeName_iff]

/-- The names that the rows of a list are ordered by. -/
def orderNames (table fallback : String) (order : List OrderClause) (hasJoins : Bool) :
    List String :=
  if order.isEmpty then [resolve (qualify table fallback hasJoins)]
  else order.map fun clause => resolve (qualify table (resolve clause.column) hasJoins)

theorem exists_orderTerms_iff_orderNames {table fallback : String} {order : List OrderClause}
    {hasJoins : Bool} : (∃ terms, orderTerms table fallback order hasJoins = .ok terms) ↔
      ∀ name ∈ orderNames table fallback order hasJoins, IsSafe name := by
  rw [orderTerms, orderNames]
  split
  · rw [exists_map_eq_ok_iff, exists_orderTerm_iff, List.forall_mem_singleton]
  · rw [exists_mapM_eq_ok_iff, List.forall_mem_map]
    exact forall₂_congr fun clause _ => exists_orderTerm_iff

theorem exists_orderTerms_iff {table : String} {order : List OrderClause} :
    (∃ terms, orderTerms table defaultOrderColumn order false = .ok terms) ↔
      ∀ clause ∈ order, IsSafe (resolve clause.column) := by
  have bare (column : String) : qualify table column false = column := rfl
  rw [exists_orderTerms_iff_orderNames, orderNames]
  split
  · next empty =>
    have default_safe : IsSafe (resolve defaultOrderColumn) := by decide +kernel
    rw [List.isEmpty_iff.mp empty, List.forall_mem_singleton, bare]
    exact ⟨fun _ _ member => absurd member List.not_mem_nil, fun _ => default_safe⟩
  · simp only [List.forall_mem_map, bare, resolve_resolve]

namespace ListRequest

variable {r : ListRequest}

/-- A statement needs its tables and its criteria. -/
theorem exists_matching_iff_parts {projection : Projection} :
    (∃ s, r.matching projection = .ok s) ↔
      (∃ source, sourceOf r.table r.joins = .ok source) ∧ ∃ cs, r.options.criteria = .ok cs := by
  constructor
  · rintro ⟨s, h⟩
    obtain ⟨source, cs, tables, found, _⟩ := matching_eq_ok_iff.mp h
    exact ⟨⟨source, tables⟩, cs, found⟩
  · rintro ⟨⟨source, tables⟩, cs, found⟩
    exact ⟨_, matching_eq_ok_iff.mpr ⟨source, cs, tables, found, rfl⟩⟩

/-- The statement for the rows needs an order besides. -/
theorem exists_rows_iff_parts : (∃ s, r.rows = .ok s) ↔
    (∃ s, r.count = .ok s) ∧ ∀ name ∈
      orderNames r.table defaultOrderColumn r.options.order !r.joins.isEmpty, IsSafe name := by
  rw [← exists_orderTerms_iff_orderNames, count, exists_matching_iff_parts]
  constructor
  · rintro ⟨s, h⟩
    obtain ⟨source, cs, terms, tables, found, ordered, _⟩ := rows_eq_ok_iff.mp h
    exact ⟨⟨⟨source, tables⟩, cs, found⟩, terms, ordered⟩
  · rintro ⟨⟨⟨source, tables⟩, cs, found⟩, terms, ordered⟩
    exact ⟨_, rows_eq_ok_iff.mpr ⟨source, cs, terms, tables, found, ordered, rfl⟩⟩

end ListRequest

section
variable {table : String} {o : Options} (named : IsSafe table)
include named

theorem sourceOf_nil : sourceOf table [] = .ok ⟨table, []⟩ :=
  sourceOf_eq_ok_iff.mpr ⟨named, rfl, rfl⟩

theorem ListRequest.exists_matching_iff {projection : Projection} :
    (∃ s, (mk table o []).matching projection = .ok s) ↔ ∃ cs, o.criteria = .ok cs := by
  rw [exists_matching_iff_parts]
  exact and_iff_right ⟨_, sourceOf_nil named⟩

theorem ListRequest.exists_rows_iff : (∃ s, (mk table o []).rows = .ok s) ↔
    (∃ cs, o.criteria = .ok cs) ∧ ∀ clause ∈ o.order, IsSafe (resolve clause.column) := by
  rw [exists_rows_iff_parts, count, exists_matching_iff named, ← exists_orderTerms_iff_orderNames,
    ← exists_orderTerms_iff]
  rfl

end

/-- What an accepted description is known to have: safe names and known operators. -/
theorem Policy.names_of_accepted {p : Policy} {o : Options} (accepted : p.rejection? o = none) :
    (∀ column ∈ o.columns, IsSafe column) ∧ ∀ c ∈ o.conditions, c.operator ∈ operatorNames := by
  have rules := rejection?_eq_none_iff.mp accepted
  exact ⟨rules.names, fun c member => (rules.conditions c member).known⟩

/-- A description that passed its check has both statements exactly when its conditions can be
compared and the owners of its columns start with letters. -/
theorem ListRequest.builds_iff_comparable {p : Policy} {params : List (String × String)}
    {o : Options} {table : String} (parsed : Options.ofParams params = .ok o)
    (accepted : p.rejection? o = none) (named : nameFault? table = none) :
    ((∃ s, (mk table o []).rowsStatement = .ok s) ∧
        ∃ s, (mk table o []).countStatement = .ok s) ↔
      (∀ c ∈ o.conditions, c.Comparable) ∧
        ∀ column ∈ o.columns, ∀ owner, owner? column = some owner → StartsWithLetter owner := by
  obtain ⟨safe, known⟩ := Policy.names_of_accepted accepted
  have table_safe := (nameFault?_eq_none_iff table).mp named
  rw [rowsStatement, countStatement, exists_map_eq_ok_iff, exists_map_eq_ok_iff, count,
    exists_rows_iff table_safe, exists_matching_iff table_safe,
    Options.exists_criteria_iff_of_isTyped (Options.isTyped_ofParams parsed) known]
  have resolved : (∀ column ∈ o.columns, IsSafe (resolve column)) ↔
      ∀ column ∈ o.columns, ∀ owner, owner? column = some owner → StartsWithLetter owner :=
    forall₂_congr fun column member => isSafe_resolve_iff (safe column member)
  rw [← resolved]
  simp only [Options.columns, List.forall_mem_append, List.forall_mem_map]
  rw [forall₂_and]
  constructor
  · rintro ⟨⟨⟨⟨comparable, conditions⟩, filter, filterOr, search⟩, order⟩, _⟩
    exact ⟨comparable, ⟨⟨⟨filter, filterOr⟩, conditions⟩, search⟩, order⟩
  · rintro ⟨comparable, ⟨⟨⟨filter, filterOr⟩, conditions⟩, search⟩, order⟩
    exact ⟨⟨⟨⟨comparable, conditions⟩, filter, filterOr, search⟩, order⟩,
      ⟨comparable, conditions⟩, filter, filterOr, search⟩

theorem ListRequest.builds_iff_comparable_for_distance :
    let p : Policy := { Policy.closed with filterColumns := ["distance_km"] }
    ∃ o, Options.ofParams [("filter[distance_km][gte]", "5")] = .ok o ∧ p.rejection? o = none ∧
      nameFault? "activities" = none ∧
      (((∃ s, (mk "activities" o []).rowsStatement = .ok s) ∧
          ∃ s, (mk "activities" o []).countStatement = .ok s) ↔
        (∀ c ∈ o.conditions, c.Comparable) ∧
          ∀ column ∈ o.columns, ∀ owner, owner? column = some owner → StartsWithLetter owner) := by
  intro p
  obtain ⟨o, parsed, accepted⟩ : ∃ o, Options.ofParams [("filter[distance_km][gte]", "5")] = .ok o ∧
      p.rejection? o = none := ⟨_, rfl, by decide +kernel⟩
  have named : nameFault? "activities" = none := by decide +kernel
  exact ⟨o, parsed, accepted, named, builds_iff_comparable parsed accepted named⟩

theorem ListRequest.accepted_null_bound_has_no_statement :
    ∃ o, Options.ofParams [("filter[user_id]", "1"), ("filter[distance_km][gt]", "null")] = .ok o ∧
      (Policy.activities Policy.defaultMaxPageSize).rejection? o = none ∧
      nameFault? "activities" = none ∧
      (mk "activities" o []).countStatement = .error (.scalarNeeded "gt" "distance_km") ∧
      (mk "activities" o []).rowsStatement = .error (.scalarNeeded "gt" "distance_km") :=
  ⟨_, rfl, by decide +kernel, by decide +kernel, rfl, rfl⟩

end ListQuery
