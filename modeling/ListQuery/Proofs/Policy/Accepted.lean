import ListQuery.Policy.Check
/-!
What a policy accepts. Each rule has a statement of its own, and a description passes the check
exactly when all of them hold.
-/
namespace ListQuery.Policy

open Text Column

/-- The rule for one condition. -/
structure AcceptsCondition (p : Policy) (c : Condition) : Prop where
  known : c.operator ∈ operatorNames
  column : allows p.filterColumns c.column = true
  operator : c.operator ∈ p.operatorsFor c.column

/-- The rules for a description, in the order in which they are tried. -/
structure Accepts (p : Policy) (o : Options) : Prop where
  names : ∀ column ∈ o.columns, IsSafe column
  filters : ∀ column ∈ o.filter.keys ++ o.filterOr.keys, allows p.filterColumns column = true
  searches : ∀ column ∈ o.search.keys, allows p.searchColumns column = true
  orders : ∀ clause ∈ o.order, allows p.orderColumns clause.column = true
  directions : ∀ clause ∈ o.order, isDirection clause.direction = true
  bounds : 1 ≤ o.page ∧ 1 ≤ o.limit ∧ o.limit ≤ p.maxPageSize
  scope : p.requireScope = true → p.scopeColumn ∈ o.filter.keys
  conditions : ∀ c ∈ o.conditions, p.AcceptsCondition c

theorem nameRejection?_eq_none_iff {column : String} :
    nameRejection? column = none ↔ IsSafe column := by
  rw [nameRejection?, Option.map_eq_none_iff, nameFault?_eq_none_iff]

theorem deniedColumn?_eq_none_iff {allowed : List String} {rejection : String → Rejection}
    {column : String} : deniedColumn? allowed rejection column = none ↔
      allows allowed column = true := by
  rw [deniedColumn?]
  split
  · next passes => exact iff_of_true rfl passes
  · next denied => exact iff_of_false nofun denied

theorem directionRejection?_eq_none_iff {clause : OrderClause} :
    directionRejection? clause = none ↔ isDirection clause.direction = true := by
  rw [directionRejection?]
  split
  · next passes => exact iff_of_true rfl passes
  · next denied => exact iff_of_false nofun denied

section
variable {p : Policy} {o : Options}

theorem boundRejection?_eq_none_iff :
    p.boundRejection? o = none ↔ 1 ≤ o.page ∧ 1 ≤ o.limit ∧ o.limit ≤ p.maxPageSize := by
  rw [boundRejection?]
  split
  · exact iff_of_false nofun (by omega)
  · split
    · exact iff_of_false nofun (by omega)
    · split
      · exact iff_of_false nofun (by omega)
      · exact iff_of_true rfl (by omega)

theorem scopeRejection?_eq_none_iff :
    p.scopeRejection? o = none ↔ (p.requireScope = true → p.scopeColumn ∈ o.filter.keys) := by
  rw [scopeRejection?]
  cases p.requireScope with
  | false => exact iff_of_true rfl nofun
  | true => by_cases present : p.scopeColumn ∈ o.filter.keys <;> simp [present]

theorem conditionRejection?_eq_none_iff {c : Condition} :
    p.conditionRejection? c = none ↔ p.AcceptsCondition c := by
  rw [conditionRejection?]
  by_cases known : c.operator ∈ operatorNames
  · by_cases column : allows p.filterColumns c.column = true
    · by_cases operator : c.operator ∈ p.operatorsFor c.column
      · exact iff_of_true (by simp [known, column, operator]) ⟨known, column, operator⟩
      · exact iff_of_false (by simp [known, column, operator]) fun rule => operator rule.operator
    · exact iff_of_false (by simp [known, column]) fun rule => column rule.column
  · exact iff_of_false (by simp [known]) fun rule => known rule.known

/-- Nothing is wrong with a description exactly when every rule holds. -/
theorem rejection?_eq_none_iff : p.rejection? o = none ↔ p.Accepts o := by
  simp only [rejection?, Option.orElse_eq_orElse, Option.orElse_eq_or, Option.or_eq_none_iff,
    List.findSome?_eq_none_iff, List.forall_mem_map, nameRejection?_eq_none_iff,
    deniedColumn?_eq_none_iff, directionRejection?_eq_none_iff, boundRejection?_eq_none_iff,
    scopeRejection?_eq_none_iff, conditionRejection?_eq_none_iff]
  constructor
  · rintro ⟨names, filters, searches, orders, directions, bounds, scope, conditions⟩
    exact ⟨names, filters, searches, orders, directions, bounds, scope, conditions⟩
  · intro rules
    exact ⟨rules.names, rules.filters, rules.searches, rules.orders, rules.directions,
      rules.bounds, rules.scope, rules.conditions⟩

end

end ListQuery.Policy
