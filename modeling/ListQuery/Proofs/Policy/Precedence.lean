import ListQuery.Proofs.Policy.Accepted
/-!
Which offence a check reports. The rules are tried one after the other, each over the description
from front to back, and the report is about the first item that breaks the first rule that fails.
The columns of the order are a rule of their own in front of its directions.
-/
namespace ListQuery.Policy

open Text Column

/-- The first of several items that lacks a property. -/
def IsFirstWithout {α : Type} (P : α → Prop) (items : List α) (a : α) : Prop :=
  ∃ before after, items = before ++ a :: after ∧ (∀ b ∈ before, P b) ∧ ¬P a

theorem IsFirstWithout.lacks {α : Type} {P : α → Prop} {items : List α} {a : α}
    (first : IsFirstWithout P items a) : ¬P a := by
  obtain ⟨_, _, _, _, lacks⟩ := first
  exact lacks

/-- A column is listed if one of the names is the same in lower case. -/
def IsListed (names : List String) (column : String) : Prop :=
  ∃ name ∈ names, lower name = lower column

def IsDirection (direction : String) : Prop := upper direction = "ASC" ∨ upper direction = "DESC"

inductive Rule where
  | names
  | filters
  | searches
  | orders
  | directions
  | bounds
  | scope
  | conditions
  deriving DecidableEq, Repr

/-- The rules in the order in which they are tried. -/
def Rule.all : List Rule :=
  [.names, .filters, .searches, .orders, .directions, .bounds, .scope, .conditions]

section
variable (p : Policy) (o : Options)

def ConditionHolds (c : Condition) : Prop :=
  c.operator ∈ operatorNames ∧ IsListed p.filterColumns c.column ∧
    c.operator ∈ p.operatorsFor c.column

/-- What is reported of a condition: its operator if nobody knows it, else its column, else that the
column does not allow the operator. -/
def ConditionOffends (c : Condition) (r : Rejection) : Prop :=
  (c.operator ∉ operatorNames ∧ r = .unknownOperator c.column c.operator) ∨
  (c.operator ∈ operatorNames ∧ ¬IsListed p.filterColumns c.column ∧ r = .filterColumn c.column) ∨
  (c.operator ∈ operatorNames ∧ IsListed p.filterColumns c.column ∧
    c.operator ∉ p.operatorsFor c.column ∧
    r = .operatorDenied c.column c.operator (p.operatorsFor c.column))

namespace Rule

def Holds : Rule → Prop
  | names => ∀ column ∈ o.columns, IsSafe column
  | filters => ∀ column ∈ o.filter.keys ++ o.filterOr.keys, IsListed p.filterColumns column
  | searches => ∀ column ∈ o.search.keys, IsListed p.searchColumns column
  | orders => ∀ clause ∈ o.order, IsListed p.orderColumns clause.column
  | directions => ∀ clause ∈ o.order, IsDirection clause.direction
  | bounds => 1 ≤ o.page ∧ 1 ≤ o.limit ∧ o.limit ≤ p.maxPageSize
  | scope => p.requireScope = true → p.scopeColumn ∈ o.filter.keys
  | conditions => ∀ c ∈ o.conditions, p.ConditionHolds c

/-- What a rule that fails reports. -/
def Offends : Rule → Rejection → Prop
  | names, r => ∃ column fault, IsFirstWithout IsSafe o.columns column ∧
      nameFault? column = some fault ∧ r = .name column fault
  | filters, r => ∃ column, IsFirstWithout (IsListed p.filterColumns)
      (o.filter.keys ++ o.filterOr.keys) column ∧ r = .filterColumn column
  | searches, r => ∃ column, IsFirstWithout (IsListed p.searchColumns) o.search.keys column ∧
      r = .searchColumn column
  | orders, r => ∃ clause,
      IsFirstWithout (fun c => IsListed p.orderColumns c.column) o.order clause ∧
      r = .orderColumn clause.column
  | directions, r => ∃ clause, IsFirstWithout (fun c => IsDirection c.direction) o.order clause ∧
      r = .orderDirection clause.column clause.direction
  | bounds, r => (o.page < 1 ∧ r = .below .page) ∨
      (1 ≤ o.page ∧ o.limit < 1 ∧ r = .below .limit) ∨
      (1 ≤ o.page ∧ 1 ≤ o.limit ∧ p.maxPageSize < o.limit ∧ r = .limitAbove p.maxPageSize)
  | scope, r => p.requireScope = true ∧ p.scopeColumn ∉ o.filter.keys ∧
      r = .scopeMissing p.scopeColumn
  | conditions, r => ∃ c, IsFirstWithout p.ConditionHolds o.conditions c ∧ p.ConditionOffends c r

/-- The part of the check that a rule is. -/
def offence? : Rule → Option Rejection
  | names => o.columns.findSome? nameRejection?
  | filters => (o.filter.keys ++ o.filterOr.keys).findSome?
      (deniedColumn? p.filterColumns .filterColumn)
  | searches => o.search.keys.findSome? (deniedColumn? p.searchColumns .searchColumn)
  | orders => (o.order.map (·.column)).findSome? (deniedColumn? p.orderColumns .orderColumn)
  | directions => o.order.findSome? directionRejection?
  | bounds => p.boundRejection? o
  | scope => p.scopeRejection? o
  | conditions => o.conditions.findSome? p.conditionRejection?

end Rule

end

theorem allows_iff_isListed {names : List String} {column : String} :
    allows names column = true ↔ IsListed names column := by
  simp [allows, sameName, IsListed]

theorem isDirection_iff {direction : String} :
    isDirection direction = true ↔ IsDirection direction := by
  simp [isDirection, IsDirection]

/-- A search for an offence stops at the first item that lacks what the search is about. -/
theorem findSome?_eq_some_iff_isFirstWithout {α : Type} {P : α → Prop} {f : α → Option Rejection}
    (passes : ∀ a, f a = none ↔ P a) {items : List α} {r : Rejection} :
    items.findSome? f = some r ↔ ∃ a, IsFirstWithout P items a ∧ f a = some r := by
  rw [List.findSome?_eq_some_iff]
  constructor
  · rintro ⟨before, a, after, split, found, clean⟩
    refine ⟨a, ⟨before, after, split, fun b member => (passes b).mp (clean b member), ?_⟩, found⟩
    rw [← passes, found]
    nofun
  · rintro ⟨a, ⟨before, after, split, clean, _⟩, found⟩
    exact ⟨before, a, after, split, found, fun b member => (passes b).mpr (clean b member)⟩

theorem nameRejection?_eq_some_iff {column : String} {r : Rejection} :
    nameRejection? column = some r ↔
      ∃ fault, nameFault? column = some fault ∧ r = .name column fault := by
  rw [nameRejection?, Option.map_eq_some_iff]
  simp only [eq_comm]

section
variable {p : Policy} {o : Options} {r : Rejection}

theorem deniedColumn?_eq_none_iff_isListed {allowed : List String}
    {rejection : String → Rejection} (column : String) :
    deniedColumn? allowed rejection column = none ↔ IsListed allowed column :=
  deniedColumn?_eq_none_iff.trans allows_iff_isListed

theorem deniedColumn?_eq_some_iff {allowed : List String} {rejection : String → Rejection}
    {column : String} (denied : ¬IsListed allowed column) :
    deniedColumn? allowed rejection column = some r ↔ r = rejection column := by
  rw [← allows_iff_isListed] at denied
  rw [deniedColumn?, if_neg denied, Option.some_inj, eq_comm]

theorem directionRejection?_eq_some_iff {clause : OrderClause}
    (denied : ¬IsDirection clause.direction) : directionRejection? clause = some r ↔
      r = .orderDirection clause.column clause.direction := by
  rw [← isDirection_iff] at denied
  rw [directionRejection?, if_neg denied, Option.some_inj, eq_comm]

theorem conditionHolds_iff {c : Condition} : p.AcceptsCondition c ↔ p.ConditionHolds c := by
  rw [ConditionHolds, ← allows_iff_isListed]
  exact ⟨fun rule => ⟨rule.known, rule.column, rule.operator⟩,
    fun ⟨known, column, operator⟩ => ⟨known, column, operator⟩⟩

theorem conditionRejection?_eq_some_iff {c : Condition} :
    p.conditionRejection? c = some r ↔ p.ConditionOffends c r := by
  have reports (x : Rejection) : some x = some r ↔ r = x := by rw [Option.some_inj, eq_comm]
  rw [conditionRejection?, ConditionOffends, ← allows_iff_isListed]
  by_cases known : c.operator ∈ operatorNames
  · by_cases column : allows p.filterColumns c.column = true
    · by_cases operator : c.operator ∈ p.operatorsFor c.column
      · simp [known, column, operator]
      · simp [known, column, operator, reports]
    · simp [known, column, reports]
  · simp [known, reports]

theorem boundRejection?_eq_some_iff :
    p.boundRejection? o = some r ↔ Rule.bounds.Offends p o r := by
  have reports (x : Rejection) : some x = some r ↔ r = x := by rw [Option.some_inj, eq_comm]
  rw [boundRejection?, Rule.Offends, Int.not_lt.symm, Int.not_lt.symm]
  by_cases page : o.page < 1
  · simp [page, reports]
  · by_cases limit : o.limit < 1
    · simp [page, limit, reports]
    · by_cases size : p.maxPageSize < o.limit
      · simp [page, limit, size, reports]
      · simp [page, limit, size]

theorem scopeRejection?_eq_some_iff :
    p.scopeRejection? o = some r ↔ Rule.scope.Offends p o r := by
  have reports (x : Rejection) : some x = some r ↔ r = x := by rw [Option.some_inj, eq_comm]
  rw [scopeRejection?, Rule.Offends]
  by_cases asked : p.requireScope = true
  · by_cases present : p.scopeColumn ∈ o.filter.keys
    · simp [asked, present]
    · simp [asked, present, reports]
  · simp [asked]

end

namespace Rule

theorem mem_all (rule : Rule) : rule ∈ all := by cases rule <;> decide

variable {p : Policy} {o : Options} {rule : Rule} {r : Rejection}

theorem offence?_eq_none_iff : rule.offence? p o = none ↔ rule.Holds p o := by
  cases rule with
  | names => simp only [offence?, Holds, List.findSome?_eq_none_iff, nameRejection?_eq_none_iff]
  | filters | searches =>
    simp only [offence?, Holds, List.findSome?_eq_none_iff, deniedColumn?_eq_none_iff_isListed]
  | orders =>
    simp only [offence?, Holds, List.findSome?_eq_none_iff, List.forall_mem_map,
      deniedColumn?_eq_none_iff_isListed]
  | directions =>
    simp only [offence?, Holds, List.findSome?_eq_none_iff, directionRejection?_eq_none_iff,
      isDirection_iff]
  | bounds => exact boundRejection?_eq_none_iff
  | scope => exact scopeRejection?_eq_none_iff
  | conditions =>
    simp only [offence?, Holds, List.findSome?_eq_none_iff, conditionRejection?_eq_none_iff,
      conditionHolds_iff]

theorem offence?_eq_some_iff : rule.offence? p o = some r ↔ rule.Offends p o r := by
  cases rule with
  | names =>
    rw [offence?, findSome?_eq_some_iff_isFirstWithout fun _ => nameRejection?_eq_none_iff, Offends]
    simp only [nameRejection?_eq_some_iff, exists_and_left]
  | filters | searches =>
    rw [offence?, findSome?_eq_some_iff_isFirstWithout deniedColumn?_eq_none_iff_isListed, Offends]
    exact exists_congr fun column => and_congr_right fun first =>
      deniedColumn?_eq_some_iff first.lacks
  | orders =>
    have passes (clause : OrderClause) :
        (deniedColumn? p.orderColumns .orderColumn ∘ OrderClause.column) clause = none ↔
          IsListed p.orderColumns clause.column := deniedColumn?_eq_none_iff_isListed _
    rw [offence?, List.findSome?_map, findSome?_eq_some_iff_isFirstWithout passes, Offends]
    exact exists_congr fun clause => and_congr_right fun first =>
      deniedColumn?_eq_some_iff first.lacks
  | directions =>
    have passes (clause : OrderClause) :
        directionRejection? clause = none ↔ IsDirection clause.direction :=
      directionRejection?_eq_none_iff.trans isDirection_iff
    rw [offence?, findSome?_eq_some_iff_isFirstWithout passes, Offends]
    exact exists_congr fun clause => and_congr_right fun first =>
      directionRejection?_eq_some_iff first.lacks
  | bounds => exact boundRejection?_eq_some_iff
  | scope => exact scopeRejection?_eq_some_iff
  | conditions =>
    rw [offence?, findSome?_eq_some_iff_isFirstWithout fun _ =>
      conditionRejection?_eq_none_iff.trans conditionHolds_iff, Offends]
    simp only [conditionRejection?_eq_some_iff]

end Rule

/-- The check tries one rule after the other. -/
theorem rejection?_eq_findSome? (p : Policy) (o : Options) :
    p.rejection? o = Rule.all.findSome? (Rule.offence? p o) := by
  have trying (rule : Rule) (rest : List Rule) : (rule :: rest).findSome? (Rule.offence? p o) =
      (rule.offence? p o <|> rest.findSome? (Rule.offence? p o)) := by
    rw [List.findSome?_cons]
    cases rule.offence? p o <;> rfl
  simp only [rejection?, Rule.all, trying, Rule.offence?, List.findSome?_nil]
  simp

/-- A description passes exactly when every rule holds, and otherwise the report is about the first
item that breaks the first rule that fails. -/
theorem reports_first_offence (p : Policy) (o : Options) :
    (p.rejection? o = none ↔ ∀ rule : Rule, rule.Holds p o) ∧
      ∀ r, p.rejection? o = some r ↔
        ∃ before rule after, Rule.all = before ++ rule :: after ∧
          (∀ earlier ∈ before, earlier.Holds p o) ∧ rule.Offends p o r := by
  rw [rejection?_eq_findSome?]
  constructor
  · rw [List.findSome?_eq_none_iff]
    simp only [Rule.offence?_eq_none_iff, Rule.mem_all, forall_const]
  · intro r
    rw [List.findSome?_eq_some_iff]
    simp only [Rule.offence?_eq_none_iff, Rule.offence?_eq_some_iff, and_comm]

/-- Of two clauses the second one is reported for its column, although the first one has a direction
that nobody knows. -/
theorem column_reported_before_direction :
    let p : Policy := { closed with orderColumns := ["created_at"] }
    let o : Options := { Options.default with
      order := [⟨"created_at", "sideways"⟩, ⟨"password", "ASC"⟩] }
    p.checked = .ok p ∧ (∀ rule ∈ [Rule.names, .filters, .searches], rule.Holds p o) ∧
      IsFirstWithout (fun c => IsListed p.orderColumns c.column ∧ IsDirection c.direction) o.order
        ⟨"created_at", "sideways"⟩ ∧
      ∃ r, p.rejection? o = some r ∧ r.column? = some "password" := by
  intro p o
  refine ⟨rfl, ?_, ⟨[], [⟨"password", "ASC"⟩], rfl, nofun, fun both => ?_⟩,
    .orderColumn "password", by decide +kernel, rfl⟩
  · have safe : Rule.names.Holds p o := by
      change ∀ column ∈ o.columns, IsSafe column
      decide +kernel
    exact List.forall_mem_cons.mpr
      ⟨safe, List.forall_mem_cons.mpr ⟨nofun, List.forall_mem_singleton.mpr nofun⟩⟩
  · have direction := isDirection_iff.mpr both.2
    exact absurd direction (by decide +kernel)

end ListQuery.Policy
