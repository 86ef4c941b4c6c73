import ListQuery.Proofs.Distinct
import ListQuery.Proofs.OrderedMap
import ListQuery.Proofs.Query.Key
import ListQuery.Proofs.Value.Typed
import ListQuery.Query.Params
import Mathlib.Data.List.Nodup
/-!
Descriptions written as parameters. A description is a list of settings in the order of its fields.
Each setting is written as one parameter and read back on its own, and a description is what its
settings make of the empty one.
-/
namespace ListQuery

open Number Text

/-- An order with one more clause, which takes the place of an earlier one on its column. -/
def replaceClause (clauses : List OrderClause) (clause : OrderClause) : List OrderClause :=
  (clauses.filter fun old => old.column ≠ clause.column) ++ [clause]

theorem foldl_replaceClause {clauses more : List OrderClause}
    (nodup : ((clauses ++ more).map (·.column)).Nodup) :
    more.foldl replaceClause clauses = clauses ++ more := by
  induction more generalizing clauses with
  | nil => rw [List.foldl_nil, List.append_nil]
  | cons clause rest ih =>
    have fresh : ∀ old ∈ clauses, old.column ≠ clause.column := by
      rw [List.map_append, List.nodup_append] at nodup
      exact fun old member => nodup.2.2 _ (List.mem_map_of_mem member) _ List.mem_cons_self
    have longer : replaceClause clauses clause = clauses ++ [clause] := by
      rw [replaceClause, List.filter_eq_self.mpr]
      exact fun old member => decide_eq_true (fresh old member)
    rw [List.append_cons] at nodup
    rw [List.foldl_cons, longer, ih nodup, ← List.append_cons]

/-- One thing that a description says. -/
inductive Setting where
  | page (n : Int)
  | limit (n : Int)
  | condition (c : Condition)
  | filterOr (column : String) (value : Value)
  | search (column : String) (value : Value)
  | order (clause : OrderClause)

namespace Setting

def target : Setting → Target
  | .page _ => .page
  | .limit _ => .limit
  | .condition c => .condition c.column c.operator
  | .filterOr column _ => .filterOr column
  | .search column _ => .search column
  | .order clause => .order clause.column

def raw : Setting → String
  | .page n | .limit n => wholeText n
  | .condition c => c.value.typed
  | .filterOr _ value | .search _ value => value.typed
  | .order clause => clause.direction

/-- The parameter that a setting is written as. -/
def param (s : Setting) : String × String := (s.target.key, s.raw)

/-- A description with one more setting. -/
def apply (o : Options) : Setting → Options
  | .page n => { o with page := n }
  | .limit n => { o with limit := n }
  | .condition c => o.addCondition c
  | .filterOr column value => { o with filterOr := o.filterOr.insert column value }
  | .search column value => { o with search := o.search.insert column value }
  | .order clause => { o with order := replaceClause o.order clause }

/-- A setting that a parameter can say: the names fit between brackets, the numbers are positive and
short enough, the values can be typed, and the direction is trimmed and in capitals. -/
inductive IsExpressible : Setting → Prop where
  | page {n : Int} (positive : 1 ≤ n) (short : n < tenTo maxWholeDigits) : IsExpressible (.page n)
  | limit {n : Int} (positive : 1 ≤ n) (short : n < tenTo maxWholeDigits) :
    IsExpressible (.limit n)
  | condition {c : Condition} (column : IsLevel c.column) (operator : IsLevel c.operator)
    (value : c.value.IsTypeable) : IsExpressible (.condition c)
  | filterOr {column : String} {value : Value} (level : IsLevel column)
    (typeable : value.IsTypeable) : IsExpressible (.filterOr column value)
  | search {column : String} {value : Value} (level : IsLevel column)
    (typeable : value.IsTypeable) : IsExpressible (.search column value)
  | order {clause : OrderClause} (column : IsLevel clause.column)
    (direction : upper (String.ofList (trim clause.direction.toList)) = clause.direction) :
    IsExpressible (.order clause)

variable {s : Setting}

theorem IsExpressible.levels (expressible : s.IsExpressible) :
    ∀ level ∈ s.target.levels, IsLevel level := by
  cases expressible with
  | page | limit => exact fun _ member => nomatch member
  | condition column operator value =>
    exact List.forall_mem_cons.mpr ⟨column, List.forall_mem_singleton.mpr operator⟩
  | filterOr level _ | search level _ | order level _ => exact List.forall_mem_singleton.mpr level

end Setting

theorem positiveOr_wholeText {n fallback : Int} (positive : 1 ≤ n)
    (short : n < tenTo maxWholeDigits) : positiveOr fallback (wholeText n) = .ok n := by
  have small : n.natAbs < tenTo maxWholeDigits := by omega
  obtain ⟨w, read, value⟩ := exists_read?_wholeText small
  have above : 0 < n := by omega
  simp only [positiveOr, read, value, Except.map, if_pos above]

namespace Options

variable {o : Options}

/-- A written parameter is read as its setting, whatever was read before. -/
theorem addParam_param {s : Setting} (expressible : s.IsExpressible) (o : Options) :
    o.addParam s.param.1 s.param.2 = .ok (s.apply o) := by
  simp only [addParam, Setting.param, Target.ofKey?_key expressible.levels]
  cases expressible with
  | page positive short | limit positive short =>
    simp only [Setting.target, Setting.raw, enter, positiveOr_wholeText positive short]
    rfl
  | condition _ _ typeable | filterOr _ typeable | search _ typeable =>
    simp only [Setting.target, Setting.raw, enter, Value.ofTyped_typed typeable]
    rfl
  | order _ direction =>
    simp only [Setting.target, Setting.raw, enter, addOrder, direction]
    rfl

theorem foldlM_params {settings : List Setting} (each : ∀ s ∈ settings, s.IsExpressible)
    (o : Options) :
    (settings.map Setting.param).foldlM (fun o p => o.addParam p.1 p.2) o =
      .ok (settings.foldl Setting.apply o) := by
  induction settings generalizing o with
  | nil => rfl
  | cons s rest ih =>
    rw [List.forall_mem_cons] at each
    rw [List.map_cons, List.foldlM_cons, addParam_param each.1, List.foldl_cons, ← ih each.2]
    rfl

/-- What a description says, field by field. The filter is left out, since conditions enter it. -/
def settings (o : Options) : List Setting :=
  [.page o.page, .limit o.limit] ++ o.conditions.map Setting.condition ++
    o.filterOr.entries.map (fun e => .filterOr e.1 e.2) ++
    o.search.entries.map (fun e => .search e.1 e.2) ++ o.order.map Setting.order

/-- A description as parameters: `page`, `limit`, `filter[c][op]`, `filterOr[c]`, `search[c]` and
`order[c]`, each with its value as it is typed. -/
def params (o : Options) : List (String × String) := o.settings.map Setting.param

/-- The columns and values of equality conditions. -/
def equalities (cs : List Condition) : List (String × Value) :=
  (cs.filter fun c => c.operator = Operator.eq.name).map fun c => (c.column, c.value)

/-- A description that parameters can say. No two of its conditions compare the same column in the
same way, no two clauses order the same column, and the filter has the equality conditions in their
order. -/
structure IsExpressible (o : Options) : Prop where
  settings : ∀ s ∈ o.settings, s.IsExpressible
  conditions : (o.conditions.map fun c => (c.column, c.operator)).Nodup
  filter : o.filter.entries = equalities o.conditions
  order : (o.order.map (·.column)).Nodup

theorem addConditions_eq (o : Options) (cs : List Condition) : o.addConditions cs =
    { o with
      conditions := o.conditions ++ cs
      filter := (equalities cs).foldl (fun m e => m.insert e.1 e.2) o.filter } := by
  unfold addConditions
  induction cs generalizing o with
  | nil => simp [equalities]
  | cons c rest ih =>
    rw [List.foldl_cons, ih, addCondition]
    by_cases equality : c.operator = Operator.eq.name
    · simp [equalities, equality]
    · simp [equalities, equality]

section
variable (o : Options)

theorem foldl_condition (cs : List Condition) :
    cs.foldl (fun o c => Setting.apply o (.condition c)) o = o.addConditions cs := rfl

theorem foldl_filterOr (es : List (String × Value)) :
    es.foldl (fun o e => Setting.apply o (.filterOr e.1 e.2)) o =
      { o with filterOr := es.foldl (fun m e => m.insert e.1 e.2) o.filterOr } :=
  List.foldl_hom (fun m => { o with filterOr := m }) fun _ _ => rfl

theorem foldl_search (es : List (String × Value)) :
    es.foldl (fun o e => Setting.apply o (.search e.1 e.2)) o =
      { o with search := es.foldl (fun m e => m.insert e.1 e.2) o.search } :=
  List.foldl_hom (fun m => { o with search := m }) fun _ _ => rfl

theorem foldl_order (clauses : List OrderClause) :
    clauses.foldl (fun o clause => Setting.apply o (.order clause)) o =
      { o with order := clauses.foldl replaceClause o.order } :=
  List.foldl_hom (fun clauses => { o with order := clauses }) fun _ _ => rfl

end

/-- The settings of a description make it out of the empty one. -/
theorem foldl_settings (expressible : o.IsExpressible) :
    o.settings.foldl Setting.apply default = o := by
  have filter_made : (equalities o.conditions).foldl (fun m e => m.insert e.1 e.2) .empty =
      o.filter := by
    rw [← expressible.filter]
    exact o.filter.ofList_entries
  have filterOr_made : o.filterOr.entries.foldl (fun m e => m.insert e.1 e.2) .empty =
      o.filterOr := o.filterOr.ofList_entries
  have search_made : o.search.entries.foldl (fun m e => m.insert e.1 e.2) .empty = o.search :=
    o.search.ofList_entries
  have order_made : o.order.foldl replaceClause [] = o.order :=
    foldl_replaceClause expressible.order
  simp only [settings, List.foldl_append, List.foldl_map, List.foldl_cons, List.foldl_nil]
  rw [foldl_condition, addConditions_eq, foldl_filterOr, foldl_search, foldl_order]
  simp only [Setting.apply, default, List.nil_append, filter_made, filterOr_made, search_made,
    order_made]

/-- Targets of different fields have different names. -/
theorem nodup_append_of_name {front back : List Target} (name : String) (hf : front.Nodup)
    (hb : back.Nodup) (other : ∀ t ∈ front, t.name ≠ name) (named : ∀ t ∈ back, t.name = name) :
    (front ++ back).Nodup :=
  List.nodup_append.mpr ⟨hf, hb, fun t ht u hu same => other t ht (same ▸ named u hu)⟩

theorem nodup_targets (expressible : o.IsExpressible) :
    (o.settings.map Setting.target).Nodup := by
  have targets {α β : Type} {f : α → β} {g : β → Target} {l : List α} (injective : g.Injective)
      (nodup : (l.map f).Nodup) : (l.map (g ∘ f)).Nodup := by
    rw [← List.map_map]
    exact List.Nodup.map injective nodup
  have window : [Target.page, Target.limit].Nodup := by decide
  have conditions : (o.conditions.map fun c => Target.condition c.column c.operator).Nodup := by
    refine targets (g := fun p => Target.condition p.1 p.2) ?_ expressible.conditions
    intro p q same
    exact Prod.ext (Target.condition.inj same).1 (Target.condition.inj same).2
  have filterOr : (o.filterOr.entries.map fun e => Target.filterOr e.1).Nodup :=
    targets (fun _ _ => Target.filterOr.inj) o.filterOr.nodup
  have search : (o.search.entries.map fun e => Target.search e.1).Nodup :=
    targets (fun _ _ => Target.search.inj) o.search.nodup
  have order : (o.order.map fun clause => Target.order clause.column).Nodup :=
    targets (fun _ _ => Target.order.inj) expressible.order
  simp only [settings, List.map_append, List.map_map, List.map_cons, List.map_nil]
  refine nodup_append_of_name "order" (nodup_append_of_name "search" (nodup_append_of_name
    "filterOr" (nodup_append_of_name "filter" window conditions ?_ ?_) filterOr ?_ ?_) search
    ?_ ?_) order ?_ ?_
  all_goals
    simp only [List.forall_mem_append, List.forall_mem_map, List.forall_mem_cons]
    simp [Target.name, Setting.target]

theorem nodup_keys_params (expressible : o.IsExpressible) : (o.params.map (·.1)).Nodup := by
  have targets := nodup_targets expressible
  rw [params, List.map_map]
  rw [List.Nodup, List.pairwise_map] at targets ⊢
  refine targets.imp_of_mem fun {s t} hs ht differ same => differ ?_
  exact Target.key_injective (expressible.settings s hs).levels (expressible.settings t ht).levels
    same

/-- What a description is written as is read as this description. -/
theorem ofParams_params (expressible : o.IsExpressible) : ofParams o.params = .ok o := by
  rw [ofParams, firstByKey_of_nodup (nodup_keys_params expressible), params,
    foldlM_params expressible.settings, foldl_settings expressible]

/-- Runs of at least five kilometres with a card or a long run, the newest first. -/
def longRuns : Options :=
  ⟨2, 20, .ofList [("type", .text "run")],
    [⟨"type", "eq", .text "run"⟩, ⟨"distance_km", "gte", .int 5⟩],
    .ofList [("tags.name", .texts ["card", "long run"])], .ofList [("notes", .null)],
    [⟨"created_at", "DESC"⟩]⟩

theorem isExpressible_longRuns : longRuns.IsExpressible where
  settings := by
    have short {k : Nat} (small : k < tenTo 2) : k < tenTo maxWholeDigits :=
      Nat.lt_of_lt_of_le small (tenTo_le_tenTo (by decide))
    have page : (2 : Int) < tenTo maxWholeDigits := Int.ofNat_lt.mpr (short (by decide))
    have limit : (20 : Int) < tenTo maxWholeDigits := Int.ofNat_lt.mpr (short (by decide))
    have tags : ∀ item ∈ ["card", "long run"], Value.IsListItem item := by decide +kernel
    have listed : longRuns.settings = [.page 2, .limit 20,
        .condition ⟨"type", "eq", .text "run"⟩, .condition ⟨"distance_km", "gte", .int 5⟩,
        .filterOr "tags.name" (.texts ["card", "long run"]), .search "notes" .null,
        .order ⟨"created_at", "DESC"⟩] := rfl
    rw [listed]
    simp only [List.forall_mem_cons]
    exact ⟨.page (by decide) page, .limit (by decide) limit,
      .condition (by decide) (by decide) (.text rfl),
      .condition (by decide) (by decide) (.int (short (by decide))),
      .filterOr (by decide) (.texts tags), .search (by decide) .null,
      .order (by decide) (by decide +kernel), nofun⟩
  conditions := by decide
  filter := rfl
  order := by decide

theorem ofParams_params_for_long_runs :
    longRuns.IsExpressible ∧ ofParams longRuns.params = .ok longRuns :=
  ⟨isExpressible_longRuns, ofParams_params isExpressible_longRuns⟩

end Options

end ListQuery
