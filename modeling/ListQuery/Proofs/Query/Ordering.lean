import ListQuery.Proofs.Query.Readable
import ListQuery.Proofs.Query.RoundTrip
import ListQuery.Proofs.Steps
import ListQuery.Query.Build
/-!
Order clauses over whole runs. A description is read from a request, perhaps an empty one, and is
then ordered further in code. Of the calls on one column only the last one counts, and it counts at
its own place. The order that results can be given as a map and read back.
-/
namespace ListQuery

open Number Text

/-- Of the calls on a column the last one, in the order of these. -/
def lastOnColumn : List OrderClause → List OrderClause
  | [] => []
  | call :: later =>
    if call.column ∈ later.map (·.column) then lastOnColumn later else call :: lastOnColumn later

/-- A call as it is entered. -/
def OrderClause.entered (call : OrderClause) : OrderClause := ⟨call.column, upper call.direction⟩

section
variable (calls : List OrderClause)

theorem mem_columns_lastOnColumn {column : String} :
    column ∈ (lastOnColumn calls).map (·.column) ↔ column ∈ calls.map (·.column) := by
  induction calls with
  | nil => rfl
  | cons call later ih =>
    rw [lastOnColumn]
    split
    · next again =>
      rw [ih, List.map_cons, List.mem_cons]
      exact ⟨.inr, fun either => either.elim (fun same => same ▸ again) id⟩
    · rw [List.map_cons, List.mem_cons, ih, List.map_cons, List.mem_cons]

theorem nodup_columns_lastOnColumn : ((lastOnColumn calls).map (·.column)).Nodup := by
  induction calls with
  | nil => exact List.nodup_nil
  | cons call later ih =>
    rw [lastOnColumn]
    split
    · exact ih
    · next fresh =>
      rw [List.map_cons, List.nodup_cons, mem_columns_lastOnColumn]
      exact ⟨fresh, ih⟩

theorem lastOnColumn_map_entered : lastOnColumn (calls.map OrderClause.entered) =
    (lastOnColumn calls).map OrderClause.entered := by
  have columns (later : List OrderClause) :
      (later.map OrderClause.entered).map (·.column) = later.map (·.column) := by
    rw [List.map_map]
    rfl
  induction calls with
  | nil => rfl
  | cons call later ih =>
    rw [List.map_cons, lastOnColumn, lastOnColumn, columns, ih]
    by_cases again : call.column ∈ later.map (·.column)
    · rw [if_pos (show call.entered.column ∈ _ from again), if_pos again]
    · rw [if_neg (show call.entered.column ∉ _ from again), if_neg again, List.map_cons]

end

/-- Calls drop the clauses on their columns and come behind the others. -/
theorem foldl_replaceClause_eq (clauses calls : List OrderClause) :
    calls.foldl replaceClause clauses =
      (clauses.filter fun old => old.column ∉ calls.map (·.column)) ++ lastOnColumn calls := by
  induction calls generalizing clauses with
  | nil => simp [lastOnColumn]
  | cons call later ih =>
    have both : ∀ old ∈ clauses,
        (decide (old.column ∉ later.map (·.column)) && decide (old.column ≠ call.column)) =
          decide (old.column ∉ (call :: later).map (·.column)) := by
      intro old _
      rw [← Bool.decide_and, decide_eq_decide, List.map_cons, List.mem_cons, not_or, and_comm]
    rw [List.foldl_cons, ih, replaceClause, List.filter_append, List.filter_filter,
      List.filter_congr both, List.append_assoc, lastOnColumn]
    by_cases again : call.column ∈ later.map (·.column)
    · rw [if_pos again, List.filter_singleton, decide_eq_false (not_not.mpr again)]
      rfl
    · rw [if_neg again, List.filter_singleton, decide_eq_true again]
      rfl

/-- A call in code, on the description itself or on one under construction. -/
inductive OrderCall where
  | add (column direction : String)
  | orderBy (column direction : String)

namespace OrderCall

def apply (o : Options) : OrderCall → Options
  | .add column direction => o.addOrder column direction
  | .orderBy column direction => (o.orderBy (.text column) (.text direction)).1

def clause : OrderCall → OrderClause
  | .add column direction | .orderBy column direction => ⟨column, direction⟩

theorem apply_eq (call : OrderCall) (o : Options) :
    call.apply o = { o with order := replaceClause o.order call.clause.entered } := by
  cases call <;> rfl

end OrderCall

/-- The call that is made for a parameter. -/
def orderCall? (p : String × String) : Option OrderClause :=
  match Target.ofKey? p.1 with
  | some (.order column) => some ⟨column, String.ofList (trim p.2.toList)⟩
  | _ => none

/-- A request and the calls that follow it. -/
structure OrderRun where
  source : ParamSource
  calls : List OrderCall

namespace OrderRun

def options (run : OrderRun) : Except WholeFault Options :=
  run.source.options.map fun o => run.calls.foldl OrderCall.apply o

/-- All calls of a run with their directions as they are given. -/
def clauses (run : OrderRun) : List OrderClause :=
  (firstByKey run.source.params).filterMap orderCall? ++ run.calls.map OrderCall.clause

end OrderRun

namespace Options

variable {o next : Options}

/-- A parameter orders by its call, if it makes one, and otherwise leaves the order as it is. -/
theorem order_addParam {p : String × String} (read : o.addParam p.1 p.2 = .ok next) :
    next.order = ((orderCall? p).toList.map OrderClause.entered).foldl replaceClause o.order := by
  obtain ⟨unknown, rfl⟩ | ⟨target, known, entered⟩ := addParam_eq_ok_iff.mp read
  · rw [orderCall?, unknown]
    rfl
  · rw [orderCall?, known]
    cases target with
    | order column =>
      cases entered
      rfl
    | page | limit | condition column operator | filterOr column | search column =>
      obtain ⟨_, _, rfl⟩ := map_eq_ok_iff.mp entered
      rfl

theorem order_foldlM {params : List (String × String)}
    (read : params.foldlM (fun o p => o.addParam p.1 p.2) o = .ok next) :
    next.order = ((params.filterMap orderCall?).map OrderClause.entered).foldl replaceClause
      o.order := by
  induction params generalizing o with
  | nil =>
    cases read
    rfl
  | cons p rest ih =>
    rw [List.foldlM_cons] at read
    obtain ⟨mid, first, later⟩ := bind_eq_ok_iff.mp read
    rw [ih later, order_addParam first, ← List.foldl_append, ← List.map_append,
      List.filterMap_cons]
    cases orderCall? p <;> rfl

theorem order_foldl_calls (o : Options) (calls : List OrderCall) :
    (calls.foldl OrderCall.apply o).order =
      ((calls.map OrderCall.clause).map OrderClause.entered).foldl replaceClause o.order := by
  induction calls generalizing o with
  | nil => rfl
  | cons call rest ih =>
    rw [List.foldl_cons, ih, OrderCall.apply_eq]
    rfl

theorem entries_orderMap (nodup : (o.order.map (·.column)).Nodup) :
    o.orderMap.entries = o.order.map fun clause => (clause.column, clause.direction) := by
  refine OrderedMap.entries_foldl_insert ?_
  rw [OrderedMap.entries_empty, List.nil_append, List.map_map]
  exact nodup

end Options

/-- A map from columns to directions is read as the clauses that it lists. -/
theorem order?_of_entries (clauses : List OrderClause) :
    (Value.object (clauses.map fun clause => (clause.column, .text clause.direction))).order? =
      some clauses := by
  rw [Value.order?]
  induction clauses with
  | nil => rfl
  | cons clause rest ih =>
    rw [List.map_cons, List.mapM_cons, ih]
    rfl

theorem Options.ofFields_order {given : Value} {clauses : List OrderClause}
    (read : given.order? = some clauses) :
    Options.ofFields [("order", given)] = .ok { Options.default with order := clauses } := by
  have absent {name : String} (other : name ≠ "order") : [("order", given)].lookup name = none := by
    rw [lookup_cons_eq_ite, if_neg other, List.lookup_nil]
  have present : [("order", given)].lookup "order" = some given := by
    rw [lookup_cons_eq_ite, if_pos rfl]
  simp [Options.ofFields, nameGiven, readField?, absent, present, read, Options.default]

/-- A description whose order is what the last call on each column made of it. The order has one
clause for each column that was named, and it goes through the map of its columns unchanged. -/
structure Options.OrdersLast (o : Options) (calls : List OrderClause) : Prop where
  order : o.order = (lastOnColumn calls).map OrderClause.entered
  distinct : (o.order.map (·.column)).Nodup
  columns : ∀ column, column ∈ o.order.map (·.column) ↔ column ∈ calls.map (·.column)
  pairs : o.orderMap.entries = o.order.map fun clause => (clause.column, clause.direction)
  again : Options.ofFields
    [("order", .object (o.orderMap.entries.map fun entry => (entry.1, .text entry.2)))] =
      .ok { Options.default with order := o.order }

theorem Options.ordersLast_of_order {o : Options} {calls : List OrderClause}
    (order : o.order = (lastOnColumn calls).map OrderClause.entered) : o.OrdersLast calls := by
  have columns : o.order.map (·.column) = (lastOnColumn calls).map (·.column) := by
    rw [order, List.map_map]
    rfl
  have distinct : (o.order.map (·.column)).Nodup := columns ▸ nodup_columns_lastOnColumn calls
  have pairs := Options.entries_orderMap distinct
  refine ⟨order, distinct, fun column => ?_, pairs, Options.ofFields_order ?_⟩
  · rw [columns, mem_columns_lastOnColumn]
  · rw [pairs, List.map_map]
    exact order?_of_entries o.order

/-- After a run the order is what its calls made of it. -/
theorem OrderRun.ordersLast {run : OrderRun} {o : Options} (made : run.options = .ok o) :
    o.OrdersLast run.clauses := by
  obtain ⟨read, parsed, rfl⟩ := map_eq_ok_iff.mp made
  rw [ParamSource.options_eq] at parsed
  refine Options.ordersLast_of_order ?_
  rw [Options.order_foldl_calls, Options.order_foldlM parsed, ← List.foldl_append,
    ← List.map_append, foldl_replaceClause_eq, lastOnColumn_map_entered]
  rfl

end ListQuery
