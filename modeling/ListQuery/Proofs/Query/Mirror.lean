import ListQuery.Proofs.OrderedMap
import ListQuery.Proofs.Query.Parsed
import ListQuery.Proofs.Query.RoundTrip
import ListQuery.Proofs.Steps
import ListQuery.Query.Build
/-!
Conditions and the filter side by side. A description may be read from parameters, get conditions
one by one or in lists, and be filtered by several values or by null, in any order. What a step
enters does not depend on what came before. The conditions are all that were entered, in order, and
the filter has for each column what was written on it last, in the order of the first writes. Of a
request every entry of the filter is a condition too.
-/
namespace ListQuery

open Number

/-- A step that adds conditions or writes to the filter. -/
inductive EntryStep where
  | param (key raw : String)
  | condition (column operator value : Value)
  | conditions (cs : List Condition)
  | compare (column : Value) (op : Operator) (value : Value)
  | oneOf (column : String) (values : Value)
  | isNull (column : String)

/-- What is entered for a column. -/
inductive Entry where
  | condition (c : Condition)
  | oneOf (column : String) (texts : List String)
  | isNull (column : String)

namespace Entry

def condition? : Entry → Option Condition
  | .condition c => some c
  | .oneOf _ _ | .isNull _ => none

/-- What an entry writes to the filter. Of the conditions only equalities are written. -/
def write? : Entry → Option (String × Value)
  | .condition c => if c.operator = Operator.eq.name then some (c.column, c.value) else none
  | .oneOf column texts => some (column, .texts texts)
  | .isNull column => some (column, .null)

/-- A condition that is no equality. -/
def IsOtherCondition (e : Entry) : Prop := ∃ c, e = .condition c ∧ c.operator ≠ Operator.eq.name

theorem filterMap_condition? (cs : List Condition) :
    (cs.map Entry.condition).filterMap condition? = cs := by
  rw [List.filterMap_map]
  exact List.filterMap_some

theorem filterMap_write? (cs : List Condition) :
    (cs.map Entry.condition).filterMap write? = Options.equalities cs := by
  induction cs with
  | nil => rfl
  | cons c rest ih =>
    rw [List.map_cons, List.filterMap_cons, ih, write?, Options.equalities, Options.equalities,
      List.filter_cons]
    by_cases equality : c.operator = Operator.eq.name <;> simp [equality]

theorem write?_condition_eq_some_iff {c : Condition} {written : String × Value} :
    (Entry.condition c).write? = some written ↔
      c.operator = Operator.eq.name ∧ (c.column, c.value) = written := by
  rw [write?, Option.ite_none_right_eq_some, Option.some_inj]

theorem IsOtherCondition.write?_eq_none {e : Entry} (other : e.IsOtherCondition) :
    e.write? = none := by
  obtain ⟨c, rfl, unequal⟩ := other
  rw [write?, if_neg unequal]

end Entry

namespace EntryStep

def apply (o : Options) : EntryStep → Except BuildFault Options
  | .param key raw => (o.addParam key raw).mapError .whole
  | .condition column operator value => (o.require column operator value).mapError .fields
  | .conditions cs => .ok (o.addConditions cs)
  | .compare column op value => (o.compare column op value).mapError .fields
  | .oneOf column values => o.oneOf column values
  | .isNull column => .ok (o.isNull column)

/-- What a step enters, if it succeeds. -/
def entries : EntryStep → List Entry
  | .param key raw =>
    match Target.ofKey? key, Value.ofTyped raw with
    | some (.condition column operator), .ok value => [.condition ⟨column, operator, value⟩]
    | _, _ => []
  | .condition column operator value =>
    match column.text?, operator.text? with
    | some column, some operator => [.condition ⟨column, operator, value⟩]
    | _, _ => []
  | .conditions cs => cs.map .condition
  | .compare column op value =>
    match column.text? with
    | some column => [.condition ⟨column, op.name, value.dated⟩]
    | none => []
  | .oneOf column values =>
    match (values.items?.getD []).mapM fun item => item.dated.display with
    | .ok texts => [.oneOf column texts]
    | .error _ => []
  | .isNull column => [.isNull column]

/-- A description made of the empty one. -/
def run (steps : List EntryStep) : Except BuildFault Options :=
  steps.foldlM apply Options.default

end EntryStep

/-- A description that was made of another one by entries, in order. -/
structure Options.Enters (o : Options) (entered : List Entry) (next : Options) : Prop where
  conditions : next.conditions = o.conditions ++ entered.filterMap Entry.condition?
  filter : next.filter =
    (entered.filterMap Entry.write?).foldl (fun m e => m.insert e.1 e.2) o.filter

namespace Options

variable {o next last : Options}

theorem Enters.trans {early more : List Entry} (first : o.Enters early next)
    (second : next.Enters more last) : o.Enters (early ++ more) last where
  conditions := by
    rw [second.conditions, first.conditions, List.filterMap_append, List.append_assoc]
  filter := by
    rw [second.filter, first.filter, List.filterMap_append, List.foldl_append]

theorem enters_addConditions (o : Options) (cs : List Condition) :
    o.Enters (cs.map .condition) (o.addConditions cs) where
  conditions := by rw [addConditions_eq, Entry.filterMap_condition?]
  filter := by rw [addConditions_eq, Entry.filterMap_write?]

theorem enters_addCondition (o : Options) (c : Condition) :
    o.Enters [.condition c] (o.addCondition c) := enters_addConditions o [c]

theorem enters_nothing (conditions : next.conditions = o.conditions)
    (filter : next.filter = o.filter) : o.Enters [] next :=
  ⟨by rw [conditions, List.filterMap_nil, List.append_nil], filter⟩

/-- Only parameters that compare enter something here. -/
theorem enters_enter {raw : String} {target : Target} (h : o.enter raw target = .ok next)
    (other : ∀ column operator, target ≠ .condition column operator) : o.Enters [] next := by
  cases target with
  | condition column operator => exact absurd rfl (other column operator)
  | order column =>
    cases h
    exact enters_nothing rfl rfl
  | page | limit | filterOr column | search column =>
    obtain ⟨_, _, rfl⟩ := map_eq_ok_iff.mp h
    exact enters_nothing rfl rfl

theorem enters_require {column operator value : Value}
    (h : o.require column operator value = .ok next) :
    ∃ c op, column.text? = some c ∧ operator.text? = some op ∧
      o.Enters [.condition ⟨c, op, value⟩] next := by
  obtain ⟨c, parts, rfl⟩ := map_eq_ok_iff.mp h
  unfold Condition.ofParts at parts
  split at parts
  · next name op given hname hop hvalue =>
    cases parts
    unfold Value.admissible? at hvalue
    split at hvalue
    · cases hvalue
      exact ⟨name, op, hname, hop, enters_addCondition o _⟩
    · cases hvalue
  · cases parts

end Options

namespace EntryStep

variable {o next : Options}

theorem enters_of_addParam {key raw : String} (h : o.addParam key raw = .ok next) :
    o.Enters (EntryStep.param key raw).entries next := by
  obtain ⟨unknown, rfl⟩ | ⟨target, known, entered⟩ := Options.addParam_eq_ok_iff.mp h
  · rw [entries, unknown]
    exact Options.enters_nothing rfl rfl
  · rw [entries, known]
    cases target with
    | condition column operator =>
      obtain ⟨v, typed, rfl⟩ := map_eq_ok_iff.mp entered
      rw [typed]
      exact Options.enters_addCondition o _
    | page | limit | filterOr column | search column | order column =>
      refine Options.enters_enter entered ?_
      rintro _ _ ⟨⟩

theorem enters_of_oneOf {column : String} {values : Value} (h : o.oneOf column values = .ok next) :
    o.Enters (EntryStep.oneOf column values).entries next := by
  rw [Options.oneOf] at h
  cases listed : values.items? with
  | none =>
    rw [listed] at h
    cases h
  | some items =>
    cases shown : items.mapM fun item => item.dated.display with
    | error fault =>
      simp only [listed, shown] at h
      cases h
    | ok texts =>
      have entered : (EntryStep.oneOf column values).entries = [.oneOf column texts] := by
        simp only [entries, listed, Option.getD_some, shown]
      simp only [listed, shown] at h
      cases h
      rw [entered]
      exact ⟨(List.append_nil _).symm, rfl⟩

/-- A step that succeeds enters its entries. -/
theorem enters_of_apply {step : EntryStep} (h : step.apply o = .ok next) :
    o.Enters step.entries next := by
  cases step with
  | param key raw => exact enters_of_addParam (mapError_eq_ok_iff.mp h)
  | condition column operator value =>
    obtain ⟨c, op, hc, hop, enters⟩ := Options.enters_require (mapError_eq_ok_iff.mp h)
    rw [entries, hc, hop]
    exact enters
  | conditions cs =>
    cases h
    exact Options.enters_addConditions o cs
  | compare column op value =>
    obtain ⟨c, _, hc, hop, enters⟩ := Options.enters_require (mapError_eq_ok_iff.mp h)
    cases hop
    rw [entries, hc]
    exact enters
  | oneOf column values => exact enters_of_oneOf h
  | isNull column =>
    cases h
    exact ⟨(List.append_nil _).symm, rfl⟩

/-- A run that succeeds enters the entries of its steps in order. -/
theorem enters_of_foldlM {steps : List EntryStep} (h : steps.foldlM apply o = .ok next) :
    o.Enters (steps.flatMap entries) next := by
  induction steps generalizing o with
  | nil =>
    cases h
    exact Options.enters_nothing rfl rfl
  | cons step rest ih =>
    rw [List.foldlM_cons] at h
    obtain ⟨mid, first, later⟩ := bind_eq_ok_iff.mp h
    exact (enters_of_apply first).trans (ih later)

/-- Reading parameters is a run over the first one of each key. -/
theorem run_params {params : List (String × String)} {o : Options}
    (parsed : Options.ofParams params = .ok o) :
    run ((firstByKey params).map fun p => .param p.1 p.2) = .ok o := by
  rw [Options.ofParams] at parsed
  rw [run, List.foldlM_map]
  generalize Options.default = start at parsed ⊢
  generalize firstByKey params = kept at parsed ⊢
  induction kept generalizing start with
  | nil =>
    cases parsed
    rfl
  | cons p rest ih =>
    rw [List.foldlM_cons] at parsed
    obtain ⟨mid, first, later⟩ := bind_eq_ok_iff.mp parsed
    exact bind_eq_ok_iff.mpr ⟨mid, mapError_eq_ok_iff.mpr first, ih mid later⟩

end EntryStep

/-- A description whose conditions are all conditions that were entered, in order. Its filter has
the columns that were written on, in the order of the first writes, each with what was written on
it last. -/
structure Options.Mirrors (o : Options) (entered : List Entry) : Prop where
  conditions : o.conditions = entered.filterMap Entry.condition?
  columns : o.filter.keys = distinct ((entered.filterMap Entry.write?).map (·.1))
  values : ∀ column,
    o.filter.get? column = (entered.filterMap Entry.write?).reverse.lookup column

namespace EntryStep

variable {steps : List EntryStep} {o : Options}

theorem filter_of_run (h : run steps = .ok o) :
    o.filter = .ofList ((steps.flatMap entries).filterMap Entry.write?) :=
  (enters_of_foldlM h).filter

theorem mirrors_of_run (h : run steps = .ok o) : o.Mirrors (steps.flatMap entries) := by
  refine ⟨(enters_of_foldlM h).conditions, ?_, fun column => ?_⟩
  · rw [filter_of_run h, OrderedMap.keys_ofList]
  · rw [filter_of_run h, OrderedMap.get?_ofList]

/-- A parameter enters nothing but a condition. -/
theorem exists_condition_of_param {key raw : String} {e : Entry}
    (entered : e ∈ (EntryStep.param key raw).entries) : ∃ c, e = .condition c := by
  rw [entries] at entered
  split at entered
  · exact ⟨_, List.mem_singleton.mp entered⟩
  · cases entered

end EntryStep

namespace Options

/-- Every entry of the filter is an equality condition with the same value. -/
def IsMirrored (o : Options) : Prop :=
  ∀ e ∈ o.filter.entries, (⟨e.1, Operator.eq.name, e.2⟩ : Condition) ∈ o.conditions

/-- Parameters write to the filter only what they enter as conditions. -/
theorem isMirrored_ofParams {params : List (String × String)} {o : Options}
    (parsed : ofParams params = .ok o) : o.IsMirrored := by
  have run := EntryStep.run_params parsed
  intro e member
  rw [EntryStep.filter_of_run run] at member
  obtain ⟨entry, entered, written⟩ := List.mem_filterMap.mp (OrderedMap.mem_of_mem_ofList member)
  obtain ⟨step, listed, inside⟩ := List.mem_flatMap.mp entered
  obtain ⟨p, _, rfl⟩ := List.mem_map.mp listed
  obtain ⟨c, rfl⟩ := EntryStep.exists_condition_of_param inside
  obtain ⟨equality, same⟩ := Entry.write?_condition_eq_some_iff.mp written
  rw [(EntryStep.mirrors_of_run run).conditions]
  exact List.mem_filterMap.mpr ⟨_, entered, by rw [← same, ← equality]; rfl⟩

end Options

/-- After every step of a run the conditions and the filter mirror what was entered so far, and a
step that enters no equality, no list and no null leaves the filter as it was. -/
theorem Options.run_mirrors_entries {steps : List EntryStep} {o : Options}
    (h : EntryStep.run steps = .ok o) :
    (∀ before after, steps = before ++ after →
      ∃ p, EntryStep.run before = .ok p ∧ p.Mirrors (before.flatMap EntryStep.entries)) ∧
    ∀ before step after, steps = before ++ step :: after →
      (∀ e ∈ step.entries, e.IsOtherCondition) →
        ∃ p next, EntryStep.run before = .ok p ∧ step.apply p = .ok next ∧
          next.filter = p.filter := by
  constructor
  · rintro before after rfl
    rw [EntryStep.run, List.foldlM_append] at h
    obtain ⟨p, first, _⟩ := bind_eq_ok_iff.mp h
    exact ⟨p, first, EntryStep.mirrors_of_run first⟩
  · rintro before step after rfl others
    rw [EntryStep.run, List.foldlM_append] at h
    obtain ⟨p, first, later⟩ := bind_eq_ok_iff.mp h
    rw [List.foldlM_cons] at later
    obtain ⟨next, entered, _⟩ := bind_eq_ok_iff.mp later
    have unwritten : step.entries.filterMap Entry.write? = [] :=
      List.filterMap_eq_nil_iff.mpr fun e member => (others e member).write?_eq_none
    refine ⟨p, next, first, entered, ?_⟩
    rw [(EntryStep.enters_of_apply entered).filter, unwritten, List.foldl_nil]

/-- Runs and rides of one user, the type given three times and once with an empty group in its
key. -/
def sharedRides : List EntryStep :=
  [.param "filter[type]" "run", .param "filter[][type]" "walk",
   .compare (.text "distance_km") .gte (.int 5), .conditions [⟨"user_id", "eq", .int 7⟩],
   .oneOf "type" (.texts ["run", "ride"]), .isNull "deleted_at"]

theorem Options.run_mirrors_entries_for_shared_rides :
    ∃ o, EntryStep.run sharedRides = .ok o ∧
      o.conditions = [⟨"type", "eq", .text "run"⟩, ⟨"type", "eq", .text "walk"⟩,
        ⟨"distance_km", "gte", .int 5⟩, ⟨"user_id", "eq", .int 7⟩] ∧
      o.filter.keys = ["type", "user_id", "deleted_at"] ∧
      o.filter.get? "type" = some (.texts ["run", "ride"]) := by
  obtain ⟨o, made⟩ : ∃ o, EntryStep.run sharedRides = .ok o := ⟨_, rfl⟩
  obtain ⟨p, again, mirrors⟩ :=
    (run_mirrors_entries made).1 sharedRides [] (List.append_nil _).symm
  cases made.symm.trans again
  exact ⟨o, made, mirrors.conditions, mirrors.columns, mirrors.values "type"⟩

end ListQuery
