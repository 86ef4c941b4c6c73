import ListQuery.Proofs.Number.Whole
import ListQuery.Proofs.OrderedMap
import ListQuery.Proofs.Steps
import ListQuery.Query.Params
/-!
Descriptions that come from a request, whatever its parameters are. The values are null, scalars or
lists of texts, and the whole numbers short enough to be written; the page and the limit are
positive.
-/
namespace ListQuery

open Number Text

namespace Options

/-- A parameter does nothing, or its value is entered for what its key is about. -/
theorem addParam_eq_ok_iff {o next : Options} {key raw : String} :
    o.addParam key raw = .ok next ↔ Target.ofKey? key = none ∧ next = o ∨
      ∃ target, Target.ofKey? key = some target ∧ o.enter raw target = .ok next := by
  unfold addParam
  cases Target.ofKey? key <;> simp [eq_comm]

/-- What holds of the empty description and is kept by every parameter that is entered holds of
every description that was read. -/
theorem ofParams_keeps {P : Options → Prop} (start : P default)
    (step : ∀ o raw target next, P o → o.enter raw target = .ok next → P next)
    {params : List (String × String)} {o : Options} (parsed : ofParams params = .ok o) : P o := by
  refine foldlM_keeps (fun o p next holds added => ?_) start parsed
  obtain ⟨_, rfl⟩ | ⟨target, _, entered⟩ := addParam_eq_ok_iff.mp added
  · exact holds
  · exact step o p.2 target next holds entered

end Options

/-- A value as requests carry it. -/
def Value.IsTyped : Value → Prop
  | .null => True
  | .scalar (.int n) => n.natAbs < tenTo maxWholeDigits
  | .scalar _ => True
  | .list items => ∃ texts : List String, items = texts.map Value.text
  | .object _ | .date _ | .moment _ => False

theorem Value.isTyped_ofTyped {raw : String} {v : Value} (h : ofTyped raw = .ok v) : v.IsTyped := by
  have number {s : List Char} (h : typedNumber s = .ok v) : v.IsTyped := by
    unfold typedNumber at h
    split at h
    · next w read =>
      obtain ⟨n, value, rfl⟩ := map_eq_ok_iff.mp h
      exact natAbs_value_lt read value
    · split at h
      · cases h
        trivial
      · cases h
        trivial
  simp only [ofTyped] at h
  split at h
  · cases h
    trivial
  · split at h
    · cases h
      trivial
    · split at h
      · cases h
        trivial
      · split at h
        · cases h
          exact ⟨_, rfl⟩
        · exact number h

/-- A description with such values only. -/
structure Options.IsTyped (o : Options) : Prop where
  filter : ∀ e ∈ o.filter.entries, e.2.IsTyped
  conditions : ∀ c ∈ o.conditions, c.value.IsTyped
  filterOr : ∀ e ∈ o.filterOr.entries, e.2.IsTyped
  search : ∀ e ∈ o.search.entries, e.2.IsTyped

namespace Options

theorem isTyped_addCondition {o : Options} {c : Condition} (typed : o.IsTyped)
    (new : c.value.IsTyped) : (o.addCondition c).IsTyped where
  filter := by
    rw [addCondition]
    split
    · exact forall_mem_insertEntry new typed.filter
    · exact typed.filter
  conditions := List.forall_mem_append.mpr ⟨typed.conditions, List.forall_mem_singleton.mpr new⟩
  filterOr := typed.filterOr
  search := typed.search

/-- One parameter more leaves a description typed. -/
theorem isTyped_enter {o next : Options} {raw : String} {target : Target} (typed : o.IsTyped)
    (h : o.enter raw target = .ok next) : next.IsTyped := by
  cases target with
  | page =>
    obtain ⟨n, _, rfl⟩ := map_eq_ok_iff.mp h
    exact ⟨typed.filter, typed.conditions, typed.filterOr, typed.search⟩
  | limit =>
    obtain ⟨n, _, rfl⟩ := map_eq_ok_iff.mp h
    exact ⟨typed.filter, typed.conditions, typed.filterOr, typed.search⟩
  | condition column operator =>
    obtain ⟨v, value, rfl⟩ := map_eq_ok_iff.mp h
    exact isTyped_addCondition typed (Value.isTyped_ofTyped value)
  | filterOr column =>
    obtain ⟨v, value, rfl⟩ := map_eq_ok_iff.mp h
    exact ⟨typed.filter, typed.conditions,
      forall_mem_insertEntry (Value.isTyped_ofTyped value) typed.filterOr, typed.search⟩
  | search column =>
    obtain ⟨v, value, rfl⟩ := map_eq_ok_iff.mp h
    exact ⟨typed.filter, typed.conditions, typed.filterOr,
      forall_mem_insertEntry (Value.isTyped_ofTyped value) typed.search⟩
  | order column =>
    cases h
    exact ⟨typed.filter, typed.conditions, typed.filterOr, typed.search⟩

theorem isTyped_ofParams {params : List (String × String)} {o : Options}
    (parsed : ofParams params = .ok o) : o.IsTyped := by
  refine ofParams_keeps ⟨?_, ?_, ?_, ?_⟩ (fun _ _ _ _ => isTyped_enter) parsed
  all_goals exact fun _ member => absurd member List.not_mem_nil

end Options

theorem positiveOr_pos {fallback n : Int} {raw : String} (positive : 0 < fallback)
    (read : positiveOr fallback raw = .ok n) : 0 < n := by
  unfold positiveOr at read
  split at read
  · cases read
    exact positive
  · obtain ⟨m, _, rfl⟩ := map_eq_ok_iff.mp read
    split_ifs with above
    · exact above
    · exact positive

namespace Options

/-- A page and a limit that can be asked for. -/
structure IsPaged (o : Options) : Prop where
  page : 1 ≤ o.page
  limit : 1 ≤ o.limit

/-- One parameter more leaves a description paged. -/
theorem isPaged_enter {o next : Options} {raw : String} {target : Target} (paged : o.IsPaged)
    (h : o.enter raw target = .ok next) : next.IsPaged := by
  cases target with
  | page =>
    obtain ⟨n, read, rfl⟩ := map_eq_ok_iff.mp h
    exact ⟨positiveOr_pos (by decide) read, paged.limit⟩
  | limit =>
    obtain ⟨n, read, rfl⟩ := map_eq_ok_iff.mp h
    exact ⟨paged.page, positiveOr_pos (by decide) read⟩
  | condition column operator | filterOr column | search column =>
    -- neither the page nor the limit changes
    obtain ⟨_, _, rfl⟩ := map_eq_ok_iff.mp h
    exact ⟨paged.page, paged.limit⟩
  | order column =>
    cases h
    exact ⟨paged.page, paged.limit⟩

theorem isPaged_ofParams {params : List (String × String)} {o : Options}
    (parsed : ofParams params = .ok o) : o.IsPaged :=
  ofParams_keeps ⟨by decide, by decide⟩ (fun _ _ _ _ => isPaged_enter) parsed

end Options

end ListQuery
