import ListQuery.Proofs.Distinct
import ListQuery.Proofs.Query.Parsed
import ListQuery.Proofs.Value.Typed
/-!
Which parameters can be read. A page, a limit or a value that is a whole number with too many digits
is refused, and nothing else is: keys without a meaning are passed over, and the direction of an
order may be any text.
-/
namespace ListQuery

open Number Text

theorem exists_positiveOr_iff {fallback : Int} {raw : String} :
    (∃ n, positiveOr fallback raw = .ok n) ↔ ¬IsOverlong raw := by
  unfold positiveOr
  split
  · next none_read => exact iff_of_true ⟨_, rfl⟩ (not_isOverlong_of_read?_none none_read)
  · next w read => rw [exists_map_eq_ok_iff, not_isOverlong_of_read? read]

/-- Whether the value of a parameter is read. The direction of an order is taken as it stands. -/
def Target.isRead : Target → Bool
  | .order _ => false
  | _ => true

/-- A parameter whose value is read, and is a whole number that is too long. -/
def IsUnreadable (p : String × String) : Prop :=
  ∃ target, Target.ofKey? p.1 = some target ∧ target.isRead = true ∧ IsOverlong p.2

namespace Options

section
variable {o : Options} {raw : String} {target : Target}

theorem exists_enter_iff :
    (∃ next, o.enter raw target = .ok next) ↔ ¬(target.isRead = true ∧ IsOverlong raw) := by
  cases target with
  | page | limit =>
    rw [enter, exists_map_eq_ok_iff, exists_positiveOr_iff]
    simp [Target.isRead]
  | condition column operator | filterOr column | search column =>
    rw [enter, exists_map_eq_ok_iff, Value.exists_ofTyped_iff]
    simp [Target.isRead]
  | order column => exact iff_of_true ⟨_, rfl⟩ fun ⟨read, _⟩ => nomatch read

theorem exists_addParam_iff {p : String × String} :
    (∃ next, o.addParam p.1 p.2 = .ok next) ↔ ¬IsUnreadable p := by
  unfold addParam
  split
  · next unknown =>
    refine iff_of_true ⟨o, rfl⟩ ?_
    rintro ⟨target, known, _⟩
    rw [unknown] at known
    cases known
  · next target known =>
    rw [exists_enter_iff, IsUnreadable, known]
    simp

/-- Parameters are read unless the first value of some key cannot be. -/
theorem exists_ofParams_iff {params : List (String × String)} :
    (∃ o, ofParams params = .ok o) ↔ ∀ p ∈ firstByKey params, ¬IsUnreadable p :=
  exists_foldlM_eq_ok_iff fun o p => exists_addParam_iff (o := o) (p := p)

end

/-- Values that are texts count as they are. -/
theorem ofValueParams_texts (params : List (String × String)) :
    ofValueParams (params.map fun p => (p.1, .text p.2)) = ofParams params := by
  rw [ofValueParams, firstByKey_map, List.foldlM_map]
  rfl

end Options

/-- What a mapping of parameters has under a key: a text, or several of which the first one
counts. -/
inductive ParamValue where
  | one (raw : String)
  | many (raws : List String)

namespace ParamValue

def value : ParamValue → Value
  | .one raw => .text raw
  | .many raws => .texts raws

def first? : ParamValue → Option String
  | .one raw => some raw
  | .many raws => raws.head?

end ParamValue

/-- Where the parameters of a request come from: pairs in order, or a mapping. -/
inductive ParamSource where
  | pairs (params : List (String × String))
  | mapping (params : OrderedMap ParamValue)

namespace ParamSource

/-- The keys and values of a source, in order. -/
def params : ParamSource → List (String × String)
  | .pairs params => params
  | .mapping m => m.entries.filterMap fun e => e.2.first?.map fun raw => (e.1, raw)

/-- The description that is read from a source. -/
def options : ParamSource → Except WholeFault Options
  | .pairs params => Options.ofParams params
  | .mapping m => Options.ofParamMap (m.map ParamValue.value)

theorem options_eq (source : ParamSource) : source.options = Options.ofParams source.params := by
  cases source with
  | pairs params => rfl
  | mapping m =>
    have same : (m.map ParamValue.value).entries.filterMap Options.firstItem? =
        (params (.mapping m)).map fun p => (p.1, .text p.2) := by
      rw [OrderedMap.entries_map, List.filterMap_map, params, List.map_filterMap]
      refine List.filterMap_congr fun e _ => ?_
      obtain ⟨key, one | many⟩ := e
      · rfl
      · cases many <;> rfl
    rw [options, Options.ofParamMap, same, Options.ofValueParams_texts]

/-- A source is read exactly when none of its first values is a whole number that is too long, and
then the page and the limit are positive. -/
theorem parses_iff_no_overlong_number (source : ParamSource) :
    ((∃ o, source.options = .ok o) ↔ ∀ p ∈ firstByKey source.params, ¬IsUnreadable p) ∧
      ∀ o, source.options = .ok o → 1 ≤ o.page ∧ 1 ≤ o.limit := by
  rw [options_eq]
  refine ⟨Options.exists_ofParams_iff, fun o parsed => ?_⟩
  have paged := Options.isPaged_ofParams parsed
  exact ⟨paged.page, paged.limit⟩

/-- A page number with one digit too many is refused, and no default stands in for it. -/
theorem overlong_page_not_parsed :
    ¬∃ o, (pairs [("page", String.ofList (List.replicate 4301 '1'))]).options = .ok o ∧
      1 ≤ o.page ∧ 1 ≤ o.limit := by
  rintro ⟨o, parsed, _⟩
  have readable := Options.exists_ofParams_iff.mp ⟨o, parsed⟩
  refine readable _ List.mem_cons_self ⟨.page, rfl, rfl, ?_⟩
  have ones : ∀ c ∈ List.replicate 4301 '1', c = '1' := fun c member =>
    List.eq_of_mem_replicate member
  have digits : ∀ c ∈ List.replicate 4301 '1', c.isDigit = true := fun c member =>
    ones c member ▸ rfl
  have solid : trim (List.replicate 4301 '1') = List.replicate 4301 '1' :=
    trimWhere_of_all fun c member => by
      rw [ones c member]
      decide
  have some_digit : List.replicate 4301 '1' ≠ [] := by
    rw [Ne, List.replicate_eq_nil_iff]
    decide
  have read := WholeNumeral.read?_of_digits (readSign_of_digits digits) some_digit digits
  rw [IsOverlong, String.toList_ofList, solid]
  refine ⟨_, read, ?_⟩
  rw [List.length_map, List.length_replicate]
  decide

end ParamSource

end ListQuery
