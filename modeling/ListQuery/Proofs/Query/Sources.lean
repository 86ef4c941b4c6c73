import ListQuery.Proofs.Query.Readable
/-!
One request in several shapes. Its parameters come as pairs in order, as a mapping from each key to
all its values, or as an object that lists all its pairs whatever else it is. All of them are read
alike, and a pair whose key was there before counts nowhere.
-/
namespace ListQuery

open Number

theorem nodup_distinct (names : List String) : (distinct names).Nodup := by
  induction names with
  | nil => exact List.nodup_nil
  | cons name rest ih =>
    rw [distinct, List.nodup_cons]
    refine ⟨fun again => ?_, ih.filter _⟩
    exact of_decide_eq_true (List.mem_filter.mp again).2 rfl

section
variable {α : Type}

/-- The values under a key, in order. -/
def valuesOf (key : String) (entries : List (String × α)) : List α :=
  (entries.filter fun e => e.1 = key).map (·.2)

/-- The entries whose key was not seen before. -/
def withoutRepeats (seen : List String) : List (String × α) → List (String × α)
  | [] => []
  | entry :: rest =>
    if entry.1 ∈ seen then withoutRepeats seen rest
    else entry :: withoutRepeats (entry.1 :: seen) rest

theorem withoutRepeats_eq (seen : List String) (entries : List (String × α)) :
    withoutRepeats seen entries = (firstByKey entries).filter fun e => e.1 ∉ seen := by
  induction entries generalizing seen with
  | nil => rfl
  | cons entry rest ih =>
    rw [withoutRepeats, firstByKey, List.filter_cons, List.filter_filter]
    by_cases known : entry.1 ∈ seen
    · -- an entry that was seen before leaves out no other keys than those that are left out anyway
      have same : ∀ e ∈ firstByKey rest, decide (e.1 ∉ seen) =
          (decide (e.1 ∉ seen) && decide (e.1 ≠ entry.1)) := by
        intro e _
        by_cases again : e.1 = entry.1 <;> simp [again, known]
      rw [if_pos known, if_neg (by simpa using known), ih, List.filter_congr same]
    · have same : ∀ e ∈ firstByKey rest, decide (e.1 ∉ entry.1 :: seen) =
          (decide (e.1 ∉ seen) && decide (e.1 ≠ entry.1)) := by
        intro e _
        rw [← Bool.decide_and, decide_eq_decide, List.mem_cons, not_or, and_comm]
      rw [if_neg known, if_pos (by simpa using known), ih, List.filter_congr same]

theorem withoutRepeats_nil (entries : List (String × α)) :
    withoutRepeats [] entries = firstByKey entries := by
  rw [withoutRepeats_eq]
  exact List.filter_eq_self.mpr fun e _ => decide_eq_true List.not_mem_nil

/-- The first value under each key, with the keys in the order in which they first come. -/
theorem filterMap_head?_valuesOf (entries : List (String × α)) :
    ((distinct (entries.map (·.1))).filterMap fun key =>
      (valuesOf key entries).head?.map fun value => (key, value)) = firstByKey entries := by
  induction entries with
  | nil => rfl
  | cons entry rest ih =>
    have first : (valuesOf entry.1 (entry :: rest)).head? = some entry.2 := by
      rw [valuesOf, List.filter_cons, if_pos (decide_eq_true rfl)]
      rfl
    have later : ∀ key, key ≠ entry.1 → valuesOf key (entry :: rest) = valuesOf key rest := by
      intro key other
      rw [valuesOf, List.filter_cons_of_neg (by simpa using other.symm), valuesOf]
    rw [List.map_cons, distinct, List.filterMap_cons, first, firstByKey, ← ih,
      List.filterMap_filter, List.filter_filterMap]
    refine congrArg _ (List.filterMap_congr fun key _ => ?_)
    by_cases same : key = entry.1
    · cases valuesOf key rest <;> simp [same, Option.filter]
    · rw [later key same]
      cases valuesOf key rest <;> simp [same, Option.filter]

end

/-- The mapping from each key, in the order in which the keys first come, to all its values. -/
def valuesByKey (params : List (String × String)) : OrderedMap ParamValue where
  entries := (distinct (params.map (·.1))).map fun key => (key, .many (valuesOf key params))
  nodup := by
    rw [List.map_map]
    exact (List.map_id _).symm ▸ nodup_distinct _

theorem ParamSource.params_valuesByKey (params : List (String × String)) :
    (mapping (valuesByKey params)).params = firstByKey params := by
  rw [ParamSource.params, valuesByKey, List.filterMap_map]
  exact filterMap_head?_valuesOf params

theorem Options.ofParams_firstByKey (params : List (String × String)) :
    ofParams (firstByKey params) = ofParams params := by
  rw [ofParams, firstByKey_of_nodup (nodup_keys_firstByKey params), ofParams]

/-- What parameters are handed over as. An object that can list all its pairs is read by this list,
and any other one as the pairs or the mapping it is. -/
structure ParamObject where
  allPairs? : Option (List (String × String))
  source : ParamSource

namespace ParamObject

def options (o : ParamObject) : Except WholeFault Options :=
  match o.allPairs? with
  | some params => (ParamSource.pairs params).options
  | none => o.source.options

/-- Pairs are read alike in a list, in an object that lists them whatever else it is, and in a
mapping from each key to its values; and no pair counts whose key was there before. -/
theorem options_of_any_shape (params : List (String × String)) (otherwise : ParamSource) :
    (mk (some params) otherwise).options = (mk none (.pairs params)).options ∧
      (mk none (.mapping (valuesByKey params))).options = (mk none (.pairs params)).options ∧
      (mk none (.pairs (withoutRepeats [] params))).options =
        (mk none (.pairs params)).options := by
  refine ⟨rfl, ?_, ?_⟩
  · rw [options, options, ParamSource.options_eq, ParamSource.params_valuesByKey,
      Options.ofParams_firstByKey, ParamSource.options]
  · rw [options, options, ParamSource.options, ParamSource.options, withoutRepeats_nil,
      Options.ofParams_firstByKey]

end ParamObject

end ListQuery
