import ListQuery.Proofs.Listing.ReadBack
import ListQuery.Query.Params
import ListQuery.Query.Preset
/-!
Lists that belong to one owner. Whatever else a description asks for, the condition on the owner
stays, and no row of another owner passes.
-/
namespace ListQuery

open Sql

theorem Options.conditions_addConditions (o : Options) (cs : List Condition) :
    (o.addConditions cs).conditions = o.conditions ++ cs := by
  induction cs generalizing o with
  | nil => exact (List.append_nil _).symm
  | cons c rest ih =>
    rw [addConditions, List.foldl_cons]
    change ((o.addCondition c).addConditions rest).conditions = _
    rw [ih, addCondition, List.append_assoc]
    rfl

/-- What a description asks of a row with a condition added to it is asked of the owner too. -/
theorem Options.Holds.owned {Cell : Type} {tests : CellTests Cell} {row : Row Cell} {o : Options}
    {owner : Int} {owned : List Condition}
    (preset : Preset.ownedBy (.int owner) (.text Preset.ownerColumn) = .ok owned)
    (holds : (o.addConditions owned).Holds tests row) :
    ∃ x, row Preset.ownerColumn = some x ∧ tests.compares .eq x (.int owner) = true := by
  -- the entry of the same column in the filter may be replaced, the condition is not
  have asked := holds.conditions
  cases preset
  rw [Options.conditions_addConditions] at asked
  obtain ⟨op, known, accepted⟩ := asked _ (List.mem_append_right _ (List.mem_singleton_self _))
  cases known
  have bare : Column.resolve Preset.ownerColumn = Preset.ownerColumn := by decide +kernel
  change Value.Accepts tests .eq (row (Column.resolve Preset.ownerColumn)) (.int owner) at accepted
  rwa [bare] at accepted

namespace ListRequest

/-- A row that the text of either statement lets pass belongs to the owner, whatever the description
asked for before, and where stray marks are refused or closed the text can be read. -/
theorem passing_row_is_owned {o : Options} {owner : Int} {owned : List Condition} {table : String}
    {joins : List Join} {strays : StrayMarks} {projection : Projection} {st : Statement}
    (preset : Preset.ownedBy (.int owner) (.text Preset.ownerColumn) = .ok owned)
    (built : (mk table (o.addConditions owned) joins).Builds strays projection st)
    {Cell : Type} (tests : CellTests Cell) (row : Row Cell) :
    ((mk table (o.addConditions owned) joins).whereTruth? tests row projection st = some .yes →
      ∃ x, row Preset.ownerColumn = some x ∧ tests.compares .eq x (.int owner) = true) ∧
    ((mk table (o.addConditions owned) joins).MarksResolved strays →
      ∃ t, (mk table (o.addConditions owned) joins).whereTruth? tests row projection st =
        some t) := by
  refine ⟨fun passes => ?_, exists_where tests row built⟩
  exact ((where_iff tests row built passes).mp rfl).owned preset

/-- Other owners are asked for as well, and the condition of the join has a mark. -/
theorem passing_row_is_owned_for_other_owners :
    let tests : CellTests Int := ⟨fun _ x v => v == .int x || v == .text (toString x),
      fun _ _ => true⟩
    let row : Row Int := fun _ => some 7
    ∃ o owned st,
      Options.ofParams [("filter[user_id][gte]", "7"), ("filterOr[user_id]", "[1,7,9]"),
        ("filterOr[coach_id]", "null"), ("search[user_id]", "4")] = .ok o ∧
      Preset.ownedBy (.int 7) (.text Preset.ownerColumn) = .ok owned ∧
      let r : ListRequest := ⟨"activities", o.addConditions owned,
        [⟨"users", "users.id = %(param_3)s", none⟩]⟩
      r.Builds .kept (.allOf "activities") st ∧ r.MarksResolved .kept ∧
        r.whereTruth? tests row (.allOf "activities") st = some .yes ∧
        ∃ x, row Preset.ownerColumn = some x ∧ tests.compares .eq x (.int 7) = true := by
  intro tests row
  obtain ⟨o, parsed⟩ : ∃ o, Options.ofParams [("filter[user_id][gte]", "7"),
      ("filterOr[user_id]", "[1,7,9]"), ("filterOr[coach_id]", "null"),
      ("search[user_id]", "4")] = .ok o := ⟨_, rfl⟩
  let r : ListRequest := ⟨"activities",
    o.addConditions [⟨Preset.ownerColumn, Operator.eq.name, .int 7⟩],
    [⟨"users", "users.id = %(param_3)s", none⟩]⟩
  obtain ⟨st, rows⟩ : ∃ st, r.rowsUnder .kept = .ok st := by
    unfold r
    cases parsed
    exact ⟨_, rfl⟩
  have met : r.options.criteria.map (fun cs => cs.all fun c => c.truth tests row = .yes) =
      .ok true := by
    unfold r
    cases parsed
    decide +kernel
  obtain ⟨cs, criteria, all_met⟩ := map_eq_ok_iff.mp met
  have holds : r.options.Holds tests row := by
    refine (Options.criteria_meaning tests row criteria).2.mp fun c member => ?_
    exact of_decide_eq_true (List.all_eq_true.mp all_met c member)
  have built : r.Builds .kept (.allOf "activities") st := .rows rows
  have resolved : r.MarksResolved .kept := .inr (List.forall_mem_singleton.mpr (by decide))
  obtain ⟨owned, readable⟩ := passing_row_is_owned rfl built tests row
  obtain ⟨t, read⟩ := readable resolved
  have passes : r.whereTruth? tests row (.allOf "activities") st = some .yes := by
    rw [read, (where_iff tests row built read).mpr holds]
  exact ⟨o, _, st, parsed, rfl, built, resolved, passes, owned passes⟩

end ListRequest

end ListQuery
