import ListQuery.Proofs.Policy.Accepted
import ListQuery.Proofs.Query.Mirror
/-!
The operators that a column allows, over all comparisons of a description. The check looks at the
conditions, and through them at the filter of a request; an alternative is an equality that nobody
asks about.
-/
namespace ListQuery

/-- Every comparison of a description has an operator that its column allows. The entries of the
filter and the alternatives are equalities. -/
structure Policy.Covers (p : Policy) (o : Options) : Prop where
  conditions : ∀ c ∈ o.conditions, c.operator ∈ p.operatorsFor c.column
  filter : ∀ column ∈ o.filter.keys, Operator.eq.name ∈ p.operatorsFor column
  filterOr : ∀ column ∈ o.filterOr.keys, Operator.eq.name ∈ p.operatorsFor column

namespace Policy

variable {p : Policy} {o : Options}

theorem operator_of_accepted (accepted : p.rejection? o = none) {c : Condition}
    (member : c ∈ o.conditions) : c.operator ∈ p.operatorsFor c.column :=
  ((rejection?_eq_none_iff.mp accepted).conditions c member).operator

/-- What the filter of a request compares was checked as a condition. -/
theorem filter_of_accepted (mirrored : o.IsMirrored) (accepted : p.rejection? o = none)
    {column : String} (member : column ∈ o.filter.keys) :
    Operator.eq.name ∈ p.operatorsFor column := by
  obtain ⟨e, inside, rfl⟩ := List.mem_map.mp member
  have checked := operator_of_accepted accepted (mirrored e inside)
  exact checked

/-- An accepted request compares its columns as they allow exactly when the columns of its
alternatives allow equality. -/
theorem covers_iff_alternatives_allowed {params : List (String × String)}
    (parsed : Options.ofParams params = .ok o) (accepted : p.rejection? o = none) :
    p.Covers o ↔ ∀ column ∈ o.filterOr.keys, Operator.eq.name ∈ p.operatorsFor column := by
  constructor
  · intro covers
    exact covers.filterOr
  · intro alternatives
    exact ⟨fun _ member => operator_of_accepted accepted member,
      fun _ member => filter_of_accepted (Options.isMirrored_ofParams parsed) accepted member,
      alternatives⟩

/-- A column that may only be compared with a range. -/
def ranged : Policy :=
  { closed with
    filterColumns := ["distance_km"]
    operators := .ofList [("distance_km", [Operator.gte.name, Operator.lte.name])] }

theorem covers_iff_alternatives_allowed_for_range :
    ∃ o, Options.ofParams [("filter[distance_km][gte]", "5"),
        ("filterOr[distance_km]", "[7,8]")] = .ok o ∧
      ranged.rejection? o = none ∧
      (ranged.Covers o ↔
        ∀ column ∈ o.filterOr.keys, Operator.eq.name ∈ ranged.operatorsFor column) := by
  obtain ⟨o, parsed, accepted⟩ : ∃ o, Options.ofParams [("filter[distance_km][gte]", "5"),
      ("filterOr[distance_km]", "[7,8]")] = .ok o ∧ ranged.rejection? o = none :=
    ⟨_, rfl, by decide +kernel⟩
  exact ⟨o, parsed, accepted, covers_iff_alternatives_allowed parsed accepted⟩

/-- The same equality is refused in the filter and accepted as an alternative. -/
theorem alternative_not_covered :
    ranged.checked = .ok ranged ∧
    (∃ o, Options.ofParams [("filter[distance_km]", "5")] = .ok o ∧
      ranged.rejection? o = some (.operatorDenied "distance_km" "eq" ["gte", "lte"])) ∧
    ∃ o, Options.ofParams [("filterOr[distance_km]", "5")] = .ok o ∧
      ranged.rejection? o = none ∧ ¬ranged.Covers o := by
  refine ⟨by decide +kernel, ⟨_, rfl, by decide +kernel⟩, ⟨_, rfl, by decide +kernel, ?_⟩⟩
  intro covers
  have allowed := covers.filterOr "distance_km" (by decide)
  exact absurd allowed (by decide +kernel)

end Policy

end ListQuery
