import ListQuery.Proofs.Join.Walk
/-!
What the joins of a description depend on. Only its columns and the filter on the type columns of
polymorphic relationships are looked at, so descriptions that agree on these have the same joins.
-/
namespace ListQuery

/-- The column by whose filter a polymorphic relationship finds its table. -/
def Relationship.typeColumn? (rel : Relationship) : Option String :=
  match rel.kind with
  | .polymorphic typeColumn _ _ => some typeColumn
  | _ => none

/-- The type columns of a registry and of all registries of a graph. -/
def typeColumns (registry : Option Registry) (graph : Option Graph) : List String :=
  ((registry.toList ++ graph.elim [] Graph.registries).flatMap Registry.relationships).filterMap
    Relationship.typeColumn?

section
variable (o u : Options)

def Relationship.Agree (rel : Relationship) : Prop :=
  ∀ column, rel.typeColumn? = some column → o.filter.get? column = u.filter.get? column

def Registry.Agree (r : Registry) : Prop := ∀ rel ∈ r.relationships, rel.Agree o u

end

variable {o u : Options} {rel : Relationship}

theorem Relationship.bareHop?_congr (agree : rel.Agree o u) (parent : String) (depth : Nat) :
    rel.bareHop? parent o depth = rel.bareHop? parent u depth := by
  obtain ⟨name, target, foreignKey, primaryKey, targetPrimaryKey, kind, conditions⟩ := rel
  cases kind with
  | polymorphic typeColumn idColumn map =>
    have same := agree typeColumn rfl
    simp only [bareHop?, mappedTable?, same]
  | oneToMany | manyToOne | manyToMany _ _ _ | selfReferential _ | unsupported _ => rfl

theorem Relationship.hop?_congr (agree : rel.Agree o u) (parent : String) (depth : Nat) :
    rel.hop? parent o depth = rel.hop? parent u depth := by
  rw [hop?, hop?, bareHop?_congr agree]

theorem Relationship.table?_congr (agree : rel.Agree o u) : rel.table? o = rel.table? u := by
  obtain ⟨name, target, foreignKey, primaryKey, targetPrimaryKey, kind, conditions⟩ := rel
  cases kind with
  | polymorphic typeColumn idColumn map =>
    have same := agree typeColumn rfl
    simp only [table?, mappedTable?, same]
  | oneToMany | manyToOne | manyToMany _ _ _ | selfReferential _ | unsupported _ => rfl

theorem Registry.next?_congr (agree : rel.Agree o u) (r : Registry) (graph : Option Graph) :
    r.next? graph o rel = r.next? graph u rel := by
  rw [next?, next?, Relationship.table?_congr agree]

section
variable {graph : Option Graph} (known : ∀ g ∈ graph, ∀ r ∈ g.registries, r.Agree o u)
include known

theorem Registry.agree_of_next? {r next : Registry} (agree : r.Agree o u)
    (h : r.next? graph u rel = some next) : next.Agree o u := by
  rcases of_next? h with rfl | ⟨g, given, member⟩
  · exact agree
  · exact known g given next member

/-- A walk takes the same steps for both descriptions. -/
theorem Registry.walk_congr {r : Registry} (agree : r.Agree o u) (parent : String)
    (followed path : List String) :
    r.walk graph o parent followed path = r.walk graph u parent followed path := by
  -- on the path, for every registry that a step may lead to
  induction path generalizing r parent followed with
  | nil => rfl
  | cons segment rest ih =>
    cases found : r.get? segment with
    | none => rw [walk, walk, found]
    | some rel =>
      have same := agree rel (of_get? found).1
      exact walk_cons_congr found (Relationship.hop?_congr same _ _) (next?_congr same _ _)
        fun _ _ _ leads => ih (agree_of_next? known agree leads) _ _

theorem Registry.walkPath_congr {r : Registry} (agree : r.Agree o u) :
    r.walkPath graph o = r.walkPath graph u := by
  funext path
  exact walk_congr known agree r.parent [] _

theorem Registry.joins_congr {r : Registry} (agree : r.Agree o u)
    (columns : o.columns = u.columns) : r.joins graph o = r.joins graph u := by
  have paths : o.paths = u.paths := by rw [Options.paths, Options.paths, columns]
  rw [joins, joins, walkPath_congr known agree, paths]

end

section
variable {registry : Option Registry} {graph : Option Graph}
  (agree : ∀ column ∈ typeColumns registry graph, o.filter.get? column = u.filter.get? column)
include agree

/-- Descriptions that agree on all type columns agree for each registry that has some of them. -/
theorem Registry.agree_of_typeColumns {r : Registry}
    (listed : r ∈ registry.toList ++ graph.elim [] Graph.registries) : r.Agree o u :=
  fun rel member column found => agree column (List.mem_filterMap.mpr
    ⟨rel, List.mem_flatMap.mpr ⟨r, listed, member⟩, found⟩)

theorem Graph.agree_of_typeColumns : ∀ g ∈ graph, ∀ r ∈ g.registries, r.Agree o u := by
  rintro g rfl r member
  exact Registry.agree_of_typeColumns agree (List.mem_append_right _ member)

end

/-- Descriptions with the same columns that agree on the type columns have the same joins. -/
theorem listJoins_congr {registry : Option Registry} {graph : Option Graph} (table : String)
    (columns : o.columns = u.columns)
    (agree : ∀ column ∈ typeColumns registry graph, o.filter.get? column = u.filter.get? column) :
    listJoins table registry graph o = listJoins table registry graph u := by
  rw [listJoins, listJoins]
  cases chosen : registry <|> graph.bind (·.get? table) with
  | none => rfl
  | some r =>
    refine Registry.joins_congr (Graph.agree_of_typeColumns agree)
      (Registry.agree_of_typeColumns agree ?_) columns
    cases registry with
    | some own =>
      cases chosen
      exact List.mem_append_left _ (List.mem_singleton_self _)
    | none =>
      obtain ⟨g, rfl, found⟩ := Option.bind_eq_some_iff.mp chosen
      exact (Graph.of_get? found).1

end ListQuery
