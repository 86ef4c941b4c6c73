import ListQuery.Proofs.Join.Walk
/-!
Walks that succeed, step by step. A walk ends where its path does, where a segment is unknown, where
a relationship leads nowhere, and after the joins of a table that has no registry.
-/
namespace ListQuery

/-- The relationships that a walk may follow: those of its registry and those of the graph. -/
def Registry.Reaches (r : Registry) (graph : Option Graph) (rel : Relationship) : Prop :=
  rel ∈ r.relationships ∨ ∃ g ∈ graph, ∃ known ∈ g.registries, rel ∈ known.relationships

theorem Registry.reaches_of_get? {r : Registry} {graph : Option Graph} {segment : String}
    {rel : Relationship} (found : r.get? segment = some rel) : r.Reaches graph rel :=
  .inl (of_get? found).1

theorem Registry.reaches_of_next? {graph : Option Graph} {o : Options} {r next : Registry}
    {rel other : Relationship} (leads : r.next? graph o rel = some next)
    (reached : next.Reaches graph other) : r.Reaches graph other := by
  rcases reached with own | known
  · rcases of_next? leads with rfl | ⟨g, given, member⟩
    · exact .inl own
    · exact .inr ⟨g, given, next, member, own⟩
  · exact .inr known

/-- A walk and the joins it finds, under the names they go by. -/
inductive Registry.Walked (graph : Option Graph) (o : Options) :
    Registry → String → List String → List String → List (String × Join) → Prop
  | ended {r : Registry} {parent : String} {followed : List String} :
      Walked graph o r parent followed [] []
  | unknown {r : Registry} {parent segment : String} {followed rest : List String}
      (missing : r.get? segment = none) : Walked graph o r parent followed (segment :: rest) []
  | nowhere {r : Registry} {parent segment : String} {followed rest : List String}
      {rel : Relationship} (found : r.get? segment = some rel)
      (stops : rel.hop? parent o (followed.count segment + 1) = .ok none) :
      Walked graph o r parent followed (segment :: rest) []
  | stopped {r : Registry} {parent segment : String} {followed rest : List String}
      {rel : Relationship} {hop : Hop} {own : List (String × Join)}
      (found : r.get? segment = some rel)
      (joined : rel.hop? parent o (followed.count segment + 1) = .ok (some hop))
      (run : hop.joins.mapM keyedJoin = .ok own) (leads : r.next? graph o rel = none) :
      Walked graph o r parent followed (segment :: rest) own
  | onward {r next : Registry} {parent segment : String} {followed rest : List String}
      {rel : Relationship} {hop : Hop} {own more : List (String × Join)}
      (found : r.get? segment = some rel)
      (joined : rel.hop? parent o (followed.count segment + 1) = .ok (some hop))
      (run : hop.joins.mapM keyedJoin = .ok own) (leads : r.next? graph o rel = some next)
      (later : Walked graph o next hop.reference (segment :: followed) rest more) :
      Walked graph o r parent followed (segment :: rest) (own ++ more)

section
variable {graph : Option Graph} {o : Options} {r : Registry} {parent : String}
  {followed path : List String} {keyed : List (String × Join)}

theorem Registry.walk_eq_ok_iff : r.walk graph o parent followed path = .ok keyed ↔
    Walked graph o r parent followed path keyed := by
  constructor
  · intro ran
    -- on the path, for every registry that a step may lead to
    induction path generalizing r parent followed keyed with
    | nil =>
      cases ran
      exact .ended
    | cons segment rest ih =>
      cases found : r.get? segment with
      | none =>
        rw [walk, found] at ran
        cases ran
        exact .unknown found
      | some rel =>
        rw [walk, found] at ran
        obtain ⟨result, joined, ran⟩ := bind_eq_ok_iff.mp ran
        cases result with
        | none =>
          cases ran
          exact .nowhere found joined
        | some hop =>
          obtain ⟨own, run, ran⟩ := bind_eq_ok_iff.mp ran
          cases leads : r.next? graph o rel with
          | none =>
            rw [leads] at ran
            cases ran
            exact .stopped found joined run leads
          | some next =>
            rw [leads] at ran
            obtain ⟨more, later, ran⟩ := bind_eq_ok_iff.mp ran
            cases ran
            exact .onward found joined run leads (ih later)
  · intro walked
    induction walked with
    | ended => rfl
    | unknown missing => rw [walk, missing]
    | nowhere found stops => exact walk_of_no_hop found stops
    | stopped found joined run leads => exact walk_of_no_next found joined run leads
    | onward found joined run leads _ ih => exact walk_of_next found joined run leads ih

/-- What a walk does at a relationship that it finds. -/
theorem Registry.Walked.of_found {segment : String} {rest : List String} {rel : Relationship}
    (walked : Walked graph o r parent followed (segment :: rest) keyed)
    (found : r.get? segment = some rel) :
    (rel.hop? parent o (followed.count segment + 1) = .ok none ∧ keyed = []) ∨
      ∃ hop own more, rel.hop? parent o (followed.count segment + 1) = .ok (some hop) ∧
        hop.joins.mapM keyedJoin = .ok own ∧ keyed = own ++ more ∧
        ∀ next, r.next? graph o rel = some next →
          Walked graph o next hop.reference (segment :: followed) rest more := by
  cases walked with
  | unknown missing =>
    rw [missing] at found
    cases found
  | nowhere again stops =>
    rw [again] at found
    cases found
    exact .inl ⟨stops, rfl⟩
  | stopped again joined run ends =>
    rw [again] at found
    cases found
    refine .inr ⟨_, keyed, [], joined, run, (List.append_nil keyed).symm, fun next leads => ?_⟩
    rw [ends] at leads
    cases leads
  | onward again joined run leads later =>
    rw [again] at found
    cases found
    refine .inr ⟨_, _, _, joined, run, rfl, fun next goes_on => ?_⟩
    rw [leads] at goes_on
    cases goes_on
    exact later

/-- The joins of a walk stand under the names they go by. -/
theorem Registry.Walked.key? (walked : Walked graph o r parent followed path keyed) :
    ∀ e ∈ keyed, e.2.key? = some e.1 := by
  induction walked with
  | ended | unknown _ | nowhere _ _ => exact fun e inside => absurd inside List.not_mem_nil
  | stopped _ _ run _ => exact key?_of_mapM_keyedJoin run
  | onward _ _ run _ _ ih => exact List.forall_mem_append.mpr ⟨key?_of_mapM_keyedJoin run, ih⟩

/-- A walk finds nothing, or its path begins with a relationship of its registry. -/
theorem Registry.walk_eq_nil_or_follows (graph : Option Graph) (o : Options) (r : Registry)
    (parent : String) (followed path : List String) :
    r.walk graph o parent followed path = .ok [] ∨
      ∃ rel rest, path = rel.name :: rest ∧ rel ∈ r.relationships ∧ r.get? rel.name = some rel := by
  cases path with
  | nil => exact .inl rfl
  | cons segment rest =>
    cases found : r.get? segment with
    | none => exact .inl (by rw [walk, found])
    | some rel =>
      obtain ⟨member, rfl⟩ := of_get? found
      exact .inr ⟨rel, rest, rfl, member, found⟩

/-- A walk fails only in a hop of its own: it cannot be joined, or one of its joins has no name. -/
theorem Registry.exists_failing_hop {fault : JoinFault}
    (failed : r.walk graph o parent followed path = .error fault) :
    ∃ rel, r.Reaches graph rel ∧ ∃ origin depth, rel.hop? origin o depth = .error fault ∨
      ∃ hop, rel.hop? origin o depth = .ok (some hop) ∧
        hop.joins.mapM keyedJoin = .error fault := by
  induction path generalizing r parent followed with
  | nil => cases failed
  | cons segment rest ih =>
    cases found : r.get? segment with
    | none =>
      rw [walk, found] at failed
      cases failed
    | some rel =>
      rw [walk, found] at failed
      rcases bind_eq_error_iff.mp failed with unjoined | ⟨result, joined, failed⟩
      · exact ⟨rel, reaches_of_get? found, parent, _, .inl unjoined⟩
      cases result with
      | none => cases failed
      | some hop =>
        rcases bind_eq_error_iff.mp failed with unnamed | ⟨own, _, failed⟩
        · exact ⟨rel, reaches_of_get? found, parent, _, .inr ⟨hop, joined, unnamed⟩⟩
        cases leads : r.next? graph o rel with
        | none =>
          rw [leads] at failed
          cases failed
        | some next =>
          rw [leads] at failed
          rcases bind_eq_error_iff.mp failed with later | ⟨_, _, failed⟩
          · obtain ⟨rel, reached, hops⟩ := ih later
            exact ⟨rel, reaches_of_next? leads reached, hops⟩
          · cases failed

end

/-- The joins of a description are the first ones, for each name, of the walks along its paths. -/
theorem Registry.joins_eq_ok_iff {graph : Option Graph} {o : Options} {r : Registry}
    {joins : List Join} : r.joins graph o = .ok joins ↔
      ∃ walks, List.Forall₂ (fun path keyed => r.walkPath graph o path = .ok keyed) o.paths walks ∧
        joins = (firstByKey walks.flatten).map (·.2) := by
  rw [Registry.joins, bind_eq_ok_iff]
  exact exists_congr fun walks => and_congr mapM_eq_ok_iff
    ⟨fun same => (Except.ok.inj same).symm, fun same => congrArg Except.ok same.symm⟩

end ListQuery
