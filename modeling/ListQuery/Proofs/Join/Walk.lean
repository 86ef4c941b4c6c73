import ListQuery.Join.Registry
import ListQuery.Proofs.Column.Resolve
import ListQuery.Proofs.Distinct
import ListQuery.Proofs.Steps
/-!
Walks along the paths of columns. What holds of every hop of a graph holds of the joins of a whole
description, and the joins of each walk are among them, one for each name.
-/
namespace ListQuery

open Column

theorem Options.mem_paths {o : Options} {p : String} :
    p ∈ o.paths ↔ p ≠ "" ∧ ∃ column ∈ o.columns, path column = p := by
  rw [paths, mem_distinct, List.mem_filter, List.mem_map, and_comm]
  simp

theorem keyedJoin_eq_ok_iff {j : Join} {e : String × Join} :
    keyedJoin j = .ok e ↔ e.2 = j ∧ j.key? = some e.1 := by
  rw [keyedJoin]
  cases j.key? with
  | none => simp
  | some key =>
    obtain ⟨k, i⟩ := e
    simp only [Except.ok.injEq, Prod.mk.injEq, Option.some.injEq]
    exact ⟨fun h => ⟨h.2.symm, h.1⟩, fun h => ⟨h.2, h.1.symm⟩⟩

theorem keyedJoin_eq_error_iff {j : Join} {fault : JoinFault} :
    keyedJoin j = .error fault ↔ j.key? = none ∧ fault = .blankTable := by
  rw [keyedJoin]
  cases j.key? <;> simp [eq_comm]

theorem key?_of_mapM_keyedJoin {joins : List Join} {keyed : List (String × Join)}
    (run : joins.mapM keyedJoin = .ok keyed) : ∀ e ∈ keyed, e.2.key? = some e.1 :=
  forall_mem_of_mapM run fun j _ e made => by
    obtain ⟨rfl, key⟩ := keyedJoin_eq_ok_iff.mp made
    exact key

theorem exists_mapM_keyedJoin {joins : List Join} {K : String → Prop}
    (named : ∀ j ∈ joins, ∃ key, j.key? = some key ∧ K key) :
    ∃ keyed, joins.mapM keyedJoin = .ok keyed ∧ ∀ e ∈ keyed, K e.1 := by
  obtain ⟨keyed, run⟩ : ∃ keyed, joins.mapM keyedJoin = .ok keyed :=
    exists_mapM_eq_ok_iff.mpr fun j member => by
      obtain ⟨key, found, _⟩ := named j member
      exact ⟨(key, j), keyedJoin_eq_ok_iff.mpr ⟨rfl, found⟩⟩
  refine ⟨keyed, run, forall_mem_of_mapM run fun j member e made => ?_⟩
  obtain ⟨key, found, kind⟩ := named j member
  obtain ⟨rfl, same⟩ := keyedJoin_eq_ok_iff.mp made
  rw [found] at same
  cases same
  exact kind

theorem Registry.of_get? {r : Registry} {segment : String} {rel : Relationship}
    (h : r.get? segment = some rel) : rel ∈ r.relationships ∧ rel.name = segment := by
  rw [get?] at h
  have named := List.find?_some h
  exact ⟨List.mem_of_find?_eq_some h, beq_iff_eq.mp named⟩

theorem Graph.of_get? {g : Graph} {table : String} {r : Registry} (h : g.get? table = some r) :
    r ∈ g.registries ∧ r.parent = table := by
  rw [get?] at h
  have named := List.find?_some h
  exact ⟨List.mem_of_find?_eq_some h, beq_iff_eq.mp named⟩

/-- A step leads to the registry it starts from or to one of the graph. -/
theorem Registry.of_next? {graph : Option Graph} {o : Options} {r next : Registry}
    {rel : Relationship} (h : r.next? graph o rel = some next) :
    next = r ∨ ∃ g ∈ graph, next ∈ g.registries := by
  rw [next?] at h
  split at h
  · exact .inl (Option.some.inj h).symm
  · obtain ⟨g, given, h⟩ := Option.bind_eq_some_iff.mp h
    obtain ⟨table, _, found⟩ := Option.bind_eq_some_iff.mp h
    exact .inr ⟨g, given, (Graph.of_get? found).1⟩

/-- A relationship that leads to its target under the target's own name, for every description. -/
def Relationship.IsDirect (rel : Relationship) : Prop :=
  match rel.kind with
  | .oneToMany | .manyToOne | .manyToMany _ _ _ => True
  | _ => False

theorem Relationship.next?_of_isDirect {rel : Relationship} (direct : rel.IsDirect) {o : Options}
    {r : Registry} {g : Graph} : r.next? (some g) o rel = g.get? rel.target := by
  rw [IsDirect] at direct
  cases kind : rel.kind with
  | oneToMany | manyToOne | manyToMany =>
    simp [Registry.next?, isSelfReferential, table?, kind]
  | selfReferential | polymorphic | unsupported =>
    rw [kind] at direct
    exact direct.elim

/-- A path that is walked to its end, and the relationship it ends with. -/
inductive Registry.Walks (graph : Option Graph) (o : Options) :
    Registry → String → List String → List String → Relationship → Prop
  | arrive {r : Registry} {parent segment : String} {followed : List String} {rel : Relationship}
      {hop : Hop} (found : r.get? segment = some rel)
      (joined : rel.hop? parent o (followed.count segment + 1) = .ok (some hop)) :
      Walks graph o r parent followed [segment] rel
  | follow {r next : Registry} {parent segment : String} {followed rest : List String}
      {rel last : Relationship} {hop : Hop} (found : r.get? segment = some rel)
      (joined : rel.hop? parent o (followed.count segment + 1) = .ok (some hop))
      (leads : r.next? graph o rel = some next)
      (onward : Walks graph o next hop.reference (segment :: followed) rest last) :
      Walks graph o r parent followed (segment :: rest) last

theorem Registry.Walks.getLast? {graph : Option Graph} {o : Options} {r : Registry}
    {parent : String} {followed path : List String} {last : Relationship}
    (walks : Walks graph o r parent followed path last) : path.getLast? = some last.name := by
  induction walks with
  | arrive found _ => rw [(of_get? found).2, List.getLast?_singleton]
  | follow _ _ _ onward ih =>
    cases onward with
    | arrive => exact ih
    | follow => exact ih

/-- The owner of a column whose path is walked to its end is the relationship it ends with. -/
theorem Registry.Walks.owner? {graph : Option Graph} {o : Options} {r : Registry} {parent : String}
    {followed : List String} {last : Relationship} {column : String}
    (walks : Walks graph o r parent followed (segments (path column)) last)
    (named : last.name ≠ "") : Column.owner? column = some last.name ∧ path column ≠ "" :=
  owner?_of_path walks.getLast? named

section
variable {graph : Option Graph} {o : Options} {r next : Registry} {parent segment : String}
  {followed rest : List String} {rel : Relationship} {hop : Hop} {keyed more : List (String × Join)}
  (found : r.get? segment = some rel)
include found

theorem Registry.walk_of_no_hop
    (joined : rel.hop? parent o (followed.count segment + 1) = .ok none) :
    r.walk graph o parent followed (segment :: rest) = .ok [] := by
  rw [walk, found]
  simp only [joined]
  rfl

variable (joined : rel.hop? parent o (followed.count segment + 1) = .ok (some hop))
  (run : hop.joins.mapM keyedJoin = .ok keyed)
include joined run

theorem Registry.walk_of_no_next (leads : r.next? graph o rel = none) :
    r.walk graph o parent followed (segment :: rest) = .ok keyed := by
  rw [walk, found]
  simp only [joined, run, leads, bind, Except.bind]

theorem Registry.walk_of_next (leads : r.next? graph o rel = some next)
    (onward : next.walk graph o hop.reference (segment :: followed) rest = .ok more) :
    r.walk graph o parent followed (segment :: rest) = .ok (keyed ++ more) := by
  rw [walk, found]
  simp only [joined, run, leads, onward, bind, Except.bind]

end

/-- Two walks that make the same hop are the same if they go on alike. -/
theorem Registry.walk_cons_congr {graph : Option Graph} {o u : Options} {r : Registry}
    {parent segment : String} {followed before rest : List String} {rel : Relationship}
    (found : r.get? segment = some rel)
    (same : rel.hop? parent o (followed.count segment + 1) =
      rel.hop? parent u (before.count segment + 1))
    (leads : r.next? graph o rel = r.next? graph u rel)
    (onward : ∀ hop next, rel.hop? parent u (before.count segment + 1) = .ok (some hop) →
      r.next? graph u rel = some next →
        next.walk graph o hop.reference (segment :: followed) rest =
          next.walk graph u hop.reference (segment :: before) rest) :
    r.walk graph o parent followed (segment :: rest) =
      r.walk graph u parent before (segment :: rest) := by
  rw [walk, walk, found]
  dsimp only
  rw [same, leads]
  cases joined : rel.hop? parent u (before.count segment + 1) with
  | error fault => rfl
  | ok result =>
    cases result with
    | none => rfl
    | some hop =>
      cases known : r.next? graph u rel with
      | none => rfl
      | some next =>
        simp only [bind, Except.bind, onward hop next joined known]

/-- The joins of a relationship go by names of a kind, wherever it is followed from. -/
def Relationship.JoinsUnder (K : String → Prop) (o : Options) (rel : Relationship) : Prop :=
  ∀ parent depth, 1 ≤ depth → ∃ result, rel.hop? parent o depth = .ok result ∧
    ∀ hop, result = some hop → ∀ j ∈ hop.joins, ∃ key, j.key? = some key ∧ K key

section
variable {g : Graph} {o : Options} {K : String → Prop}

theorem Registry.mem_of_next? {r next : Registry} {rel : Relationship} (member : r ∈ g.registries)
    (h : r.next? (some g) o rel = some next) : next ∈ g.registries := by
  rcases of_next? h with rfl | ⟨_, given, known⟩
  · exact member
  · cases given
    exact known

/-- A walk ends with a relationship of the graph. -/
theorem Registry.Walks.mem_relationships {r : Registry} {parent : String}
    {followed path : List String} {last : Relationship}
    (walks : Walks (some g) o r parent followed path last) (member : r ∈ g.registries) :
    ∃ r ∈ g.registries, last ∈ r.relationships := by
  induction walks with
  | arrive found _ => exact ⟨_, member, (of_get? found).1⟩
  | follow _ _ leads _ ih => exact ih (mem_of_next? member leads)

variable (under : ∀ r ∈ g.registries, ∀ rel ∈ r.relationships, rel.JoinsUnder K o)
include under

/-- A walk from any table of a graph succeeds, and the names it joins are of the kind. -/
theorem Registry.exists_walk {r : Registry} (member : r ∈ g.registries) (parent : String)
    (followed path : List String) : ∃ keyed, r.walk (some g) o parent followed path = .ok keyed ∧
      ∀ e ∈ keyed, K e.1 ∧ e.2.key? = some e.1 := by
  -- on the path, for every table that a step may lead to
  induction path generalizing r parent followed with
  | nil => exact ⟨[], rfl, fun e inside => absurd inside List.not_mem_nil⟩
  | cons segment rest ih =>
    have nothing : ∀ e ∈ ([] : List (String × Join)), K e.1 ∧ e.2.key? = some e.1 :=
      fun e inside => absurd inside List.not_mem_nil
    cases found : r.get? segment with
    | none => exact ⟨[], by rw [walk, found], nothing⟩
    | some rel =>
      obtain ⟨result, joined, named⟩ := under r member rel (of_get? found).1 parent
        (followed.count segment + 1) (Nat.le_add_left 1 _)
      cases result with
      | none => exact ⟨[], walk_of_no_hop found joined, nothing⟩
      | some hop =>
        obtain ⟨keyed, run, kind⟩ := exists_mapM_keyedJoin (named hop rfl)
        have here : ∀ e ∈ keyed, K e.1 ∧ e.2.key? = some e.1 := fun e inside =>
          ⟨kind e inside, key?_of_mapM_keyedJoin run e inside⟩
        cases leads : r.next? (some g) o rel with
        | none => exact ⟨keyed, walk_of_no_next found joined run leads, here⟩
        | some next =>
          obtain ⟨more, onward, later⟩ := ih (mem_of_next? member leads) hop.reference
            (segment :: followed)
          exact ⟨keyed ++ more, walk_of_next found joined run leads onward,
            List.forall_mem_append.mpr ⟨here, later⟩⟩

/-- The joins of the last hop are among the joins of the walk. -/
theorem Registry.Walks.exists_last_hop {r : Registry} {parent : String}
    {followed path : List String} {last : Relationship} {keyed : List (String × Join)}
    (walks : Walks (some g) o r parent followed path last) (member : r ∈ g.registries)
    (ran : r.walk (some g) o parent followed path = .ok keyed) :
    ∃ origin depth hop own, 1 ≤ depth ∧ last.hop? origin o depth = .ok (some hop) ∧
      hop.joins.mapM keyedJoin = .ok own ∧ ∀ e ∈ own, e ∈ keyed := by
  induction walks generalizing keyed with
  | @arrive r parent segment followed rel hop found joined =>
    obtain ⟨result, again, named⟩ := under r member rel (of_get? found).1 parent
      (followed.count segment + 1) (Nat.le_add_left 1 _)
    rw [joined] at again
    cases again
    obtain ⟨own, run, _⟩ := exists_mapM_keyedJoin (named hop rfl)
    refine ⟨parent, _, hop, own, Nat.le_add_left 1 _, joined, run, ?_⟩
    cases leads : r.next? (some g) o rel with
    | none =>
      rw [walk_of_no_next found joined run leads] at ran
      cases ran
      exact fun e inside => inside
    | some next =>
      rw [walk_of_next found joined run leads rfl] at ran
      cases ran
      exact fun e inside => List.mem_append_left _ inside
  | @follow r next parent segment followed rest rel last hop found joined leads onward ih =>
    obtain ⟨result, again, named⟩ := under r member rel (of_get? found).1 parent
      (followed.count segment + 1) (Nat.le_add_left 1 _)
    rw [joined] at again
    cases again
    obtain ⟨first, run, _⟩ := exists_mapM_keyedJoin (named hop rfl)
    have next_member := mem_of_next? member leads
    obtain ⟨more, later, _⟩ := exists_walk under next_member hop.reference (segment :: followed)
      rest
    obtain ⟨origin, depth, final, own, pos, hops, keys, inside⟩ := ih next_member later
    rw [walk_of_next found joined run leads later] at ran
    cases ran
    exact ⟨origin, depth, final, own, pos, hops, keys, fun e member =>
      List.mem_append_right _ (inside e member)⟩

/-- The joins of a description: they go by names of the kind, and every walk has its own there. -/
theorem Registry.exists_joins {r : Registry} (member : r ∈ g.registries) :
    ∃ joins, r.joins (some g) o = .ok joins ∧
      (∀ j ∈ joins, ∃ key, j.key? = some key ∧ K key) ∧
      ∀ column ∈ o.columns, path column ≠ "" → ∀ keyed,
        r.walkPath (some g) o (path column) = .ok keyed →
          ∀ e ∈ keyed, ∃ j ∈ joins, j.key? = some e.1 := by
  obtain ⟨walks, run⟩ : ∃ walks, o.paths.mapM (r.walkPath (some g) o) = .ok walks :=
    exists_mapM_eq_ok_iff.mpr fun path _ => by
      obtain ⟨keyed, walked, _⟩ := exists_walk under member r.parent [] (segments path)
      exact ⟨keyed, walked⟩
  have kinds : ∀ e ∈ walks.flatten, K e.1 ∧ e.2.key? = some e.1 := by
    intro e inside
    obtain ⟨keyed, listed, inside⟩ := List.mem_flatten.mp inside
    refine forall_mem_of_mapM run (P := fun w => ∀ e ∈ w, K e.1 ∧ e.2.key? = some e.1) ?_ keyed
      listed e inside
    intro path _ w walked
    obtain ⟨same, again, kind⟩ := exists_walk under member r.parent [] (segments path)
    rw [walkPath, again] at walked
    cases walked
    exact kind
  refine ⟨(firstByKey walks.flatten).map (·.2), ?_, ?_, ?_⟩
  · rw [joins, run]
    rfl
  · intro j listed
    obtain ⟨e, kept, rfl⟩ := List.mem_map.mp listed
    obtain ⟨kind, key⟩ := kinds e (mem_of_mem_firstByKey kept)
    exact ⟨e.1, key, kind⟩
  · intro column used dotted keyed walked e inside
    have asked : path column ∈ o.paths := Options.mem_paths.mpr ⟨dotted, column, used, rfl⟩
    have found : e ∈ walks.flatten :=
      List.mem_flatten.mpr ⟨keyed, mem_of_mapM run asked walked, inside⟩
    obtain ⟨kept, first, same⟩ := exists_mem_firstByKey found
    refine ⟨kept.2, List.mem_map_of_mem first, ?_⟩
    rw [(kinds kept (mem_of_mem_firstByKey first)).2, same]

end

end ListQuery
