import ListQuery.Proofs.Join.Trace
/-!
Which path a join comes from. Every name that a path joins a table under is joined once, by the
first path that joins a table under it; another relationship that leads to a table of the same name
is not joined.
-/
namespace ListQuery

open Column

/-- The joins of one path on its own. -/
def Registry.ownJoins (r : Registry) (graph : Option Graph) (o : Options) (path : String) :
    Except JoinFault (List Join) :=
  (r.walkPath graph o path).map fun keyed => (firstByKey keyed).map (·.2)

/-- A join under a name, by the first path of a description that has a join of its own there. -/
def Registry.FirstUnder (r : Registry) (graph : Option Graph) (o : Options) (key : String)
    (j : Join) : Prop :=
  ∃ before path after own, o.paths = before ++ path :: after ∧
    r.ownJoins graph o path = .ok own ∧ j ∈ own ∧ j.key? = some key ∧
    ∀ earlier ∈ before, ∀ others, r.ownJoins graph o earlier = .ok others →
      ∀ other ∈ others, other.key? ≠ some key

variable {graph : Option Graph} {o : Options} {r : Registry}

/-- What is kept of several runs comes from the first run that has something under its key. -/
theorem first_run_of_mem_firstByKey {α β ε : Type} {f : α → Except ε (List (String × β))}
    {inputs : List α} {results : List (List (String × β))}
    (runs : List.Forall₂ (fun a result => f a = .ok result) inputs results) {e : String × β}
    (kept : e ∈ firstByKey results.flatten) :
    ∃ before a after result, inputs = before ++ a :: after ∧ f a = .ok result ∧
      e ∈ firstByKey result ∧ ∀ b ∈ before, ∀ other, f b = .ok other → ∀ x ∈ other, x.1 ≠ e.1 := by
  induction runs with
  | nil => cases kept
  | @cons a result inputs results ran _ ih =>
    rw [List.flatten_cons, mem_firstByKey_append] at kept
    rcases kept with own | ⟨fresh, later⟩
    · exact ⟨[], a, inputs, result, rfl, ran, own, nofun⟩
    · obtain ⟨before, b, after, found, rfl, run, own, earlier⟩ := ih later
      refine ⟨a :: before, b, after, found, rfl, run, own, List.forall_mem_cons.mpr ⟨?_, earlier⟩⟩
      intro other again
      rw [ran] at again
      cases again
      exact fresh

theorem Registry.key?_of_walkPath {path : String} {keyed : List (String × Join)}
    (ran : r.walkPath graph o path = .ok keyed) : ∀ e ∈ keyed, e.2.key? = some e.1 :=
  (walk_eq_ok_iff.mp ran).key?

theorem Registry.exists_ownJoins_iff {path : String} :
    (∃ own, r.ownJoins graph o path = .ok own) ↔ ∃ keyed, r.walkPath graph o path = .ok keyed :=
  exists_map_eq_ok_iff

theorem Registry.exists_joins_iff : (∃ joins, r.joins graph o = .ok joins) ↔
    ∀ path ∈ o.paths, ∃ own, r.ownJoins graph o path = .ok own := by
  simp only [exists_ownJoins_iff]
  rw [← exists_mapM_eq_ok_iff]
  constructor
  · rintro ⟨joins, built⟩
    obtain ⟨walks, runs, _⟩ := joins_eq_ok_iff.mp built
    exact ⟨walks, mapM_eq_ok_iff.mpr runs⟩
  · rintro ⟨walks, run⟩
    exact ⟨_, joins_eq_ok_iff.mpr ⟨walks, mapM_eq_ok_iff.mp run, rfl⟩⟩

section
variable {walks : List (List (String × Join))}
  (runs : List.Forall₂ (fun path keyed => r.walkPath graph o path = .ok keyed) o.paths walks)
include runs

theorem Registry.key?_of_walks : ∀ e ∈ walks.flatten, e.2.key? = some e.1 := by
  intro e inside
  obtain ⟨keyed, listed, inside⟩ := List.mem_flatten.mp inside
  exact forall_mem_of_mapM (mapM_eq_ok_iff.mpr runs)
    (P := fun keyed => ∀ e ∈ keyed, e.2.key? = some e.1)
    (fun _ _ _ ran => key?_of_walkPath ran) keyed listed e inside

theorem Registry.firstUnder_of_mem_firstByKey {e : String × Join}
    (kept : e ∈ firstByKey walks.flatten) : r.FirstUnder graph o e.1 e.2 := by
  obtain ⟨before, path, after, keyed, split, ran, own, earlier⟩ :=
    first_run_of_mem_firstByKey runs kept
  refine ⟨before, path, after, _, split, map_eq_ok_iff.mpr ⟨keyed, ran, rfl⟩,
    List.mem_map_of_mem own, key?_of_walkPath ran e (mem_of_mem_firstByKey own), ?_⟩
  intro b asked others walked other listed
  obtain ⟨more, ran, rfl⟩ := map_eq_ok_iff.mp walked
  obtain ⟨x, inside, rfl⟩ := List.mem_map.mp listed
  have member := mem_of_mem_firstByKey inside
  rw [key?_of_walkPath ran x member]
  exact fun same => earlier b asked more ran x member (Option.some.inj same)

/-- Under each name the list has one join. -/
theorem Registry.filter_joins_eq_singleton {e : String × Join}
    (kept : e ∈ firstByKey walks.flatten) :
    ((firstByKey walks.flatten).map (·.2)).filter (fun j => j.key? = some e.1) = [e.2] := by
  have named : ∀ x ∈ firstByKey walks.flatten,
      decide (x.2.key? = some e.1) = decide (x.1 = e.1) := by
    intro x inside
    simp only [key?_of_walks runs x (mem_of_mem_firstByKey inside), Option.some_inj]
  rw [List.filter_map, Function.comp_def, List.filter_congr named,
    filter_eq_singleton_of_nodup (nodup_keys_firstByKey _) kept]
  rfl

end

/-- Every name that a walk of a description joins a table under is the name of a join. -/
theorem Registry.exists_join_of_walk {joins : List Join} (built : r.joins graph o = .ok joins)
    {path : String} (asked : path ∈ o.paths) {keyed : List (String × Join)}
    (ran : r.walkPath graph o path = .ok keyed) {e : String × Join} (inside : e ∈ keyed) :
    ∃ j ∈ joins, j.key? = some e.1 := by
  obtain ⟨walks, runs, rfl⟩ := joins_eq_ok_iff.mp built
  obtain ⟨kept, first, same⟩ := exists_mem_firstByKey
    (List.mem_flatten.mpr ⟨keyed, mem_of_mapM (mapM_eq_ok_iff.mpr runs) asked ran, inside⟩)
  exact ⟨kept.2, List.mem_map_of_mem first,
    same ▸ key?_of_walks runs kept (mem_of_mem_firstByKey first)⟩

/-- The joins of a description are found whenever those of each of its paths are. Under every name
that a path has a join of its own for there is one join, the first path's, and the path's own one is
in the list exactly when it is that one. -/
theorem Registry.own_join_listed_iff_first :
    ((∃ joins, r.joins graph o = .ok joins) ↔
      ∀ path ∈ o.paths, ∃ own, r.ownJoins graph o path = .ok own) ∧
    ∀ joins, r.joins graph o = .ok joins → ∀ column ∈ o.columns, path column ≠ "" →
      ∃ own, r.ownJoins graph o (path column) = .ok own ∧
        ∀ j ∈ own, ∃ key kept, j.key? = some key ∧ r.FirstUnder graph o key kept ∧
          joins.filter (fun i => i.key? = some key) = [kept] ∧ (j ∈ joins ↔ j = kept) := by
  refine ⟨exists_joins_iff, fun joins built column used dotted => ?_⟩
  have asked := Options.mem_paths.mpr ⟨dotted, column, used, rfl⟩
  obtain ⟨own, walked⟩ := exists_joins_iff.mp ⟨joins, built⟩ (path column) asked
  refine ⟨own, walked, fun j listed => ?_⟩
  obtain ⟨keyed, ran, rfl⟩ := map_eq_ok_iff.mp walked
  obtain ⟨e, inside, rfl⟩ := List.mem_map.mp listed
  have member := mem_of_mem_firstByKey inside
  obtain ⟨walks, runs, rfl⟩ := joins_eq_ok_iff.mp built
  obtain ⟨kept, first, same⟩ := exists_mem_firstByKey
    (List.mem_flatten.mpr ⟨keyed, mem_of_mapM (mapM_eq_ok_iff.mpr runs) asked ran, member⟩)
  have named := key?_of_walkPath ran e member
  have single := filter_joins_eq_singleton runs first
  rw [← same] at named
  refine ⟨kept.1, kept.2, named, firstUnder_of_mem_firstByKey runs first, single, ?_⟩
  constructor
  · intro there
    have found : e.2 ∈ [kept.2] := by
      rw [← single]
      exact List.mem_filter.mpr ⟨there, decide_eq_true named⟩
    exact List.mem_singleton.mp found
  · intro equal
    rw [equal]
    exact List.mem_map_of_mem first

/-- Of an owner and a coach, both of them users, only the first one that a description uses is
joined. -/
theorem Registry.second_path_not_joined :
    let r : Registry := ⟨"activities", [.manyToOne "owner" "users" "user_id",
      .manyToOne "coach" "users" "coach_id"], by decide⟩
    let o : Options := { Options.default with
      filter := .ofList [("owner.name", .text "Ann"), ("coach.name", .text "Bob")] }
    ∃ joins own j, r.joins none o = .ok joins ∧ "coach.name" ∈ o.columns ∧
      r.ownJoins none o (path "coach.name") = .ok own ∧ j ∈ own ∧ j ∉ joins := by
  intro r o
  refine ⟨[⟨"users", "users.id = activities.user_id", none⟩],
    [⟨"users", "users.id = activities.coach_id", none⟩],
    ⟨"users", "users.id = activities.coach_id", none⟩, ?_, ?_, ?_, ?_, ?_⟩
  · decide +kernel
  · decide
  · decide +kernel
  · exact List.mem_singleton_self _
  · decide

end ListQuery
