import ListQuery.Join.ActivityLog
import ListQuery.Proofs.Join.Kept
import ListQuery.Proofs.Join.Key
/-!
Paths that are put together of two. Behind a path of direct relationships a walk goes on as one that
starts from the table it came to, up to the number of copies: a copy of a table that is joined to
itself is counted by the name of its relationship, and the names of the first part count as well.
-/
namespace ListQuery

open Column

namespace Relationship

variable {rel : Relationship} {parent : String} {o : Options} {depth : Nat}

theorem isSelfReferential_iff :
    rel.isSelfReferential = true ↔ ∃ maxDepth, rel.kind = .selfReferential maxDepth := by
  rw [isSelfReferential]
  cases rel.kind with
  | selfReferential maxDepth => exact ⟨fun _ => ⟨maxDepth, rfl⟩, fun _ => rfl⟩
  | oneToMany | manyToOne | manyToMany | polymorphic | unsupported => simp

theorem reference_of_isDirect (direct : rel.IsDirect) {result : Option Hop}
    (joined : rel.hop? parent o depth = .ok result) :
    result.map Hop.reference = some rel.target := by
  obtain ⟨bare, found, same⟩ := of_hop? joined
  have leads : bare.map Hop.reference = some rel.target := by
    rw [IsDirect] at direct
    rw [bareHop?] at found
    cases kind : rel.kind with
    | oneToMany | manyToOne | manyToMany =>
      simp only [kind] at found
      cases found
      rfl
    | selfReferential | polymorphic | unsupported =>
      rw [kind] at direct
      exact direct.elim
  rcases same with rfl | ⟨hop, extra, rfl, rfl⟩
  · exact leads
  · exact leads

/-- Only the copies of a table that is joined to itself are counted. -/
theorem hop?_of_uncounted (uncounted : rel.isSelfReferential = false) (deeper : Nat) :
    rel.hop? parent o deeper = rel.hop? parent o depth := by
  have same : rel.bareHop? parent o deeper = rel.bareHop? parent o depth := by
    rw [isSelfReferential] at uncounted
    rw [bareHop?, bareHop?]
    cases kind : rel.kind with
    | selfReferential =>
      rw [kind] at uncounted
      cases uncounted
    | oneToMany | manyToOne | manyToMany | polymorphic | unsupported => rfl
  rw [hop?, hop?, same]

theorem hop?_eq_none_of_le (stops : rel.hop? parent o depth = .ok none) {deeper : Nat}
    (further : depth ≤ deeper) : rel.hop? parent o deeper = .ok none := by
  cases counted : rel.isSelfReferential with
  | false => rw [hop?_of_uncounted counted, stops]
  | true =>
    obtain ⟨maxDepth, kind⟩ := isSelfReferential_iff.mp counted
    obtain ⟨_, found, rfl | ⟨_, _, _, same⟩⟩ := of_hop? stops
    · have bare_stops : rel.bareHop? parent o deeper = .ok none := by
        simp only [bareHop?, kind] at found ⊢
        split at found
        · exact if_pos (by omega)
        · cases found
      rw [hop?, bare_stops]
      rfl
    · cases same

/-- The copy that is joined shows how deep it is. -/
theorem givenAlias_of_copy (counted : rel.isSelfReferential = true) {hop : Hop}
    (joined : rel.hop? parent o depth = .ok (some hop)) :
    hop.joins.map Join.givenAlias = [some (rel.copyName depth)] := by
  obtain ⟨maxDepth, kind⟩ := isSelfReferential_iff.mp counted
  have alone {bare : Hop} (found : rel.bareHop? parent o depth = .ok (some bare)) :
      bare.joins.map Join.givenAlias = [some (rel.copyName depth)] := by
    simp only [bareHop?, kind] at found
    split at found
    · cases found
    · cases found
      rfl
  obtain ⟨_, found, rfl | ⟨bare, extra, rfl, same⟩⟩ := of_hop? joined
  · exact alone found
  · cases same
    rw [map_strengthenLast fun _ _ => rfl]
    exact alone found

end Relationship

/-- A path of direct relationships, each of them into a table of the graph, from one table to
another. -/
inductive Graph.LeadsTo (g : Graph) : Registry → List String → Registry → Prop
  | here {r : Registry} : LeadsTo g r [] r
  | onward {r next last : Registry} {segment : String} {rest : List String} {rel : Relationship}
      (found : r.get? segment = some rel) (direct : rel.IsDirect)
      (known : g.get? rel.target = some next) (later : LeadsTo g next rest last) :
      LeadsTo g r (segment :: rest) last

/-- Behind a path of direct relationships a walk goes on from the table it came to, with the names
of that path as names it has followed. -/
theorem Graph.LeadsTo.walk_append {g : Graph} {r next : Registry} {front : List String}
    (leads : g.LeadsTo r front next) (o : Options) (followed rest : List String) :
    r.walk (some g) o r.parent followed (front ++ rest) = (do
      let first ← r.walk (some g) o r.parent followed front
      let second ← next.walk (some g) o next.parent (front.reverse ++ followed) rest
      .ok (first ++ second)) := by
  induction leads generalizing followed with
  | @here r =>
    change r.walk (some g) o r.parent followed rest = (do
      let second ← r.walk (some g) o r.parent followed rest
      .ok second)
    cases r.walk (some g) o r.parent followed rest <;> rfl
  | @onward r next last segment front rel found direct known later ih =>
    rw [List.cons_append, Registry.walk, Registry.walk, found, List.reverse_cons,
      List.append_assoc, List.singleton_append]
    dsimp only
    cases joined : rel.hop? r.parent o (followed.count segment + 1) with
    | error fault => rfl
    | ok result =>
      have reference := Relationship.reference_of_isDirect direct joined
      cases result with
      | none => cases reference
      | some hop =>
        have same : hop.reference = next.parent :=
          (Option.some.inj reference).trans (of_get? known).2.symm
        have goes_on : r.next? (some g) o rel = some next :=
          (Relationship.next?_of_isDirect direct).trans known
        simp only [goes_on, same, ih, bind, Except.bind]
        cases hop.joins.mapM keyedJoin with
        | error fault => rfl
        | ok own =>
          cases next.walk (some g) o next.parent (segment :: followed) front with
          | error fault => rfl
          | ok first =>
            cases last.walk (some g) o last.parent (front.reverse ++ segment :: followed) rest with
            | error fault => rfl
            | ok second => exact congrArg Except.ok (List.append_assoc own first second).symm

/-- A relationship that a walk tries to join: the way to it is walked, and it leads somewhere or
fails. -/
inductive Registry.Tries (graph : Option Graph) (o : Options) :
    Registry → String → List String → List String → Relationship → Prop
  | here {r : Registry} {parent segment : String} {followed rest : List String}
      {rel : Relationship} (found : r.get? segment = some rel)
      (tried : rel.hop? parent o (followed.count segment + 1) ≠ .ok none) :
      Tries graph o r parent followed (segment :: rest) rel
  | later {r next : Registry} {parent segment : String} {followed rest : List String}
      {rel last : Relationship} {hop : Hop} (found : r.get? segment = some rel)
      (joined : rel.hop? parent o (followed.count segment + 1) = .ok (some hop))
      (leads : r.next? graph o rel = some next)
      (onward : Tries graph o next hop.reference (segment :: followed) rest last) :
      Tries graph o r parent followed (segment :: rest) last

/-- None of the names is that of a relationship of a table with itself that a walk tries to join. -/
def Registry.Uncounted (graph : Option Graph) (o : Options) (r : Registry) (parent : String)
    (followed path names : List String) : Prop :=
  ∀ rel, r.Tries graph o parent followed path rel → rel.isSelfReferential = true →
    rel.name ∉ names

section
variable {graph : Option Graph} {o : Options} {r : Registry} {parent : String}
  {followed path names : List String} {keyed : List (String × Join)}

theorem Registry.Tries.name_mem {rel : Relationship}
    (tries : r.Tries graph o parent followed path rel) : rel.name ∈ path := by
  induction tries with
  | here found _ => exact (of_get? found).2 ▸ List.mem_cons_self
  | later _ _ _ _ ih => exact List.mem_cons_of_mem _ ih

/-- Names that a path does not have are not counted. -/
theorem Registry.uncounted_of_disjoint (disjoint : ∀ name ∈ path, name ∉ names) :
    r.Uncounted graph o parent followed path names := fun _ tries _ => disjoint _ tries.name_mem

theorem Relationship.hop?_behind {rel : Relationship}
    (fresh : rel.isSelfReferential = true → rel.name ∉ names) :
    rel.hop? parent o ((followed ++ names).count rel.name + 1) =
      rel.hop? parent o (followed.count rel.name + 1) := by
  cases counted : rel.isSelfReferential with
  | false => exact hop?_of_uncounted counted _
  | true => rw [List.count_append, List.count_eq_zero.mpr (fresh counted), Nat.add_zero]

/-- Behind names that are not counted a walk is the same. -/
theorem Registry.walk_behind (uncounted : r.Uncounted graph o parent followed path names) :
    r.walk graph o parent (followed ++ names) path = r.walk graph o parent followed path := by
  -- on the path, for every registry that a step may lead to
  induction path generalizing r parent followed with
  | nil => rfl
  | cons segment rest ih =>
    cases found : r.get? segment with
    | none => rw [walk, walk, found]
    | some rel =>
      obtain ⟨_, rfl⟩ := of_get? found
      have same : rel.hop? parent o ((followed ++ names).count rel.name + 1) =
          rel.hop? parent o (followed.count rel.name + 1) := by
        by_cases stops : rel.hop? parent o (followed.count rel.name + 1) = .ok none
        · rw [stops]
          refine Relationship.hop?_eq_none_of_le stops ?_
          rw [List.count_append]
          omega
        · exact Relationship.hop?_behind (uncounted rel (.here found stops))
      exact walk_cons_congr found same rfl fun hop next joined leads =>
        ih fun last tries => uncounted last (.later found joined leads tries)

theorem exists_eq_singleton_of_copy {rel : Relationship} (counted : rel.isSelfReferential = true)
    {depth : Nat} {hop : Hop} (joined : rel.hop? parent o depth = .ok (some hop))
    {own : List (String × Join)} (run : hop.joins.mapM keyedJoin = .ok own) :
    ∃ e, own = [e] ∧ e.2.givenAlias = some (rel.copyName depth) := by
  have aliases := Relationship.givenAlias_of_copy counted joined
  obtain ⟨j, single, named⟩ := List.map_eq_singleton_iff.mp aliases
  rw [single, mapM_eq_ok_iff, List.forall₂_cons_left_iff] at run
  obtain ⟨e, more, keyed, rest, rfl⟩ := run
  cases rest
  exact ⟨e, rfl, (keyedJoin_eq_ok_iff.mp keyed).1 ▸ named⟩

/-- A walk that is the same behind some names has no copy first that is counted by them. -/
theorem Registry.Walked.fresh_of_behind {rel : Relationship} {rest : List String}
    (alone : Walked graph o r parent followed (rel.name :: rest) keyed)
    (behind : Walked graph o r parent (followed ++ names) (rel.name :: rest) keyed)
    (found : r.get? rel.name = some rel)
    (tried : rel.hop? parent o (followed.count rel.name + 1) ≠ .ok none)
    (counted : rel.isSelfReferential = true) : rel.name ∉ names := by
  obtain ⟨stops, _⟩ | ⟨hop, own, more, joined, run, same, _⟩ := alone.of_found found
  · exact absurd stops tried
  obtain ⟨e, rfl, depth⟩ := exists_eq_singleton_of_copy counted joined run
  obtain ⟨_, empty⟩ | ⟨hop', own', more', joined', run', same', _⟩ := behind.of_found found
  · rw [same] at empty
    cases empty
  obtain ⟨e', rfl, depth'⟩ := exists_eq_singleton_of_copy counted joined' run'
  rw [same, List.cons_append, List.cons_append] at same'
  obtain ⟨rfl, _⟩ := List.cons_eq_cons.mp same'
  rw [depth, Option.some.injEq] at depth'
  have level := Relationship.copyName_injective (Nat.le_add_left 1 _) (Nat.le_add_left 1 _) depth'
  rw [List.count_append] at level
  exact List.count_eq_zero.mp (by omega)

/-- Where a walk behind some names is the same, the names are not counted. -/
theorem Registry.Tries.fresh_of_behind {rel : Relationship}
    (tries : r.Tries graph o parent followed path rel) (counted : rel.isSelfReferential = true)
    (alone : Walked graph o r parent followed path keyed)
    (behind : Walked graph o r parent (followed ++ names) path keyed) :
    rel.name ∉ names := by
  induction tries generalizing keyed with
  | here found tried =>
    obtain ⟨_, rfl⟩ := of_get? found
    exact alone.fresh_of_behind behind found tried counted
  | @later r next parent segment followed rest rel last hop found joined leads _ ih =>
    obtain ⟨_, rfl⟩ := of_get? found
    have tried : rel.hop? parent o (followed.count rel.name + 1) ≠ .ok none := by
      rw [joined]
      nofun
    have again : rel.hop? parent o ((followed ++ names).count rel.name + 1) = .ok (some hop) :=
      (Relationship.hop?_behind (alone.fresh_of_behind behind found tried)).trans joined
    obtain ⟨stops, _⟩ | ⟨_, own, more, first, run, same, goes_on⟩ := alone.of_found found
    · exact absurd stops tried
    rw [joined] at first
    cases first
    obtain ⟨stops, _⟩ | ⟨_, own', more', first', run', same', goes_on'⟩ := behind.of_found found
    · rw [stops] at again
      cases again
    rw [again] at first'
    cases first'
    rw [run] at run'
    cases run'
    rw [same, List.append_cancel_left_eq] at same'
    subst same'
    exact ih counted (goes_on next leads) (goes_on' next leads)

theorem Registry.walk_behind_iff (alone : r.walk graph o parent followed path = .ok keyed) :
    r.walk graph o parent (followed ++ names) path = .ok keyed ↔
      r.Uncounted graph o parent followed path names :=
  ⟨fun behind _ tries counted =>
    tries.fresh_of_behind counted (walk_eq_ok_iff.mp alone) (walk_eq_ok_iff.mp behind),
    fun uncounted => (walk_behind uncounted).trans alone⟩

end

/-- The joins of two walks, one after the other: those of the first, and those of the second under
names of their own. -/
theorem map_firstByKey_append {first second : List (String × Join)}
    (first_named : ∀ e ∈ first, e.2.key? = some e.1)
    (second_named : ∀ e ∈ second, e.2.key? = some e.1) :
    (firstByKey (first ++ second)).map (·.2) =
      (firstByKey first).map (·.2) ++ ((firstByKey second).map (·.2)).filter fun k =>
        k.key? ∉ ((firstByKey first).map (·.2)).map Join.key? := by
  have same : ∀ e ∈ firstByKey second, decide (e.1 ∉ first.map (·.1)) =
      decide (e.2.key? ∉ ((firstByKey first).map (·.2)).map Join.key?) := by
    intro e inside
    rw [second_named e (mem_of_mem_firstByKey inside), decide_eq_decide, not_iff_not,
      List.map_map, List.mem_map, List.mem_map]
    constructor
    · rintro ⟨x, listed, same⟩
      obtain ⟨kept, first_kept, key⟩ := exists_mem_firstByKey listed
      refine ⟨kept, first_kept, ?_⟩
      rw [Function.comp_apply, first_named kept (mem_of_mem_firstByKey first_kept), key, same]
    · rintro ⟨x, kept, same⟩
      have listed := mem_of_mem_firstByKey kept
      rw [Function.comp_apply, first_named x listed, Option.some.injEq] at same
      exact ⟨x, listed, same⟩
  rw [firstByKey_append, List.map_append, List.filter_map, Function.comp_def,
    List.filter_congr same]

section
variable {g : Graph} {r next : Registry} {p : String} (leads : g.LeadsTo r (segments p) next)
  (o : Options) (q : String)
include leads

theorem Registry.walkPath_append : r.walkPath (some g) o (p ++ "." ++ q) = (do
    let first ← r.walkPath (some g) o p
    let second ← next.walk (some g) o next.parent (segments p).reverse (segments q)
    .ok (first ++ second)) := by
  have whole := leads.walk_append o [] (segments q)
  rwa [← segments_append, List.append_nil] at whole

theorem Registry.ownJoins_append (same : next.walk (some g) o next.parent (segments p).reverse
    (segments q) = next.walkPath (some g) o q) :
    r.ownJoins (some g) o (p ++ "." ++ q) = (do
      let js ← r.ownJoins (some g) o p
      let ks ← next.ownJoins (some g) o q
      .ok (js ++ ks.filter fun k => k.key? ∉ js.map Join.key?)) := by
  rw [ownJoins, ownJoins, ownJoins, walkPath_append leads, same]
  cases ran : r.walkPath (some g) o p with
  | error fault => rfl
  | ok first =>
    cases alone : next.walkPath (some g) o q with
    | error fault => rfl
    | ok second =>
      exact congrArg Except.ok
        (map_firstByKey_append (key?_of_walkPath ran) (key?_of_walkPath alone))

theorem Registry.walkPath_append_iff {first second : List (String × Join)}
    (ran : r.walkPath (some g) o p = .ok first) :
    r.walkPath (some g) o (p ++ "." ++ q) = .ok (first ++ second) ↔
      next.walk (some g) o next.parent (segments p).reverse (segments q) = .ok second := by
  rw [walkPath_append leads, ran, bind_eq_ok_iff]
  constructor
  · rintro ⟨_, same, composed⟩
    cases same
    obtain ⟨later, walked, composed⟩ := bind_eq_ok_iff.mp composed
    rw [walked, List.append_cancel_left (Except.ok.inj composed)]
  · intro walked
    exact ⟨first, rfl, bind_eq_ok_iff.mpr ⟨second, walked, rfl⟩⟩

end

/-- Behind a path of direct relationships to a table the joins of another path are those that it has
from this table, less those that are there already, provided that no relationship of a table with
itself that it tries goes by a name of the first path; where one does, the walk along both paths is
not the one walk followed by the other. -/
theorem Registry.path_composes_iff_uncounted {g : Graph} {r next : Registry} {p : String}
    (leads : g.LeadsTo r (segments p) next) (o : Options) (q : String) :
    let uncounted := next.Uncounted (some g) o next.parent [] (segments q) (segments p)
    (uncounted → r.ownJoins (some g) o (p ++ "." ++ q) = (do
      let js ← r.ownJoins (some g) o p
      let ks ← next.ownJoins (some g) o q
      .ok (js ++ ks.filter fun k => k.key? ∉ js.map Join.key?))) ∧
    ∀ first second, r.walkPath (some g) o p = .ok first →
      next.walkPath (some g) o q = .ok second →
        (r.walkPath (some g) o (p ++ "." ++ q) = .ok (first ++ second) ↔ uncounted) := by
  intro uncounted
  have reversed : next.Uncounted (some g) o next.parent [] (segments q) (segments p).reverse ↔
      uncounted := by
    simp only [uncounted, Uncounted, List.mem_reverse]
  constructor
  · intro fresh
    exact ownJoins_append leads o q (walk_behind (reversed.mpr fresh))
  · intro first second ran alone
    rw [walkPath_append_iff leads o q ran, ← reversed]
    exact walk_behind_iff alone

theorem Registry.path_composes_iff_uncounted_for_tags :
    let g := ActivityLog.graph
    let o := Options.default
    g.LeadsTo ActivityLog.activities (segments "tags") ActivityLog.tags ∧
    ActivityLog.activities.ownJoins (some g) o "tags.parent.parent" = (do
      let js ← ActivityLog.activities.ownJoins (some g) o "tags"
      let ks ← ActivityLog.tags.ownJoins (some g) o "parent.parent"
      .ok (js ++ ks.filter fun k => k.key? ∉ js.map Join.key?)) ∧
    (ActivityLog.tags.ownJoins (some g) o "parent.parent").map (·.map Join.key?) =
      .ok [some "parent_tags", some "parent_tags_2"] := by
  intro g o
  have front : segments "tags" = ["tags"] := by decide +kernel
  have back : segments "parent.parent" = ["parent", "parent"] := by decide +kernel
  have leads : g.LeadsTo ActivityLog.activities (segments "tags") ActivityLog.tags :=
    front ▸ .onward rfl trivial rfl .here
  refine ⟨leads, (path_composes_iff_uncounted leads o "parent.parent").1 ?_, by decide +kernel⟩
  refine uncounted_of_disjoint ?_
  rw [front, back]
  decide

/-- Behind a relationship of the same name the first parent of a tag is joined as the second one. -/
theorem Registry.name_of_first_path_counted :
    let badges : Registry := ⟨"badges", [.manyToOne "parent" "tags" "tag_id"], by decide⟩
    let g : Graph := ⟨[badges, ActivityLog.tags], by decide⟩
    let o := Options.default
    g.LeadsTo badges (segments "parent") ActivityLog.tags ∧
    ∃ js ks all, badges.ownJoins (some g) o "parent" = .ok js ∧
      ActivityLog.tags.ownJoins (some g) o "parent" = .ok ks ∧
      badges.ownJoins (some g) o ("parent" ++ "." ++ "parent") = .ok all ∧
      all ≠ js ++ ks.filter fun k => k.key? ∉ js.map Join.key? := by
  intro badges g o
  have front : segments "parent" = ["parent"] := by decide +kernel
  refine ⟨front ▸ .onward rfl trivial rfl .here,
    [⟨"tags", "tags.id = badges.tag_id", none⟩],
    [⟨"tags AS parent_tags", "parent_tags.id = tags.parent_tag_id", some "parent_tags"⟩],
    [⟨"tags", "tags.id = badges.tag_id", none⟩,
      ⟨"tags AS parent_tags_2", "parent_tags_2.id = tags.parent_tag_id", some "parent_tags_2"⟩],
    ?_, ?_, ?_, ?_⟩
  · decide +kernel
  · decide +kernel
  · decide +kernel
  · decide +kernel

end ListQuery
