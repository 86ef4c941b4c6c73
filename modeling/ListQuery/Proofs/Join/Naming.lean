import ListQuery.Proofs.Join.Kept
import ListQuery.Proofs.Join.Key
/-!
Relationships that are named after the table they lead to. A column is written with the name of the
last relationship on its path, and where every relationship has the name of its target that is the
name of a joined table, however many hops lead to it.
-/
namespace ListQuery

open Column Text

theorem Join.words_of_no_key {table condition : String}
    (nameless : (⟨table, condition, none⟩ : Join).key? = none) : words table.toList = [] := by
  rw [key?, Option.orElse_eq_orElse, Option.orElse_eq_or, Option.or_eq_none_iff, tableName?,
    List.head?_eq_none_iff] at nameless
  exact List.map_eq_nil_iff.mp nameless.2

namespace Relationship

/-- A relationship that is named after its target, of a kind that joins the target under the
target's own name. -/
structure IsNamedAfterTarget (rel : Relationship) : Prop where
  kind : rel.kind = .oneToMany ∨ rel.kind = .manyToOne ∨
    ∃ junction foreignKey targetKey, rel.kind = .manyToMany junction foreignKey targetKey
  name : rel.name = rel.target
  word : IsWord rel.target

/-- A relationship through a junction whose name is blank. -/
def HasBlankJunction (rel : Relationship) : Prop :=
  ∃ junction foreignKey targetKey, rel.kind = .manyToMany junction foreignKey targetKey ∧
    words junction.toList = []

section
variable {rel : Relationship} (named : rel.IsNamedAfterTarget) {parent : String} {o : Options}
  {depth : Nat}
include named

theorem IsNamedAfterTarget.isDirect : rel.IsDirect := by
  rw [IsDirect]
  rcases named.kind with kind | kind | ⟨_, _, _, kind⟩
  all_goals
    rw [kind]
    trivial

theorem bareHop?_of_named : ∃ hop, rel.bareHop? parent o depth = .ok (some hop) ∧
    some rel.name ∈ hop.joins.map Join.key? ∧
    (none ∈ hop.joins.map Join.key? → rel.HasBlankJunction) := by
  have target (condition : String) : (⟨rel.target, condition, none⟩ : Join).key? = some rel.name :=
    named.name ▸ Join.key?_of_isWord named.word condition
  rcases named.kind with kind | kind | ⟨junction, foreignKey, targetKey, kind⟩
  · refine ⟨_, by rw [bareHop?, kind], ?_⟩
    rw [List.map_singleton, target]
    simp
  · refine ⟨_, by rw [bareHop?, kind], ?_⟩
    rw [List.map_singleton, target]
    simp
  · refine ⟨_, by rw [bareHop?, kind], ?_⟩
    rw [List.map_cons, List.map_singleton, target]
    refine ⟨by simp, fun nameless => ?_⟩
    rcases List.mem_pair.mp nameless with blank | impossible
    · exact ⟨junction, foreignKey, targetKey, kind, Join.words_of_no_key blank.symm⟩
    · cases impossible

/-- A hop always leads somewhere, and its target is joined under the name of the relationship. -/
theorem hop?_of_named {result : Option Hop} (joined : rel.hop? parent o depth = .ok result) :
    ∃ hop, result = some hop ∧ some rel.name ∈ hop.joins.map Join.key? ∧
      (none ∈ hop.joins.map Join.key? → rel.HasBlankJunction) := by
  obtain ⟨hop, bare, keys⟩ := bareHop?_of_named named
  obtain ⟨_, made, same⟩ := of_hop? joined
  rw [bare] at made
  cases made
  rcases same with rfl | ⟨_, extra, same, rfl⟩
  · exact ⟨hop, rfl, keys⟩
  · cases same
    refine ⟨_, rfl, ?_⟩
    rw [map_strengthenLast fun _ _ => rfl]
    exact keys

end

end Relationship

/-- A path that is looked up to its end: each of its segments is a relationship of the table that
was reached before. -/
inductive Graph.Resolves (g : Graph) : Registry → List String → Prop
  | last {r : Registry} {segment : String} {rel : Relationship}
      (found : r.get? segment = some rel) : Resolves g r [segment]
  | onward {r next : Registry} {segment : String} {rest : List String} {rel : Relationship}
      (found : r.get? segment = some rel) (leads : g.get? rel.target = some next)
      (later : Resolves g next rest) : Resolves g r (segment :: rest)

section
variable {g : Graph} {o : Options} {r : Registry}

theorem Graph.Resolves.exists_getLast? {path : List String} (resolves : g.Resolves r path) :
    ∃ rel, r.Reaches (some g) rel ∧ path.getLast? = some rel.name := by
  induction resolves with
  | last found => exact ⟨_, Registry.reaches_of_get? found, by rw [(Registry.of_get? found).2]; rfl⟩
  | @onward r next segment rest rel found leads later ih =>
    obtain ⟨last, reached, ends⟩ := ih
    have known : r.Reaches (some g) last := by
      refine .inr ⟨g, rfl, ?_⟩
      rcases reached with own | ⟨_, given, known⟩
      · exact ⟨next, (of_get? leads).1, own⟩
      · cases given
        exact known
    refine ⟨last, known, ?_⟩
    rw [List.getLast?_cons, ends]
    rfl

variable (named : ∀ rel, r.Reaches (some g) rel → rel.IsNamedAfterTarget)
include named

/-- A hop has a join under the segment that it follows. -/
theorem Registry.exists_target_join {parent segment : String} {depth : Nat} {rel : Relationship}
    {hop : Hop} {own : List (String × Join)} (found : r.get? segment = some rel)
    (joined : rel.hop? parent o depth = .ok (some hop))
    (run : hop.joins.mapM keyedJoin = .ok own) : ∃ e ∈ own, e.1 = segment := by
  obtain ⟨_, same, target, _⟩ :=
    Relationship.hop?_of_named (named rel (reaches_of_get? found)) joined
  cases same
  obtain ⟨j, member, key⟩ := List.mem_map.mp target
  rw [← (of_get? found).2]
  exact ⟨(rel.name, j), mem_of_mapM run member (keyedJoin_eq_ok_iff.mpr ⟨rfl, key⟩), rfl⟩

/-- A walk along a path that can be looked up joins a table under the last segment. -/
theorem Registry.Walked.exists_last {parent : String} {followed path : List String}
    {keyed : List (String × Join)} (walked : Walked (some g) o r parent followed path keyed)
    (resolves : g.Resolves r path) : ∃ e ∈ keyed, path.getLast? = some e.1 := by
  -- on the walk; where the lookups go on, the walk goes on too, to the same table
  induction walked with
  | ended => cases resolves
  | unknown missing =>
    cases resolves with
    | last found | onward found _ _ =>
      rw [missing] at found
      cases found
  | nowhere found stops =>
    obtain ⟨hop, same, _⟩ := Relationship.hop?_of_named (named _ (reaches_of_get? found)) stops
    cases same
  | stopped found joined run leads =>
    cases resolves with
    | last _ =>
      obtain ⟨e, inside, same⟩ := exists_target_join named found joined run
      exact ⟨e, inside, congrArg some same.symm⟩
    | onward again known _ =>
      rw [found] at again
      cases again
      rw [Relationship.next?_of_isDirect (named _ (reaches_of_get? found)).isDirect, known] at leads
      cases leads
  | onward found joined run leads later ih =>
    cases resolves with
    | last _ =>
      obtain ⟨e, inside, same⟩ := exists_target_join named found joined run
      exact ⟨e, List.mem_append_left _ inside, congrArg some same.symm⟩
    | onward again known onward =>
      rw [found] at again
      cases again
      have same := leads
      rw [Relationship.next?_of_isDirect (named _ (reaches_of_get? found)).isDirect, known] at same
      cases same
      obtain ⟨e, inside, ends⟩ :=
        ih (fun rel reached => named rel (reaches_of_next? leads reached)) onward
      refine ⟨e, List.mem_append_right _ inside, ?_⟩
      rw [List.getLast?_cons, ends]
      rfl

/-- A walk fails where a condition of a relationship cannot be written or a junction has no name. -/
theorem Registry.exists_fault_of_walk {parent : String} {followed path : List String}
    {fault : JoinFault} (failed : r.walk (some g) o parent followed path = .error fault) :
    ∃ rel, r.Reaches (some g) rel ∧
      (rel.Fails fault ∨ (fault = .blankTable ∧ rel.HasBlankJunction)) := by
  obtain ⟨rel, reached, origin, depth, unjoined | ⟨hop, joined, unnamed⟩⟩ :=
    exists_failing_hop failed
  · exact ⟨rel, reached, .inl (Relationship.fails_of_hop? unjoined)⟩
  · obtain ⟨_, same, _, nameless⟩ := Relationship.hop?_of_named (named rel reached) joined
    cases same
    obtain ⟨j, member, unkeyed⟩ := exists_mem_of_mapM_eq_error unnamed
    obtain ⟨key, blank⟩ := keyedJoin_eq_error_iff.mp unkeyed
    exact ⟨rel, reached, .inr ⟨blank, nameless (key ▸ List.mem_map_of_mem member)⟩⟩

end

/-- Where every relationship of a graph is named after its target, a column whose path can be looked
up is written with the name of a joined table. The joins are found unless a condition of a
relationship cannot be written or a junction has no name. -/
theorem Registry.qualifier_joined_of_named {g : Graph} {r : Registry} (member : r ∈ g.registries)
    (named : ∀ known ∈ g.registries, ∀ rel ∈ known.relationships, rel.IsNamedAfterTarget)
    (o : Options) :
    (∀ joins, r.joins (some g) o = .ok joins → ∀ column ∈ o.columns,
      g.Resolves r (segments (path column)) →
        ∃ qualifier, head? (resolve column) = some qualifier ∧
          ∃ j ∈ joins, j.key? = some qualifier) ∧
    ∀ fault, r.joins (some g) o = .error fault →
      ∃ known ∈ g.registries, ∃ rel ∈ known.relationships,
        rel.Fails fault ∨ (fault = .blankTable ∧ rel.HasBlankJunction) := by
  have known : ∀ rel, r.Reaches (some g) rel →
      ∃ known ∈ g.registries, rel ∈ known.relationships := by
    rintro rel (own | ⟨_, given, known, listed, inside⟩)
    · exact ⟨r, member, own⟩
    · cases given
      exact ⟨known, listed, inside⟩
  have after : ∀ rel, r.Reaches (some g) rel → rel.IsNamedAfterTarget := fun rel reached =>
    have ⟨registry, listed, inside⟩ := known rel reached
    named registry listed rel inside
  constructor
  · intro joins built column used resolves
    obtain ⟨last, reached, ends⟩ := resolves.exists_getLast?
    have fits := after last reached
    have some_name : last.name ≠ "" := fits.name ▸ fits.word.some_char
    obtain ⟨owner, dotted⟩ := owner?_of_path ends some_name
    have asked := Options.mem_paths.mpr ⟨dotted, column, used, rfl⟩
    obtain ⟨own, walked⟩ := exists_joins_iff.mp ⟨joins, built⟩ _ asked
    obtain ⟨keyed, ran, _⟩ := map_eq_ok_iff.mp walked
    obtain ⟨e, inside, same⟩ := (walk_eq_ok_iff.mp ran).exists_last after resolves
    rw [same] at ends
    rw [← Option.some.inj ends] at owner
    exact ⟨e.1, (head?_resolve column).trans owner, exists_join_of_walk built asked ran inside⟩
  · intro fault failed
    rcases bind_eq_error_iff.mp failed with unwalked | ⟨_, _, failed⟩
    · obtain ⟨path, _, failed⟩ := exists_mem_of_mapM_eq_error unwalked
      obtain ⟨rel, reached, why⟩ := exists_fault_of_walk after failed
      obtain ⟨registry, listed, inside⟩ := known rel reached
      exact ⟨registry, listed, rel, inside, why⟩
    · cases failed

theorem Registry.qualifier_joined_of_named_for_cycle :
    let activities : Registry := ⟨"activities", [.manyToOne "users" "users" "user_id"], by decide⟩
    let users : Registry :=
      ⟨"users", [.manyToOne "companies" "companies" "company_id"], by decide⟩
    let companies : Registry := ⟨"companies", [.oneToMany "users" "users" "company_id",
      .manyToMany "tags" "tags" "company_tags" "company_id" "tag_id"], by decide⟩
    let g : Graph := ⟨[activities, users, companies], by decide⟩
    let o : Options := { Options.default with
      search := .ofList [("users.companies.users.companies.tags.name", .text "Open")]
      filter := .ofList [("users.name", .text "Ann")] }
    activities ∈ g.registries ∧
      (∀ known ∈ g.registries, ∀ rel ∈ known.relationships, rel.IsNamedAfterTarget) ∧
      ∃ joins, activities.joins (some g) o = .ok joins ∧
        joins.map Join.key? = [some "users", some "companies", some "company_tags", some "tags"] ∧
        ∃ qualifier, head? (resolve "users.companies.users.companies.tags.name") = some qualifier ∧
          ∃ j ∈ joins, j.key? = some qualifier := by
  intro activities users companies g o
  have toUsers : (Relationship.manyToOne "users" "users" "user_id").IsNamedAfterTarget :=
    ⟨.inr (.inl rfl), rfl, by decide +kernel⟩
  have toCompanies : (Relationship.manyToOne "companies" "companies"
      "company_id").IsNamedAfterTarget := ⟨.inr (.inl rfl), rfl, by decide +kernel⟩
  have backToUsers : (Relationship.oneToMany "users" "users" "company_id").IsNamedAfterTarget :=
    ⟨.inl rfl, rfl, by decide +kernel⟩
  have toTags : (Relationship.manyToMany "tags" "tags" "company_tags" "company_id"
      "tag_id").IsNamedAfterTarget := ⟨.inr (.inr ⟨_, _, _, rfl⟩), rfl, by decide +kernel⟩
  have named : ∀ known ∈ g.registries, ∀ rel ∈ known.relationships, rel.IsNamedAfterTarget :=
    List.forall_mem_cons.mpr ⟨List.forall_mem_singleton.mpr toUsers, List.forall_mem_cons.mpr
      ⟨List.forall_mem_singleton.mpr toCompanies, List.forall_mem_singleton.mpr
        (List.forall_mem_cons.mpr ⟨backToUsers, List.forall_mem_singleton.mpr toTags⟩)⟩⟩
  have names : (activities.joins (some g) o).map (fun joins => joins.map Join.key?) =
      .ok [some "users", some "companies", some "company_tags", some "tags"] := by decide +kernel
  obtain ⟨joins, built, written⟩ := map_eq_ok_iff.mp names
  have parts : segments (path "users.companies.users.companies.tags.name") =
      ["users", "companies", "users", "companies", "tags"] := by decide +kernel
  have resolves : g.Resolves activities
      (segments (path "users.companies.users.companies.tags.name")) :=
    parts ▸ .onward rfl rfl (.onward rfl rfl (.onward rfl rfl (.onward rfl rfl (.last rfl))))
  obtain ⟨finds, _⟩ := qualifier_joined_of_named (List.mem_cons_self (l := [users, companies]))
    named o
  exact ⟨List.mem_cons_self, named, joins, built, written,
    finds joins built _ (by decide +kernel) resolves⟩

end ListQuery
