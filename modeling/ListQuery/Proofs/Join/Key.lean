import ListQuery.Join.Relationship
import ListQuery.Proofs.Steps
import ListQuery.Proofs.Text.Words
/-!
The names that joins go by. A table that is written as one word goes by that word, and a copy of a
table by the word behind `AS`; so the joins of a relationship whose tables are named by words are
known by these names, whatever conditions are added to them.
-/
namespace ListQuery

open Text

namespace Join

theorem key?_of_isWord {table : String} (word : IsWord table) (condition : String) :
    (⟨table, condition, none⟩ : Join).key? = some table := by
  have one : (⟨table, condition, none⟩ : Join).tableWords = [table] := by
    rw [tableWords, word.words_eq, List.map_singleton, String.ofList_toList]
  rw [key?, writtenAlias, tableAlias, tableName?, one]
  rfl

theorem key?_of_copy {table copy : String} (word : IsWord table) (copied : IsWord copy)
    (condition : String) :
    (⟨table ++ " AS " ++ copy, condition, some copy⟩ : Join).key? = some copy := by
  have parts : (table ++ " AS " ++ copy).toList =
      table.toList ++ ' ' :: (['A', 'S'] ++ ' ' :: copy.toList) := by
    simp [String.toList_append]
  have space : isBlank ' ' = true := by decide
  have mark : words ['A', 'S'] = [['A', 'S']] := by decide
  have three : (⟨table ++ " AS " ++ copy, condition, some copy⟩ : Join).tableWords =
      [table, "AS", copy] := by
    rw [tableWords, parts, words_append_blank space, words_append_blank space, word.words_eq, mark,
      copied.words_eq]
    simp
  rw [key?, writtenAlias, tableAlias, three]
  simp [copied.some_char]

end Join

namespace Relationship

variable {rel : Relationship}

/-- The tables that a relationship may join. -/
def tables (rel : Relationship) : List String :=
  match rel.kind with
  | .manyToMany junction _ _ => [junction, rel.target]
  | .polymorphic _ _ map => map.entries.map Prod.snd
  | _ => [rel.target]

/-- A relationship whose own name and whose tables' names are words. -/
structure IsNamed (rel : Relationship) : Prop where
  name : IsWord rel.name
  tables : ∀ table ∈ rel.tables, IsWord table

instance (rel : Relationship) : Decidable rel.IsNamed :=
  decidable_of_iff (IsWord rel.name ∧ ∀ table ∈ rel.tables, IsWord table)
    ⟨fun ⟨h, i⟩ => ⟨h, i⟩, fun ⟨h, i⟩ => ⟨h, i⟩⟩

theorem isWord_copyName (name : IsWord rel.name) (target : IsWord rel.target) (depth : Nat) :
    IsWord (rel.copyName depth) := by
  refine (name.append (by decide)).append target.solid |>.append ?_
  by_cases deep : 1 < depth
  · rw [if_pos deep]
    exact IsSolid.append (by decide) (isSolid_toString depth)
  · rw [if_neg deep]
    decide

/-- The copies of a table have names of their own. -/
theorem copyName_injective {depth other : Nat} (pos : 1 ≤ depth) (other_pos : 1 ≤ other)
    (same : rel.copyName depth = rel.copyName other) : depth = other := by
  rw [copyName, copyName, String.append_right_inj] at same
  have numbered (n : Nat) : s!"_{n}" ≠ "" := by simp
  split_ifs at same with deep other_deep other_deep
  · exact eq_of_toString_eq ((String.append_right_inj "_").mp same)
  · exact absurd same (numbered depth)
  · exact absurd same.symm (numbered other)
  · omega

theorem mem_of_mappedTable? {typeColumn table : String} {map : OrderedMap String} {o : Options}
    (h : mappedTable? typeColumn map o = some table) : table ∈ map.entries.map Prod.snd := by
  obtain ⟨v, _, h⟩ := Option.bind_eq_some_iff.mp h
  obtain ⟨s, _, h⟩ := Option.bind_eq_some_iff.mp h
  obtain ⟨before, after, split, _⟩ := List.lookup_eq_some_iff.mp h
  rw [split]
  simp

/-- The columns that tie the tables of a relationship, each with the one it is compared to. -/
def tiedColumns (rel : Relationship) : List (String × String) :=
  match rel.kind with
  | .oneToMany => [(rel.foreignKey, rel.primaryKey)]
  | .manyToOne => [(rel.targetPrimaryKey, rel.foreignKey)]
  | .manyToMany _ foreignKey targetKey =>
    [(foreignKey, rel.primaryKey), (rel.targetPrimaryKey, targetKey)]
  | .selfReferential _ => [(rel.targetPrimaryKey, rel.foreignKey)]
  | .polymorphic _ idColumn _ => [(rel.targetPrimaryKey, idColumn)]
  | .unsupported _ => []

/-- A join whose condition begins with the equality of two tied columns, the first one of the joined
table and the second one of the table it is joined to. -/
def Ties (rel : Relationship) (origin key : String) (j : Join) : Prop :=
  ∃ columns ∈ rel.tiedColumns, ∃ rest,
    j.condition = columnsEqual key columns.1 origin columns.2 ++ rest ∧
      (rest = "" ∨ ∃ more, rest = " AND " ++ more)

theorem ties_of_mem {column other : String} (member : (column, other) ∈ rel.tiedColumns)
    (table origin key : String) (givenAlias : Option String) :
    rel.Ties origin key ⟨table, columnsEqual key column origin other, givenAlias⟩ :=
  ⟨(column, other), member, "", String.append_empty.symm, .inl rfl⟩

theorem Ties.and {origin key : String} {j : Join} (ties : rel.Ties origin key j) (extra : String) :
    rel.Ties origin key { j with condition := j.condition ++ " AND " ++ extra } := by
  obtain ⟨columns, member, rest, begins, follows⟩ := ties
  refine ⟨columns, member, rest ++ (" AND " ++ extra), ?_, .inr ?_⟩
  · rw [← String.append_assoc, ← begins, String.append_assoc]
  · rcases follows with rfl | ⟨more, rfl⟩
    · exact ⟨extra, String.empty_append⟩
    · exact ⟨more ++ (" AND " ++ extra), String.append_assoc⟩

/-- Joins that are tied to a table one after the other, and the name of the table they end with. -/
inductive Leads (rel : Relationship) : String → List Join → String → Prop
  | done {origin : String} : Leads rel origin [] origin
  | join {origin key reference : String} {j : Join} {rest : List Join}
      (named : j.key? = some key) (ties : rel.Ties origin key j)
      (later : Leads rel key rest reference) : Leads rel origin (j :: rest) reference

theorem Leads.strengthenLast {origin reference : String} {joins : List Join}
    (leads : rel.Leads origin joins reference) (extra : String) :
    rel.Leads origin (strengthenLast extra joins) reference := by
  induction leads with
  | done => exact .done
  | @join origin key reference j rest named ties later ih =>
    cases rest with
    | nil => exact .join named (ties.and extra) later
    | cons next rest => exact .join named ties ih

/-- What does not look at conditions sees no difference in a strengthened join. -/
theorem map_strengthenLast {α : Type} {f : Join → α}
    (blind : ∀ j condition, f { j with condition } = f j) (extra : String) (joins : List Join) :
    (strengthenLast extra joins).map f = joins.map f := by
  induction joins with
  | nil => rfl
  | cons j rest ih =>
    cases rest with
    | nil => exact congrArg (fun a => [a]) (blind j _)
    | cons next rest => exact congrArg (f j :: ·) ih

section
variable {parent : String} {o : Options} {depth : Nat}

theorem leads_of_bareHop? (named : rel.IsNamed) {hop : Hop}
    (joined : rel.bareHop? parent o depth = .ok (some hop)) :
    rel.Leads parent hop.joins hop.reference := by
  rw [bareHop?] at joined
  cases kind : rel.kind with
  | oneToMany | manyToOne =>
    have target : IsWord rel.target := named.tables _ (by simp [tables, kind])
    simp only [kind] at joined
    cases joined
    exact .join (Join.key?_of_isWord target _) (ties_of_mem (by simp [tiedColumns, kind]) ..) .done
  | manyToMany junction foreignKey targetKey =>
    have between : IsWord junction := named.tables _ (by simp [tables, kind])
    have target : IsWord rel.target := named.tables _ (by simp [tables, kind])
    simp only [kind] at joined
    cases joined
    exact .join (Join.key?_of_isWord between _) (ties_of_mem (by simp [tiedColumns, kind]) ..)
      (.join (Join.key?_of_isWord target _) (ties_of_mem (by simp [tiedColumns, kind]) ..) .done)
  | selfReferential maxDepth =>
    have target : IsWord rel.target := named.tables _ (by simp [tables, kind])
    have copied := isWord_copyName named.name target depth
    simp only [kind] at joined
    split at joined
    · cases joined
    · cases joined
      exact .join (Join.key?_of_copy target copied _) (ties_of_mem (by simp [tiedColumns, kind]) ..)
        .done
  | polymorphic typeColumn idColumn map =>
    simp only [kind] at joined
    obtain ⟨table, selected, rfl⟩ := Option.map_eq_some_iff.mp (Except.ok.inj joined)
    have mapped : IsWord table := named.tables _ (by
      rw [tables, kind]
      exact mem_of_mappedTable? selected)
    exact .join (Join.key?_of_isWord mapped _) (ties_of_mem (by simp [tiedColumns, kind]) ..) .done
  | unsupported name =>
    simp only [kind] at joined
    cases joined

/-- The static conditions of a relationship only strengthen the last of its joins. -/
theorem of_hop? {result : Option Hop} (joined : rel.hop? parent o depth = .ok result) :
    ∃ bare, rel.bareHop? parent o depth = .ok bare ∧ (result = bare ∨
      ∃ hop extra, bare = some hop ∧
        result = some { hop with joins := strengthenLast extra hop.joins }) := by
  obtain ⟨bare, found, joined⟩ := bind_eq_ok_iff.mp joined
  refine ⟨bare, found, ?_⟩
  cases bare with
  | none =>
    cases joined
    exact .inl rfl
  | some hop =>
    dsimp only at joined
    split at joined
    · cases joined
      exact .inl rfl
    · obtain ⟨extra, _, joined⟩ := bind_eq_ok_iff.mp joined
      cases joined
      exact .inr ⟨hop, _, rfl, rfl⟩

/-- Every join of a relationship is tied to the table before it. -/
theorem leads_of_hop? (named : rel.IsNamed) {hop : Hop}
    (joined : rel.hop? parent o depth = .ok (some hop)) :
    rel.Leads parent hop.joins hop.reference := by
  obtain ⟨_, bare, rfl | ⟨_, extra, rfl, same⟩⟩ := of_hop? joined
  · exact leads_of_bareHop? named bare
  · cases same
    exact (leads_of_bareHop? named bare).strengthenLast extra

/-- Why a relationship cannot be joined: nobody knows its kind, or one of its conditions cannot be
written. -/
def Fails (rel : Relationship) (fault : JoinFault) : Prop :=
  (∃ kind, rel.kind = .unsupported kind ∧ fault = .unsupportedKind kind) ∨
    ∃ c ∈ rel.conditions, c.text = .error fault

theorem fails_of_bareHop? {fault : JoinFault}
    (failed : rel.bareHop? parent o depth = .error fault) : rel.Fails fault := by
  rw [bareHop?] at failed
  split at failed
  case h_6 kind unsupported =>
    cases failed
    exact .inl ⟨kind, unsupported, rfl⟩
  case h_4 =>
    split at failed <;> cases failed
  all_goals cases failed

theorem fails_of_hop? {fault : JoinFault} (failed : rel.hop? parent o depth = .error fault) :
    rel.Fails fault := by
  rcases bind_eq_error_iff.mp failed with bare | ⟨result, bare, failed⟩
  · exact fails_of_bareHop? bare
  cases result with
  | none => cases failed
  | some hop =>
    dsimp only at failed
    split at failed
    · cases failed
    · rcases bind_eq_error_iff.mp failed with unwritten | ⟨_, _, failed⟩
      · exact .inr (exists_mem_of_mapM_eq_error unwritten)
      · cases failed

end

end Relationship

end ListQuery
