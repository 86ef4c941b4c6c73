import ListQuery.Join.ActivityLog
import ListQuery.Proofs.Join.Key
import ListQuery.Proofs.Join.Trace
import Mathlib.Data.List.MinMax
import Mathlib.Order.Nat
/-!
Tables that are joined to themselves level by level. Where a relationship of a table with itself is
all that the dotted columns of a description follow, the joins are the levels from the first one up
to the longest way that is asked for or the bound of the relationship, and each level is tied to the
one before it.
-/
namespace ListQuery

open Column Text

/-- The longest way to a column of a description. -/
def Options.longestWay (o : Options) : Nat := (o.columns.map hops).foldr max 0

section
variable (parent name table foreignKey : String)

/-- The names of the levels; the table that the way starts from is level zero. -/
def chainName : Nat → String
  | 0 => parent
  | 1 => name ++ "_" ++ table
  | level + 2 => name ++ "_" ++ table ++ "_" ++ toString (level + 2)

/-- The join that leads from a level to the next one. -/
def chainJoin (level : Nat) : Join :=
  let copy := chainName parent name table (level + 1)
  ⟨table ++ " AS " ++ copy,
    copy ++ ".id = " ++ chainName parent name table level ++ "." ++ foreignKey, some copy⟩

/-- The join that leads to the next level, with the name it goes by. -/
def chainEntry (level : Nat) : String × Join :=
  (chainName parent name table (level + 1), chainJoin parent name table foreignKey level)

end

section
variable (parent : String) {name table foreignKey : String} {maxDepth : Int} {rel : Relationship}
  (made : Relationship.selfReferential name table foreignKey maxDepth = .ok rel)
include made

theorem Relationship.of_selfReferential :
    rel = ofKind (.selfReferential maxDepth) name table foreignKey := by
  rw [selfReferential] at made
  split_ifs at made
  exact (Except.ok.inj made).symm

theorem copyName_eq_chainName (level : Nat) :
    rel.copyName (level + 1) = chainName parent name table (level + 1) := by
  rw [Relationship.of_selfReferential made]
  cases level with
  | zero => exact String.append_empty
  | succ level => exact String.append_assoc.symm

theorem chainName_injective {parent : String} {level other : Nat}
    (same : chainName parent name table (level + 1) = chainName parent name table (other + 1)) :
    level = other := by
  rw [← copyName_eq_chainName parent made, ← copyName_eq_chainName parent made] at same
  exact Nat.succ.inj
    (Relationship.copyName_injective (Nat.le_add_left 1 level) (Nat.le_add_left 1 other) same)

/-- One more level, unless the bound is reached. -/
theorem Relationship.hop?_of_chain (o : Options) (level : Nat) :
    rel.hop? (chainName parent name table level) o (level + 1) =
      if maxDepth < (level + 1 : Nat) then .ok none
      else .ok (some ⟨[chainJoin parent name table foreignKey level],
        chainName parent name table (level + 1)⟩) := by
  have copied := copyName_eq_chainName parent made level
  obtain rfl := of_selfReferential made
  by_cases deep : maxDepth < (level + 1 : Nat)
  · have stops : (ofKind (.selfReferential maxDepth) name table foreignKey).bareHop?
        (chainName parent name table level) o (level + 1) = .ok none := if_pos deep
    rw [hop?, stops, if_pos deep]
    rfl
  · have goes : (ofKind (.selfReferential maxDepth) name table foreignKey).bareHop?
        (chainName parent name table level) o (level + 1) =
          .ok (some ⟨[chainJoin parent name table foreignKey level],
            chainName parent name table (level + 1)⟩) := by
      have tie (copy : String) : copy ++ "." ++ "id" ++ " = " = copy ++ ".id = " := by
        simp only [String.append_assoc]
        rfl
      rw [chainJoin, ← copied, ← tie]
      exact if_neg deep
    rw [hop?, goes, if_neg deep]
    rfl

variable (named : IsWord name) (target : IsWord table)
include named target

theorem key?_chainJoin (level : Nat) :
    (chainJoin parent name table foreignKey level).key? =
      some (chainName parent name table (level + 1)) := by
  have copied : IsWord (chainName parent name table (level + 1)) := by
    rw [← copyName_eq_chainName parent made]
    obtain rfl := Relationship.of_selfReferential made
    exact Relationship.isWord_copyName named target (level + 1)
  exact Join.key?_of_copy target copied _

/-- The walk along a number of hops adds as many levels, up to the bound. -/
theorem Registry.walk_chain {r : Registry} (found : r.get? name = some rel) (graph : Option Graph)
    (o : Options) (hops level : Nat) {followed : List String}
    (above : followed.count name = level) :
    r.walk graph o (chainName parent name table level) followed (List.replicate hops name) =
      .ok ((List.range' level (min maxDepth.toNat (level + hops) - level)).map
        (chainEntry parent name table foreignKey)) := by
  -- on the number of hops; the level is the number of hops that were made before
  induction hops generalizing level followed with
  | zero =>
    have none_left : min maxDepth.toNat (level + 0) - level = 0 := by omega
    rw [none_left]
    rfl
  | succ hops ih =>
    subst above
    have joined := Relationship.hop?_of_chain parent made o (followed.count name)
    by_cases deep : maxDepth < (followed.count name + 1 : Nat)
    · have none_left :
          min maxDepth.toNat (followed.count name + (hops + 1)) - followed.count name = 0 := by
        omega
      rw [if_pos deep] at joined
      rw [none_left, List.replicate_succ, walk_of_no_hop found joined]
      rfl
    · have one_more : min maxDepth.toNat (followed.count name + (hops + 1)) - followed.count name =
          min maxDepth.toNat (followed.count name + 1 + hops) - (followed.count name + 1) + 1 := by
        omega
      have run : [chainJoin parent name table foreignKey (followed.count name)].mapM keyedJoin =
          .ok [chainEntry parent name table foreignKey (followed.count name)] :=
        mapM_eq_ok_iff.mpr (.cons (keyedJoin_eq_ok_iff.mpr
          ⟨rfl, key?_chainJoin parent made named target _⟩) .nil)
      have leads : r.next? graph o rel = some r := by
        rw [Relationship.of_selfReferential made]
        rfl
      have onward := ih _ (List.count_cons_self : (name :: followed).count name = _)
      rw [if_neg deep] at joined
      rw [one_more, List.range'_succ, List.replicate_succ,
        walk_of_next found joined run leads onward]
      rfl

end

theorem Registry.get?_of_mem {r : Registry} {rel : Relationship} (held : rel ∈ r.relationships) :
    r.get? rel.name = some rel := by
  obtain ⟨before, after, split⟩ := List.append_of_mem held
  refine List.find?_eq_some_iff_append.mpr
    ⟨beq_self_eq_true rel.name, before, after, split, fun other inside => ?_⟩
  have distinct_names := r.distinct_names
  rw [split, List.map_append, List.nodup_append] at distinct_names
  have differs := distinct_names.2.2 other.name (List.mem_map_of_mem inside) rel.name
    (List.mem_map_of_mem List.mem_cons_self)
  simpa using differs

/-- Paths of a description whose dotted columns follow one name only. -/
theorem Options.segments_of_chained {o : Options} {name : String}
    (chained : ∀ column ∈ o.columns, ∀ segment ∈ (segments column).dropLast, segment = name)
    {column : String} (used : column ∈ o.columns) (some_hop : 0 < hops column) :
    segments (path column) = List.replicate (hops column) name := by
  rw [segments_path some_hop]
  exact List.eq_replicate_iff.mpr ⟨rfl, chained column used⟩

theorem min_foldr_max_le {bound most : Nat} {sizes : List Nat}
    (each : ∀ n ∈ sizes, min bound n ≤ most) : min bound (sizes.foldr max 0) ≤ most := by
  induction sizes with
  | nil => simp
  | cons n rest ih =>
    rw [List.forall_mem_cons] at each
    rw [List.foldr_cons, min_max_distrib_left]
    exact max_le each.1 (ih each.2)

/-- The longest way is as long as the longest path, both cut at a bound. -/
theorem Options.foldr_max_paths {o : Options} {name : String} (some_char : name ≠ "")
    (chained : ∀ column ∈ o.columns, ∀ segment ∈ (segments column).dropLast, segment = name)
    (bound : Nat) :
    (o.paths.map fun p => min bound (segments p).length).foldr max 0 = min bound o.longestWay := by
  apply Nat.le_antisymm
  · refine List.max_le_of_forall_le (α := Nat) _ _ fun n listed => ?_
    obtain ⟨p, asked, rfl⟩ := List.mem_map.mp listed
    obtain ⟨some_path, column, used, rfl⟩ := mem_paths.mp asked
    rw [segments_of_chained chained used (hops_pos_of_path some_path), List.length_replicate]
    exact min_le_min_left bound (List.le_max_of_le' 0 (List.mem_map_of_mem used) le_rfl)
  · refine min_foldr_max_le fun n listed => ?_
    obtain ⟨column, used, rfl⟩ := List.mem_map.mp listed
    rcases Nat.eq_zero_or_pos (hops column) with bare | some_hop
    · rw [bare, Nat.min_zero]
      exact Nat.zero_le _
    · have parts := segments_of_chained chained used some_hop
      have some_path : path column ≠ "" := by
        intro empty
        have alone : [""] = List.replicate (hops column) name := by
          rw [← parts, empty]
          rfl
        exact some_char ((List.eq_replicate_iff.mp alone).2 "" (List.mem_singleton_self _)).symm
      refine List.le_max_of_le' 0
        (List.mem_map_of_mem (mem_paths.mpr ⟨some_path, column, used, rfl⟩)) ?_
      rw [parts, List.length_replicate]

section
variable {r : Registry} {name table foreignKey : String} {maxDepth : Int} {rel : Relationship}
  (made : Relationship.selfReferential name table foreignKey maxDepth = .ok rel)
  (held : rel ∈ r.relationships) (named : IsWord name) (target : IsWord table)
  (graph : Option Graph) {o : Options}
  (chained : ∀ column ∈ o.columns, ∀ segment ∈ (segments column).dropLast, segment = name)
include made held named target chained

/-- Each path adds the levels from the first one up to its length or the bound. -/
theorem Registry.walkPath_chain {p : String} (asked : p ∈ o.paths) :
    r.walkPath graph o p = .ok ((List.range (min maxDepth.toNat (segments p).length)).map
      (chainEntry r.parent name table foreignKey)) := by
  obtain ⟨some_path, column, used, rfl⟩ := Options.mem_paths.mp asked
  have parts := Options.segments_of_chained chained used (hops_pos_of_path some_path)
  have found : r.get? name = some rel := by
    have same := get?_of_mem held
    rwa [Relationship.of_selfReferential made] at same ⊢
  have walked := walk_chain r.parent made named target found graph o (hops column) 0 List.count_nil
  rw [Nat.zero_add, Nat.sub_zero, ← List.range_eq_range'] at walked
  rw [walkPath, parts, List.length_replicate]
  exact walked

/-- The levels of all paths together are those of the longest one. -/
theorem Registry.joins_eq_levels : r.joins graph o = .ok
    ((List.range (min maxDepth.toNat o.longestWay)).map
      (chainJoin r.parent name table foreignKey)) := by
  have walks : List.Forall₂ (fun p keyed => r.walkPath graph o p = .ok keyed) o.paths
      (o.paths.map fun p => (List.range (min maxDepth.toNat (segments p).length)).map
        (chainEntry r.parent name table foreignKey)) := by
    rw [List.forall₂_map_right_iff, List.forall₂_same]
    exact fun p asked => walkPath_chain made held named target graph chained asked
  have distinct_keys : ∀ n m, (chainEntry r.parent name table foreignKey n).1 =
      (chainEntry r.parent name table foreignKey m).1 → n = m := fun _ _ same =>
    chainName_injective made same
  have kept := firstByKey_flatten_ranges distinct_keys
    (o.paths.map fun p => min maxDepth.toNat (segments p).length)
  rw [Options.foldr_max_paths named.some_char chained, List.map_map, Function.comp_def] at kept
  refine joins_eq_ok_iff.mpr ⟨_, walks, ?_⟩
  rw [kept, List.map_map]
  rfl

end

/-- Where the dotted columns of a description follow one relationship of a table with itself, the
joins are the levels of that table up to the longest way or the bound, each of them tied to the one
before and under a name of its own. -/
theorem Registry.joins_of_chain {r : Registry} {name table foreignKey : String} {maxDepth : Int}
    {rel : Relationship}
    (made : Relationship.selfReferential name table foreignKey maxDepth = .ok rel)
    (held : rel ∈ r.relationships) (named : IsWord name) (target : IsWord table)
    (graph : Option Graph) {o : Options}
    (chained : ∀ column ∈ o.columns, ∀ segment ∈ (segments column).dropLast, segment = name) :
    let levels := List.range (min maxDepth.toNat o.longestWay)
    let level := chainJoin r.parent name table foreignKey
    r.joins graph o = .ok (levels.map level) ∧
      (∀ n, (level n).key? = some (chainName r.parent name table (n + 1))) ∧
      ((levels.map level).map Join.key?).Nodup := by
  intro levels level
  have keys := key?_chainJoin r.parent made named target
  refine ⟨joins_eq_levels made held named target graph chained, keys, ?_⟩
  rw [List.map_map]
  refine List.nodup_range.map fun n m same => ?_
  rw [Function.comp_apply, Function.comp_apply, keys, keys, Option.some.injEq] at same
  exact chainName_injective made same

theorem Registry.joins_of_chain_for_parents :
    let o : Options := { Options.default with
      search := .ofList [("parent.name", .text "Outdoor"),
        ("parent.parent.parent.parent.name", .text "Sport")]
      order := [⟨"parent.parent.name", "ASC"⟩, ⟨"name", "ASC"⟩] }
    ActivityLog.tags.joins (some ActivityLog.graph) o =
      .ok [⟨"tags AS parent_tags", "parent_tags.id = tags.parent_tag_id", some "parent_tags"⟩,
        ⟨"tags AS parent_tags_2", "parent_tags_2.id = parent_tags.parent_tag_id",
          some "parent_tags_2"⟩,
        ⟨"tags AS parent_tags_3", "parent_tags_3.id = parent_tags_2.parent_tag_id",
          some "parent_tags_3"⟩] := by
  intro o
  have chained : ∀ column ∈ o.columns, ∀ segment ∈ (segments column).dropLast,
      segment = "parent" := by decide +kernel
  have longest : o.longestWay = 4 := by decide +kernel
  have made : Relationship.selfReferential "parent" "tags" "parent_tag_id" 3 =
      .ok ActivityLog.parentOfTag := rfl
  have held : ActivityLog.parentOfTag ∈ ActivityLog.tags.relationships := List.mem_cons_self
  have built := (joins_of_chain made held (by decide) (by decide) (some ActivityLog.graph)
    chained).1
  rw [longest] at built
  exact built

end ListQuery
