import ListQuery.Proofs.Join.Kept
import ListQuery.Proofs.Join.LogWalks
/-!
The joins of an activity log can be written behind any of its tables. No name is given to two
tables, and every condition speaks of tables that are there when it is read. Each walk of the log
has this, and keeping the first join of each name keeps it for all of them together.
-/
namespace ListQuery.ActivityLog

open Column Text

/-- The tables that a condition speaks of: whatever stands in front of the dot of a dotted word. -/
def qualifiers (condition : String) : List String :=
  (words condition.toList).filterMap fun word => head? (String.ofList word)

/-- Joins whose conditions speak of their own table and of one that is known or joined before. -/
inductive Grounded : List String → List (String × Join) → Prop
  | nil {known : List String} : Grounded known []
  | cons {known : List String} {origin : String} {e : String × Join} {rest : List (String × Join)}
      (here : origin ∈ known)
      (spoken : ∀ qualifier ∈ qualifiers e.2.condition, qualifier = e.1 ∨ qualifier = origin)
      (later : Grounded (e.1 :: known) rest) : Grounded known (e :: rest)

theorem Grounded.of_prefix {known : List String} {front entries : List (String × Join)}
    (grounded : Grounded known entries) (start : front <+: entries) : Grounded known front := by
  induction grounded generalizing front with
  | nil =>
    rw [List.prefix_nil.mp start]
    exact .nil
  | cons here spoken _ ih =>
    rcases List.prefix_cons_iff.mp start with rfl | ⟨rest, rfl, later⟩
    · exact .nil
    · exact .cons here spoken (ih later)

theorem Grounded.spoken_of_split {known : List String} {entries : List (String × Join)}
    (grounded : Grounded known entries) {before after : List (String × Join)} {e : String × Join}
    (split : entries = before ++ e :: after) : ∀ qualifier ∈ qualifiers e.2.condition,
      qualifier = e.1 ∨ qualifier ∈ known ∨ ∃ x ∈ before, x.1 = qualifier := by
  induction grounded generalizing before with
  | nil => exact absurd split.symm (by simp)
  | cons here spoken _ ih =>
    intro qualifier member
    cases before with
    | nil =>
      cases split
      rcases spoken qualifier member with own | rfl
      · exact .inl own
      · exact .inr (.inl here)
    | cons first before =>
      rw [List.cons_append] at split
      obtain ⟨rfl, rest_split⟩ := List.cons_eq_cons.mp split
      rcases ih rest_split qualifier member with own | there | ⟨x, inside, same⟩
      · exact .inl own
      · rcases List.mem_cons.mp there with rfl | there
        · exact .inr (.inr ⟨_, List.mem_cons_self, rfl⟩)
        · exact .inr (.inl there)
      · exact .inr (.inr ⟨x, List.mem_cons_of_mem _ inside, same⟩)

section
variable {known : List String}

theorem grounded_behind {origin : String} {e : String × Join} {walks : List (List (String × Join))}
    (here : origin ∈ known)
    (spoken : ∀ qualifier ∈ qualifiers e.2.condition, qualifier = e.1 ∨ qualifier = origin)
    (later : ∀ walk ∈ walks, Grounded (e.1 :: known) walk) :
    ∀ walk ∈ [] :: walks.map (e :: ·), Grounded known walk :=
  List.forall_mem_cons.mpr ⟨.nil, List.forall_mem_map.mpr fun walk listed =>
    .cons here spoken (later walk listed)⟩

theorem grounded_tagWalks (here : "tags" ∈ known) : ∀ walk ∈ tagWalks, Grounded known walk := by
  have whole : Grounded known copyEntries :=
    .cons here (by decide +kernel) (.cons List.mem_cons_self (by decide +kernel)
      (.cons List.mem_cons_self (by decide +kernel) .nil))
  exact fun walk listed => whole.of_prefix ((List.mem_inits _ _).mp listed)

theorem grounded_activityWalks (here : "activities" ∈ known) :
    ∀ walk ∈ activityWalks, Grounded known walk := by
  refine List.forall_mem_cons.mpr ⟨.nil, List.forall_mem_cons.mpr ⟨?_, List.forall_mem_map.mpr ?_⟩⟩
  · exact .cons here (by decide +kernel) .nil
  · intro walk listed
    exact .cons here (by decide +kernel) (.cons List.mem_cons_self (by decide +kernel)
      (grounded_tagWalks List.mem_cons_self walk listed))

end

/-- What walks from a table keep to, so that they can be put together in any order. -/
structure AreSound (table : String) (walks : List (List (String × Join))) : Prop where
  others : ∀ walk ∈ walks, ∀ e ∈ walk, e.1 ≠ table
  grounded : ∀ walk ∈ walks, Grounded [table] walk
  /-- Where tags are reached through their links, no walk reaches other tags. -/
  linked : ∀ walk ∈ walks, "activity_tags" ∈ walk.map (·.1) → "tags" ∈ walk.map (·.1) ∧
    ∀ other ∈ walks, ∀ e ∈ other, e.1 = "tags" → e.2.condition = tagCondition

theorem areSound_activityWalks : AreSound "activities" activityWalks :=
  ⟨by decide +kernel, grounded_activityWalks List.mem_cons_self, by decide +kernel⟩

theorem areSound_tagWalks : AreSound "tags" tagWalks :=
  ⟨by decide +kernel, grounded_tagWalks List.mem_cons_self, by decide +kernel⟩

theorem areSound_photoWalks : AreSound "activity_photos" photoWalks where
  others := by decide +kernel
  grounded := grounded_behind List.mem_cons_self (by decide +kernel)
    (grounded_activityWalks List.mem_cons_self)
  linked := by decide +kernel

theorem areSound_commentWalks (selected : Option String) :
    AreSound "comments" (commentWalks selected) := by
  rw [commentWalks.eq_def]
  split
  · exact ⟨by decide +kernel, grounded_behind List.mem_cons_self (by decide +kernel)
      (grounded_activityWalks List.mem_cons_self), by decide +kernel⟩
  · exact ⟨by decide +kernel, grounded_behind List.mem_cons_self (by decide +kernel)
      (grounded_tagWalks List.mem_cons_self), by decide +kernel⟩
  · exact ⟨by decide, List.forall_mem_singleton.mpr .nil, by decide⟩

theorem areSound_walksOf (selected : Option String) {r : Registry}
    (member : r ∈ graph.registries) : AreSound r.parent (walksOf selected r.parent) := by
  simp only [graph, List.mem_cons, List.not_mem_nil, or_false] at member
  rcases member with rfl | rfl | rfl | rfl | rfl
  · exact areSound_activityWalks
  · exact areSound_tagWalks
  · exact areSound_commentWalks selected
  · exact areSound_photoWalks
  · have sound : AreSound "users" [[]] :=
      ⟨by decide, List.forall_mem_singleton.mpr .nil, by decide⟩
    exact sound

namespace AreSound

variable {table : String} {walks : List (List (String × Join))} (sound : AreSound table walks)
include sound

theorem of_subset {some_walks : List (List (String × Join))} (inside : some_walks ⊆ walks) :
    AreSound table some_walks where
  others walk listed := sound.others walk (inside listed)
  grounded walk listed := sound.grounded walk (inside listed)
  linked walk listed link := by
    obtain ⟨tagged, undeleted⟩ := sound.linked walk (inside listed) link
    exact ⟨tagged, fun other there => undeleted other (inside there)⟩

theorem nodup : (table :: (firstByKey walks.flatten).map (·.1)).Nodup := by
  refine List.nodup_cons.mpr ⟨fun again => ?_, nodup_keys_firstByKey _⟩
  obtain ⟨e, kept, same⟩ := List.mem_map.mp again
  obtain ⟨walk, listed, inside⟩ := List.mem_flatten.mp (mem_of_mem_firstByKey kept)
  exact sound.others walk listed e inside same

theorem spoken_of_split {before after : List (String × Join)} {e : String × Join}
    (split : firstByKey walks.flatten = before ++ e :: after) :
    ∀ qualifier ∈ qualifiers e.2.condition,
      qualifier = table ∨ qualifier = e.1 ∨ ∃ x ∈ before, x.1 = qualifier := by
  -- whatever its own walk has in front of the entry, the list has under the same name before it
  obtain ⟨near, far, whole, earlier⟩ := exists_split_of_firstByKey split
  obtain ⟨walk, listed, start, stop, own, within⟩ := exists_split_of_flatten whole
  intro qualifier member
  rcases (sound.grounded walk listed).spoken_of_split own qualifier member with
    same | main | ⟨x, inside, rfl⟩
  · exact .inr (.inl same)
  · exact .inl (List.mem_singleton.mp main)
  · exact .inr (.inr (earlier x (within inside)))

theorem exists_undeleted {e : String × Join} (kept : e ∈ firstByKey walks.flatten)
    (link : e.1 = "activity_tags") :
    ∃ x ∈ firstByKey walks.flatten, x.1 = "tags" ∧ x.2.condition = tagCondition := by
  obtain ⟨walk, listed, inside⟩ := List.mem_flatten.mp (mem_of_mem_firstByKey kept)
  obtain ⟨tagged, undeleted⟩ := sound.linked walk listed (link ▸ List.mem_map_of_mem inside)
  obtain ⟨x, place, tag⟩ := List.mem_map.mp tagged
  obtain ⟨first, taken, same⟩ :=
    exists_mem_firstByKey (List.mem_flatten.mpr ⟨walk, listed, place⟩)
  obtain ⟨other, there, again⟩ := List.mem_flatten.mp (mem_of_mem_firstByKey taken)
  exact ⟨first, taken, same.trans tag, undeleted other there first again (same.trans tag)⟩

end AreSound

/-- Whatever is asked of whichever table, its joins can be written behind it: all names are
different, the main table's too; every condition speaks of the main table, of the join's own table
and of tables joined before; and the links to tags never come without the tags that are not
deleted. -/
theorem joins_make_valid_source {table : String} {r : Registry} (held : graph.get? table = some r)
    (o : Options) : ∃ joins keys, graph.joins table o = .ok joins ∧
      joins.map Join.key? = keys.map some ∧ (table :: keys).Nodup ∧
      (∀ before j after, joins = before ++ j :: after → ∀ qualifier ∈ qualifiers j.condition,
        qualifier = table ∨ j.key? = some qualifier ∨ ∃ i ∈ before, i.key? = some qualifier) ∧
      ((∃ j ∈ joins, j.key? = some "activity_tags") →
        ∃ j ∈ joins, j.key? = some "tags" ∧ j.condition = tagCondition) := by
  obtain ⟨member, rfl⟩ := Graph.of_get? held
  obtain ⟨walks, run⟩ : ∃ walks, o.paths.mapM (r.walkPath (some graph) o) = .ok walks :=
    exists_mapM_eq_ok_iff.mpr fun path _ => by
      obtain ⟨keyed, walked, _⟩ := exists_walkPath_of_mem o member path
      exact ⟨keyed, walked⟩
  have listed : walks ⊆ walksOf (subjectOfComment.table? o) r.parent := by
    refine forall_mem_of_mapM run fun path _ walk walked => ?_
    obtain ⟨keyed, again, member⟩ := exists_walkPath_of_mem o member path
    rw [walked] at again
    cases again
    exact member
  have sound := (areSound_walksOf (subjectOfComment.table? o) member).of_subset listed
  have runs := mapM_eq_ok_iff.mp run
  have key : ∀ e ∈ firstByKey walks.flatten, e.2.key? = some e.1 := fun e kept =>
    Registry.key?_of_walks runs e (mem_of_mem_firstByKey kept)
  refine ⟨(firstByKey walks.flatten).map (·.2), (firstByKey walks.flatten).map (·.1), ?_, ?_,
    sound.nodup, ?_, ?_⟩
  · rw [Graph.joins, held]
    exact Registry.joins_eq_ok_iff.mpr ⟨walks, runs, rfl⟩
  · rw [List.map_map, List.map_map]
    exact List.map_congr_left key
  · intro before j after split qualifier spoken
    obtain ⟨front, back, parts, rfl, later⟩ := List.map_eq_append_iff.mp split
    obtain ⟨e, rest, rfl, rfl, rfl⟩ := List.map_eq_cons_iff.mp later
    rcases sound.spoken_of_split parts qualifier spoken with main | rfl | ⟨x, inside, rfl⟩
    · exact .inl main
    · exact .inr (.inl (key e (parts ▸ List.mem_append_right _ List.mem_cons_self)))
    · exact .inr (.inr ⟨x.2, List.mem_map_of_mem inside,
        key x (parts ▸ List.mem_append_left _ inside)⟩)
  · rintro ⟨j, joined, link⟩
    obtain ⟨e, kept, rfl⟩ := List.mem_map.mp joined
    obtain ⟨x, taken, tag, condition⟩ := sound.exists_undeleted kept
      (Option.some.inj ((key e kept).symm.trans link))
    exact ⟨x.2, List.mem_map_of_mem taken, tag ▸ key x taken, condition⟩

theorem joins_make_valid_source_for_photos :
    let o : Options := { Options.default with
      filter := .ofList [("activities.users.name", .text "Ann")]
      search := .ofList [("activities.tags.parent.name", .text "Peak")] }
    graph.get? "activity_photos" = some activityPhotos ∧
      ∃ joins keys, graph.joins "activity_photos" o = .ok joins ∧
        joins.map Join.key? = keys.map some ∧ ("activity_photos" :: keys).Nodup ∧
        (∀ before j after, joins = before ++ j :: after → ∀ qualifier ∈ qualifiers j.condition,
          qualifier = "activity_photos" ∨ j.key? = some qualifier ∨
            ∃ i ∈ before, i.key? = some qualifier) ∧
        ((∃ j ∈ joins, j.key? = some "activity_tags") →
          ∃ j ∈ joins, j.key? = some "tags" ∧ j.condition = tagCondition) ∧
        keys = ["activities", "users", "activity_tags", "tags", "parent_tags"] := by
  intro o
  have held : graph.get? "activity_photos" = some activityPhotos := rfl
  have names : (graph.joins "activity_photos" o).map (fun joins => joins.map Join.key?) =
      .ok (["activities", "users", "activity_tags", "tags", "parent_tags"].map some) := by
    decide +kernel
  obtain ⟨joins, keys, built, named, nodup, grounded, linked⟩ := joins_make_valid_source held o
  rw [built] at names
  have same := List.map_injective_iff.mpr (Option.some_injective String)
    (named.symm.trans (Except.ok.inj names))
  exact ⟨held, joins, keys, built, named, nodup, grounded, linked, same⟩

end ListQuery.ActivityLog
