import ListQuery.Proofs.Join.ActivityLog
import ListQuery.Proofs.Join.Trace
import Mathlib.Data.List.Infix
/-!
The walks of an activity log. However long a path is, its walk is one of a few: it goes from photos
and comments to activities, from there to owners or tags, and up to three levels above a tag.
-/
namespace ListQuery.ActivityLog

open Column Text

/-- A table that is joined under its own name. -/
def entry (table condition : String) : String × Join := (table, ⟨table, condition, none⟩)

def copyEntry (copy parent : String) : String × Join :=
  (copy, ⟨"tags AS " ++ copy, copy ++ ".id = " ++ parent ++ ".parent_tag_id", some copy⟩)

/-- The levels above a tag. -/
def copyEntries : List (String × Join) :=
  [copyEntry "parent_tags" "tags", copyEntry "parent_tags_2" "parent_tags",
    copyEntry "parent_tags_3" "parent_tags_2"]

def tagCondition : String :=
  "tags.id = activity_tags.tag_id AND tags.deleted_at IS NULL AND activity_tags.deleted_at IS NULL"

def tagEntries : List (String × Join) :=
  [entry "activity_tags" "activity_tags.activity_id = activities.id", entry "tags" tagCondition]

def ownerEntry : String × Join := entry "users" "users.id = activities.user_id"

def tagWalks : List (List (String × Join)) := copyEntries.inits

def activityWalks : List (List (String × Join)) :=
  [] :: [ownerEntry] :: tagWalks.map (tagEntries ++ ·)

def activityOf (table column : String) : String × Join :=
  entry "activities" ("activities.id = " ++ table ++ "." ++ column)

def tagOfCommentEntry : String × Join := entry "tags" "tags.id = comments.commentable_id"

def photoWalks : List (List (String × Join)) :=
  [] :: activityWalks.map (activityOf "activity_photos" "activity_id" :: ·)

/-- The walks from comments, which lead to the table that is selected for them, if there is one. -/
def commentWalks : Option String → List (List (String × Join))
  | some "activities" => [] :: activityWalks.map (activityOf "comments" "commentable_id" :: ·)
  | some "tags" => [] :: tagWalks.map (tagOfCommentEntry :: ·)
  | _ => [[]]

def walksOf (selected : Option String) : String → List (List (String × Join))
  | "activities" => activityWalks
  | "tags" => tagWalks
  | "comments" => commentWalks selected
  | "activity_photos" => photoWalks
  | _ => [[]]

/-- The name that a level above a tag goes by; the tag itself is at level zero. -/
def levelName (level : Nat) : String := if level = 0 then "tags" else parentOfTag.copyName level

section
variable (o : Options)

theorem parentOfTag_hop? {level : Nat} (inside : level < 3) :
    ∃ e, copyEntries.drop level = e :: copyEntries.drop (level + 1) ∧
      parentOfTag.hop? (levelName level) o (level + 1) = .ok (some ⟨[e.2], levelName (level + 1)⟩) ∧
      [e.2].mapM keyedJoin = .ok [e] := by
  interval_cases level
  · exact ⟨_, rfl, rfl, by decide +kernel⟩
  · exact ⟨_, rfl, rfl, by decide +kernel⟩
  · exact ⟨_, rfl, rfl, by decide +kernel⟩

theorem exists_walk_tags {level : Nat} (inside : level ≤ 3) (path : List String)
    {followed : List String} (above : followed.count "parent" = level) :
    ∃ keyed, tags.walk (some graph) o (levelName level) followed path = .ok keyed ∧
      keyed <+: copyEntries.drop level := by
  -- on the path; the level is the number of parents that were followed, whatever came before them
  induction path generalizing level followed with
  | nil => exact ⟨[], rfl, List.nil_prefix⟩
  | cons segment rest ih =>
    rcases Registry.walk_eq_nil_or_follows (some graph) o tags (levelName level) followed
      (segment :: rest) with nothing | ⟨rel, _, same, member, found⟩
    · exact ⟨[], nothing, List.nil_prefix⟩
    cases same
    cases List.mem_singleton.mp member
    have count : followed.count parentOfTag.name = level := above
    rcases Nat.lt_or_eq_of_le inside with lower | rfl
    · obtain ⟨e, place, joined, run⟩ := parentOfTag_hop? o lower
      have next : (parentOfTag.name :: followed).count "parent" = level + 1 := by
        rw [List.count_cons, above]
        rfl
      obtain ⟨more, onward, behind⟩ := ih lower next
      refine ⟨_, Registry.walk_of_next found (by rw [count]; exact joined) run rfl onward, ?_⟩
      rw [place]
      exact List.cons_prefix_cons.mpr ⟨rfl, behind⟩
    · have stops : parentOfTag.hop? (levelName 3) o (followed.count parentOfTag.name + 1) =
          .ok none := by
        rw [count]
        rfl
      exact ⟨[], Registry.walk_of_no_hop found stops, List.nil_prefix⟩

theorem walk_users (reference : String) (followed path : List String) :
    users.walk (some graph) o reference followed path = .ok [] := by
  rcases Registry.walk_eq_nil_or_follows (some graph) o users reference followed path with
    nothing | ⟨_, _, _, member, _⟩
  · exact nothing
  · cases member

section
variable (path : List String) {followed : List String} (fresh : followed.count "parent" = 0)
include fresh

theorem exists_tagWalk : ∃ keyed, tags.walk (some graph) o "tags" followed path = .ok keyed ∧
    keyed ∈ tagWalks := by
  obtain ⟨keyed, walked, front⟩ := exists_walk_tags o (Nat.zero_le 3) path fresh
  exact ⟨keyed, walked, (List.mem_inits keyed copyEntries).mpr front⟩

theorem exists_activityWalk :
    ∃ keyed, activities.walk (some graph) o "activities" followed path = .ok keyed ∧
      keyed ∈ activityWalks := by
  rcases Registry.walk_eq_nil_or_follows (some graph) o activities "activities" followed path with
    nothing | ⟨rel, rest, rfl, member, found⟩
  · exact ⟨[], nothing, List.mem_cons_self⟩
  rcases List.mem_pair.mp member with rfl | rfl
  · have run : (tagEntries.map (·.2)).mapM keyedJoin = .ok tagEntries := by decide +kernel
    have still : (tagsOfActivity.name :: followed).count "parent" = 0 := by
      rw [List.count_cons, fresh]
      rfl
    obtain ⟨more, onward, listed⟩ := exists_tagWalk o rest still
    exact ⟨_, Registry.walk_of_next found rfl run rfl onward, List.mem_cons_of_mem _
      (List.mem_cons_of_mem _ (List.mem_map_of_mem listed))⟩
  · have run : [ownerEntry.2].mapM keyedJoin = .ok [ownerEntry] := by decide +kernel
    exact ⟨_, Registry.walk_of_next found rfl run rfl (walk_users o _ _ rest),
      List.mem_cons_of_mem _ List.mem_cons_self⟩

end

theorem exists_photoWalk (path : List String) : ∃ keyed,
    activityPhotos.walk (some graph) o "activity_photos" [] path = .ok keyed ∧
      keyed ∈ photoWalks := by
  rcases Registry.walk_eq_nil_or_follows (some graph) o activityPhotos "activity_photos" []
    path with nothing | ⟨rel, rest, rfl, member, found⟩
  · exact ⟨[], nothing, List.mem_cons_self⟩
  cases List.mem_singleton.mp member
  have run : [(activityOf "activity_photos" "activity_id").2].mapM keyedJoin =
      .ok [activityOf "activity_photos" "activity_id"] := by decide +kernel
  have fresh : [activityOfPhoto.name].count "parent" = 0 := rfl
  obtain ⟨more, onward, listed⟩ := exists_activityWalk o rest fresh
  exact ⟨_, Registry.walk_of_next found rfl run rfl onward,
    List.mem_cons_of_mem _ (List.mem_map_of_mem listed)⟩

/-- The hop from a comment, to the table that is selected. -/
theorem subjectOfComment_hop? : subjectOfComment.hop? "comments" o 1 =
    .ok ((subjectOfComment.table? o).map fun table =>
      ⟨[⟨table, columnsEqual table "id" "comments" "commentable_id", none⟩], table⟩) := by
  have bare : subjectOfComment.bareHop? "comments" o 1 =
      .ok ((subjectOfComment.table? o).map fun table =>
        ⟨[⟨table, columnsEqual table "id" "comments" "commentable_id", none⟩], table⟩) := rfl
  rw [Relationship.hop?, bare]
  cases subjectOfComment.table? o <;> rfl

theorem nil_mem_commentWalks (selected : Option String) : [] ∈ commentWalks selected := by
  rw [commentWalks.eq_def]
  split <;> exact List.mem_cons_self

theorem exists_commentWalk (path : List String) : ∃ keyed,
    comments.walk (some graph) o "comments" [] path = .ok keyed ∧
      keyed ∈ commentWalks (subjectOfComment.table? o) := by
  rcases Registry.walk_eq_nil_or_follows (some graph) o comments "comments" [] path with
    nothing | ⟨rel, rest, rfl, member, found⟩
  · exact ⟨[], nothing, nil_mem_commentWalks _⟩
  cases List.mem_singleton.mp member
  have fresh : [subjectOfComment.name].count "parent" = 0 := rfl
  have goes := subjectOfComment_hop? o
  have leads : comments.next? (some graph) o subjectOfComment =
    (subjectOfComment.table? o).bind graph.get? := rfl
  cases selected : subjectOfComment.table? o with
  | none =>
    rw [selected] at goes
    exact ⟨[], Registry.walk_of_no_hop found goes, nil_mem_commentWalks _⟩
  | some table =>
    rw [selected] at goes leads
    have listed : table ∈ ["activities", "tags"] := Relationship.mem_of_mappedTable? selected
    rcases List.mem_pair.mp listed with rfl | rfl
    · have run : [(activityOf "comments" "commentable_id").2].mapM keyedJoin =
          .ok [activityOf "comments" "commentable_id"] := by decide +kernel
      obtain ⟨more, onward, listed⟩ := exists_activityWalk o rest fresh
      exact ⟨_, Registry.walk_of_next found goes run leads onward,
        List.mem_cons_of_mem _ (List.mem_map_of_mem listed)⟩
    · have run : [tagOfCommentEntry.2].mapM keyedJoin = .ok [tagOfCommentEntry] := by
        decide +kernel
      obtain ⟨more, onward, listed⟩ := exists_tagWalk o rest fresh
      exact ⟨_, Registry.walk_of_next found goes run leads onward,
        List.mem_cons_of_mem _ (List.mem_map_of_mem listed)⟩

/-- Every walk of the log is one of the list for the table that it starts from. -/
theorem exists_walkPath_of_mem {r : Registry} (member : r ∈ graph.registries) (path : String) :
    ∃ keyed, r.walkPath (some graph) o path = .ok keyed ∧
      keyed ∈ walksOf (subjectOfComment.table? o) r.parent := by
  simp only [graph, List.mem_cons, List.not_mem_nil, or_false] at member
  rcases member with rfl | rfl | rfl | rfl | rfl
  · exact exists_activityWalk o (segments path) rfl
  · exact exists_tagWalk o (segments path) rfl
  · exact exists_commentWalk o (segments path)
  · exact exists_photoWalk o (segments path)
  · exact ⟨[], walk_users o _ _ _, List.mem_cons_self⟩

end

end ListQuery.ActivityLog
