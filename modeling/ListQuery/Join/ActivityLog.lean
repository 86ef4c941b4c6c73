import ListQuery.Join.Registry
/-!
The relationships of an activity log: activities with their tags and owners, tags with their
parents, comments on activities or tags, and photos of activities. Tags that are deleted, and links
to tags that are deleted, are left out of the join itself.
-/
namespace ListQuery.ActivityLog

def undeleted (column : String) : StaticCondition := ⟨column, Operator.eq.name, .null⟩

def tagsOfActivity : Relationship :=
  (Relationship.manyToMany "tags" "tags" "activity_tags" "activity_id" "tag_id").withConditions
    [undeleted "tags.deleted_at", undeleted "activity_tags.deleted_at"]

def ownerOfActivity : Relationship := .manyToOne "users" "users" "user_id"

def parentOfTag : Relationship := .ofKind (.selfReferential 3) "parent" "tags" "parent_tag_id"

def subjectOfComment : Relationship :=
  .polymorphic "commentable" "commentable_type" "commentable_id"
    (.ofList [("Activity", "activities"), ("Tag", "tags")])

def activityOfPhoto : Relationship := .manyToOne "activities" "activities" "activity_id"

def activities : Registry := ⟨"activities", [tagsOfActivity, ownerOfActivity], by decide⟩

def tags : Registry := ⟨"tags", [parentOfTag], by decide⟩

def comments : Registry := ⟨"comments", [subjectOfComment], by decide⟩

def activityPhotos : Registry := ⟨"activity_photos", [activityOfPhoto], by decide⟩

/-- Users lead nowhere; the entry lets paths end at them. -/
def users : Registry := ⟨"users", [], by decide⟩

def graph : Graph := ⟨[activities, tags, comments, activityPhotos, users], by decide⟩

end ListQuery.ActivityLog
