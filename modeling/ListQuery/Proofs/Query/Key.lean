import ListQuery.Query.Key
/-!
Keys as they are written for what they set. What is put between brackets is found there again unless
it has a closing bracket in it, so a written key is read as what it sets, and no two of them are
written alike.
-/
namespace ListQuery

/-- A text that can stand between two brackets of a key. -/
structure IsLevel (level : String) : Prop where
  some_char : level ≠ ""
  closed : ']' ∉ level.toList

instance (level : String) : Decidable (IsLevel level) :=
  decidable_of_iff (level ≠ "" ∧ ']' ∉ level.toList)
    ⟨fun ⟨h, i⟩ => ⟨h, i⟩, fun ⟨h, i⟩ => ⟨h, i⟩⟩

/-- The text of one group. -/
def grouped (level : String) : String := "[" ++ level ++ "]"

theorem toList_grouped (level : String) :
    (grouped level).toList = '[' :: (level.toList ++ [']']) := by
  rw [grouped, String.toList_append, String.toList_append]
  rfl

theorem groupsFrom?_closing (held rest : List Char) : groupsFrom? (some held) (']' :: rest) =
    (groupsFrom? none rest).map (held.reverse :: ·) := rfl

theorem groupsFrom?_held {c : Char} (other : c ≠ ']') (held rest : List Char) :
    groupsFrom? (some held) (c :: rest) = groupsFrom? (some (c :: held)) rest := by
  rw [groupsFrom?]
  exact other

/-- A group that is open ends at the first closing bracket. -/
theorem groupsFrom?_open {content : List Char} (closed : ']' ∉ content) (held rest : List Char) :
    groupsFrom? (some held) (content ++ ']' :: rest) =
      (groupsFrom? none rest).map ((held.reverse ++ content) :: ·) := by
  induction content generalizing held with
  | nil => rw [List.nil_append, groupsFrom?_closing, List.append_nil]
  | cons c more ih =>
    rw [List.mem_cons, not_or] at closed
    rw [List.cons_append, groupsFrom?_held (Ne.symm closed.1), ih closed.2, List.reverse_cons,
      List.append_assoc, List.singleton_append]

/-- A group that is never closed takes all groups with it. -/
theorem groupsFrom?_unclosed {content : List Char} (unclosed : ']' ∉ content) (held : List Char) :
    groupsFrom? (some held) content = none := by
  induction content generalizing held with
  | nil => rfl
  | cons c more ih =>
    rw [List.mem_cons, not_or] at unclosed
    rw [groupsFrom?_held (Ne.symm unclosed.1), ih unclosed.2]

theorem groupsFrom?_groups {groups : List String}
    (closed : ∀ group ∈ groups, ']' ∉ group.toList) (rest : List Char) :
    groupsFrom? none ((groups.flatMap fun group => (grouped group).toList) ++ rest) =
      (groupsFrom? none rest).map (groups.map String.toList ++ ·) := by
  induction groups with
  | nil => exact (congrFun Option.map_id _).symm
  | cons group more ih =>
    rw [List.forall_mem_cons] at closed
    rw [List.flatMap_cons, toList_grouped, List.cons_append, List.cons_append, List.append_assoc,
      List.append_assoc, groupsFrom?, List.singleton_append, groupsFrom?_open closed.1,
      ih closed.2, Option.map_map]
    rfl

/-- The text of a key: a name with groups behind it. -/
def keyText (name : String) (groups : List String) : String :=
  name ++ String.join (groups.map grouped)

theorem toList_keyText (name : String) (groups : List String) : (keyText name groups).toList =
    name.toList ++ groups.flatMap fun level => (grouped level).toList := by
  rw [keyText, String.toList_append, String.toList_join, List.flatMap_map]

section
variable {key name : String} {tail : List Char} (bare : '[' ∉ name.toList)
  (text : key.toList = name.toList ++ '[' :: tail)
include bare text

theorem takeWhile_of_bracket : key.toList.takeWhile (· != '[') = name.toList := by
  have other : ∀ c ∈ name.toList, (c != '[') = true := fun c member =>
    bne_iff_ne.mpr fun same => bare (same ▸ member)
  rw [text, List.takeWhile_append_of_pos other, List.takeWhile_cons_of_neg (by decide),
    List.append_nil]

theorem dropWhile_of_bracket : key.toList.dropWhile (· != '[') = '[' :: tail := by
  have other : ∀ c ∈ name.toList, (c != '[') = true := fun c member =>
    bne_iff_ne.mpr fun same => bare (same ▸ member)
  rw [text, List.dropWhile_append_of_pos other, List.dropWhile_cons_of_neg (by decide)]

theorem keyLevels_of_open (read : groupsFrom? none ('[' :: tail) = none) : keyLevels key = [] := by
  simp only [keyLevels, dropWhile_of_bracket bare text, read]

/-- The levels of a key are its name and the contents of its groups, as far as they are not
empty. -/
theorem keyLevels_of_groups {groups : List String}
    (read : groupsFrom? none ('[' :: tail) = some (groups.map String.toList)) :
    keyLevels key = (name :: groups).filter (· ≠ "") := by
  have levels : (fun level : List Char => !level.isEmpty) ∘ String.toList =
      fun level : String => decide (level ≠ "") := by
    funext level
    by_cases empty : level = "" <;> simp [empty]
  simp only [keyLevels, dropWhile_of_bracket bare text, read, takeWhile_of_bracket bare text]
  rw [← List.map_cons, List.filter_map, levels, List.map_map]
  exact (List.map_congr_left fun level _ => String.ofList_toList).trans (List.map_id _)

end

section
variable {name first : String} {rest : List String} (some_char : name ≠ "")
  (bare : '[' ∉ name.toList) (levels : ∀ level ∈ first :: rest, IsLevel level)
include some_char bare levels

theorem keyLevels_keyText :
    keyLevels (keyText name (first :: rest)) = name :: first :: rest := by
  have read := groupsFrom?_groups (fun level member => (levels level member).closed) []
  have text := toList_keyText name (first :: rest)
  rw [List.append_nil, List.flatMap_cons, toList_grouped, List.cons_append] at read
  rw [List.flatMap_cons, toList_grouped, List.cons_append] at text
  have kept : ∀ level ∈ name :: first :: rest, decide (level ≠ "") = true :=
    List.forall_mem_cons.mpr ⟨decide_eq_true some_char, fun level member =>
      decide_eq_true (levels level member).some_char⟩
  have groups : groupsFrom? none [] = some [] := rfl
  rw [groups, Option.map_some, List.append_nil] at read
  rw [keyLevels_of_groups bare text read, List.filter_eq_self.mpr kept]

theorem Target.ofKey?_keyText :
    ofKey? (keyText name (first :: rest)) = ofLevels? (name :: first :: rest) := by
  have bracket : '[' ∈ (keyText name (first :: rest)).toList := by
    rw [toList_keyText, List.flatMap_cons, toList_grouped]
    simp
  have other {word : String} (plain : '[' ∉ word.toList) : keyText name (first :: rest) ≠ word := by
    rintro rfl
    exact plain bracket
  rw [ofKey?, if_neg (other (by decide)), if_neg (other (by decide)),
    keyLevels_keyText some_char bare levels]

end

namespace Target

def name : Target → String
  | .page => "page"
  | .limit => "limit"
  | .condition _ _ => "filter"
  | .filterOr _ => "filterOr"
  | .search _ => "search"
  | .order _ => "order"

/-- What stands between the brackets of a key. The operator of a comparison is always written. -/
def levels : Target → List String
  | .page | .limit => []
  | .condition column operator => [column, operator]
  | .filterOr column | .search column | .order column => [column]

/-- The key that sets a target. -/
def key (t : Target) : String := keyText t.name t.levels

variable {t u : Target}

/-- A written key sets what it was written for. -/
theorem ofKey?_key (closed : ∀ level ∈ t.levels, IsLevel level) : ofKey? t.key = some t := by
  cases t with
  | page | limit => decide
  | condition _ _ | filterOr _ | search _ | order _ =>
    rw [key, name, levels, ofKey?_keyText (by decide) (by decide) closed]
    rfl

/-- Different targets have different keys. -/
theorem key_injective (ht : ∀ level ∈ t.levels, IsLevel level)
    (hu : ∀ level ∈ u.levels, IsLevel level) (same : t.key = u.key) : t = u := by
  have read := ofKey?_key ht
  rw [same, ofKey?_key hu] at read
  exact (Option.some.inj read).symm

example : (Target.condition "created_at" "gte").key = "filter[created_at][gte]" := by decide

end Target

end ListQuery
