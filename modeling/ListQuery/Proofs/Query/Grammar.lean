import ListQuery.Proofs.Distinct
import ListQuery.Proofs.Query.Key
import ListQuery.Proofs.Steps
import ListQuery.Query.Params
import Mathlib.Data.List.TakeWhile
/-!
Keys that mean nothing. Every key is a name with groups behind it and a rest at which the groups
stop, and a key of the written form has a name, groups and no rest. The rest is looked at only where
it starts with a bracket, so keys that are not of the written form may still be read for what stands
in front of the rest.
-/
namespace ListQuery

/-- A key cut into a name, groups and the rest at which the groups stop. -/
structure KeyCut (key : String) where
  name : String
  groups : List String
  rest : String
  text : key = keyText name groups ++ rest
  bare : '[' ∉ name.toList
  closed : ∀ group ∈ groups, ']' ∉ group.toList
  /-- A bracket at which the groups stop is never closed. -/
  unclosed : rest.toList.head? = some '[' → ']' ∉ rest.toList
  /-- Behind a name stands a bracket or nothing. -/
  named : groups = [] → rest.toList.head? = some '[' ∨ rest = ""

/-- A key of the written form: a name and groups, with nothing behind them. -/
def IsWrittenKey (key : String) : Prop :=
  ∃ name first more, name ≠ "" ∧ '[' ∉ name.toList ∧
    (∀ group ∈ first :: more, ']' ∉ group.toList) ∧ key = keyText name (first :: more)

/-- A key with a bracket that no closing bracket follows. -/
def HasOpenBracket (key : String) : Prop :=
  ∃ before after, key.toList = before ++ '[' :: after ∧ ']' ∉ after

/-- Levels that mean something: a comparison, or an entry of another field. -/
inductive IsMeaningful : List String → Prop where
  | comparison (column operator : String) : IsMeaningful ["filter", column, operator]
  | entry {name : String} (known : name ∈ ["filter", "filterOr", "search", "order"])
    (column : String) : IsMeaningful [name, column]

theorem IsMeaningful.two_le_length {levels : List String} (meaningful : IsMeaningful levels) :
    2 ≤ levels.length := by
  cases meaningful <;> simp

theorem Target.ofLevels?_eq_none_iff {levels : List String} :
    ofLevels? levels = none ↔ ¬IsMeaningful levels := by
  constructor
  · rintro nothing (⟨column, operator⟩ | ⟨known, column⟩)
    · rw [ofLevels?, if_pos rfl] at nothing
      cases nothing
    · simp only [List.mem_cons, List.not_mem_nil, or_false] at known
      rcases known with rfl | rfl | rfl | rfl <;> cases nothing
  · intro meaningless
    match levels with
    | [] | [_] | _ :: _ :: _ :: _ :: _ => rfl
    | [name, column, operator] =>
      rw [ofLevels?, if_neg]
      rintro rfl
      exact meaningless (.comparison column operator)
    | [name, column] =>
      have other : ∀ known ∈ ["filter", "filterOr", "search", "order"], name ≠ known := by
        rintro known listed rfl
        exact meaningless (.entry listed column)
      simp only [List.forall_mem_cons] at other
      obtain ⟨filter, filterOr, search, order, _⟩ := other
      rw [ofLevels?, if_neg filter, if_neg filterOr, if_neg search, if_neg order]

theorem getLast?_groups (front : List Char) (first : String) (more : List String) :
    (front ++ (first :: more).flatMap fun group => (grouped group).toList).getLast? =
      some ']' := by
  induction more generalizing front first with
  | nil => simp [toList_grouped, List.getLast?_cons]
  | cons next rest ih =>
    rw [List.flatMap_cons, ← List.append_assoc]
    exact ih _ next

theorem IsWrittenKey.getLast? {key : String} (written : IsWrittenKey key) :
    key.toList.getLast? = some ']' := by
  obtain ⟨name, first, more, _, _, _, rfl⟩ := written
  rw [toList_keyText]
  exact getLast?_groups name.toList first more

theorem exists_groups_and_rest (chars : List Char) : ∃ (groups : List String) (rest : List Char),
    chars = (groups.flatMap fun group => (grouped group).toList) ++ rest ∧
      (∀ group ∈ groups, ']' ∉ group.toList) ∧ (rest.head? = some '[' → ']' ∉ rest) ∧
      (groups = [] → rest = chars) := by
  -- one group is taken off as long as a bracket comes next and is closed somewhere
  by_cases next : ∃ tail, chars = '[' :: tail ∧ ']' ∈ tail
  · obtain ⟨tail, rfl, closing⟩ := next
    obtain ⟨content, later, rfl, closed⟩ := List.eq_append_cons_of_mem closing
    obtain ⟨groups, rest, rfl, all_closed, unclosed, _⟩ := exists_groups_and_rest later
    refine ⟨String.ofList content :: groups, rest, ?_, ?_, unclosed, nofun⟩
    · simp [toList_grouped]
    · rw [List.forall_mem_cons, String.toList_ofList]
      exact ⟨closed, all_closed⟩
  · refine ⟨[], chars, rfl, nofun, fun bracket closing => next ?_, fun _ => rfl⟩
    cases chars with
    | nil => cases bracket
    | cons c tail =>
      cases bracket
      exact ⟨tail, rfl, (List.mem_cons.mp closing).resolve_left (by decide)⟩
termination_by chars.length

/-- Every key can be cut. -/
theorem nonempty_keyCut (key : String) : Nonempty (KeyCut key) := by
  obtain ⟨groups, rest, behind, closed, unclosed, whole⟩ :=
    exists_groups_and_rest (key.toList.dropWhile (· != '['))
  have stops : ∀ c, (key.toList.dropWhile (· != '[')).head? = some c → c = '[' := by
    intro c head
    have fails := List.head?_dropWhile_not (· != '[') key.toList
    rw [head] at fails
    simpa using fails
  refine ⟨⟨String.ofList (key.toList.takeWhile (· != '[')), groups, String.ofList rest, ?_, ?_,
    closed, ?_, ?_⟩⟩
  · apply String.toList_inj.mp
    rw [String.toList_append, toList_keyText, String.toList_ofList, String.toList_ofList,
      List.append_assoc, ← behind, List.takeWhile_append_dropWhile]
  · rw [String.toList_ofList]
    intro member
    have fails := List.mem_takeWhile_imp member
    exact absurd fails (by decide)
  · rw [String.toList_ofList]
    exact unclosed
  · intro none_closed
    rw [String.toList_ofList, whole none_closed]
    cases chars : key.toList.dropWhile (· != '[') with
    | nil => exact .inr rfl
    | cons c tail =>
      rw [chars] at stops
      rw [stops c rfl]
      exact .inl rfl

namespace KeyCut

variable {key : String} (cut : KeyCut key)

/-- A bracket is next and is never closed. -/
def StaysOpen : Prop := cut.rest.toList.head? = some '['

/-- The name and the contents of the groups, as far as they are not empty. -/
def levels : List String := (cut.name :: cut.groups).filter (· ≠ "")

theorem toList_key : key.toList = cut.name.toList ++
    ((cut.groups.flatMap fun group => (grouped group).toList) ++ cut.rest.toList) := by
  conv_lhs => rw [cut.text]
  rw [String.toList_append, toList_keyText, List.append_assoc]

theorem groupsFrom?_eq_none (stays_open : cut.StaysOpen) :
    groupsFrom? none ((cut.groups.flatMap fun group => (grouped group).toList) ++
      cut.rest.toList) = none := by
  rw [groupsFrom?_groups cut.closed]
  have unclosed := cut.unclosed stays_open
  rw [StaysOpen] at stays_open
  cases rest : cut.rest.toList with
  | nil =>
    rw [rest] at stays_open
    cases stays_open
  | cons c tail =>
    rw [rest] at stays_open unclosed
    cases stays_open
    rw [groupsFrom?, groupsFrom?_unclosed fun closing => unclosed (List.mem_cons_of_mem _ closing)]
    rfl

theorem keyLevels_of_staysOpen (stays_open : cut.StaysOpen) : keyLevels key = [] := by
  have read := cut.groupsFrom?_eq_none stays_open
  have text := cut.toList_key
  obtain ⟨tail, bracket⟩ : ∃ tail, (cut.groups.flatMap fun group => (grouped group).toList) ++
      cut.rest.toList = '[' :: tail := by
    cases groups : cut.groups with
    | nil => exact List.head?_eq_some_iff.mp stays_open
    | cons first more =>
      rw [List.flatMap_cons, toList_grouped]
      exact ⟨_, rfl⟩
  rw [bracket] at read text
  exact keyLevels_of_open cut.bare text read

/-- A key without groups is its own level. -/
theorem keyLevels_of_no_groups (closed : ¬cut.StaysOpen) (none_given : cut.groups = []) :
    keyLevels key = [key] ∧ '[' ∉ key.toList := by
  have whole : key.toList = cut.name.toList := by
    have empty := (cut.named none_given).resolve_left closed
    rw [cut.toList_key, none_given, empty]
    exact List.append_nil _
  have bare : '[' ∉ key.toList := whole ▸ cut.bare
  have nothing : key.toList.dropWhile (· != '[') = [] := by
    rw [List.dropWhile_eq_nil_iff]
    exact fun c member => bne_iff_ne.mpr fun same => bare (same ▸ member)
  simp only [keyLevels, nothing]
  exact ⟨trivial, bare⟩

theorem keyLevels_of_groups (closed : ¬cut.StaysOpen) (some_given : cut.groups ≠ []) :
    keyLevels key = cut.levels := by
  have text := cut.toList_key
  have stop : groupsFrom? none cut.rest.toList = some [] := by
    rw [StaysOpen] at closed
    unfold groupsFrom?
    split
    · next rest => exact absurd (rest ▸ rfl) closed
    · rfl
    all_goals contradiction
  have read := groupsFrom?_groups cut.closed cut.rest.toList
  rw [stop, Option.map_some, List.append_nil] at read
  obtain ⟨first, more, groups⟩ := List.exists_cons_of_ne_nil some_given
  rw [groups, List.flatMap_cons, toList_grouped, List.cons_append, List.cons_append] at read text
  rw [ListQuery.keyLevels_of_groups cut.bare text read, levels, groups]

end KeyCut

/-- A key that makes no difference wherever it is put in among parameters, whatever its value. -/
def IsIgnored (key : String) : Prop :=
  ∀ (before after : List (String × String)) (raw : String),
    Options.ofParams (before ++ (key, raw) :: after) = Options.ofParams (before ++ after)

/-- Parameters whose key sets nothing can be left out. -/
theorem Options.ofParams_filter {key : String} (sets_nothing : Target.ofKey? key = none)
    (params : List (String × String)) :
    ofParams (params.filter fun p => p.1 ≠ key) = ofParams params := by
  have passed (o : Options) (p : String × String) :
      (if decide (p.1 ≠ key) = true then o.addParam p.1 p.2 else pure o) = o.addParam p.1 p.2 := by
    by_cases same : p.1 = key
    · rw [if_neg (by simp [same]), same, addParam, sets_nothing]
      rfl
    · rw [if_pos (decide_eq_true same)]
  rw [ofParams, firstByKey_filter fun name => decide (name ≠ key), List.foldlM_filter]
  simp only [passed]
  rfl

/-- A parameter that sets something makes a difference where it stands alone, if it says `2`. -/
theorem Options.ofParams_singleton_ne {key : String} {target : Target}
    (sets : Target.ofKey? key = some target) : ofParams [(key, "2")] ≠ ofParams [] := by
  have typed : Value.ofTyped "2" = .ok (.int 2) := rfl
  have page : positiveOr defaultPage "2" = .ok 2 := by decide +kernel
  have limit : positiveOr defaultLimit "2" = .ok 2 := by decide +kernel
  have one : ofParams [(key, "2")] = default.enter "2" target := by
    rw [ofParams, firstByKey, firstByKey, List.filter_nil, List.foldlM_cons, addParam, sets]
    exact bind_pure _
  have none_given : ofParams [] = .ok default := rfl
  rw [one, none_given]
  intro same
  cases target with
  | page =>
    rw [enter, page] at same
    cases congrArg Options.page (Except.ok.inj same)
  | limit =>
    rw [enter, limit] at same
    cases congrArg Options.limit (Except.ok.inj same)
  | condition column operator =>
    rw [enter, typed] at same
    cases congrArg Options.conditions (Except.ok.inj same)
  | filterOr column =>
    rw [enter, typed] at same
    cases congrArg (fun o => o.filterOr.entries) (Except.ok.inj same)
  | search column =>
    rw [enter, typed] at same
    cases congrArg (fun o => o.search.entries) (Except.ok.inj same)
  | order column => cases congrArg Options.order (Except.ok.inj same)

theorem isIgnored_iff_sets_nothing {key : String} : IsIgnored key ↔ Target.ofKey? key = none := by
  constructor
  · intro ignored
    cases sets : Target.ofKey? key with
    | none => rfl
    | some target => exact absurd (ignored [] [] "2") (Options.ofParams_singleton_ne sets)
  · intro sets_nothing before after raw
    rw [← Options.ofParams_filter sets_nothing,
      ← Options.ofParams_filter sets_nothing (before ++ _), List.filter_append,
      List.filter_append, List.filter_cons_of_neg (by simp)]

namespace KeyCut

variable {key : String} (cut : KeyCut key)

theorem isIgnored_iff (no_page : key ≠ "page") (no_limit : key ≠ "limit") :
    IsIgnored key ↔ cut.StaysOpen ∨ ¬IsMeaningful cut.levels := by
  rw [isIgnored_iff_sets_nothing, Target.ofKey?, if_neg no_page, if_neg no_limit,
    Target.ofLevels?_eq_none_iff]
  by_cases stays_open : cut.StaysOpen
  · rw [cut.keyLevels_of_staysOpen stays_open]
    refine iff_of_true (fun meaningful => ?_) (.inl stays_open)
    exact absurd meaningful.two_le_length (by simp)
  · by_cases none_given : cut.groups = []
    · have few : cut.levels.length ≤ 1 := by
        rw [levels, none_given]
        exact List.length_filter_le _ _
      rw [(cut.keyLevels_of_no_groups stays_open none_given).1]
      refine iff_of_true (fun meaningful => ?_) (.inr fun meaningful => ?_)
      · exact absurd meaningful.two_le_length (by simp)
      · exact absurd (meaningful.two_le_length.trans few) (by decide)
    · rw [cut.keyLevels_of_groups stays_open none_given]
      exact ⟨.inr, fun h => h.resolve_left stays_open⟩

theorem keyLevels_eq_nil_iff (opened : HasOpenBracket key) :
    keyLevels key = [] ↔ cut.StaysOpen ∨ cut.levels = [] := by
  by_cases stays_open : cut.StaysOpen
  · exact iff_of_true (cut.keyLevels_of_staysOpen stays_open) (.inl stays_open)
  · have some_given : cut.groups ≠ [] := by
      intro none_given
      obtain ⟨before, after, text, _⟩ := opened
      have bare := (cut.keyLevels_of_no_groups stays_open none_given).2
      rw [text] at bare
      exact bare (by simp)
    rw [cut.keyLevels_of_groups stays_open some_given]
    exact ⟨.inr, fun h => h.resolve_left stays_open⟩

end KeyCut

/-- Every key can be cut. If it is not of the written form, it is ignored exactly when its groups
stop at an open bracket or what stands in front of the rest means nothing. If it has an open
bracket, it has no levels exactly when its groups stop at this bracket or have nothing in them. -/
theorem unwritten_ignored_iff (key : String) :
    Nonempty (KeyCut key) ∧ ∀ cut : KeyCut key,
      (key ≠ "page" → key ≠ "limit" → ¬IsWrittenKey key →
        (IsIgnored key ↔ cut.StaysOpen ∨ ¬IsMeaningful cut.levels)) ∧
      (HasOpenBracket key → (keyLevels key = [] ↔ cut.StaysOpen ∨ cut.levels = [])) :=
  ⟨nonempty_keyCut key, fun cut =>
    ⟨fun no_page no_limit _ => cut.isIgnored_iff no_page no_limit, cut.keyLevels_eq_nil_iff⟩⟩

theorem unwritten_ignored_iff_for_open_status :
    ¬IsWrittenKey "filter[status" ∧ HasOpenBracket "filter[status" ∧ IsIgnored "filter[status" ∧
      keyLevels "filter[status" = [] := by
  have unwritten : ¬IsWrittenKey "filter[status" := fun written =>
    absurd written.getLast? (by decide)
  have opened : HasOpenBracket "filter[status" :=
    ⟨"filter".toList, "status".toList, by decide, by decide⟩
  obtain ⟨_, each⟩ := unwritten_ignored_iff "filter[status"
  obtain ⟨ignored, levels⟩ :=
    each ⟨"filter", [], "[status", by decide, by decide, nofun, by decide, by decide⟩
  exact ⟨unwritten, opened, (ignored (by decide) (by decide) unwritten).mpr (.inl rfl),
    (levels opened).mpr (.inl rfl)⟩

/-- A key with an open bracket behind a stray letter. -/
def strayKey : String := "filter[status]x[y"

/-- The stray letter ends the groups, and the bracket behind it is never looked at. -/
theorem strayKey_read :
    strayKey ≠ "page" ∧ strayKey ≠ "limit" ∧ ¬IsWrittenKey strayKey ∧ HasOpenBracket strayKey ∧
      ¬IsIgnored strayKey ∧ keyLevels strayKey = ["filter", "status"] := by
  refine ⟨by decide, by decide, fun written => absurd written.getLast? (by decide),
    ⟨"filter[status]x".toList, "y".toList, by decide, by decide⟩, ?_, by decide +kernel⟩
  rw [isIgnored_iff_sets_nothing]
  decide +kernel

end ListQuery
