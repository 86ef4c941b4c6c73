import ListQuery.Proofs.Listing.Arguments
import ListQuery.Proofs.Query.Readable
import ListQuery.Proofs.Text.Pattern
import ListQuery.Proofs.Value.Searched
import Mathlib.Data.List.Forall2
/-!
What a list is searched for. A search term comes from the last parameter on its column and goes into
one argument of the statement, as a pattern. The pattern is that of the term as it was typed for
the texts that come back from their values, and for no others.
-/
namespace ListQuery

open Sql Number Text

theorem Text.containsPattern_injective {s t : String}
    (same : containsPattern s = containsPattern t) : s = t := by
  have pieces := readPattern?_containsPattern s
  rw [same, readPattern?_containsPattern] at pieces
  have terms := (List.cons_eq_cons.mp (Option.some.inj pieces)).2
  have exact_pieces := List.append_cancel_right terms
  have injective : Function.Injective PatternPiece.exactly := fun _ _ => PatternPiece.exactly.inj
  exact String.toList_inj.mp (List.map_injective_iff.mpr injective exact_pieces).symm

namespace Options

variable {o next : Options} {column : String}

theorem search_addParam {key raw : String} (about : Target.ofKey? key = some (.search column))
    (read : o.addParam key raw = .ok next) :
    ∃ v, Value.ofTyped raw = .ok v ∧ next.search.get? column = some v := by
  rw [addParam, about] at read
  obtain ⟨v, typed, rfl⟩ := map_eq_ok_iff.mp read
  refine ⟨v, typed, ?_⟩
  rw [OrderedMap.get?, OrderedMap.entries_insert, lookup_insertEntry, if_pos rfl]

/-- A parameter that is about something else leaves the term of a column as it is. -/
theorem search_addParam_of_other {p : String × String}
    (other : Target.ofKey? p.1 ≠ some (.search column)) (read : o.addParam p.1 p.2 = .ok next) :
    next.search.get? column = o.search.get? column := by
  obtain ⟨_, rfl⟩ | ⟨target, known, entered⟩ := addParam_eq_ok_iff.mp read
  · rfl
  cases target with
  | search name =>
    obtain ⟨v, _, rfl⟩ := map_eq_ok_iff.mp entered
    have different : column ≠ name := by
      rintro rfl
      exact other known
    rw [OrderedMap.get?, OrderedMap.entries_insert, lookup_insertEntry, if_neg different,
      OrderedMap.get?]
  | order name =>
    cases entered
    rfl
  | page | limit | condition name operator | filterOr name =>
    obtain ⟨_, _, rfl⟩ := map_eq_ok_iff.mp entered
    rfl

/-- The term of a column is the value of the last parameter on it. -/
theorem search_ofParams {params before after : List (String × String)} {key raw : String}
    (parsed : ofParams params = .ok o) (given : firstByKey params = before ++ (key, raw) :: after)
    (about : Target.ofKey? key = some (.search column))
    (last : ∀ p ∈ after, Target.ofKey? p.1 ≠ some (.search column)) :
    ∃ v, Value.ofTyped raw = .ok v ∧ o.search.get? column = some v := by
  rw [ofParams, given, List.foldlM_append] at parsed
  obtain ⟨early, _, parsed⟩ := bind_eq_ok_iff.mp parsed
  rw [List.foldlM_cons] at parsed
  obtain ⟨entered, read, parsed⟩ := bind_eq_ok_iff.mp parsed
  obtain ⟨v, typed, term⟩ := search_addParam about read
  refine ⟨v, typed, ?_⟩
  refine foldlM_keeps_of_mem (P := fun o => o.search.get? column = some v) ?_ term parsed
  intro p member b next held step
  rw [search_addParam_of_other (last p member) step, held]

/-- The arguments of search terms, one for each of them. -/
theorem forall₂_flatten_seeks {entries : List (String × Value)} {groups : List (List Scalar)}
    (seek : List.Forall₂ (fun e group => e.2.Seeks group) entries groups) :
    List.Forall₂ (fun e argument => ∃ sought, searchText e.2 = .ok sought ∧
      argument = .text (containsPattern sought)) entries groups.flatten := by
  induction seek with
  | nil => exact .nil
  | cons sought _ ih =>
    obtain ⟨t, shown, rfl⟩ := sought
    exact .cons ⟨t, shown, rfl⟩ ih

/-- The search terms have the last arguments of the criteria, in the order of their columns. -/
theorem Binds.search {arguments : List Scalar} (binds : o.Binds arguments) :
    ∃ front searched, arguments = front ++ searched ∧ searched.length = o.search.keys.length ∧
      ∀ column v, o.search.get? column = some v → ∃ argument sought,
        (column, argument) ∈ o.search.keys.zip searched ∧ searchText v = .ok sought ∧
          argument = .text (containsPattern sought) := by
  obtain ⟨conditions, filter, filterOr, search, _, _, _, seek, rfl⟩ := binds
  have each := forall₂_flatten_seeks seek
  refine ⟨(conditions ++ filter ++ filterOr).flatten, search.flatten, List.flatten_append, ?_, ?_⟩
  · rw [← each.length_eq, OrderedMap.keys, List.length_map]
  · intro column v held
    obtain ⟨before, after, entries, _⟩ := List.lookup_eq_some_iff.mp held
    have member : (column, v) ∈ o.search.entries := by
      rw [entries]
      exact List.mem_append_right _ List.mem_cons_self
    rw [← List.map_fst_zip (Nat.le_of_eq each.length_eq)] at member
    obtain ⟨⟨e, argument⟩, paired, rfl⟩ := List.mem_map.mp member
    obtain ⟨sought, shown, same⟩ := List.forall₂_zip each paired
    refine ⟨argument, sought, ?_, shown, same⟩
    rw [OrderedMap.keys, List.zip_map_left]
    exact List.mem_map.mpr ⟨_, paired, rfl⟩

end Options

namespace ListRequest

/-- The arguments of a list are those of its criteria and the two of its window. -/
theorem arguments_of_built {table : String} {o : Options} {joins : List Join} {rows : Statement}
    (built : (mk table o joins).rowsStatement = .ok rows) : ∃ bound, rows.arguments = bound ++
        [.int (Page.of o.page o.limit).size, .int (Page.of o.page o.limit).offset] ∧
      (o.AsksForNothing → bound = []) ∧ (¬o.AsksForNothing → o.Binds bound) := by
  obtain ⟨selected, made, rfl⟩ := map_eq_ok_iff.mp built
  obtain ⟨source, criteria, terms, _, found, _, rfl⟩ := rows_eq_ok_iff.mp made
  obtain ⟨binds, never⟩ := Options.criteria_bind found
  refine ⟨argumentsOf (wherePieces criteria), Select.arguments_statement _, fun nothing => ?_,
    fun something => ?_⟩
  · rw [wherePieces_of_never (never.mpr nothing)]
    rfl
  · rw [argumentsOf_wherePieces (mt never.mp something)]
    exact binds

/-- The search argument of a column is the pattern of what was typed last for it, without the blanks
around it, exactly where this is a text that comes back from its value. A description that asks for
nothing has no arguments but those of the window. -/
theorem searched_as_typed_iff {source : ParamSource} {o : Options} {key raw column table : String}
    {before after : List (String × String)} {joins : List Join} {rows : Statement}
    (parsed : source.options = .ok o)
    (given : firstByKey source.params = before ++ (key, raw) :: after)
    (about : Target.ofKey? key = some (.search column))
    (last : ∀ p ∈ after, Target.ofKey? p.1 ≠ some (.search column))
    (built : (mk table o joins).rowsStatement = .ok rows) :
    ∃ front searched, rows.arguments = front ++ searched ++
        [.int (Page.of o.page o.limit).size, .int (Page.of o.page o.limit).offset] ∧
      (o.AsksForNothing → front = [] ∧ searched = []) ∧
      (¬o.AsksForNothing → searched.length = o.search.keys.length ∧
        ∃ argument, (column, argument) ∈ o.search.keys.zip searched ∧
          (argument = .text (containsPattern (String.ofList (trim raw.toList))) ↔
            IsSearchedAsTyped (trim raw.toList))) := by
  obtain ⟨bound, arguments, nothing_bound, binds⟩ := arguments_of_built built
  by_cases nothing : o.AsksForNothing
  · refine ⟨[], [], ?_, fun _ => ⟨rfl, rfl⟩, fun something => absurd nothing something⟩
    rw [arguments, nothing_bound nothing]
    rfl
  · obtain ⟨front, searched, rfl, each, searches⟩ := (binds nothing).search
    rw [ParamSource.options_eq] at parsed
    obtain ⟨v, typed, held⟩ := Options.search_ofParams parsed given about last
    obtain ⟨argument, sought, paired, shown, rfl⟩ := searches column v held
    obtain ⟨t, again, same⟩ := searchText_ofTyped typed
    rw [shown] at again
    cases again
    refine ⟨front, searched, arguments, fun never => absurd never nothing,
      fun _ => ⟨each, _, paired, ?_⟩⟩
    rw [← same, Scalar.text.injEq]
    constructor
    · intro patterns
      rw [containsPattern_injective patterns, String.toList_ofList]
    · intro typed_again
      rw [← typed_again, String.ofList_toList]

/-- A list of two tags between two other parameters, behind a search for a number with zeros in
front. -/
def typedSearches : ParamSource := .pairs [("filter[user_id]", "5"), ("search[notes]", "007"),
  ("search[title]", " [50%,x_y] "), ("order[title]", "asc")]

theorem searched_as_typed_iff_for_typed_list :
    ∃ o rows front searched, typedSearches.options = .ok o ∧
      (mk "activities" o []).rowsStatement = .ok rows ∧
      rows.arguments = front ++ searched ++ [.int 10, .int 0] ∧
      ("title", Scalar.text "%[50\\%,x\\_y]%") ∈ o.search.keys.zip searched := by
  let o : Options := { Options.default with
    filter := .ofList [("user_id", .int 5)]
    conditions := [⟨"user_id", "eq", .int 5⟩]
    search := .ofList [("notes", .int 7), ("title", .texts ["50%", "x_y"])]
    order := [⟨"title", "ASC"⟩] }
  have parsed : typedSearches.options = .ok o := rfl
  have given : firstByKey typedSearches.params =
      [("filter[user_id]", "5"), ("search[notes]", "007")] ++
        ("search[title]", " [50%,x_y] ") :: [("order[title]", "asc")] := by decide
  have about : Target.ofKey? "search[title]" = some (.search "title") := by decide +kernel
  have last : ∀ p ∈ [("order[title]", "asc")],
      Target.ofKey? p.1 ≠ some (.search "title") := by decide +kernel
  obtain ⟨rows, built⟩ : ∃ rows, (mk "activities" o []).rowsStatement = .ok rows := by
    unfold o
    exact ⟨_, rfl⟩
  have something : ¬o.AsksForNothing := by
    rintro (⟨c, member, _, nothing⟩ | ⟨e, member, nothing⟩)
    · cases List.mem_singleton.mp member
      cases nothing
    · cases List.mem_singleton.mp member
      cases nothing
  have kept : IsSearchedAsTyped (trim " [50%,x_y] ".toList) :=
    @IsSearchedAsTyped.list "50%,x_y".toList (by decide) (by decide)
  obtain ⟨front, searched, arguments, _, bound⟩ :=
    searched_as_typed_iff parsed given about last built
  obtain ⟨_, argument, paired, same⟩ := bound something
  have pattern : containsPattern (String.ofList (trim " [50%,x_y] ".toList)) =
      "%[50\\%,x\\_y]%" := by decide +kernel
  rw [same.mpr kept, pattern] at paired
  exact ⟨o, rows, front, searched, parsed, built, arguments, paired⟩

/-- The zeros in front of a number that is typed as a search term are not searched for. -/
theorem leading_zeros_not_searched :
    ∃ o rows, (ParamSource.pairs [("search[title]", "007")]).options = .ok o ∧
      (mk "activities" o []).rowsStatement = .ok rows ∧
      rows.arguments = [.text "%7%", .int 10, .int 0] ∧
      Scalar.text (containsPattern "007") ∉ rows.arguments := by
  let o : Options := { Options.default with search := .ofList [("title", .int 7)] }
  let rows : Statement := ⟨"SELECT activities.* \nFROM activities \nWHERE title ILIKE $1 " ++
    "ORDER BY created_at DESC \n LIMIT $2 OFFSET $3", [.text "%7%", .int 10, .int 0]⟩
  exact ⟨o, rows, rfl, by decide +kernel, rfl, by decide +kernel⟩

end ListRequest

end ListQuery
