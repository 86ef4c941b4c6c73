import ListQuery.Proofs.Distinct
import ListQuery.Proofs.Policy.Precedence
import ListQuery.Proofs.Query.Key
import ListQuery.Proofs.Query.Parsed
import ListQuery.Query.Preset
/-!
Policies that limit the rows to one owner. Such a policy lets something pass only if it also lets
its callers filter by the column of the owner, and the default policy does not. So a page of the
rows of one owner is refused by default, although nothing else in the request is at fault.
-/
namespace ListQuery

open Text Column Number

namespace Policy

variable {p : Policy}

/-- A policy that needs a scope is of use exactly when its scope column can be filtered by. -/
theorem exists_accepted_iff (limited : p.requireScope = true) : (∃ o, p.rejection? o = none) ↔
    IsSafe p.scopeColumn ∧ IsListed p.filterColumns p.scopeColumn ∧ 1 ≤ p.maxPageSize := by
  simp only [rejection?_eq_none_iff]
  constructor
  · rintro ⟨o, rules⟩
    have present := rules.scope limited
    have named : p.scopeColumn ∈ o.columns := by
      simp only [Options.columns, List.append_assoc]
      exact List.mem_append_left _ present
    have listed := rules.filters _ (List.mem_append_left _ present)
    obtain ⟨_, low, high⟩ := rules.bounds
    exact ⟨rules.names _ named, allows_iff_isListed.mp listed, by omega⟩
  · rintro ⟨safe, listed, room⟩
    refine ⟨{ Options.default with
      limit := 1
      filter := .ofList [(p.scopeColumn, .null)] }, ?_⟩
    exact
      { names := List.forall_mem_singleton.mpr safe
        filters := List.forall_mem_singleton.mpr (allows_iff_isListed.mpr listed)
        searches := nofun
        orders := nofun
        directions := nofun
        bounds := ⟨Int.le_refl 1, Int.le_refl 1, room⟩
        scope := fun _ => List.mem_singleton_self _
        conditions := nofun }

/-- Nothing passes the default policy. -/
theorem default_accepts_nothing (o : Options) : Policy.default.rejection? o ≠ none := by
  intro accepted
  obtain ⟨_, ⟨_, inside, _⟩, _⟩ := (exists_accepted_iff rfl).mp ⟨o, accepted⟩
  exact absurd inside List.not_mem_nil

end Policy

/-- A clause that orders by a time stamp. -/
structure OrderClause.IsByTime (clause : OrderClause) : Prop where
  column : clause.column ∈ ["created_at", "updated_at"]
  direction : clause.direction ∈ ["ASC", "DESC"]

/-- A description of a page of the rows of one owner, in the order of time stamps. -/
structure Options.IsOwnerPage (owner : Scalar) (o : Options) : Prop where
  page : 1 ≤ o.page
  limit : 1 ≤ o.limit ∧ o.limit ≤ 100
  filter : o.filter.entries = [("user_id", .scalar owner)]
  conditions : o.conditions = [⟨"user_id", "eq", .scalar owner⟩]
  filterOr : o.filterOr.entries = []
  search : o.search.entries = []
  order : ∀ clause ∈ o.order, clause.IsByTime

/-- The parameters that ask for such a page, with every value as it is typed. -/
def ownerParams (page limit owner : String) (order : List OrderClause) : List (String × String) :=
  ("page", page) :: ("limit", limit) :: ("filter[user_id]", owner) ::
    order.map fun clause => ((Target.order clause.column).key, clause.direction)

/-- The two ways to such a page: by parameters alone, or by a page of all rows to which the
condition on the owner is added. -/
inductive OwnerRequest (owner : Scalar) : Options → Prop
  | typed {page limit raw : String} {number size : Int} {order : List OrderClause} {o : Options}
      (read_page : positiveOr defaultPage page = .ok number)
      (read_limit : positiveOr defaultLimit limit = .ok size) (short : size ≤ 100)
      (value : Value.ofTyped raw = .ok (.scalar owner))
      (by_time : ∀ clause ∈ order, clause.IsByTime)
      (parsed : Options.ofParams (ownerParams page limit raw order) = .ok o) : OwnerRequest owner o
  | added {page limit : Int} {order : List OrderClause} {owned : List Condition}
      (one_le_page : 1 ≤ page) (one_le_limit : 1 ≤ limit) (short : limit ≤ 100)
      (by_time : ∀ clause ∈ order, clause.IsByTime)
      (preset : Preset.ownedBy (.scalar owner) (.text "user_id") = .ok owned) :
      OwnerRequest owner
        (Options.addConditions ⟨page, limit, .empty, [], .empty, .empty, order⟩ owned)

namespace Target

theorem ofKey?_page : ofKey? "page" = some .page := rfl

theorem ofKey?_limit : ofKey? "limit" = some .limit := by decide

theorem ofKey?_owner : ofKey? "filter[user_id]" = some (.condition "user_id" "eq") := by decide

end Target

theorem exists_firstByKey_ownerParams (page limit owner : String) (order : List OrderClause) :
    ∃ rest, firstByKey (ownerParams page limit owner order) =
        ("page", page) :: ("limit", limit) :: ("filter[user_id]", owner) :: rest ∧
      ∀ p ∈ rest, ∃ clause ∈ order, p = ((Target.order clause.column).key, clause.direction) := by
  have kept {key other value : String} {more : List (String × String)} (differ : key ≠ other) :
      ((key, value) :: more).filter (fun later => decide (later.1 ≠ other)) =
        (key, value) :: more.filter fun later => decide (later.1 ≠ other) :=
    List.filter_cons_of_pos (decide_eq_true differ)
  simp only [ownerParams, firstByKey]
  rw [kept (show "filter[user_id]" ≠ "limit" by decide), kept (show "limit" ≠ "page" by decide),
    kept (show "filter[user_id]" ≠ "page" by decide)]
  refine ⟨_, rfl, fun p member => ?_⟩
  simp only [List.mem_filter] at member
  obtain ⟨clause, listed, rfl⟩ := List.mem_map.mp (mem_of_mem_firstByKey member.1.1.1)
  exact ⟨clause, listed, rfl⟩

namespace OrderClause

variable {clause : OrderClause} (by_time : clause.IsByTime)
include by_time

theorem IsByTime.ofKey?_key :
    Target.ofKey? (Target.order clause.column).key = some (.order clause.column) := by
  have names : ∀ column ∈ ["created_at", "updated_at"], IsLevel column := by decide
  exact Target.ofKey?_key (List.forall_mem_singleton.mpr (names _ by_time.column))

theorem IsByTime.upper_trim : upper (String.ofList (trim clause.direction.toList)) =
    clause.direction := by
  have words : ∀ direction ∈ ["ASC", "DESC"],
      upper (String.ofList (trim direction.toList)) = direction := by decide +kernel
  exact words _ by_time.direction

end OrderClause

namespace Options

variable {owner : Scalar} {o next : Options}

theorem IsOwnerPage.addParam {clause : OrderClause} (by_time : clause.IsByTime)
    (asked : o.IsOwnerPage owner)
    (added : o.addParam (Target.order clause.column).key clause.direction = .ok next) :
    next.IsOwnerPage owner := by
  rw [Options.addParam, by_time.ofKey?_key] at added
  cases added
  refine { asked with order := List.forall_mem_append.mpr ⟨fun old member => ?_, ?_⟩ }
  · exact asked.order old (List.mem_filter.mp member).1
  · rw [List.forall_mem_singleton, by_time.upper_trim]
    exact by_time

/-- Both ways lead to the page that is asked for. -/
theorem isOwnerPage_of_request (request : OwnerRequest owner o) : o.IsOwnerPage owner := by
  cases request with
  | @typed page limit raw number size order _ read_page read_limit short value by_time parsed =>
    obtain ⟨rest, first, orders⟩ := exists_firstByKey_ownerParams page limit raw order
    rw [ofParams, first] at parsed
    simp only [List.foldlM_cons, Options.addParam, Target.ofKey?_page, Target.ofKey?_limit,
      Target.ofKey?_owner, enter, read_page, read_limit, value] at parsed
    refine foldlM_keeps_of_mem (fun p member o next asked added => ?_) ?_ parsed
    · obtain ⟨clause, listed, rfl⟩ := orders p member
      exact asked.addParam (by_time clause listed) added
    · exact
        { page := positiveOr_pos (by decide) read_page
          limit := ⟨positiveOr_pos (by decide) read_limit, short⟩
          filter := rfl
          conditions := rfl
          filterOr := rfl
          search := rfl
          order := nofun }
  | added one_le_page one_le_limit short by_time preset =>
    cases preset
    exact
      { page := one_le_page
        limit := ⟨one_le_limit, short⟩
        filter := rfl
        conditions := rfl
        filterOr := rfl
        search := rfl
        order := by_time }

end Options

namespace Options.IsOwnerPage

variable {owner : Scalar} {o : Options} (asked : o.IsOwnerPage owner)
include asked

theorem filter_keys : o.filter.keys = ["user_id"] := by
  rw [OrderedMap.keys, asked.filter]
  rfl

theorem filterOr_keys : o.filterOr.keys = [] := by
  rw [OrderedMap.keys, asked.filterOr]
  rfl

theorem search_keys : o.search.keys = [] := by
  rw [OrderedMap.keys, asked.search]
  rfl

theorem isSafe : ∀ column ∈ o.columns, IsSafe column := by
  have owner_safe : IsSafe "user_id" := by decide +kernel
  have time_safe : ∀ column ∈ ["created_at", "updated_at"], IsSafe column := by decide +kernel
  simp only [Options.columns, asked.filter_keys, asked.filterOr_keys, asked.search_keys,
    asked.conditions, List.append_nil, List.map_cons, List.map_nil, List.forall_mem_append,
    List.forall_mem_singleton, List.forall_mem_map]
  exact ⟨⟨owner_safe, owner_safe⟩, fun clause member =>
    time_safe _ (asked.order clause member).column⟩

/-- Only the column of the owner stands between such a page and the default policy with other
columns to filter by. -/
theorem accepts_iff (names : List String) :
    { Policy.default with filterColumns := names }.Accepts o ↔ Policy.IsListed names "user_id" := by
  have filters : o.filter.keys ++ o.filterOr.keys = ["user_id"] := by
    rw [asked.filter_keys, asked.filterOr_keys]
    rfl
  constructor
  · intro rules
    have allowed := rules.filters
    rw [filters, List.forall_mem_singleton] at allowed
    exact Policy.allows_iff_isListed.mp allowed
  · intro listed
    have allowed : Policy.allows names "user_id" = true := Policy.allows_iff_isListed.mpr listed
    have known : "eq" ∈ operatorNames := by decide
    have directions : ∀ direction ∈ ["ASC", "DESC"], isDirection direction = true := by
      decide +kernel
    exact
      { names := asked.isSafe
        filters := by
          rw [filters]
          exact List.forall_mem_singleton.mpr allowed
        searches := by
          rw [asked.search_keys]
          exact nofun
        orders := fun clause member => Policy.allows_iff_isListed.mpr
          ⟨clause.column, (asked.order clause member).column, rfl⟩
        directions := fun clause member => directions _ (asked.order clause member).direction
        bounds := ⟨asked.page, asked.limit⟩
        scope := fun _ => by
          rw [asked.filter_keys]
          exact List.mem_singleton_self _
        conditions := by
          rw [asked.conditions, List.forall_mem_singleton]
          exact ⟨known, allowed, known⟩ }

end Options.IsOwnerPage

/-- A page of the rows of one owner, however it is asked for, passes the default policy with other
columns to filter by exactly when the column of the owner is one of them. It does not pass the
default policy as it is, and the column of the owner is what is reported. -/
theorem Policy.owner_page_accepted_iff_listed {owner : Scalar} {o : Options}
    (request : OwnerRequest owner o) (names : List String) :
    ({ Policy.default with filterColumns := names }.rejection? o = none ↔
        IsListed names "user_id") ∧
      Policy.default.rejection? o = some (.filterColumn "user_id") := by
  have asked := Options.isOwnerPage_of_request request
  refine ⟨rejection?_eq_none_iff.trans (asked.accepts_iff names), ?_⟩
  have named : Rule.names.offence? Policy.default o = none :=
    Rule.offence?_eq_none_iff.mpr asked.isSafe
  have refused : Rule.filters.offence? Policy.default o = some (.filterColumn "user_id") := by
    rw [Rule.offence?, asked.filter_keys, asked.filterOr_keys]
    rfl
  rw [rejection?_eq_findSome?, Rule.all, List.findSome?_cons, named, List.findSome?_cons, refused]

theorem Policy.owner_page_accepted_iff_listed_for_second_page :
    ∃ o, OwnerRequest (.int 7) o ∧
      { Policy.default with filterColumns := ["USER_ID"] }.rejection? o = none ∧
        Policy.default.rejection? o = some (.filterColumn "user_id") := by
  let order : List OrderClause := [⟨"created_at", "DESC"⟩, ⟨"updated_at", "ASC"⟩]
  have by_time : ∀ clause ∈ order, clause.IsByTime :=
    List.forall_mem_cons.mpr ⟨⟨by decide, by decide⟩,
      List.forall_mem_singleton.mpr ⟨by decide, by decide⟩⟩
  obtain ⟨o, parsed⟩ : ∃ o, Options.ofParams (ownerParams "2" "100" " 007" order) = .ok o :=
    ⟨_, rfl⟩
  have request : OwnerRequest (.int 7) o := .typed rfl rfl (by decide) rfl by_time parsed
  have listed : IsListed ["USER_ID"] "user_id" := ⟨"USER_ID", List.mem_cons_self, by decide +kernel⟩
  obtain ⟨accepted, refused⟩ := owner_page_accepted_iff_listed request ["USER_ID"]
  exact ⟨o, request, accepted.mpr listed, refused⟩

/-- The rows of one owner, without more, are refused by default. -/
theorem Policy.owner_page_refused :
    ∃ o, Options.ofParams (ownerParams "1" "10" "7" []) = .ok o ∧ OwnerRequest (.int 7) o ∧
      Policy.default.rejection? o = some (.filterColumn "user_id") := by
  obtain ⟨o, parsed⟩ : ∃ o, Options.ofParams (ownerParams "1" "10" "7" []) = .ok o := ⟨_, rfl⟩
  have no_order : ∀ clause ∈ ([] : List OrderClause), clause.IsByTime := nofun
  refine ⟨o, parsed, .typed rfl rfl (by decide) rfl no_order parsed, ?_⟩
  cases parsed
  decide +kernel

end ListQuery
