import ListQuery.Proofs.Listing.Written
import ListQuery.Proofs.Sql.Arguments
import ListQuery.Proofs.Sql.Placeholder
/-!
The arguments of a list. They are the values of its description in order, and the placeholders in
the statement are numbered like them. A choice of nothing that every row has to meet leaves only the
arguments of the window.
-/
namespace ListQuery

open Sql Column Text

/-- The arguments a value stands for: none for null, one for a scalar, one for each item of a list.
Nothing else can be an argument. -/
def Value.Binds : Value → List Scalar → Prop
  | .null, arguments => arguments = []
  | .scalar v, arguments => arguments = [v]
  | .list items, arguments => items = arguments.map .scalar
  | .object _, _ | .date _, _ | .moment _, _ => False

/-- The one argument of a search term is a pattern. -/
def Value.Seeks (term : Value) (arguments : List Scalar) : Prop :=
  ∃ sought, searchText term = .ok sought ∧ arguments = [.text (containsPattern sought)]

namespace Options

/-- The arguments a description stands for, one group for each condition and each entry. -/
def Binds (o : Options) (arguments : List Scalar) : Prop :=
  ∃ conditions filter filterOr search,
    List.Forall₂ (fun c group => c.value.Binds group) o.conditions conditions ∧
    List.Forall₂ (fun e group => e.2.Binds group) o.filter.entries filter ∧
    List.Forall₂ (fun e group => e.2.Binds group) o.filterOr.entries filterOr ∧
    List.Forall₂ (fun e group => e.2.Seeks group) o.search.entries search ∧
    arguments = (conditions ++ filter ++ filterOr ++ search).flatten

/-- Whether every row has to have one of no values in some column. -/
def AsksForNothing (o : Options) : Prop :=
  (∃ c ∈ o.conditions, c.operator = Operator.eq.name ∧ c.value = .list []) ∨
    ∃ e ∈ o.filter.entries, e.2 = .list []

end Options

section
variable {p : Predicate}

theorem comparison_binds {name : String} {op : Operator} {c : Condition}
    (h : comparison name op c = .ok p) :
    c.value.Binds p.arguments ∧ (p = .never ↔ op = .eq ∧ c.value = .list []) := by
  obtain ⟨column, operator, value⟩ := c
  cases comparison_eq_ok_iff.mp h with
  | isNull | isNotNull | compare _ _ => exact ⟨rfl, by simp⟩
  | within arguments | without arguments =>
    cases arguments with
    | nil => exact ⟨rfl, by simp [Predicate.within, Predicate.without]⟩
    | cons v rest => exact ⟨rfl, by simp [Predicate.within, Predicate.without]⟩

theorem equality_binds {column : String} {v : Value} (h : equality column v = .ok p) :
    v.Binds p.arguments ∧ (p = .never ↔ v = .list []) := by
  rw [equality_eq_comparison] at h
  obtain ⟨name, _, h⟩ := bind_eq_ok_iff.mp h
  obtain ⟨binds, never⟩ := comparison_binds h
  exact ⟨binds, never.trans (and_iff_right rfl)⟩

theorem Condition.predicate_binds {c : Condition} (h : c.predicate = .ok p) :
    c.value.Binds p.arguments ∧
      (p = .never ↔ c.operator = Operator.eq.name ∧ c.value = .list []) := by
  obtain ⟨op, known, _, h⟩ := predicate_eq_ok_iff.mp h
  obtain ⟨binds, never⟩ := comparison_binds h
  refine ⟨binds, never.trans (and_congr_left fun _ => ?_)⟩
  constructor
  · rintro rfl
    exact (Operator.name_of_ofName? known).symm
  · intro named
    rw [named, Operator.ofName?_name] at known
    exact (Option.some.inj known).symm

theorem searchPredicate_seeks {column : String} {term : Value}
    (h : searchPredicate column term = .ok p) : term.Seeks p.arguments := by
  obtain ⟨sought, found, h⟩ := bind_eq_ok_iff.mp h
  obtain ⟨name, _, same⟩ := bind_eq_ok_iff.mp h
  cases same
  exact ⟨sought, found, rfl⟩

end

namespace Options

theorem singles_bind {α : Type} {predicate : α → Except QueryFault Predicate}
    {P : α → List Scalar → Prop} {Q : α → Prop} {inputs : List α} {cs : List Criterion}
    (each : ∀ {a p}, predicate a = .ok p → P a p.arguments ∧ (p = .never ↔ Q a))
    (h : inputs.mapM (fun a => (predicate a).map .single) = .ok cs) :
    List.Forall₂ P inputs (cs.map Criterion.arguments) ∧
      (.single .never ∈ cs ↔ ∃ a ∈ inputs, Q a) := by
  constructor
  · rw [List.forall₂_map_right_iff]
    refine (mapM_eq_ok_iff.mp h).imp fun a c made => ?_
    obtain ⟨p, found, rfl⟩ := map_eq_ok_iff.mp made
    exact (each found).1
  · have never := exists_mem_iff_of_mapM h (P := Q) (Q := fun c => c = .single .never)
      fun a _ c made => by
        obtain ⟨p, found, rfl⟩ := map_eq_ok_iff.mp made
        rw [Criterion.single.injEq]
        exact (each found).2
    rw [← never]
    simp

theorem choice_binds {predicate : String → Value → Except QueryFault Predicate}
    {P : Value → List Scalar → Prop} {m : OrderedMap Value} {cs : List Criterion}
    (each : ∀ {column v p}, predicate column v = .ok p → P v p.arguments)
    (h : choice predicate m = .ok cs) :
    (∃ groups, List.Forall₂ (fun e group => P e.2 group) m.entries groups ∧
      cs.flatMap Criterion.arguments = groups.flatten) ∧ .single .never ∉ cs := by
  rw [choice] at h
  split at h
  · next empty =>
    cases h
    refine ⟨⟨[], ?_, rfl⟩, List.not_mem_nil⟩
    rw [List.isEmpty_iff.mp empty]
    exact .nil
  · obtain ⟨members, run, rfl⟩ := map_eq_ok_iff.mp h
    refine ⟨⟨members.map Predicate.arguments, ?_, ?_⟩, by simp⟩
    · rw [List.forall₂_map_right_iff]
      exact (mapM_eq_ok_iff.mp run).imp fun e p made => each made
    · rw [List.flatMap_singleton, Criterion.arguments, List.flatMap_def]

/-- The arguments of the criteria are those of the description. -/
theorem criteria_bind {o : Options} {cs : List Criterion} (h : o.criteria = .ok cs) :
    o.Binds (cs.flatMap Criterion.arguments) ∧ (.single .never ∈ cs ↔ o.AsksForNothing) := by
  obtain ⟨conditions, hc, h⟩ := bind_eq_ok_iff.mp h
  obtain ⟨filters, hf, h⟩ := bind_eq_ok_iff.mp h
  obtain ⟨alternatives, ha, h⟩ := bind_eq_ok_iff.mp h
  obtain ⟨terms, ht, same⟩ := bind_eq_ok_iff.mp h
  cases same
  obtain ⟨bind_c, never_c⟩ := singles_bind Condition.predicate_binds hc
  obtain ⟨bind_f, never_f⟩ := singles_bind equality_binds hf
  obtain ⟨⟨either, bind_a, flat_a⟩, no_a⟩ :=
    choice_binds (P := Value.Binds) (fun made => (equality_binds made).1) ha
  obtain ⟨⟨search, bind_t, flat_t⟩, no_t⟩ :=
    choice_binds (P := Value.Seeks) searchPredicate_seeks ht
  constructor
  · refine ⟨_, _, either, search, bind_c, bind_f, bind_a, bind_t, ?_⟩
    simp only [List.flatMap_append, List.flatten_append, ← List.flatMap_def, flat_a, flat_t]
  · simp only [List.mem_append, no_a, no_t, or_false, never_c, never_f]
    rfl

end Options

/-- The placeholders are numbered from one on, one for each argument, and the arguments are the
values of the description and behind them those of the window; where the description asks for
nothing, the clause says so and has no arguments. -/
theorem ListRequest.placeholders_follow_arguments {table : String} {o : Options} {joins : List Join}
    {s : Statement}
    (plain : ∀ j ∈ joins, Unmarked j.condition.toList ∧ '$' ∉ j.condition.toList)
    (built : (mk table o joins).rowsStatement = .ok s) :
    placeholders s.text.toList = (List.range' 1 s.arguments.length).map placeholder ∧
      ∃ bound, s.arguments = bound ++
          [.int (Page.of o.page o.limit).size, .int (Page.of o.page o.limit).offset] ∧
        (¬o.AsksForNothing → o.Binds bound) ∧
        (o.AsksForNothing → bound = [] ∧ ∃ source terms, sourceOf table joins = .ok source ∧
          orderTerms table defaultOrderColumn o.order (!joins.isEmpty) = .ok terms ∧
          s.text = "SELECT " ++ table ++ ".*" ++ source.text ++ " \nWHERE false" ++
            orderText terms ++ windowText 1) := by
  obtain ⟨selected, made, rfl⟩ := map_eq_ok_iff.mp built
  have formed := wellFormed_of_built (.inl made)
  obtain ⟨source, criteria, terms, tables, found, ordered, rfl⟩ := rows_eq_ok_iff.mp made
  obtain ⟨binds, never⟩ := Options.criteria_bind found
  have conditions : ∀ t ∈ source.joins, Unmarked t.condition.toList ∧ '$' ∉ t.condition.toList :=
    forall_condition_of_sourceOf (P := fun text => Unmarked text.toList ∧ '$' ∉ text.toList) tables
      plain
  refine ⟨Select.placeholders_text formed conditions, argumentsOf (wherePieces criteria),
    Select.arguments_statement _, fun may_hold => ?_, fun nothing => ?_⟩
  · rw [argumentsOf_wherePieces fun member => may_hold (never.mp member)]
    exact binds
  · have clause := wherePieces_of_never (never.mpr nothing)
    have projection : (Projection.allOf table).text = table ++ ".*" := rfl
    have text := Select.text_of_never formed (fun t member => (conditions t member).1)
      (never.mpr nothing)
    rw [ofList_numberedChars_window (isSafe_orderTerms ordered).1, projection] at text
    refine ⟨by rw [clause]; rfl, source, terms, tables, ordered, ?_⟩
    simp only [String.append_assoc] at text ⊢
    exact text

theorem ListRequest.placeholders_follow_arguments_for_shared_activities :
    let shared : Join := ⟨"shares s", "s.activity_id = activities.id AND s.note LIKE '50%'", none⟩
    let o : Options := { Options.default with
      conditions := [⟨"distance", "gte", .int 5⟩, ⟨"kind", "ne", .list []⟩]
      filter := .ofList [("s.user_id", .int 7), ("sport", .texts ["run", "ride"])]
      filterOr := .ofList [("title", .null), ("note", .list []), ("city", .text "Ulm")]
      search := .ofList [("title", .text "100%")] }
    (∀ j ∈ [shared], Unmarked j.condition.toList ∧ '$' ∉ j.condition.toList) ∧
      ∃ s, (mk "activities" o [shared]).rowsStatement = .ok s ∧
        placeholders s.text.toList = (List.range' 1 s.arguments.length).map placeholder ∧
        ∃ bound, s.arguments = bound ++
          [.int (Page.of o.page o.limit).size, .int (Page.of o.page o.limit).offset] ∧
          o.Binds bound := by
  intro shared o
  have plain : ∀ j ∈ [shared], Unmarked j.condition.toList ∧ '$' ∉ j.condition.toList :=
    List.forall_mem_singleton.mpr ⟨by unfold Unmarked; decide +kernel, by decide⟩
  obtain ⟨s, built⟩ : ∃ s, (mk "activities" o [shared]).rowsStatement = .ok s := by
    unfold o shared
    exact ⟨_, rfl⟩
  have may_hold : ¬o.AsksForNothing := by
    rintro (⟨c, member, equal, _⟩ | ⟨e, member, nothing⟩)
    · rcases List.mem_pair.mp member with rfl | rfl
      · exact absurd equal (by decide)
      · exact absurd equal (by decide)
    · rcases List.mem_pair.mp member with rfl | rfl
      · cases nothing
      · cases nothing
  obtain ⟨numbered, bound, arguments, binds, _⟩ := placeholders_follow_arguments plain built
  exact ⟨plain, s, built, numbered, bound, arguments, binds may_hold⟩

end ListQuery
