import ListQuery.Proofs.Listing.Arguments
import ListQuery.Proofs.Listing.Ordered
import ListQuery.Proofs.Listing.ReadBack
/-!
Which columns of a statement stand with a table in front of them. Where tables are joined, a bare
column of the order is written as one of the main table, but a bare column of a criterion is written
as it is. So all columns are qualified exactly when no criterion is about a bare one and the main
table has a name without dots, or nothing is ordered by a bare one either.
-/
namespace ListQuery.Sql

def Predicate.columns : Predicate → List String
  | .always | .never => []
  | .compare column _ _ | .isNull column | .isNotNull column | .oneOf column _ | .noneOf column _
  | .matching column _ => [column]

/-- The columns of the criteria that are written, in order. -/
def Select.whereColumns (s : Select) : List String :=
  (Criterion.written s.criteria).flatMap (Criterion.gather Predicate.columns)

def Select.orderColumns (s : Select) : List String := s.order.map (·.column)

theorem Select.whereColumns_of_never {s : Select} (never : .single .never ∈ s.criteria) :
    s.whereColumns = [] := by
  rw [whereColumns, Criterion.written, Criterion.simplify,
    if_pos (List.contains_iff_mem.mpr never)]
  rfl

/-- A word that is no keyword. -/
def Token.plainWord? : Token → Option String
  | .word s => if s ∈ keywords then none else some s
  | _ => none

/-- The words among tokens that are no keywords, in order. -/
def plainWords (tokens : List Token) : List String := tokens.filterMap Token.plainWord?

theorem plainWords_append (ts us : List Token) :
    plainWords (ts ++ us) = plainWords ts ++ plainWords us := List.filterMap_append

theorem plainWords_words (names : List String) :
    plainWords (names.map .word) = names.filter (· ∉ keywords) := by
  rw [plainWords, List.filterMap_map, ← List.filterMap_eq_filter]
  refine List.filterMap_congr fun name _ => ?_
  by_cases keyword : name ∈ keywords <;>
    simp [Token.plainWord?, keyword, Option.guard]

section
variable {separator : Token} (keyword : plainWords [separator] = [])
include keyword

/-- Between groups there are no other words than keywords. -/
theorem plainWords_separated {α : Type} {tokens : α → List Token} {columns : α → List String}
    (each : ∀ a, plainWords (tokens a) = plainWords ((columns a).map .word)) (items : List α) :
    plainWords (separatedTokens separator (items.map tokens)) =
      plainWords ((items.flatMap columns).map .word) := by
  have groups : plainWords (separatedTokens separator (items.map tokens)) =
      (items.map tokens).flatMap plainWords := filterMap_intercalate keyword _
  rw [groups, List.flatMap_map, List.map_flatMap, plainWords, List.filterMap_flatMap]
  exact List.flatMap_congr fun a _ => each a

end

theorem plainWords_comma : plainWords [.comma] = [] := rfl

theorem plainWords_itemTokens (items : List Scalar) : plainWords (itemTokens items) = [] := by
  have each (v : Scalar) : plainWords [.argument v] = plainWords (([] : List String).map .word) :=
    rfl
  have values := plainWords_separated plainWords_comma each items
  rwa [List.flatMap_eq_nil_iff.mpr fun _ _ => rfl] at values

/-- The words of a test are its column and keywords. -/
theorem Predicate.plainWords_tokens (p : Predicate) :
    plainWords p.tokens = plainWords (p.columns.map .word) := by
  cases p with
  | always | never | compare _ _ _ | isNull _ | isNotNull _ | matching _ _ => rfl
  | oneOf column items =>
    change plainWords ([.word column, .word "IN", .opening] ++ itemTokens items ++ [.closing]) = _
    rw [plainWords_append, plainWords_append, plainWords_itemTokens, List.append_nil]
    exact List.append_nil _
  | noneOf column items =>
    change plainWords ([.opening, .word column, .word "NOT", .word "IN", .opening] ++
      itemTokens items ++ [.closing, .closing]) = _
    rw [plainWords_append, plainWords_append, plainWords_itemTokens, List.append_nil]
    exact List.append_nil _

theorem Criterion.plainWords_tokens (c : Criterion) (alone : Bool) :
    plainWords (c.tokens alone) = plainWords ((c.gather Predicate.columns).map .word) := by
  cases c with
  | single p => exact p.plainWords_tokens
  | anyOf members =>
    have choice : plainWords (separatedTokens (.word "OR") (members.map Predicate.tokens)) =
        plainWords ((members.flatMap Predicate.columns).map .word) :=
      plainWords_separated rfl Predicate.plainWords_tokens members
    cases alone with
    | true => exact choice
    | false =>
      change plainWords ([.opening] ++ separatedTokens _ _ ++ [.closing]) = _
      rw [plainWords_append, plainWords_append, choice]
      exact List.append_nil _

theorem plainWords_clauseTokens (criteria : List Criterion) : plainWords (clauseTokens criteria) =
    plainWords ((criteria.flatMap (Criterion.gather Predicate.columns)).map .word) := by
  match criteria with
  | [] => rfl
  | [c] =>
    rw [List.flatMap_singleton]
    exact c.plainWords_tokens true
  | c :: d :: rest =>
    exact plainWords_separated rfl (Criterion.plainWords_tokens · false) (c :: d :: rest)

theorem plainWords_orderTokens (terms : List OrderTerm) :
    plainWords (orderTokens terms) = plainWords ((terms.map (·.column)).map .word) := by
  have each (t : OrderTerm) : plainWords t.tokens = plainWords ([t.column].map .word) := by
    rw [OrderTerm.tokens]
    split <;> rfl
  rw [orderTokens]
  split
  · next empty =>
    rw [List.isEmpty_iff.mp empty]
    rfl
  · have listed := plainWords_separated plainWords_comma each terms
    rw [← List.map_eq_flatMap] at listed
    exact listed

theorem plainWords_windowTokens (window : Option Window) :
    plainWords (windowTokens window) = [] := by
  cases window <;> rfl

/-- The words behind the tables that are no keywords are the columns of the criteria and of the
order. -/
theorem Select.plainWords_tailTokens (s : Select) :
    plainWords s.tailTokens = (s.whereColumns ++ s.orderColumns).filter (· ∉ keywords) := by
  rw [tailTokens, plainWords_append, plainWords_append, plainWords_clauseTokens,
    plainWords_orderTokens, plainWords_windowTokens, plainWords_words, plainWords_words,
    List.append_nil, ← List.filter_append]
  rfl

end ListQuery.Sql

namespace ListQuery

open Sql Column

/-- The column that a comparison with the value is about; with a choice of no values it is about
none. -/
def Value.tested (column : String) : Value → List String
  | .list [] => []
  | _ => [column]

theorem Value.map_tested (f : String → String) (column : String) (v : Value) :
    (v.tested column).map f = v.tested (f column) := by
  unfold Value.tested
  split <;> rfl

/-- The columns that criteria are about. -/
def Options.testedColumns (o : Options) : List String :=
  o.conditions.flatMap (fun c => c.value.tested c.column) ++
    o.filter.entries.flatMap (fun e => e.2.tested e.1) ++
    o.filterOr.entries.flatMap (fun e => e.2.tested e.1) ++ o.search.keys

/-- The columns that the rows are ordered by. -/
def Options.orderColumns (o : Options) : List String :=
  if o.order.isEmpty then [defaultOrderColumn] else o.order.map (·.column)

section
variable {p : Predicate}

theorem comparison_columns {name : String} {op : Operator} {c : Condition}
    (h : comparison name op c = .ok p) : p.columns = c.value.tested name := by
  obtain ⟨column, operator, value⟩ := c
  cases comparison_eq_ok_iff.mp h with
  | isNull | isNotNull | compare _ _ => rfl
  | within arguments | without arguments => cases arguments <;> rfl

theorem equality_columns {column : String} {v : Value} (h : equality column v = .ok p) :
    p.columns = v.tested (resolve column) := by
  rw [equality_eq_comparison] at h
  obtain ⟨name, named, h⟩ := bind_eq_ok_iff.mp h
  obtain ⟨rfl, _⟩ := sqlColumn_eq_ok_iff.mp named
  exact comparison_columns h

theorem Condition.predicate_columns {c : Condition} (h : c.predicate = .ok p) :
    p.columns = c.value.tested (resolve c.column) := by
  obtain ⟨op, _, _, h⟩ := predicate_eq_ok_iff.mp h
  exact comparison_columns h

theorem searchPredicate_columns {column : String} {term : Value}
    (h : searchPredicate column term = .ok p) : p.columns = [resolve column] := by
  obtain ⟨sought, _, h⟩ := bind_eq_ok_iff.mp h
  obtain ⟨name, named, same⟩ := bind_eq_ok_iff.mp h
  obtain ⟨rfl, _⟩ := sqlColumn_eq_ok_iff.mp named
  cases same
  rfl

end

namespace Options

section
variable {α β : Type} {f : Predicate → List β} {cs : List Criterion}

theorem gather_singles {predicate : α → Except QueryFault Predicate} {g : α → List β}
    {inputs : List α} (each : ∀ {a p}, predicate a = .ok p → f p = g a)
    (h : inputs.mapM (fun a => (predicate a).map .single) = .ok cs) :
    cs.flatMap (Criterion.gather f) = inputs.flatMap g := by
  refine flatMap_of_mapM h fun a c made => ?_
  obtain ⟨p, found, rfl⟩ := map_eq_ok_iff.mp made
  exact each found

theorem gather_choice {predicate : String → Value → Except QueryFault Predicate}
    {g : String × Value → List β} {m : OrderedMap Value}
    (each : ∀ {e p}, predicate e.1 e.2 = .ok p → f p = g e) (h : choice predicate m = .ok cs) :
    cs.flatMap (Criterion.gather f) = m.entries.flatMap g := by
  rw [choice] at h
  split at h
  · next empty =>
    cases h
    rw [List.isEmpty_iff.mp empty]
    rfl
  · obtain ⟨members, run, rfl⟩ := map_eq_ok_iff.mp h
    rw [List.flatMap_singleton]
    exact flatMap_of_mapM run fun e p found => each found

end

/-- The columns of the criteria are those that the description tests, as SQL writes them. -/
theorem columns_criteria {o : Options} {cs : List Criterion} (h : o.criteria = .ok cs) :
    cs.flatMap (Criterion.gather Predicate.columns) = o.testedColumns.map resolve := by
  obtain ⟨conditions, hc, h⟩ := bind_eq_ok_iff.mp h
  obtain ⟨filters, hf, h⟩ := bind_eq_ok_iff.mp h
  obtain ⟨alternatives, ha, h⟩ := bind_eq_ok_iff.mp h
  obtain ⟨terms, ht, same⟩ := bind_eq_ok_iff.mp h
  cases same
  have search : o.search.keys.map resolve =
      o.search.entries.flatMap fun e => [resolve e.1] := by
    rw [OrderedMap.keys, List.map_map, List.map_eq_flatMap]
    rfl
  simp only [testedColumns, List.flatMap_append, List.map_append, List.map_flatMap,
    Value.map_tested, search]
  rw [gather_singles Condition.predicate_columns hc, gather_singles equality_columns hf,
    gather_choice equality_columns ha, gather_choice searchPredicate_columns ht]

end Options

/-- A column of a description with a table in front of it. A bare one is of the main table. -/
def qualified (table column : String) : String :=
  if isDotted column then resolve column else table ++ "." ++ column

section
variable {table column : String}

theorem isDotted_append_dot (table column : String) : isDotted (table ++ "." ++ column) = true := by
  simp [isDotted]

theorem resolve_eq_qualified_iff :
    resolve column = qualified table column ↔ isDotted column = true := by
  rw [qualified]
  cases dotted : isDotted column with
  | true => simp
  | false =>
    refine iff_of_false (fun same => ?_) Bool.false_ne_true
    have other := isDotted_append_dot table column
    rw [if_neg Bool.false_ne_true] at same
    rw [← same, isDotted_resolve, dotted] at other
    exact Bool.false_ne_true other

/-- Where tables are joined, a column of the order is written as it is resolved if it has a dot, and
as one of the main table otherwise. -/
theorem resolve_qualify (table column : String) : resolve (qualify table (resolve column) true) =
    if isDotted column then resolve column else resolve (table ++ "." ++ column) := by
  rw [qualify, Bool.true_and, isDotted_resolve]
  cases dotted : isDotted column with
  | true => rw [Bool.not_true, if_neg Bool.false_ne_true, if_pos rfl, resolve_resolve]
  | false =>
    rw [Bool.not_false, if_pos rfl, if_neg Bool.false_ne_true,
      resolve_of_bare (isDotted_eq_false_iff.mp dotted)]

theorem isDotted_resolve_qualify :
    isDotted (resolve (qualify table (resolve column) true)) = true := by
  rw [resolve_qualify]
  split
  · next dotted => rw [isDotted_resolve, dotted]
  · rw [isDotted_resolve, isDotted_append_dot]

theorem resolve_qualify_eq_qualified_iff :
    resolve (qualify table (resolve column) true) = qualified table column ↔
      isDotted table = false ∨ isDotted column = true := by
  rw [resolve_qualify, qualified]
  cases dotted : isDotted column with
  | true => simp
  | false =>
    rw [if_neg Bool.false_ne_true, if_neg Bool.false_ne_true, resolve_append_eq_self_iff dotted]
    simp

theorem columns_orderTerms {o : Options} {terms : List OrderTerm}
    (ordered : orderTerms table defaultOrderColumn o.order true = .ok terms) :
    terms.map (·.column) =
      o.orderColumns.map fun column => resolve (qualify table (resolve column) true) := by
  rw [orderTerms] at ordered
  rw [Options.orderColumns]
  split at ordered
  · next empty =>
    have bare : resolve defaultOrderColumn = defaultOrderColumn := by decide +kernel
    obtain ⟨t, made, rfl⟩ := map_eq_ok_iff.mp ordered
    obtain ⟨rfl, _⟩ := orderTerm_eq_ok_iff.mp made
    rw [if_pos empty, List.map_singleton, List.map_singleton, bare]
  · next some_clause =>
    have terms_eq := eq_map_of_mapM ordered fun clause t made => (orderTerm_eq_ok_iff.mp made).1
    rw [if_neg some_clause, terms_eq]
    simp only [List.map_map, Function.comp_def]

end

namespace ListRequest

/-- A statement whose columns all stand with a table in front of them, a bare column of the
description with the main table. Where the criteria ask for nothing, they have no columns. -/
structure Qualifies (r : ListRequest) (s : Select) : Prop where
  dotted : ∀ column ∈ s.whereColumns ++ s.orderColumns, isDotted column = true
  tested : r.options.AsksForNothing ∨
    s.whereColumns = r.options.testedColumns.map (qualified r.table)
  ordered : s.orderColumns = r.options.orderColumns.map (qualified r.table)

section
variable {table : String} {o : Options} {joins : List Join} {s : Select}
  (built : (mk table o joins).rows = .ok s)
include built

/-- The criteria are written with the columns that the description tests, resolved and no more. -/
theorem whereColumns_of_built : (o.AsksForNothing → s.whereColumns = []) ∧
    (¬o.AsksForNothing → s.whereColumns = o.testedColumns.map resolve) := by
  have found := criteria_of_built (.inl built)
  have never := (Options.criteria_bind found).2
  refine ⟨fun nothing => Select.whereColumns_of_never (never.mpr nothing), fun something => ?_⟩
  rw [Select.whereColumns, Criterion.gather_written rfl rfl (mt never.mp something)]
  exact Options.columns_criteria found

theorem orderColumns_of_built (joined : joins ≠ []) : s.orderColumns =
    o.orderColumns.map fun column => resolve (qualify table (resolve column) true) := by
  have some_join : (!joins.isEmpty) = true := by simpa using joined
  obtain ⟨_, _, terms, _, _, ordered, rfl⟩ := rows_eq_ok_iff.mp built
  exact columns_orderTerms (some_join ▸ ordered)

/-- In the text of the statement the words behind the tables that are no keywords are the columns of
the criteria and those of the order. -/
theorem columns_read_from_text (closed : ∀ j ∈ joins, MarksClosed j.condition.toList) :
    ∃ tokens, s.statement.tokensBehind? s.frontText = some tokens ∧
      plainWords tokens = (s.whereColumns ++ s.orderColumns).filter (· ∉ keywords) := by
  have formed := wellFormed_of_built (.inl built)
  have conditions := marksClosed_of_selected (.inl built) closed
  exact ⟨s.tailTokens, Select.tokensBehind?_of_resolved formed (.inr conditions),
    s.plainWords_tailTokens⟩

/-- Where tables are joined, every column of the order is qualified. All columns are, and bare ones
by the main table, exactly when the criteria are about columns with a dot only, and when the main
table has no dot in its name or nothing is ordered by a bare column. The columns are the words of
the text behind the tables, as far as they are no keywords. -/
theorem columns_qualified_iff (joined : joins ≠ []) :
    (∀ column ∈ s.orderColumns, isDotted column = true) ∧
      ((mk table o joins).Qualifies s ↔
        (o.AsksForNothing ∨ ∀ column ∈ o.testedColumns, isDotted column = true) ∧
          (isDotted table = false ∨ ∀ column ∈ o.orderColumns, isDotted column = true)) ∧
      ((∀ j ∈ joins, MarksClosed j.condition.toList) →
        ∃ tokens, s.statement.tokensBehind? s.frontText = some tokens ∧
          plainWords tokens = (s.whereColumns ++ s.orderColumns).filter (· ∉ keywords)) := by
  obtain ⟨nothing_tested, tested⟩ := whereColumns_of_built built
  have ordered := orderColumns_of_built built joined
  have order_dotted : ∀ column ∈ s.orderColumns, isDotted column = true := by
    rw [ordered, List.forall_mem_map]
    exact fun column _ => isDotted_resolve_qualify
  have order_qualified : s.orderColumns = o.orderColumns.map (qualified table) ↔
      isDotted table = false ∨ ∀ column ∈ o.orderColumns, isDotted column = true := by
    rw [ordered, List.map_inj_left]
    simp only [resolve_qualify_eq_qualified_iff, ← forall_or_left]
  have same_iff : o.testedColumns.map resolve = o.testedColumns.map (qualified table) ↔
      ∀ column ∈ o.testedColumns, isDotted column = true := by
    rw [List.map_inj_left]
    simp only [resolve_eq_qualified_iff]
  refine ⟨order_dotted, ⟨fun qualifies => ⟨?_, order_qualified.mp qualifies.ordered⟩, ?_⟩,
    columns_read_from_text built⟩
  · by_cases nothing : o.AsksForNothing
    · exact .inl nothing
    · have same := qualifies.tested.resolve_left nothing
      rw [tested nothing] at same
      exact .inr (same_iff.mp same)
  · rintro ⟨about, order⟩
    have where_dotted : ∀ column ∈ s.whereColumns, isDotted column = true := by
      by_cases nothing : o.AsksForNothing
      · rw [nothing_tested nothing]
        exact fun _ member => absurd member List.not_mem_nil
      · rw [tested nothing, List.forall_mem_map]
        intro column member
        rw [isDotted_resolve]
        exact about.resolve_left nothing column member
    refine ⟨List.forall_mem_append.mpr ⟨where_dotted, order_dotted⟩, ?_, order_qualified.mpr order⟩
    by_cases nothing : o.AsksForNothing
    · exact .inl nothing
    · exact .inr ((tested nothing).trans (same_iff.mpr (about.resolve_left nothing)))

end

/-- The tags of activities, which have a time of their own. -/
def tagsJoin : Join := ⟨"tags", "tags.activity_id = activities.id", none⟩

theorem columns_qualified_iff_for_activities :
    let o : Options := { Options.default with
      conditions := [⟨"tags.parent.name", "ne", .text "card"⟩, ⟨"kind", "ne", .list []⟩]
      search := .ofList [("activities.title", .text "run")]
      order := [⟨"title", "ASC"⟩, ⟨"tags.created_at", "DESC"⟩] }
    [tagsJoin] ≠ [] ∧ ∃ s, (mk "activities" o [tagsJoin]).rows = .ok s ∧
      (mk "activities" o [tagsJoin]).Qualifies s ∧
      s.whereColumns = ["parent.name", "activities.title"] ∧
      s.orderColumns = ["activities.title", "tags.created_at"] ∧
      ∃ tokens, s.statement.tokensBehind? s.frontText = some tokens ∧
        plainWords tokens =
          ["parent.name", "activities.title", "activities.title", "tags.created_at"] := by
  intro o
  obtain ⟨s, built⟩ : ∃ s, (mk "activities" o [tagsJoin]).rows = .ok s := by
    unfold o
    exact ⟨_, rfl⟩
  obtain ⟨_, iff, text⟩ := columns_qualified_iff built (List.cons_ne_nil _ _)
  have qualifies := iff.mpr ⟨.inr (by decide +kernel), .inl (by decide +kernel)⟩
  have something : ¬o.AsksForNothing := by
    rintro (⟨c, member, equal, _⟩ | ⟨e, member, _⟩)
    · rcases List.mem_pair.mp member with rfl | rfl <;> exact absurd equal (by decide)
    · cases member
  have criteria : s.whereColumns = ["parent.name", "activities.title"] := by
    rw [(whereColumns_of_built built).2 something]
    decide +kernel
  have order : s.orderColumns = ["activities.title", "tags.created_at"] := by
    rw [orderColumns_of_built built (List.cons_ne_nil _ _)]
    decide +kernel
  obtain ⟨tokens, read, words⟩ := text (List.forall_mem_singleton.mpr (by decide))
  refine ⟨List.cons_ne_nil _ _, s, built, qualifies, criteria, order, tokens, read, ?_⟩
  rw [words, criteria, order]
  decide +kernel

/-- A bare column of a criterion stays bare next to the tags, while the order names its table. -/
theorem bare_criterion_not_qualified :
    let o : Options := { Options.default with
      filter := .ofList [("tags.name", .text "card"), ("created_at", .text "2024-01-01")] }
    ∃ s, (mk "activities" o [tagsJoin]).rows = .ok s ∧
      s.statement.text = "SELECT activities.* \nFROM activities LEFT OUTER JOIN tags ON " ++
        "tags.activity_id = activities.id \nWHERE tags.name = $1 AND created_at = $2 " ++
        "ORDER BY activities.created_at DESC \n LIMIT $3 OFFSET $4" ∧
      ¬(mk "activities" o [tagsJoin]).Qualifies s := by
  intro o
  let s : Select := {
    projection := .allOf "activities"
    source := ⟨"activities", [⟨"tags", none, "tags.activity_id = activities.id"⟩]⟩
    criteria := [.single (.compare "tags.name" .eq (.text "card")),
      .single (.compare "created_at" .eq (.text "2024-01-01"))]
    order := [⟨"activities.created_at", true⟩]
    window := some ⟨10, 0⟩ }
  refine ⟨s, by decide +kernel, by decide +kernel, fun qualifies => ?_⟩
  exact absurd (qualifies.dotted "created_at" (by decide +kernel)) (by decide +kernel)

end ListRequest

end ListQuery
