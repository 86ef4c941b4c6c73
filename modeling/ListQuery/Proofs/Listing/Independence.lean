import ListQuery.Join.ActivityLog
import ListQuery.Proofs.Join.Agreement
import ListQuery.Proofs.Listing.Buildable
import ListQuery.Proofs.SideBySide
import ListQuery.Proofs.Sql.Shape
/-!
Statements do not depend on the values of a description. Two descriptions of the same shape have
statements with the same text, or both have none for the same reason; their values are nowhere but
among the arguments.
-/
namespace ListQuery

open Sql Number

/-- Both null, both scalars, or lists of the same length. -/
def Value.SameShape : Value → Value → Prop
  | .null, .null => True
  | .scalar _, .scalar _ => True
  | .list items, .list others => items.length = others.length
  | _, _ => False

structure Condition.SameShape (c d : Condition) : Prop where
  column : c.column = d.column
  operator : c.operator = d.operator
  value : c.value.SameShape d.value

/-- The same column with values of the same shape. -/
structure EntryShape (e f : String × Value) : Prop where
  column : e.1 = f.1
  value : e.2.SameShape f.2

/-- The same columns, operators and directions in the same order, and values of the same shape. The
pages may differ. -/
structure Options.SameShape (o u : Options) : Prop where
  filter : List.Forall₂ EntryShape o.filter.entries u.filter.entries
  conditions : List.Forall₂ Condition.SameShape o.conditions u.conditions
  filterOr : List.Forall₂ EntryShape o.filterOr.entries u.filterOr.entries
  search : List.Forall₂ EntryShape o.search.entries u.search.entries
  order : o.order = u.order

section
variable {c d : Condition} {v w : Value}

theorem length_arguments {items : List Value} {arguments : List Scalar}
    (h : Value.arguments items = .ok arguments) : arguments.length = items.length :=
  (mapM_eq_ok_iff.mp h).length_eq.symm

theorem alike_comparison (typed : c.value.IsTyped) (typed' : d.value.IsTyped)
    (same : c.SameShape d) (name : String) (op : Operator) :
    Alike Predicate.Like (comparison name op c) (comparison name op d) := by
  obtain ⟨column, operator, v⟩ := c
  obtain ⟨column', operator', w⟩ := d
  obtain ⟨rfl, rfl, shape⟩ := same
  cases v with
  | null =>
    cases w with
    | null => exact Alike.refl Predicate.Like.refl _
    | _ => exact shape.elim
  | scalar s =>
    cases w with
    | scalar t => exact Predicate.Like.compare name op s t
    | _ => exact shape.elim
  | list items =>
    cases w with
    | list others =>
      obtain ⟨arguments, read⟩ := Value.exists_arguments typed
      obtain ⟨arguments', read'⟩ := Value.exists_arguments typed'
      have length : arguments.length = arguments'.length :=
        (length_arguments read).trans (shape.trans (length_arguments read').symm)
      cases op with
      | eq =>
        simp only [comparison, read, read']
        exact Predicate.like_within name length
      | ne =>
        simp only [comparison, read, read']
        exact Predicate.like_without name length
      | gt | gte | lt | lte => exact rfl
    | _ => exact shape.elim
  | object _ | date _ | moment _ => cases typed

theorem alike_predicate (typed : c.value.IsTyped) (typed' : d.value.IsTyped)
    (same : c.SameShape d) : Alike Predicate.Like c.predicate d.predicate := by
  rw [Condition.predicate, Condition.predicate, same.operator, same.column]
  cases Operator.ofName? d.operator with
  | none => exact rfl
  | some op => exact .bind_same _ fun name => alike_comparison typed typed' same name op

theorem alike_equality (typed : v.IsTyped) (typed' : w.IsTyped) (same : v.SameShape w)
    (column : String) : Alike Predicate.Like (equality column v) (equality column w) := by
  rw [equality_eq_comparison, equality_eq_comparison]
  refine .bind_same _ fun name => ?_
  exact alike_comparison (c := ⟨column, _, v⟩) (d := ⟨column, _, w⟩) typed typed' ⟨rfl, rfl, same⟩
    name .eq

/-- Whatever is searched for, it becomes one argument. -/
theorem alike_searchPredicate (typed : v.IsTyped) (typed' : w.IsTyped) (column : String) :
    Alike Predicate.Like (searchPredicate column v) (searchPredicate column w) := by
  obtain ⟨sought, found⟩ := Value.exists_searchText typed
  obtain ⟨sought', found'⟩ := Value.exists_searchText typed'
  have opens {term : Value} {text : String} (h : searchText term = .ok text) :
      searchPredicate column term = (sqlColumn column >>= fun name =>
        .ok (.matching name (Text.containsPattern text))) := by
    rw [searchPredicate, h]
    rfl
  rw [opens found, opens found']
  exact .bind_same _ fun name => Predicate.Like.matching name _ _

end

namespace Options

theorem alike_choice {predicate : String → Value → Except QueryFault Predicate}
    {m n : OrderedMap Value} (same : List.Forall₂ EntryShape m.entries n.entries)
    (each : ∀ e ∈ m.entries, ∀ f ∈ n.entries, EntryShape e f →
      Alike Predicate.Like (predicate e.1 e.2) (predicate f.1 f.2)) :
    Alike (List.Forall₂ Criterion.Like) (choice predicate m) (choice predicate n) := by
  have empty : m.isEmpty = n.isEmpty := isEmpty_eq_of_forall₂ same
  rw [choice, choice, empty]
  split
  · exact List.Forall₂.nil
  · exact (Alike.mapM same each).map fun _ _ members => .cons (.anyOf members) .nil

variable {o u : Options} (typed : o.IsTyped) (typed' : u.IsTyped) (same : o.SameShape u)
include typed typed' same

theorem alike_criteria : Alike (List.Forall₂ Criterion.Like) o.criteria u.criteria := by
  have conditions : Alike (List.Forall₂ Criterion.Like) o.conditionCriteria u.conditionCriteria :=
    Alike.mapM same.conditions fun c member d member' shape =>
      (alike_predicate (typed.conditions c member) (typed'.conditions d member') shape).map
        fun _ _ like => .single like
  have filters : Alike (List.Forall₂ Criterion.Like) o.filterCriteria u.filterCriteria := by
    refine Alike.mapM same.filter fun e member f member' shape => ?_
    rw [shape.column]
    exact (alike_equality (typed.filter e member) (typed'.filter f member') shape.value f.1).map
      fun _ _ like => .single like
  have alternatives :
      Alike (List.Forall₂ Criterion.Like) o.filterOrCriteria u.filterOrCriteria := by
    refine alike_choice same.filterOr fun e member f member' shape => ?_
    rw [shape.column]
    exact alike_equality (typed.filterOr e member) (typed'.filterOr f member') shape.value f.1
  have terms : Alike (List.Forall₂ Criterion.Like) o.searchCriteria u.searchCriteria := by
    refine alike_choice same.search fun e member f member' shape => ?_
    rw [shape.column]
    exact alike_searchPredicate (typed.search e member) (typed'.search f member') f.1
  refine conditions.bind fun _ _ first => filters.bind fun _ _ second => ?_
  refine alternatives.bind fun _ _ third => terms.bind fun _ _ fourth => ?_
  exact List.rel_append (List.rel_append (List.rel_append first second) third) fourth

omit typed typed' in
theorem SameShape.columns : o.columns = u.columns := by
  have keys {m n : OrderedMap Value} (shape : List.Forall₂ EntryShape m.entries n.entries) :
      m.keys = n.keys :=
    List.forall₂_eq_eq_eq ▸ List.rel_map (fun _ _ entry => entry.column) shape
  have conditions : o.conditions.map (·.column) = u.conditions.map (·.column) :=
    List.forall₂_eq_eq_eq ▸ List.rel_map (fun _ _ shape => shape.column) same.conditions
  rw [Options.columns, Options.columns, keys same.filter, keys same.filterOr, keys same.search,
    conditions, same.order]

end Options

namespace ListRequest

/-- Both have statements with the same text, or neither has one, for the same reason. -/
structure SameText (r q : ListRequest) : Prop where
  rows : Alike Statement.SameText r.rowsStatement q.rowsStatement
  count : Alike Statement.SameText r.countStatement q.countStatement

/-- A list with the joins that its registry, or else a graph, has for its columns. -/
def joined (table : String) (registry : Option Registry) (graph : Option Graph) (o : Options) :
    Except JoinFault ListRequest :=
  (listJoins table registry graph o).map fun joins => ⟨table, o, joins⟩

section
variable {o u : Options} (typed : o.IsTyped) (typed' : u.IsTyped) (same : o.SameShape u)
  (table : String) (joins : List Join)
include typed typed' same

theorem alike_matching (projection : Projection) :
    Alike Select.Like ((mk table o joins).matching projection)
      ((mk table u joins).matching projection) := by
  refine .bind_same _ fun source => ?_
  refine (Options.alike_criteria typed typed' same).bind fun cs ds like => ?_
  exact ⟨rfl, rfl, like, rfl, rfl⟩

theorem alike_rows : Alike Select.Like (mk table o joins).rows (mk table u joins).rows := by
  refine (alike_matching typed typed' same table joins _).bind fun s t like => ?_
  rw [same.order]
  refine .bind_same _ fun terms => ?_
  exact ⟨like.projection, like.source, like.criteria, congrArg (· ++ terms) like.order, rfl⟩

theorem sameText : (mk table o joins).SameText (mk table u joins) where
  rows := (alike_rows typed typed' same table joins).map fun _ _ like => like.sameText
  count := (alike_matching typed typed' same table joins _).map fun _ _ like => like.sameText

end

/-- Descriptions of the same shape have statements with the same text, for any joins; and where the
joins come from registries, if they agree on the columns that select tables. -/
theorem text_independent_of_values {o u : Options} (typed : o.IsTyped) (typed' : u.IsTyped)
    (same : o.SameShape u) (table : String) :
    (∀ joins, (mk table o joins).SameText (mk table u joins)) ∧
      ∀ registry graph,
        (∀ column ∈ typeColumns registry graph, o.filter.get? column = u.filter.get? column) →
          Alike SameText (joined table registry graph o) (joined table registry graph u) := by
  constructor
  · exact sameText typed typed' same table
  · intro registry graph agree
    rw [joined, joined, listJoins_congr table same.columns agree]
    refine (Alike.refl (R := Eq) (fun _ => rfl) _).map fun joins joins' equal => ?_
    rw [equal]
    exact sameText typed typed' same table joins'

theorem text_independent_of_values_for_comments :
    let o : Options := { Options.default with
      filter := ⟨[("commentable_type", .text "Activity"), ("commentable.title", .text "Run")],
        by decide⟩
      conditions := [⟨"author_id", "ne", .texts ["1", "2"]⟩]
      search := ⟨[("body", .int 7)], by decide⟩ }
    let u : Options := { Options.default with
      page := 3
      filter := ⟨[("commentable_type", .text "Activity"), ("commentable.title", .bool true)],
        by decide⟩
      conditions := [⟨"author_id", "ne", .texts ["x') OR (1=1", "$9"]⟩]
      search := ⟨[("body", .text "100%'; --")], by decide⟩ }
    let registry := some ActivityLog.comments
    let graph := some ActivityLog.graph
    o.IsTyped ∧ u.IsTyped ∧ o.SameShape u ∧
      (∀ column ∈ typeColumns registry graph, o.filter.get? column = u.filter.get? column) ∧
      (∀ joins, (mk "comments" o joins).SameText (mk "comments" u joins)) ∧
      Alike SameText (joined "comments" registry graph o) (joined "comments" registry graph u) := by
  intro o u registry graph
  have texts (items : List String) : (Value.texts items).IsTyped := ⟨items, rfl⟩
  have seven : (Value.int 7).IsTyped :=
    Nat.lt_of_lt_of_le (by decide : 7 < tenTo 1) (tenTo_le_tenTo (by decide))
  have typed : o.IsTyped := by
    refine ⟨?_, ?_, ?_, ?_⟩
    · exact List.forall_mem_cons.mpr ⟨trivial, List.forall_mem_singleton.mpr trivial⟩
    · exact List.forall_mem_singleton.mpr (texts _)
    · exact fun _ member => absurd member List.not_mem_nil
    · exact List.forall_mem_singleton.mpr seven
  have typed' : u.IsTyped := by
    refine ⟨?_, ?_, ?_, ?_⟩
    · exact List.forall_mem_cons.mpr ⟨trivial, List.forall_mem_singleton.mpr trivial⟩
    · exact List.forall_mem_singleton.mpr (texts _)
    · exact fun _ member => absurd member List.not_mem_nil
    · exact List.forall_mem_singleton.mpr trivial
  have same : o.SameShape u := by
    refine ⟨?_, ?_, .nil, ?_, rfl⟩
    · exact .cons ⟨rfl, trivial⟩ (.cons ⟨rfl, trivial⟩ .nil)
    · exact .cons ⟨rfl, rfl, rfl⟩ .nil
    · exact .cons ⟨rfl, trivial⟩ .nil
  have agree : ∀ column ∈ typeColumns registry graph,
      o.filter.get? column = u.filter.get? column := by
    have selecting : ∀ column ∈ typeColumns registry graph, column = "commentable_type" := by decide
    intro column member
    rw [selecting column member]
    rfl
  obtain ⟨given, generated⟩ := text_independent_of_values typed typed' same "comments"
  exact ⟨typed, typed', same, agree, given, generated registry graph agree⟩

end ListRequest

end ListQuery
