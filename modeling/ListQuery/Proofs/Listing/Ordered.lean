import ListQuery.Proofs.Listing.Written
import ListQuery.Proofs.Query.Ordering
import ListQuery.Proofs.Text.Upper
/-!
How the rows of a list are ordered. The columns of the order are those of its clauses as SQL writes
them, one term for each clause. A direction that is given is put in capitals as it is entered and
again as it is read, which comes to the same for the word that sorts downwards.
-/
namespace ListQuery

open Sql Column Text

theorem orderTerm_eq_ok_iff {table column : String} {hasJoins descending : Bool} {t : OrderTerm} :
    orderTerm table column hasJoins descending = .ok t ↔
      t = ⟨resolve (qualify table column hasJoins), descending⟩ ∧
        IsSafe (resolve (qualify table column hasJoins)) := by
  rw [orderTerm, map_eq_ok_iff]
  constructor
  · rintro ⟨name, named, rfl⟩
    obtain ⟨rfl, safe⟩ := safeName_eq_ok_iff.mp named
    exact ⟨rfl, safe⟩
  · rintro ⟨rfl, safe⟩
    exact ⟨_, safeName_eq_ok_iff.mpr ⟨rfl, safe⟩, rfl⟩

theorem qualify_of_single (table column : String) : qualify table column false = column := by
  rw [qualify, Bool.false_and, if_neg Bool.false_ne_true]

theorem isDescending_iff {direction : String} : isDescending direction = true ↔
    upper direction = "DESC" := beq_iff_eq

/-- A direction sorts downwards in capitals exactly when it does as it is given. -/
theorem isDescending_upper (direction : String) :
    isDescending (upper direction) = isDescending direction := by
  have capitals : ∀ c ∈ "DESC".toList, IsCapital c := by
    change ∀ c ∈ ['D', 'E', 'S', 'C'], IsCapital c
    rw [List.forall_mem_cons, List.forall_mem_cons, List.forall_mem_cons,
      List.forall_mem_singleton]
    decide
  rw [Bool.eq_iff_iff, isDescending_iff, isDescending_iff]
  exact upper_upper_eq_iff capitals direction

/-- The term that a clause is written as where nothing is joined. -/
def OrderClause.term (clause : OrderClause) : OrderTerm :=
  ⟨resolve clause.column, isDescending clause.direction⟩

theorem OrderClause.term_entered (call : OrderClause) : call.entered.term = call.term :=
  congrArg (OrderTerm.mk (resolve call.column)) (isDescending_upper call.direction)

/-- Without joins a clause is written as its term. -/
theorem orderTerms_eq_map_term {table fallback : String} {order : List OrderClause}
    {terms : List OrderTerm} (some_clause : order ≠ [])
    (ordered : orderTerms table fallback order false = .ok terms) :
    terms = order.map OrderClause.term := by
  rw [orderTerms, if_neg (mt List.isEmpty_iff.mp some_clause)] at ordered
  refine eq_map_of_mapM ordered fun clause t made => ?_
  obtain ⟨rfl, _⟩ := orderTerm_eq_ok_iff.mp made
  rw [qualify_of_single, resolve_resolve, OrderClause.term]

/-- The text of the rows without joins, with the order behind what decides about the rows. -/
theorem ListRequest.rows_text_eq {table : String} {o : Options} {s : Select}
    (made : (mk table o []).rows = .ok s) :
    s.statement.text = "SELECT " ++ table ++ ".*" ++ s.bodyText ++ orderText s.order ++
      windowText s.nextNumber := by
  have formed := wellFormed_of_built (.inl made)
  have single : ∀ t ∈ s.source.joins, Unmarked t.condition.toList :=
    forall_condition_of_sourceOf (P := fun text => Unmarked text.toList)
      (source_of_built (.inl made)) fun j member => absurd member List.not_mem_nil
  have text := Select.text_eq_body formed single
  obtain ⟨source, criteria, terms, _, _, ordered, rfl⟩ := rows_eq_ok_iff.mp made
  have projection : "SELECT " ++ table ++ ".*" = "SELECT " ++ (Projection.allOf table).text :=
    String.append_assoc
  rw [text, ofList_numberedChars_window (isSafe_orderTerms ordered).1, ← String.append_assoc,
    projection]

/-- Whatever calls a run makes, each column is ordered by its last call, at the place of this call.
The order goes through its map unchanged, and the rows are ordered by the resolved columns of these
calls, downwards exactly where the direction of the call is `DESC` in capitals. -/
theorem OrderRun.rows_ordered_by_last_calls {run : OrderRun} {o : Options}
    (made : run.options = .ok o) :
    o.OrdersLast run.clauses ∧
      ∀ (p : Options) (table : String) (rows : Statement), p.order = o.order → o.order ≠ [] →
        (ListRequest.mk table p []).rowsStatement = .ok rows →
          ∃ s, (ListRequest.mk table p []).rows = .ok s ∧
            s.order = (lastOnColumn run.clauses).map (fun call =>
              ⟨resolve call.column, upper call.direction == "DESC"⟩) ∧
            rows.text = "SELECT " ++ table ++ ".*" ++ s.bodyText ++ orderText s.order ++
              windowText s.nextNumber := by
  have last := ordersLast made
  refine ⟨last, fun p table rows same some_clause built => ?_⟩
  obtain ⟨s, selected, rfl⟩ := map_eq_ok_iff.mp built
  refine ⟨s, selected, ?_, ListRequest.rows_text_eq selected⟩
  obtain ⟨_, _, terms, _, _, ordered, rfl⟩ := ListRequest.rows_eq_ok_iff.mp selected
  rw [orderTerms_eq_map_term (same ▸ some_clause) ordered, same, last.order, List.map_map]
  exact List.map_congr_left fun call _ => call.term_entered

/-- Two columns are ordered again in code, one of them in a direction that is none; the name of the
other direction is given with a long s. -/
def laterCalls : OrderRun where
  source := .pairs [("order[created_at]", "asc"), ("order[user.company.name]", " deſc "),
    ("order[][title]", "desc"), ("order[title]", "asc"), ("order[title]", "desc")]
  calls := [.orderBy "created_at" "Desc", .add "title" "up"]

theorem OrderRun.rows_ordered_by_last_calls_for_later_calls :
    ∃ o p rows body number, laterCalls.options = .ok o ∧
      o.order = [⟨"user.company.name", "DESC"⟩, ⟨"created_at", "DESC"⟩, ⟨"title", "UP"⟩] ∧
      p = { Options.default with order := o.order } ∧
      (ListRequest.mk "activities" p []).rowsStatement = .ok rows ∧
      rows.text = "SELECT activities.*" ++ body ++
        " ORDER BY company.name DESC, created_at DESC, title ASC" ++ windowText number := by
  obtain ⟨o, made⟩ : ∃ o, laterCalls.options = .ok o := ⟨_, rfl⟩
  obtain ⟨last, ordered⟩ := rows_ordered_by_last_calls made
  have calls : lastOnColumn laterCalls.clauses = [⟨"user.company.name", "deſc"⟩,
      ⟨"created_at", "Desc"⟩, ⟨"title", "up"⟩] := by decide +kernel
  have order : o.order =
      [⟨"user.company.name", "DESC"⟩, ⟨"created_at", "DESC"⟩, ⟨"title", "UP"⟩] := by
    rw [last.order, calls]
    decide +kernel
  let p : Options := { Options.default with order := o.order }
  obtain ⟨rows, built⟩ : ∃ rows, (ListRequest.mk "activities" p []).rowsStatement = .ok rows := by
    unfold p
    rw [order]
    exact ⟨_, rfl⟩
  obtain ⟨s, _, terms, text⟩ := ordered p "activities" rows rfl (by rw [order]; nofun) built
  have written : orderText s.order =
      " ORDER BY company.name DESC, created_at DESC, title ASC" := by
    rw [terms, calls]
    decide +kernel
  exact ⟨o, p, rows, s.bodyText, s.nextNumber, made, order, rfl, built, written ▸ text⟩

end ListQuery
