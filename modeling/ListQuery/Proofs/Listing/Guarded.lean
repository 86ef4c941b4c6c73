import ListQuery.Listing.Respond
import ListQuery.Proofs.Listing.Pages
import ListQuery.Proofs.Policy.Accepted
import ListQuery.Query.Params
import ListQuery.Query.Preset
/-!
What a request puts to a database. A description that a policy rejects gets no further than the
check. An accepted one has its rows counted first and read afterwards, and its page is the one that
was asked for: the bounds of the policy leave nothing for the defaults of a page to replace.
-/
namespace ListQuery

open Sql

variable {Row : Type}

theorem Page.response_eq_ok_iff {p : Page} {total : Int} {answer : Except DatabaseFault (List Row)}
    {response : Response Row} : p.response total answer = .ok response ↔
      answer = .ok response.rows ∧ p.pageMeta total = .ok response.details := by
  constructor
  · intro h
    obtain ⟨rows, found, h⟩ := bind_eq_ok_iff.mp h
    obtain ⟨details, told, same⟩ := bind_eq_ok_iff.mp h
    cases same
    exact ⟨mapError_eq_ok_iff.mp found, mapError_eq_ok_iff.mp told⟩
  · rintro ⟨found, told⟩
    exact bind_eq_ok_iff.mpr ⟨response.rows, mapError_eq_ok_iff.mpr found,
      bind_eq_ok_iff.mpr ⟨response.details, mapError_eq_ok_iff.mpr told, rfl⟩⟩

/-- An accepted description is about the page that it names. -/
theorem Policy.Accepts.page_eq {p : Policy} {r : ListRequest} (accepted : p.Accepts r.options) :
    r.page.number = r.options.page ∧ r.page.size = r.options.limit :=
  ⟨if_pos accepted.bounds.1, if_pos accepted.bounds.2.1⟩

/-- How a list that a policy accepts is read: which statements the database is given, in which
order, and what comes back. -/
structure Run.Guarded (run : Run Row) (p : Policy) (r : ListRequest) (answers : Answers Row) :
    Prop where
  uncountable : ∀ fault, r.countStatement = .error fault →
    run.executed = [] ∧ run.result = .error (.query fault)
  uncounted : ∀ count fault, r.countStatement = .ok count → answers.total = .error fault →
    run.executed = [count] ∧ run.result = .error (.database fault)
  unreadable : ∀ count total fault, r.countStatement = .ok count → answers.total = .ok total →
    r.rowsStatement = .error fault → run.executed = [count] ∧ run.result = .error (.query fault)
  readable : ∀ count total rows, r.countStatement = .ok count → answers.total = .ok total →
    r.rowsStatement = .ok rows → run.executed = [count, rows]
  /-- The window that the rows are read from is the one that was asked for. -/
  window : ∀ rows, r.rowsStatement = .ok rows → ∃ count, r.countStatement = .ok count ∧
    rows.arguments = count.arguments ++
      [.int r.options.limit, .int ((r.options.page - 1) * r.options.limit)]
  bounds : 1 ≤ r.options.page ∧ 1 ≤ r.options.limit ∧ r.options.limit ≤ p.maxPageSize
  answered : ∀ response, run.result = .ok response ↔ ∃ count total rows,
    r.countStatement = .ok count ∧ answers.total = .ok total ∧ r.rowsStatement = .ok rows ∧
      answers.rows = .ok response.rows ∧
      (Page.of r.options.page r.options.limit).pageMeta total = .ok response.details

namespace ListRequest

variable {r : ListRequest} {answers : Answers Row}

theorem run_result_eq_ok_iff {response : Response Row} : (r.run answers).result = .ok response ↔
    ∃ count total rows, r.countStatement = .ok count ∧ answers.total = .ok total ∧
      r.rowsStatement = .ok rows ∧ answers.rows = .ok response.rows ∧
      r.page.pageMeta total = .ok response.details := by
  rw [run]
  cases r.countStatement with
  | error fault => exact ⟨nofun, fun ⟨_, _, _, h, _⟩ => nomatch h⟩
  | ok count =>
    cases answers.total with
    | error fault => exact ⟨nofun, fun ⟨_, _, _, _, h, _⟩ => nomatch h⟩
    | ok total =>
      cases r.rowsStatement with
      | error fault => exact ⟨nofun, fun ⟨_, _, _, _, _, h, _⟩ => nomatch h⟩
      | ok rows =>
        constructor
        · intro h
          exact ⟨count, total, rows, rfl, rfl, rfl, Page.response_eq_ok_iff.mp h⟩
        · rintro ⟨_, _, _, _, same, _, found, told⟩
          cases same
          exact Page.response_eq_ok_iff.mpr ⟨found, told⟩

theorem guarded_run {p : Policy} (accepted : p.Accepts r.options) (answers : Answers Row) :
    (r.run answers).Guarded p r answers where
  uncountable fault blocked := by
    rw [run, blocked]
    exact ⟨rfl, rfl⟩
  uncounted count fault counts failed := by
    rw [run, counts, failed]
    exact ⟨rfl, rfl⟩
  unreadable count total fault counts counted blocked := by
    rw [run, counts, counted, blocked]
    exact ⟨rfl, rfl⟩
  readable count total rows counts counted reads := by
    rw [run, counts, counted, reads]
  window rows reads := by
    obtain ⟨count, counts, arguments⟩ := exists_count_of_rows reads
    obtain ⟨number, size⟩ := accepted.page_eq
    rw [Page.offset, number, size] at arguments
    exact ⟨count, counts, arguments⟩
  bounds := accepted.bounds
  answered _ := run_result_eq_ok_iff

end ListRequest

/-- Whatever is asked for and whatever the database answers: a rejected description is a bad request
with the text of the rejection, and nothing is put to the database; an accepted one is read as its
policy allows, unless its joins cannot be written. -/
theorem executed_only_if_accepted (given : Option Policy) (table : String)
    (registry : Option Registry) (graph : Option Graph) (o : Options) (conditions : List Condition)
    (answers : Answers Row) :
    let p := given.getD .default
    let wanted := o.addConditions conditions
    let run := respond given table registry graph wanted answers
    (∀ rejection, p.rejection? wanted = some rejection → run.executed = [] ∧
      ∃ fault, run.result = .error fault ∧ fault.refusal? = some ⟨400, rejection.message⟩) ∧
    (p.rejection? wanted = none →
      (∀ fault, listJoins table registry graph wanted = .error fault →
        run.executed = [] ∧ run.result = .error (.joins fault)) ∧
      ∀ joins, listJoins table registry graph wanted = .ok joins →
        run.Guarded p ⟨table, wanted, joins⟩ answers) := by
  intro p wanted run
  refine ⟨fun rejection rejected => ?_, fun accepted => ⟨fun fault blocked => ?_,
    fun joins found => ?_⟩⟩
  · have refused : run = .refused (.rejected rejection) := by
      simp only [run, respond, p, rejected]
    rw [refused]
    exact ⟨rfl, _, rfl, rfl⟩
  · have refused : run = .refused (.joins fault) := by
      simp only [run, respond, p, accepted, blocked]
    rw [refused]
    exact ⟨rfl, rfl⟩
  · have reads : run = ListRequest.run ⟨table, wanted, joins⟩ answers := by
      simp only [run, respond, p, accepted, found]
    have rules : p.Accepts wanted := Policy.rejection?_eq_none_iff.mp accepted
    rw [reads]
    exact ListRequest.guarded_run rules answers

theorem executed_only_if_accepted_for_second_page :
    let p : Policy := { Policy.closed with filterColumns := ["user_id"], requireScope := true }
    let answers : Answers Nat := ⟨.ok 45, .ok [21, 22]⟩
    ∃ o owned, Options.ofParams [("page", "2"), ("limit", "20")] = .ok o ∧
      Preset.ownedBy (.int 7) (.text Preset.ownerColumn) = .ok owned ∧
      p.rejection? (o.addConditions owned) = none ∧
      listJoins "activities" none none (o.addConditions owned) = .ok [] ∧
      (respond (some p) "activities" none none (o.addConditions owned) answers).Guarded p
        ⟨"activities", o.addConditions owned, []⟩ answers := by
  intro p answers
  obtain ⟨o, parsed⟩ : ∃ o, Options.ofParams [("page", "2"), ("limit", "20")] = .ok o := ⟨_, rfl⟩
  let owned : List Condition := [⟨Preset.ownerColumn, Operator.eq.name, .int 7⟩]
  have accepted : p.rejection? (o.addConditions owned) = none := by
    cases parsed
    decide +kernel
  have found : listJoins "activities" none none (o.addConditions owned) = .ok [] := rfl
  obtain ⟨_, guarded⟩ := executed_only_if_accepted (some p) "activities" none none o owned answers
  exact ⟨o, owned, parsed, rfl, accepted, found, (guarded accepted).2 [] found⟩

end ListQuery
