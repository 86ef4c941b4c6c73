import ListQuery.Join.Registry
import ListQuery.Listing.Query
import ListQuery.Policy.Check
/-!
Answering a request for a list. The description is checked first; then the rows are counted, and
only then are the rows of the page read. A statement that cannot be written is never run, and
neither is anything behind it.
-/
namespace ListQuery

open Sql

/-- What a database says where it fails. -/
structure DatabaseFault where
  message : String
  deriving DecidableEq, Repr

/-- What a database answers: the number of rows that pass, and the rows of the page. It can fail
with either of them. -/
structure Answers (Row : Type) where
  total : Except DatabaseFault Int
  rows : Except DatabaseFault (List Row)

structure Response (Row : Type) where
  rows : List Row
  details : PageMeta

inductive ResponseFault where
  | rejected (rejection : Rejection)
  | joins (fault : JoinFault)
  | query (fault : QueryFault)
  | database (fault : DatabaseFault)
  | page (fault : PageFault)
  deriving DecidableEq, Repr

/-- What a caller is told in place of a list: a status of HTTP and a text. -/
structure Refusal where
  status : Nat
  detail : String
  deriving DecidableEq, Repr

/-- A rejected description is a bad request. The other faults are not the caller's, and the caller
is told nothing of them. -/
def ResponseFault.refusal? : ResponseFault → Option Refusal
  | .rejected rejection => some ⟨400, rejection.message⟩
  | .joins _ | .query _ | .database _ | .page _ => none

/-- A run against a database: the statements that it was given, and how it ended. -/
structure Run (Row : Type) where
  executed : List Statement
  result : Except ResponseFault (Response Row)

namespace Run

/-- A run that ends before anything is executed. -/
def refused {Row : Type} (fault : ResponseFault) : Run Row := ⟨[], .error fault⟩

end Run

/-- Wraps the rows of a page. -/
def Page.response {Row : Type} (p : Page) (total : Int)
    (answer : Except DatabaseFault (List Row)) : Except ResponseFault (Response Row) := do
  let rows ← answer.mapError .database
  let details ← (p.pageMeta total).mapError .page
  .ok ⟨rows, details⟩

/-- Counts the rows and reads one page of them. -/
def ListRequest.run {Row : Type} (r : ListRequest) (answers : Answers Row) : Run Row :=
  match r.countStatement with
  | .error fault => .refused (.query fault)
  | .ok count =>
    match answers.total with
    | .error fault => ⟨[count], .error (.database fault)⟩
    | .ok total =>
      match r.rowsStatement with
      | .error fault => ⟨[count], .error (.query fault)⟩
      | .ok rows => ⟨[count, rows], r.page.response total answers.rows⟩

/-- Checks a description against a policy, the default one if none is given, and then reads the list
it describes. -/
def respond {Row : Type} (policy : Option Policy) (table : String) (registry : Option Registry)
    (graph : Option Graph) (o : Options) (answers : Answers Row) : Run Row :=
  match (policy.getD .default).rejection? o with
  | some rejection => .refused (.rejected rejection)
  | none =>
    match listJoins table registry graph o with
    | .error fault => .refused (.joins fault)
    | .ok joins => ListRequest.run ⟨table, o, joins⟩ answers

end ListQuery
