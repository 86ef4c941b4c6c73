import ListQuery.Sql.Quote
import ListQuery.Sql.Select
/-!
The text of a statement and its arguments. A statement is written as pieces of text with arguments
between them. An argument is first written as a mark that names it, `%(param_1)s` for the first;
then every mark that names an argument becomes its numbered placeholder. A mark in the raw text of
a join condition is read like any other. One that names no argument stays as it is, unless the
statement is refused for it.
-/
namespace ListQuery.Sql

inductive Piece where
  | text (s : String)
  | argument (v : Scalar)
  deriving DecidableEq, Repr

def Piece.argument? : Piece → Option Scalar
  | .text _ => none
  | .argument v => some v

def numberChars (number : Nat) : List Char := Nat.toDigits 10 number

/-- The placeholder of the argument with a number. -/
def placeholder (number : Nat) : List Char := '$' :: numberChars number

def argumentName (number : Nat) : List Char := "param_".toList ++ numberChars number

/-- A name as it is marked in the text. -/
def markOf (name : List Char) : List Char := '%' :: '(' :: name ++ [')', 's']

/-- The text of pieces whose first argument has the given number, with marks for arguments. -/
def markedChars (number : Nat) : List Piece → List Char
  | [] => []
  | .text s :: rest => s.toList ++ markedChars number rest
  | .argument _ :: rest => markOf (argumentName number) ++ markedChars (number + 1) rest

/-- The number of the argument with a name, of the given count of arguments. -/
def argumentNumber? (count : Nat) (name : List Char) : Option Nat :=
  let number := (name.drop 6).foldl (fun n c => 10 * n + (c.toNat - '0'.toNat)) 0
  if 1 ≤ number ∧ number ≤ count ∧ name = argumentName number then some number else none

/-- The name in a mark at the front of a text. It goes up to the first closing parenthesis, which an
`s` has to follow. -/
def markAtFront? : List Char → Option (List Char)
  | '%' :: '(' :: s =>
    match s.takeWhile (· != ')'), s.dropWhile (· != ')') with
    | c :: name, ')' :: 's' :: _ => some (c :: name)
    | _, _ => none
  | _ => none

/-- A character of a text, or a name that is marked in it. -/
inductive Fragment where
  | char (c : Char)
  | mark (name : List Char)
  deriving DecidableEq, Repr

/-- The marks of a text and the characters beside them. -/
def fragments : List Char → List Fragment
  | [] => []
  | c :: rest =>
    match markAtFront? (c :: rest) with
    | none => .char c :: fragments rest
    | some name => .mark name :: fragments (rest.drop (name.length + 3))
  termination_by s => s.length
  decreasing_by all_goals simp only [List.length_drop, List.length_cons]; omega

/-- A fragment as it is written, with the placeholder in the place of the mark of an argument. -/
def Fragment.numbered (count : Nat) : Fragment → List Char
  | .char c => [c]
  | .mark name => (argumentNumber? count name).elim (markOf name) placeholder

/-- The name in a mark that names no argument. -/
def Fragment.stray? (count : Nat) : Fragment → Option (List Char)
  | .char _ => none
  | .mark name => if (argumentNumber? count name).isSome then none else some name

/-- Puts placeholders for the marks of arguments. -/
def numberMarks (count : Nat) (s : List Char) : List Char :=
  (fragments s).flatMap (Fragment.numbered count)

/-- The first marked name that is not the name of an argument. -/
def strayMark? (count : Nat) (s : List Char) : Option (List Char) :=
  (fragments s).findSome? (Fragment.stray? count)

/-- What becomes of a mark that names no argument: the text keeps it, or it is refused. -/
inductive StrayMarks where
  | kept
  | refused
  deriving DecidableEq, Repr

/-- The name that a text with a count of arguments is refused for. -/
def StrayMarks.refusal? (strays : StrayMarks) (count : Nat) (s : List Char) : Option String :=
  match strays with
  | .kept => none
  | .refused => (strayMark? count s).map String.ofList

structure Statement where
  text : String
  arguments : List Scalar
  deriving DecidableEq, Repr

def Statement.ofPieces (pieces : List Piece) : Statement :=
  let arguments := pieces.filterMap Piece.argument?
  ⟨String.ofList (numberMarks arguments.length (markedChars 1 pieces)), arguments⟩

example : (Statement.ofPieces [.text "a = ", .argument (.int 5), .text "%(b)s"]).text =
    "a = $1%(b)s" := by decide +kernel

/-- Several groups of pieces with a text between neighbours. -/
def separated (separator : String) (groups : List (List Piece)) : List Piece :=
  [Piece.text separator].intercalate groups

def argumentList (items : List Scalar) : List Piece :=
  separated ", " (items.map fun v => [Piece.argument v])

def Predicate.pieces : Predicate → List Piece
  | .always => [.text "true"]
  | .never => [.text "false"]
  | .compare column op v => [.text (column ++ " " ++ op.sign ++ " "), .argument v]
  | .isNull column => [.text (column ++ " IS NULL")]
  | .isNotNull column => [.text (column ++ " IS NOT NULL")]
  | .oneOf column items => .text (column ++ " IN (") :: argumentList items ++ [.text ")"]
  | .noneOf column items =>
    .text ("(" ++ column ++ " NOT IN (") :: argumentList items ++ [.text "))"]
  | .matching column pattern => [.text (column ++ " ILIKE "), .argument (.text pattern)]

/-- A choice is in parentheses where another criterion stands beside it. -/
def Criterion.pieces (alone : Bool) : Criterion → List Piece
  | .single p => p.pieces
  | .anyOf members =>
    let choice := separated " OR " (members.map Predicate.pieces)
    if alone then choice else .text "(" :: choice ++ [.text ")"]

def conjunctionPieces : List Criterion → List Piece
  | [] => []
  | [c] => .text " \nWHERE " :: c.pieces true
  | criteria => .text " \nWHERE " :: separated " AND " (criteria.map (Criterion.pieces false))

def wherePieces (criteria : List Criterion) : List Piece :=
  conjunctionPieces (Criterion.written criteria)

def Projection.text : Projection → String
  | .allOf table => table ++ ".*"
  | .count => "count(*) AS count_1"
  | .one => "1"

def aliasText : Option String → String
  | some name => " AS " ++ quoteName name
  | none => ""

def JoinedTable.text (j : JoinedTable) : String :=
  " LEFT OUTER JOIN " ++ quoteName j.table ++ aliasText j.asName ++ " ON " ++ j.condition

def Source.text (s : Source) : String :=
  " \nFROM " ++ quoteName s.table ++ String.join (s.joins.map JoinedTable.text)

def OrderTerm.text (t : OrderTerm) : String :=
  t.column ++ if t.descending then " DESC" else " ASC"

def orderPieces (terms : List OrderTerm) : List Piece :=
  if terms.isEmpty then []
  else [.text (" ORDER BY " ++ String.intercalate ", " (terms.map OrderTerm.text))]

def windowPieces : Option Window → List Piece
  | none => []
  | some w =>
    [.text " \n LIMIT ", .argument (.int w.limit), .text " OFFSET ", .argument (.int w.offset)]

namespace Select

/-- What is behind the projection and in front of the order. -/
def bodyPieces (s : Select) : List Piece := .text s.source.text :: wherePieces s.criteria

def pieces (s : Select) : List Piece :=
  .text ("SELECT " ++ s.projection.text) :: s.bodyPieces ++ orderPieces s.order ++
    windowPieces s.window

def statement (s : Select) : Statement := .ofPieces s.pieces

/-- The name that the statement is refused for. -/
def refusal? (strays : StrayMarks) (s : Select) : Option String :=
  strays.refusal? s.statement.arguments.length (markedChars 1 s.pieces)

end Select

end ListQuery.Sql
