import ListQuery.Number.Shortest
import ListQuery.Number.Whole
import ListQuery.Time.Iso
import ListQuery.Value.Basic
/-!
Values written into SQL text. A text stands in single quotes, and a quote inside it is doubled; a
list or an object has no written form.
-/
namespace ListQuery.Sql

open Number

def quoteChar : Char := '\x27'

def doubleQuotes (s : List Char) : List Char :=
  s.flatMap fun c => if c = quoteChar then [quoteChar, quoteChar] else [c]

def textLiteral (s : String) : String :=
  String.ofList (quoteChar :: doubleQuotes s.toList ++ [quoteChar])

inductive LiteralFault where
  | noLiteral
  | whole (fault : WholeFault)
  deriving DecidableEq, Repr

def scalarLiteral : Scalar → Except LiteralFault String
  | .bool b => .ok (if b then "true" else "false")
  | .int n => (writeWhole n).mapError .whole
  | .float x => .ok x.text
  | .text s => .ok (textLiteral s)

def valueLiteral : Value → Except LiteralFault String
  | .null => .ok "NULL"
  | .scalar s => scalarLiteral s
  | .date d => .ok (textLiteral d.iso)
  | .moment t => .ok (textLiteral (t.written " "))
  | .list _ | .object _ => .error .noLiteral

example : textLiteral "it's" = "'it''s'" := by decide +kernel

end ListQuery.Sql
