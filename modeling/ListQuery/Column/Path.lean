/-!
Dotted column references. Everything before the last dot is the path of relationships to follow;
in SQL a reference keeps at most its last two segments, which name a joined table and its column.
-/
namespace ListQuery.Column

def segments (column : String) : List String :=
  (column.toList.splitOn '.').map String.ofList

def joinSegments (parts : List String) : String := String.intercalate "." parts

def isDotted (column : String) : Bool := column.toList.contains '.'

/-- The reference as SQL writes it. -/
def resolve (column : String) : String :=
  let parts := segments column
  if 3 ≤ parts.length then joinSegments (parts.drop (parts.length - 2)) else column

/-- The path of relationships; empty for a bare column. -/
def path (column : String) : String := joinSegments (segments column).dropLast

/-- The first segment of a dotted reference. -/
def head? (column : String) : Option String :=
  if isDotted column then (segments column).head? else none

example : resolve "tags.parent.name" = "parent.name" ∧ resolve "tags.name" = "tags.name" := by
  decide +kernel
example : path "user.company.name" = "user.company" ∧ path "created_at" = "" := by decide +kernel

end ListQuery.Column
