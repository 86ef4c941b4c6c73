import ListQuery.Join.Basic
import ListQuery.Query.Draft
/-!
Joins of unchecked parts. Table and condition must be texts; an alias may be left out.
-/
namespace ListQuery

def Value.optionalText? : Value → Option (Option String)
  | .null => some none
  | v => v.text?.map some

def Join.ofParts (table condition givenAlias : Value) : Except FieldFault Join :=
  match table.text?, condition.text?, givenAlias.optionalText? with
  | some table, some condition, some givenAlias => .ok ⟨table, condition, givenAlias⟩
  | t, c, a =>
    .error ⟨faultyFields [("alias", a.isSome), ("condition", c.isSome), ("table", t.isSome)]⟩

end ListQuery
