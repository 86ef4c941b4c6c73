import ListQuery.Query.Operator
import ListQuery.Value.Basic
/-!
Conditions on rows as SQL knows them: comparisons of one column, and how they are put together. A
row passes when all criteria hold; a criterion is one predicate or a choice between several.
-/
namespace ListQuery.Sql

inductive Predicate where
  | always
  | never
  | compare (column : String) (op : Operator) (argument : Scalar)
  | isNull (column : String)
  | isNotNull (column : String)
  | oneOf (column : String) (items : List Scalar)
  | noneOf (column : String) (items : List Scalar)
  | matching (column : String) (pattern : String)
  deriving DecidableEq, Repr

inductive Criterion where
  | single (p : Predicate)
  | anyOf (members : List Predicate)
  deriving DecidableEq, Repr

namespace Predicate

/-- A choice of items; a choice of none never holds. -/
def within (column : String) (items : List Scalar) : Predicate :=
  if items.isEmpty then .never else .oneOf column items

/-- The opposite choice; nothing is left out by a choice of none. -/
def without (column : String) (items : List Scalar) : Predicate :=
  if items.isEmpty then .always else .noneOf column items

end Predicate

namespace Criterion

/-- The members of a choice that can hold; a choice that cannot hold at all is one of `never`. -/
def possible (members : List Predicate) : List Predicate :=
  match members.filter (· ≠ .never) with
  | [] => [.never]
  | kept => kept

/-- A choice without the members that cannot hold; a choice of one is that one. -/
def reduced : Criterion → Criterion
  | .single p => .single p
  | .anyOf members =>
    match possible members with
    | [p] => .single p
    | kept => .anyOf kept

/-- A predicate that never holds stands for all criteria; one that always holds is left out unless
there is no other. -/
def simplify (criteria : List Criterion) : List Criterion :=
  if criteria.contains (.single .never) then [.single .never]
  else
    match criteria.filter (· ≠ .single .always) with
    | [] => if criteria.isEmpty then [] else [.single .always]
    | kept => kept

/-- The criteria that are written down. A choice that cannot hold does not stand for the others. -/
def written (criteria : List Criterion) : List Criterion := (simplify criteria).map reduced

end Criterion

end ListQuery.Sql
