/-!
Keys of request parameters. A key is a name followed by groups in brackets, such as
`filter[created_at][gte]`; its levels are the name and the contents of the groups. The groups stop
where no bracket follows, and what stands behind them is ignored. A key whose groups stop at an open
bracket has no levels.
-/
namespace ListQuery

/-- Contents of consecutive bracket groups, with the group that is open, if any, held backwards.
None when a bracket stays open. -/
def groupsFrom? : Option (List Char) → List Char → Option (List (List Char))
  | none, '[' :: rest => groupsFrom? (some []) rest
  | none, _ => some []
  | some content, ']' :: rest => (groupsFrom? none rest).map (content.reverse :: ·)
  | some content, c :: rest => groupsFrom? (some (c :: content)) rest
  | some _, [] => none

def keyLevels (key : String) : List String :=
  match key.toList.dropWhile (· != '[') with
  | [] => [key]
  | grouped =>
    match groupsFrom? none grouped with
    | none => []
    | some groups =>
      ((key.toList.takeWhile (· != '[') :: groups).filter fun level => !level.isEmpty).map
        String.ofList

/-- What a parameter sets. -/
inductive Target where
  | page
  | limit
  | condition (column operator : String)
  | filterOr (column : String)
  | search (column : String)
  | order (column : String)
  deriving DecidableEq, Repr

def Target.ofLevels? : List String → Option Target
  | [name, column, operator] => if name = "filter" then some (.condition column operator) else none
  | [name, column] =>
    if name = "filter" then some (.condition column "eq")
    else if name = "filterOr" then some (.filterOr column)
    else if name = "search" then some (.search column)
    else if name = "order" then some (.order column)
    else none
  | _ => none

def Target.ofKey? (key : String) : Option Target :=
  if key = "page" then some .page
  else if key = "limit" then some .limit
  else Target.ofLevels? (keyLevels key)

example : keyLevels "filter[created_at][gte]" = ["filter", "created_at", "gte"] := by
  decide +kernel
example : keyLevels "filter[status" = [] ∧ keyLevels "a[][b]c[d]" = ["a", "b"] := by decide +kernel

end ListQuery
