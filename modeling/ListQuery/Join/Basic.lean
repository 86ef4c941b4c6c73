import ListQuery.Text.Blank
import ListQuery.Text.Case
/-!
Joins as they are written in a configuration. The table text may carry an alias of its own, as in
`comments AS parent_comments` or `activity_tags at`; a joined table is known by its alias if it has
one that is not empty, and by its name otherwise.
-/
namespace ListQuery

open Text

structure Join where
  table : String
  condition : String
  givenAlias : Option String
  deriving DecidableEq, Repr

namespace Join

def tableWords (j : Join) : List String := (words j.table.toList).map String.ofList

/-- The name of the table; a blank text names none. -/
def tableName? (j : Join) : Option String := j.tableWords.head?

def tableAlias (j : Join) : Option String :=
  match j.tableWords with
  | [_, mark, name] => if upper mark = "AS" then some name else j.givenAlias
  | [_, name] => some name
  | _ => j.givenAlias

/-- The alias, when there is one to write. -/
def writtenAlias (j : Join) : Option String := j.tableAlias.filter fun name => !name.isEmpty

/-- The name that the rest of a query uses for the joined table. -/
def key? (j : Join) : Option String := j.writtenAlias <|> j.tableName?

example : (⟨"comments AS parent", "", none⟩ : Join).key? = some "parent" := by decide +kernel
example : (⟨" ", "", none⟩ : Join).key? = none := by decide +kernel

end Join

end ListQuery
