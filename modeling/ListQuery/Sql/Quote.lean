import ListQuery.Text.Case
/-!
Names of tables in SQL text. A name stands in double quotes unless it is made of lower-case
letters, digits, underscores and dollar signs, starts with no digit and no dollar sign, and is no
reserved word.
-/
namespace ListQuery.Sql

def reservedWords : List String :=
  ["all", "analyse", "analyze", "and", "any", "array", "as", "asc", "asymmetric", "authorization",
   "between", "binary", "both", "case", "cast", "check", "collate", "column", "constraint",
   "create", "cross", "current_catalog", "current_date", "current_role", "current_schema",
   "current_time", "current_timestamp", "current_user", "default", "deferrable", "desc",
   "distinct", "do", "else", "end", "except", "false", "fetch", "for", "foreign", "freeze", "from",
   "full", "grant", "group", "having", "ilike", "in", "initially", "inner", "intersect", "into",
   "is", "isnull", "join", "leading", "left", "like", "limit", "localtime", "localtimestamp",
   "natural", "new", "not", "notnull", "null", "of", "off", "offset", "old", "on", "only", "or",
   "order", "outer", "over", "overlaps", "placing", "primary", "references", "returning", "right",
   "select", "session_user", "similar", "some", "symmetric", "table", "then", "to", "trailing",
   "true", "union", "unique", "user", "using", "variadic", "verbose", "when", "where", "window",
   "with"]

def isPlainChar (c : Char) : Bool := c.isLower || c.isDigit || c == '_' || c == '$'

def startsPlain : List Char → Bool
  | [] => false
  | c :: _ => !(c.isDigit || c == '$')

/-- Whether a name can be written without quotes. -/
def isPlainName (name : String) : Bool :=
  startsPlain name.toList && name.toList.all isPlainChar && !reservedWords.contains name

/-- A name in double quotes, a quote inside it doubled. -/
def quotedName (name : String) : String :=
  String.ofList ('"' :: name.toList.flatMap (fun c => if c = '"' then ['"', '"'] else [c]) ++ ['"'])

def quoteName (name : String) : String := if isPlainName name then name else quotedName name

example : quoteName "activities" = "activities" ∧ quoteName "user" = "\"user\"" := by
  decide +kernel

end ListQuery.Sql
