/-!
Patterns of `LIKE`. A percent sign stands for any text and an underscore for any one character; a
backslash takes the special meaning from the character behind it.
-/
namespace ListQuery.Text

/-- Puts a backslash in front of every occurrence of one character. -/
def escapeEach (special : Char) (s : List Char) : List Char :=
  s.flatMap fun c => if c = special then ['\\', c] else [c]

/-- The backslash comes first, or the backslashes of the other two would be escaped again. -/
def escapeLikeChars (s : List Char) : List Char :=
  escapeEach '_' (escapeEach '%' (escapeEach '\\' s))

def escapeLike (term : String) : String := String.ofList (escapeLikeChars term.toList)

/-- The pattern of the texts that contain a term. -/
def containsPattern (term : String) : String := "%" ++ escapeLike term ++ "%"

example : containsPattern "100%_done" = "%100\\%\\_done%" := by decide +kernel

end ListQuery.Text
