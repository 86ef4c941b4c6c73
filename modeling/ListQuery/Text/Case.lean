import ListQuery.Text.CaseTable
/-!
Upper and lower case of whole texts by the full mappings of Unicode: one character may become
several, and a capital sigma at the end of a word becomes the final small sigma.
-/
namespace ListQuery.Text

def mapCase (runs : List CaseRun) (expansions : List (Nat × List Nat)) (c : Char) : List Char :=
  match expansions.find? (·.1 == c.toNat) with
  | some e => e.2.map Char.ofNat
  | none =>
    match runs.find? (·.covers c.toNat) with
    | some r => [Char.ofNat (c.toNat + r.shift).toNat]
    | none => [c]

def upperChar (c : Char) : List Char := mapCase upperRuns upperExpansions c

def lowerChar (c : Char) : List Char := mapCase lowerRuns lowerExpansions c

def upperChars (s : List Char) : List Char := s.flatMap upperChar

def isCased (c : Char) : Bool := inRanges casedRanges c.toNat

def isCaseIgnorable (c : Char) : Bool := inRanges caseIgnorableRanges c.toNat

/-- Whether the first character that counts is a letter with case. -/
def startsCased (s : List Char) : Bool :=
  match s.dropWhile isCaseIgnorable with
  | [] => false
  | c :: _ => isCased c

/-- Lower case of a text that follows one whose last counting character has case or has not. -/
def lowerAfter (cased : Bool) : List Char → List Char
  | [] => []
  | c :: rest =>
    let image :=
      if c = 'Σ' then [if cased && !startsCased rest then 'ς' else 'σ'] else lowerChar c
    image ++ lowerAfter (if isCaseIgnorable c then cased else isCased c) rest

def lowerChars (s : List Char) : List Char := lowerAfter false s

def upper (s : String) : String := String.ofList (upperChars s.toList)

def lower (s : String) : String := String.ofList (lowerChars s.toList)

/-- Underscores in front of inner capitals, then lower case: `activityType` is `activity_type`. -/
def snakeCase (s : String) : String :=
  match s.toList with
  | [] => ""
  | c :: rest =>
    let spaced := c :: rest.flatMap fun d => if d.isUpper then ['_', d] else [d]
    String.ofList (lowerChars spaced)

example : upper "straße" = "STRASSE" := by decide +kernel
example : lower "ΟΔΟΣ ΣΑ" = "οδος σα" := by decide +kernel
example : snakeCase "activityType" = "activity_type" := by decide +kernel

end ListQuery.Text
