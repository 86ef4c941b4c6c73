import ListQuery.Number.Numeral
import ListQuery.Text.Blank
/-!
Lexemes of a date written by hand: numbers, words and single marks. A number may hold one point
between its digits; a run with more points, or with letters, falls apart at its points. A run whose
one letter ends the whole text is not taken apart and stays a number that cannot be read.
-/
namespace ListQuery.Time

open ListQuery.Number ListQuery.Text

inductive Lexeme where
  | number (text : List Char)
  | word (letters : List Char)
  | mark (c : Char)
  deriving DecidableEq, Repr

/-- What the run being read consists of so far. -/
inductive RunKind where
  | letters
  | digits
  | dottedLetters
  | dottedDigits
  deriving DecidableEq, Repr

/-- The kind of a run after one more character; none when the character starts a new lexeme. The
run is held backwards. -/
def RunKind.extend? (kind : RunKind) (run : List Char) (c : Char) : Option RunKind :=
  match kind with
  | .letters => if c.isAlpha then some .letters else if c = '.' then some .dottedLetters else none
  | .digits =>
    if isAnyDigit c then some .digits
    else if c = '.' ∨ (c = ',' ∧ 2 ≤ run.length) then some .dottedDigits
    else none
  | .dottedLetters =>
    if c = '.' ∨ c.isAlpha then some .dottedLetters
    else if isAnyDigit c ∧ run.head? = some '.' then some .dottedDigits
    else none
  | .dottedDigits =>
    if c = '.' ∨ isAnyDigit c then some .dottedDigits
    else if c.isAlpha ∧ run.head? = some '.' then some .dottedLetters
    else none

def isPoint (c : Char) : Bool := c == '.' || c == ','

/-- The pieces of a run between its points, the points included. -/
def splitPoints : List Char → List (List Char)
  | [] => []
  | c :: rest =>
    if isPoint c then [c] :: splitPoints rest
    else
      match splitPoints rest with
      | (d :: piece) :: more =>
        if isPoint d then [c] :: (d :: piece) :: more else (c :: d :: piece) :: more
      | more => [c] :: more

def classify (piece : List Char) : Lexeme :=
  match piece with
  | [] => .word []
  | c :: rest =>
    if isAnyDigit c then .number (c :: rest)
    else if c.isAlpha then .word (c :: rest)
    else .mark c

def commaAsPoint (c : Char) : Char := if c = ',' then '.' else c

/-- Whether a finished run falls apart. The run is held backwards. -/
def fallsApart (kind : RunKind) (atEnd : Bool) (backwards : List Char) : Bool :=
  match kind with
  | .letters | .digits => false
  | .dottedLetters =>
    !atEnd || (backwards.drop 1).any Char.isAlpha || decide (1 < backwards.count '.')
  | .dottedDigits =>
    backwards.any Char.isAlpha || decide (1 < backwards.count '.') || backwards.head?.any isPoint

/-- Lexemes of a finished run. A comma between digits is a decimal point where there is no other. -/
def finishRun (atEnd : Bool) (run : RunKind × List Char) : List Lexeme :=
  let s := run.2.reverse
  if fallsApart run.1 atEnd run.2 then (splitPoints s).map classify
  else [classify (if s.contains '.' then s else s.map commaAsPoint)]

def startRun? (c : Char) : Option RunKind :=
  if c.isAlpha then some .letters else if isAnyDigit c then some .digits else none

/-- Every blank is one mark, and a null character is nothing. -/
def lexemesFrom (open? : Option (RunKind × List Char)) : List Char → List Lexeme
  | [] => (open?.map (finishRun true)).getD []
  | c :: rest =>
    if c = '\x00' then lexemesFrom open? rest
    else
      let continued := open?.bind fun r => (r.1.extend? r.2 c).map fun kind => (kind, c :: r.2)
      match continued with
      | some run => lexemesFrom (some run) rest
      | none =>
        (open?.map (finishRun false)).getD [] ++
          match startRun? c with
          | some kind => lexemesFrom (some (kind, [c])) rest
          | none => .mark (if isBlank c then ' ' else c) :: lexemesFrom none rest

def lexemes (s : String) : List Lexeme := lexemesFrom none s.toList

example : lexemes "31, 10.5" =
    [.number ['3', '1'], .mark ',', .mark ' ', .number ['1', '0', '.', '5']] := by decide +kernel
example : (lexemes "2024.03.01").length = 5 ∧ (lexemes "30.m").length = 1 := by decide +kernel

end ListQuery.Time
