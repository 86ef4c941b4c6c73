import ListQuery.Text.Quoted
/-!
Safe names. A name that may stand in SQL text starts with an ASCII letter, goes on with letters,
digits, underscores and dots, and has at most 63 characters.
-/
namespace ListQuery.Column

open Text

def maxNameLength : Nat := 63

def isLetter (c : Char) : Bool := c.isAlpha

def isNameChar (c : Char) : Bool := c.isAlphanum || c == '_' || c == '.'

def isWellFormed : List Char → Bool
  | [] => false
  | c :: rest => isLetter c && rest.all isNameChar

inductive NameFault where
  | empty
  | tooLong
  | malformed (name : String)
  deriving DecidableEq, Repr

def NameFault.message : NameFault → String
  | .empty => "column name cannot be empty"
  | .tooLong => s!"column name too long (max {maxNameLength} characters)"
  | .malformed name => "invalid column name: " ++ quoted name

/-- What is wrong with a name, if anything. -/
def nameFault? (name : String) : Option NameFault :=
  if name.toList.isEmpty then some .empty
  else if maxNameLength < name.toList.length then some .tooLong
  else if isWellFormed name.toList then none
  else some (.malformed name)

def IsSafe (name : String) : Prop :=
  isWellFormed name.toList = true ∧ name.toList.length ≤ maxNameLength

instance (name : String) : Decidable (IsSafe name) :=
  inferInstanceAs (Decidable (_ ∧ _))

theorem nameFault?_eq_none_iff (name : String) : nameFault? name = none ↔ IsSafe name := by
  unfold nameFault? IsSafe
  cases name.toList with
  | nil => simp [isWellFormed]
  | cons c rest =>
    rw [if_neg (by simp)]
    by_cases long : maxNameLength < (c :: rest).length
    · rw [if_pos long]
      exact ⟨nofun, fun h => absurd h.2 (Nat.not_le.mpr long)⟩
    · rw [if_neg long]
      by_cases formed : isWellFormed (c :: rest) = true
      · rw [if_pos formed]
        exact ⟨fun _ => ⟨formed, Nat.not_lt.mp long⟩, fun _ => rfl⟩
      · rw [if_neg formed]
        exact ⟨nofun, fun h => absurd h.1 formed⟩

example : nameFault? "tags.name" = none ∧ nameFault? "1st" = some (.malformed "1st") := by
  decide +kernel

end ListQuery.Column
