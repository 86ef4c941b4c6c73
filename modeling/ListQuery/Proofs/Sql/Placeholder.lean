import ListQuery.Proofs.Sql.Layout
/-!
The placeholders in the text of a statement. Read from left to right they have the numbers from one
on, one for each argument, as long as the conditions of joins bring no dollar sign of their own.
-/
namespace ListQuery.Sql

/-- The placeholders in a text: every dollar sign with the digits behind it. -/
def placeholders : List Char → List (List Char)
  | [] => []
  | c :: rest =>
    if c = '$' then (c :: rest.takeWhile Char.isDigit) :: placeholders rest else placeholders rest

theorem placeholders_append_of_not_mem {s : List Char} (none_there : '$' ∉ s) (t : List Char) :
    placeholders (s ++ t) = placeholders t := by
  induction s with
  | nil => rfl
  | cons c rest ih =>
    rw [List.mem_cons, not_or] at none_there
    rw [List.cons_append, placeholders, if_neg (Ne.symm none_there.1), ih none_there.2]

theorem placeholders_placeholder_append (number : Nat) {t : List Char}
    (ends : t.head?.any Char.isDigit = false) :
    placeholders (placeholder number ++ t) = placeholder number :: placeholders t := by
  have digits : ∀ c ∈ numberChars number, c.isDigit = true := fun c member =>
    Nat.isDigit_of_mem_toDigits (by decide) (by decide) member
  have none_there : '$' ∉ numberChars number := fun member => absurd (digits _ member) (by decide)
  have stops : t.takeWhile Char.isDigit = [] := by
    cases t with
    | nil => rfl
    | cons c rest => exact List.takeWhile_cons_of_neg (by simpa using ends)
  rw [placeholder, List.cons_append, placeholders, if_pos rfl,
    List.takeWhile_append_of_pos digits, stops, List.append_nil,
    placeholders_append_of_not_mem none_there]

section
variable {ps : List Piece} (phrases : ∀ p ∈ ps, p.IsPhrase)
include phrases

/-- No text of the pieces goes on with a number in front of it. -/
theorem head?_numberedChars (number : Nat) :
    (numberedChars number ps).head?.any Char.isDigit = false := by
  induction ps with
  | nil => rfl
  | cons piece rest ih =>
    rw [List.forall_mem_cons] at phrases
    cases piece with
    | text s =>
      have start := phrases.1.start
      rw [numberedChars, List.head?_append]
      cases first : s.toList.head? with
      | none => exact ih phrases.2
      | some c =>
        rw [first] at start
        exact start
    | argument v => rfl

theorem placeholders_numberedChars (number : Nat) : placeholders (numberedChars number ps) =
    (List.range' number (argumentsOf ps).length).map placeholder := by
  induction ps generalizing number with
  | nil => rfl
  | cons piece rest ih =>
    rw [List.forall_mem_cons] at phrases
    cases piece with
    | text s =>
      have none_there : '$' ∉ s.toList := phrases.1.not_mem (by decide)
      rw [numberedChars, placeholders_append_of_not_mem none_there, ih phrases.2]
      rfl
    | argument v =>
      have next := ih phrases.2 (number + 1)
      rw [numberedChars, placeholders_placeholder_append number (head?_numberedChars phrases.2 _),
        next]
      rfl

end

namespace Select

variable {s : Select} (formed : s.WellFormed)
  (plain : ∀ j ∈ s.source.joins, Unmarked j.condition.toList ∧ '$' ∉ j.condition.toList)
include formed plain

theorem dollar_not_mem_frontText : '$' ∉ s.frontText.toList := by
  have joined : '$' ∉ (String.join (s.source.joins.map JoinedTable.text)).toList := by
    rw [String.toList_join]
    intro member
    obtain ⟨text, listed, inside⟩ := List.mem_flatMap.mp member
    obtain ⟨j, joined, rfl⟩ := List.mem_map.mp listed
    have lead := JoinedTable.not_mem_leadText (formed.source.joins j joined)
      (by decide : isPhraseChar '$' = false) (by decide)
    exact not_mem_toList_append lead (plain j joined).2 inside
  rw [frontText, Source.text, ← String.append_assoc]
  exact not_mem_toList_append (not_mem_mainText formed (by decide) (by decide)) joined

/-- Every argument has its placeholder, and there is no other. -/
theorem placeholders_text : placeholders s.statement.text.toList =
    (List.range' 1 s.statement.arguments.length).map placeholder := by
  rw [text_of_wellFormed formed fun j member => (plain j member).1, String.toList_append,
    placeholders_append_of_not_mem (dollar_not_mem_frontText formed plain), String.toList_ofList,
    placeholders_numberedChars (isPhrase_tailPieces formed), argumentsOf_tailPieces]

end Select

end ListQuery.Sql
