import ListQuery.Text.Like
import Mathlib.Data.List.Forall2
/-!
Which texts a pattern of `LIKE` matches. A pattern is read into pieces, and a matcher tries them
from the front of a text, going back to the last percent sign where it fails. The pattern that is
made of a search term can always be read, and it matches exactly the texts in which the term occurs,
whatever characters count as the same.
-/
namespace ListQuery.Text

/-- What one piece of a pattern stands for. -/
inductive PatternPiece where
  | anyText
  | anyChar
  | exactly (c : Char)
  deriving DecidableEq, Repr

/-- The piece that a character is when no backslash stands in front of it. -/
def PatternPiece.ofChar (c : Char) : PatternPiece :=
  if c = '%' then .anyText else if c = '_' then .anyChar else .exactly c

/-- The pieces of a pattern; none when a backslash at its end has nothing to act on. -/
def readPattern? : List Char → Option (List PatternPiece)
  | [] => some []
  | c :: rest =>
    if c = '\\' then
      match rest with
      | [] => none
      | d :: rest => (readPattern? rest).map (.exactly d :: ·)
    else (readPattern? rest).map (PatternPiece.ofChar c :: ·)

/-- Tries a test at every place of a text, at its end too. -/
def holdsSomewhere (test : List Char → Bool) : List Char → Bool
  | [] => test []
  | c :: rest => test (c :: rest) || holdsSomewhere test rest

section
variable (same : Char → Char → Prop) [DecidableRel same]

/-- Whether the pieces of a pattern match the whole of a text. -/
def matchPieces : List PatternPiece → List Char → Bool
  | [], s => s.isEmpty
  | .anyText :: pieces, s => holdsSomewhere (matchPieces pieces) s
  | .anyChar :: pieces, _ :: rest => matchPieces pieces rest
  | .exactly c :: pieces, d :: rest => decide (same c d) && matchPieces pieces rest
  | _, [] => false

/-- The answer of `LIKE`, for characters that are compared in some way; none is an error. -/
def like? (pattern s : String) : Option Bool :=
  (readPattern? pattern.toList).map fun pieces => matchPieces same pieces s.toList

/-- A term occurs in a text where the text has a piece with the same characters in it. -/
def Occurs (term s : List Char) : Prop :=
  ∃ before found after, s = before ++ found ++ after ∧ List.Forall₂ same term found

end

theorem holdsSomewhere_iff {test : List Char → Bool} {s : List Char} :
    holdsSomewhere test s = true ↔ ∃ before behind, s = before ++ behind ∧ test behind = true := by
  induction s with
  | nil =>
    rw [holdsSomewhere]
    constructor
    · intro holds
      exact ⟨[], [], rfl, holds⟩
    · rintro ⟨before, behind, parts, holds⟩
      obtain ⟨rfl, rfl⟩ := List.append_eq_nil_iff.mp parts.symm
      exact holds
  | cons c rest ih =>
    rw [holdsSomewhere, Bool.or_eq_true, ih]
    constructor
    · rintro (here | ⟨before, behind, rfl, holds⟩)
      · exact ⟨[], c :: rest, rfl, here⟩
      · exact ⟨c :: before, behind, rfl, holds⟩
    · rintro ⟨before, behind, parts, holds⟩
      cases before with
      | nil =>
        rw [parts]
        exact .inl holds
      | cons d before =>
        obtain ⟨_, rfl⟩ := List.cons_eq_cons.mp parts
        exact .inr ⟨before, behind, rfl, holds⟩

section
variable {same : Char → Char → Prop} [DecidableRel same] {pieces : List PatternPiece}

theorem matchPieces_anyText_iff {s : List Char} : matchPieces same (.anyText :: pieces) s = true ↔
    ∃ before behind, s = before ++ behind ∧ matchPieces same pieces behind = true := by
  rw [matchPieces, holdsSomewhere_iff]

/-- A percent sign at the end matches whatever is left. -/
theorem matchPieces_anyText (s : List Char) : matchPieces same [.anyText] s = true := by
  rw [matchPieces_anyText_iff]
  exact ⟨s, [], (List.append_nil s).symm, rfl⟩

/-- Characters of a pattern that stand for themselves match as many of a text, one by one. -/
theorem matchPieces_exactly_append_iff {term s : List Char} :
    matchPieces same (term.map .exactly ++ pieces) s = true ↔
      ∃ found after, s = found ++ after ∧ List.Forall₂ same term found ∧
        matchPieces same pieces after = true := by
  induction term generalizing s with
  | nil => simp
  | cons c term ih =>
    cases s with
    | nil => simp [matchPieces]
    | cons d rest =>
      rw [List.map_cons, List.cons_append, matchPieces, Bool.and_eq_true, decide_eq_true_iff, ih]
      constructor
      · rintro ⟨equal, found, after, rfl, alike, matched⟩
        exact ⟨d :: found, after, rfl, .cons equal alike, matched⟩
      · rintro ⟨found, after, parts, alike, matched⟩
        cases alike with
        | cons equal alike =>
          obtain ⟨rfl, rfl⟩ := List.cons_eq_cons.mp parts
          exact ⟨equal, _, after, rfl, alike, matched⟩

end

theorem escapeLikeChars_append (s t : List Char) :
    escapeLikeChars (s ++ t) = escapeLikeChars s ++ escapeLikeChars t := by
  simp only [escapeLikeChars, escapeEach, List.flatMap_append]

theorem readPattern?_of_ne_backslash {c : Char} (plain : c ≠ '\\') (rest : List Char) :
    readPattern? (c :: rest) = (readPattern? rest).map (PatternPiece.ofChar c :: ·) := by
  cases rest <;> simp [readPattern?, plain]

/-- An escaped character is read as itself, whatever stands behind it. No pass escapes what another
one has put in. -/
theorem readPattern?_escaped (c : Char) (rest : List Char) :
    readPattern? (escapeLikeChars [c] ++ rest) = (readPattern? rest).map (.exactly c :: ·) := by
  by_cases backslash : c = '\\'
  · subst backslash
    rfl
  · by_cases percent : c = '%'
    · subst percent
      rfl
    · by_cases underscore : c = '_'
      · subst underscore
        rfl
      · have kept : escapeLikeChars [c] = [c] := by
          simp [escapeLikeChars, escapeEach, backslash, percent, underscore]
        rw [kept, List.singleton_append, readPattern?_of_ne_backslash backslash,
          PatternPiece.ofChar, if_neg percent, if_neg underscore]

theorem readPattern?_escapeLikeChars_append (term rest : List Char) :
    readPattern? (escapeLikeChars term ++ rest) =
      (readPattern? rest).map (term.map .exactly ++ ·) := by
  induction term with
  | nil => exact Option.map_id'.symm
  | cons c term ih =>
    have split : escapeLikeChars (c :: term) = escapeLikeChars [c] ++ escapeLikeChars term :=
      escapeLikeChars_append [c] term
    rw [split, List.append_assoc, readPattern?_escaped, ih, Option.map_map]
    rfl

/-- The pieces of the pattern of a term: the term itself between two percent signs. -/
theorem readPattern?_containsPattern (term : String) :
    readPattern? (containsPattern term).toList =
      some (.anyText :: (term.toList.map .exactly ++ [.anyText])) := by
  have chars : (containsPattern term).toList = '%' :: (escapeLikeChars term.toList ++ ['%']) := by
    simp [containsPattern, escapeLike]
  rw [chars, readPattern?_of_ne_backslash (by decide), readPattern?_escapeLikeChars_append]
  rfl

/-- The pattern of a term is well formed and matches exactly the texts in which the term occurs. -/
theorem containsPattern_matches_iff_occurs (same : Char → Char → Prop) [DecidableRel same]
    (term s : String) :
    ∃ answer, like? same (containsPattern term) s = some answer ∧
      (answer = true ↔ Occurs same term.toList s.toList) := by
  refine ⟨_, by rw [like?, readPattern?_containsPattern]; rfl, ?_⟩
  rw [matchPieces_anyText_iff]
  constructor
  · rintro ⟨before, behind, split, matched⟩
    obtain ⟨found, after, rfl, alike, _⟩ := matchPieces_exactly_append_iff.mp matched
    exact ⟨before, found, after, by rw [split, List.append_assoc], alike⟩
  · rintro ⟨before, found, after, split, alike⟩
    refine ⟨before, found ++ after, by rw [split, List.append_assoc], ?_⟩
    exact matchPieces_exactly_append_iff.mpr ⟨found, after, rfl, alike, matchPieces_anyText after⟩

example : like? (· = ·) (containsPattern "5_\\") "15_\\0" = some true ∧
    like? (· = ·) (containsPattern "5_") "150" = some false ∧ like? (· = ·) "%\\" "" = none := by
  decide +kernel

end ListQuery.Text
