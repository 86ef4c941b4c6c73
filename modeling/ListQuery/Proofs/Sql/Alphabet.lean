import ListQuery.Proofs.Column.Resolve
import ListQuery.Proofs.Sql.Clause
import ListQuery.Proofs.Text.Trim
/-!
The characters of statements. What is written for criteria, an order and a window is made of letters
and digits, blanks, ends of lines and a few signs; a name of a table may have double quotes around
it, and nothing else does. The dollar sign is for placeholders only, and no text behind one begins
with a digit.
-/
namespace ListQuery.Sql

open Column Text

/-- A letter or a digit of ASCII, a blank, the end of a line, or a sign that statements need. -/
def isStatementChar (c : Char) : Bool := c.isAlphanum || " \n_.*$,()=!<>".toList.contains c

def IsStatementText (s : String) : Prop := ∀ c ∈ s.toList, isStatementChar c = true

-- a list is searched here, not the type of all characters
instance (s : String) : Decidable (IsStatementText s) :=
  List.decidableBAll (fun c => isStatementChar c = true) s.toList

theorem isStatementChar_of_isNameChar {c : Char} (h : isNameChar c = true) :
    isStatementChar c = true := by
  simp only [isNameChar, Bool.or_eq_true, beq_iff_eq] at h
  rcases h with (alphanumeric | rfl) | rfl
  · rw [isStatementChar, alphanumeric, Bool.true_or]
  · decide
  · decide

theorem isStatementChar_of_isDigit {c : Char} (h : c.isDigit = true) :
    isStatementChar c = true := by
  rw [isStatementChar, Char.isAlphanum, h, Bool.or_true, Bool.true_or]

namespace IsStatementText

variable {s t : String}

theorem append (hs : IsStatementText s) (ht : IsStatementText t) : IsStatementText (s ++ t) := by
  rw [IsStatementText, String.toList_append]
  exact List.forall_mem_append.mpr ⟨hs, ht⟩

theorem of_isSafe (safe : IsSafe s) : IsStatementText s := fun _ member =>
  isStatementChar_of_isNameChar (safe.isNameChar member)

theorem not_mem {c : Char} (hs : IsStatementText s) (other : isStatementChar c = false) :
    c ∉ s.toList := fun member => absurd (hs c member) (by rw [other]; exact Bool.false_ne_true)

end IsStatementText

/-- A character of statements other than the sign of placeholders. -/
def isPhraseChar (c : Char) : Bool := isStatementChar c && c != '$'

/-- A text between placeholders: it has no sign of them, and it does not begin with a digit, with
which a placeholder in front of it would go on. -/
structure IsPhrase (s : String) : Prop where
  plain : ∀ c ∈ s.toList, isPhraseChar c = true
  start : s.toList.head?.any Char.isDigit = false

instance (s : String) : Decidable (IsPhrase s) :=
  decidable_of_iff (s.toList.all isPhraseChar = true ∧ s.toList.head?.any Char.isDigit = false)
    ⟨fun ⟨h, i⟩ => ⟨List.all_eq_true.mp h, i⟩, fun ⟨h, i⟩ => ⟨List.all_eq_true.mpr h, i⟩⟩

namespace IsPhrase

variable {s t : String}

theorem isStatementText (hs : IsPhrase s) : IsStatementText s := fun c member =>
  (Bool.and_eq_true_iff.mp (hs.plain c member)).1

theorem not_mem {c : Char} (hs : IsPhrase s) (other : isPhraseChar c = false) : c ∉ s.toList := by
  intro member
  rw [hs.plain c member] at other
  cases other

theorem append (hs : IsPhrase s) (ht : IsPhrase t) : IsPhrase (s ++ t) := by
  constructor
  · rw [String.toList_append]
    exact List.forall_mem_append.mpr ⟨hs.plain, ht.plain⟩
  · have start := hs.start
    rw [String.toList_append, List.head?_append]
    cases first : s.toList.head? with
    | none => exact ht.start
    | some c =>
      rw [first] at start
      exact start

theorem of_isSafe (safe : IsSafe s) : IsPhrase s := by
  constructor
  · intro c member
    have inside := safe.isNameChar member
    rw [isPhraseChar, isStatementChar_of_isNameChar inside, Bool.true_and, bne_iff_ne]
    rintro rfl
    exact absurd inside (by decide)
  · cases first : s.toList with
    | nil => rfl
    | cons c rest =>
      have formed := safe.1
      rw [first, isWellFormed, Bool.and_eq_true] at formed
      have letter := toNat_of_isLetter formed.1
      change c.isDigit = false
      by_contra digit
      have bounds := toNat_of_isDigit (by simpa using digit)
      omega

theorem intercalate {parts : List String} (hs : IsPhrase s) (each : ∀ part ∈ parts, IsPhrase part) :
    IsPhrase (String.intercalate s parts) := by
  induction parts with
  | nil =>
    rw [String.intercalate_nil]
    decide
  | cons first rest ih =>
    rw [List.forall_mem_cons] at each
    cases rest with
    | nil =>
      rw [String.intercalate_singleton]
      exact each.1
    | cons second more =>
      rw [String.intercalate_cons_cons]
      exact (each.1.append hs).append (ih each.2)

end IsPhrase

/-- A piece of such a text, or an argument. -/
def Piece.IsPhrase : Piece → Prop
  | .text s => Sql.IsPhrase s
  | .argument _ => True

instance : (p : Piece) → Decidable p.IsPhrase
  | .text s => inferInstanceAs (Decidable (Sql.IsPhrase s))
  | .argument _ => .isTrue trivial

theorem forall_mem_numberedChars {ps : List Piece} (h : ∀ p ∈ ps, p.IsPhrase)
    (number : Nat) : ∀ c ∈ numberedChars number ps, isStatementChar c = true := by
  induction ps generalizing number with
  | nil => exact fun c member => absurd member List.not_mem_nil
  | cons piece rest ih =>
    rw [List.forall_mem_cons] at h
    cases piece with
    | text s => exact List.forall_mem_append.mpr ⟨h.1.isStatementText, ih h.2 number⟩
    | argument v =>
      refine List.forall_mem_append.mpr ⟨List.forall_mem_cons.mpr ⟨by decide, ?_⟩, ih h.2 _⟩
      exact fun c member => isStatementChar_of_isDigit
        (Nat.isDigit_of_mem_toDigits (by decide) (by decide) member)

theorem isPhrase_of_separated {separator : String} {groups : List (List Piece)}
    (between : IsPhrase separator)
    (inside : ∀ g ∈ groups, ∀ p ∈ g, Piece.IsPhrase p) :
    ∀ p ∈ separated separator groups, p.IsPhrase :=
  forall_mem_intercalate (List.forall_mem_singleton.mpr between) inside

theorem isPhrase_argumentList (items : List Scalar) : ∀ p ∈ argumentList items, p.IsPhrase := by
  refine isPhrase_of_separated (by decide) (List.forall_mem_map.mpr fun v _ => ?_)
  exact List.forall_mem_singleton.mpr trivial

theorem Predicate.isPhrase_pieces {p : Predicate} (h : p.WellFormed) :
    ∀ piece ∈ p.pieces, piece.IsPhrase := by
  have column {name : String} (safe : IsSafe name) := IsPhrase.of_isSafe safe
  cases p with
  | always | never => exact List.forall_mem_singleton.mpr (by decide)
  | compare name op v =>
    have sign : IsPhrase op.sign := by cases op <;> decide
    refine List.forall_mem_cons.mpr ⟨?_, List.forall_mem_singleton.mpr trivial⟩
    exact (((column h).append (by decide)).append sign).append (by decide)
  | isNull name | isNotNull name =>
    exact List.forall_mem_singleton.mpr ((column h).append (by decide))
  | oneOf name items =>
    refine List.forall_mem_cons.mpr ⟨(column h.1).append (by decide), ?_⟩
    exact List.forall_mem_append.mpr
      ⟨isPhrase_argumentList items, List.forall_mem_singleton.mpr (by decide)⟩
  | noneOf name items =>
    have opening : IsPhrase "(" := by decide
    refine List.forall_mem_cons.mpr ⟨(opening.append (column h.1)).append (by decide), ?_⟩
    exact List.forall_mem_append.mpr
      ⟨isPhrase_argumentList items, List.forall_mem_singleton.mpr (by decide)⟩
  | matching name pattern =>
    exact List.forall_mem_cons.mpr
      ⟨(column h).append (by decide), List.forall_mem_singleton.mpr trivial⟩

theorem Criterion.isPhrase_pieces {c : Criterion} (h : c.WellFormed) (alone : Bool) :
    ∀ piece ∈ c.pieces alone, piece.IsPhrase := by
  cases c with
  | single p => exact Predicate.isPhrase_pieces h
  | anyOf members =>
    have choice : ∀ piece ∈ separated " OR " (members.map Predicate.pieces), piece.IsPhrase :=
      isPhrase_of_separated (by decide) (List.forall_mem_map.mpr fun p member =>
        Predicate.isPhrase_pieces (h.2 p member))
    rw [Criterion.pieces]
    cases alone with
    | true => exact choice
    | false =>
      exact List.forall_mem_cons.mpr
        ⟨by decide, List.forall_mem_append.mpr ⟨choice, List.forall_mem_singleton.mpr (by decide)⟩⟩

theorem isPhrase_conjunctionPieces {criteria : List Criterion} (h : ∀ c ∈ criteria, c.WellFormed) :
    ∀ piece ∈ conjunctionPieces criteria, piece.IsPhrase := by
  cases criteria with
  | nil => exact fun piece member => absurd member List.not_mem_nil
  | cons c rest =>
    cases rest with
    | nil =>
      exact List.forall_mem_cons.mpr
        ⟨by decide, Criterion.isPhrase_pieces (h c (List.mem_singleton_self c)) true⟩
    | cons d more =>
      refine List.forall_mem_cons.mpr ⟨by decide, isPhrase_of_separated (by decide) ?_⟩
      exact List.forall_mem_map.mpr fun e member =>
        Criterion.isPhrase_pieces (h e member) false

theorem isPhrase_wherePieces {criteria : List Criterion} (h : ∀ c ∈ criteria, c.WellFormed) :
    ∀ piece ∈ wherePieces criteria, piece.IsPhrase :=
  isPhrase_conjunctionPieces (Criterion.wellFormed_written h)

theorem isPhrase_orderPieces {terms : List OrderTerm} (h : ∀ t ∈ terms, IsSafe t.column) :
    ∀ piece ∈ orderPieces terms, piece.IsPhrase := by
  have lead : IsPhrase " ORDER BY " := by decide
  rw [orderPieces]
  split
  · exact fun piece member => absurd member List.not_mem_nil
  · refine List.forall_mem_singleton.mpr (lead.append (.intercalate (by decide) ?_))
    refine List.forall_mem_map.mpr fun t member => ?_
    refine (IsPhrase.of_isSafe (h t member)).append ?_
    cases t.descending <;> decide

theorem isPhrase_windowPieces (window : Option Window) :
    ∀ piece ∈ windowPieces window, piece.IsPhrase := by
  cases window with
  | none => exact fun piece member => absurd member List.not_mem_nil
  | some w =>
    exact List.forall_mem_cons.mpr ⟨by decide, List.forall_mem_cons.mpr ⟨trivial,
      List.forall_mem_cons.mpr ⟨by decide, List.forall_mem_singleton.mpr trivial⟩⟩⟩

end ListQuery.Sql
