import ListQuery.Proofs.Column.Resolve
import ListQuery.Sql.Statement
/-!
Statements as a database reads them. Blanks divide a text into words, parentheses and commas stand
for themselves, and a placeholder is the argument with its number. What is written for a name, a
sign, a keyword or an argument is read back as that very thing, whatever stands around it.
-/
namespace ListQuery.Sql

open Text Column

inductive Token where
  | opening
  | closing
  | comma
  | word (s : String)
  | sign (op : Operator)
  | argument (v : Scalar)
  deriving DecidableEq, Repr

def isMark (c : Char) : Bool := c == '(' || c == ')' || c == ','

/-- The words of a text, with a word of its own for each parenthesis and each comma. -/
def lexemes (s : List Char) : List (List Char) :=
  words (s.flatMap fun c => if isMark c then [' ', c, ' '] else [c])

/-- The argument that a placeholder with the given digits stands for. -/
def argumentAt? (arguments : List Scalar) (digits : List Char) : Option Scalar :=
  if digits.all Char.isDigit then
    match Nat.ofDigitChars 10 digits 0 with
    | 0 => none
    | n + 1 => arguments[n]?
  else none

def signOf? (s : List Char) : Option Operator := Operator.all.find? fun op => op.sign.toList == s

def Token.ofLexeme? (arguments : List Scalar) : List Char → Option Token
  | ['('] => some .opening
  | [')'] => some .closing
  | [','] => some .comma
  | '$' :: digits => (argumentAt? arguments digits).map .argument
  | s =>
    match signOf? s with
    | some op => some (.sign op)
    | none => if isWellFormed s then some (.word (String.ofList s)) else none

def tokens? (arguments : List Scalar) (s : List Char) : Option (List Token) :=
  (lexemes s).mapM (Token.ofLexeme? arguments)

/-- A text that is read as the given tokens. -/
def Spells (arguments : List Scalar) (s : List Char) (tokens : List Token) : Prop :=
  tokens? arguments s = some tokens

theorem lexemes_append_blank {c : Char} (blank : isBlank c = true) (plain : isMark c = false)
    (s t : List Char) : lexemes (s ++ c :: t) = lexemes s ++ lexemes t := by
  rw [lexemes, List.flatMap_append, List.flatMap_cons, plain]
  exact words_append_blank blank _ _

theorem isBlank_of_isMark {c : Char} (mark : isMark c = true) : isBlank c = false := by
  simp only [isMark, Bool.or_eq_true, beq_iff_eq] at mark
  rcases mark with (rfl | rfl) | rfl <;> decide

theorem lexemes_append_mark {c : Char} (mark : isMark c = true) (s t : List Char) :
    lexemes (s ++ c :: t) = lexemes s ++ [c] :: lexemes t := by
  have solid := isBlank_of_isMark mark
  have alone : words [c] = [[c]] :=
    words_of_solid (List.cons_ne_nil _ _) fun d member => List.mem_singleton.mp member ▸ solid
  rw [lexemes, List.flatMap_append, List.flatMap_cons, mark, if_pos rfl]
  change words (_ ++ ' ' :: ([c] ++ ' ' :: _)) = _
  have space : isBlank ' ' = true := by decide
  rw [words_append_blank space, words_append_blank space, alone]
  rfl

theorem lexemes_of_solid {s : List Char} (some_char : s ≠ [])
    (solid : ∀ c ∈ s, isBlank c = false ∧ isMark c = false) : lexemes s = [s] := by
  have same : (s.flatMap fun c => if isMark c then [' ', c, ' '] else [c]) = s := by
    clear some_char
    induction s with
    | nil => rfl
    | cons c rest ih =>
      rw [List.forall_mem_cons] at solid
      rw [List.flatMap_cons, solid.1.2, ih solid.2]
      rfl
  rw [lexemes, same]
  exact words_of_solid some_char fun c member => (solid c member).1

namespace Spells

variable {arguments : List Scalar} {s t : List Char} {ts us : List Token}

theorem nil : Spells arguments [] [] := rfl

theorem apart {c : Char} (blank : isBlank c = true) (plain : isMark c = false)
    (hs : Spells arguments s ts) (ht : Spells arguments t us) :
    Spells arguments (s ++ c :: t) (ts ++ us) := by
  rw [Spells, tokens?] at hs ht ⊢
  rw [lexemes_append_blank blank plain, List.mapM_append, hs, ht]
  rfl

theorem blank (hs : Spells arguments s ts) (ht : Spells arguments t us) :
    Spells arguments (s ++ ' ' :: t) (ts ++ us) := apart (by decide) (by decide) hs ht

theorem line (ht : Spells arguments t us) : Spells arguments ('\n' :: t) us :=
  apart (by decide) (by decide) nil ht

/-- A blank between two texts may be the first character of the second one. -/
theorem append (blank : BeginsBlank t) (hs : Spells arguments s ts) (ht : Spells arguments t us) :
    Spells arguments (s ++ t) (ts ++ us) := by
  cases t with
  | nil =>
    obtain rfl : [] = us := Option.some.inj ht
    rwa [List.append_nil, List.append_nil]
  | cons c rest =>
    have first : isBlank c = true := blank c rfl
    have plain : isMark c = false := by
      cases mark : isMark c with
      | false => rfl
      | true =>
        rw [isBlank_of_isMark mark] at first
        cases first
    have same : lexemes (c :: rest) = lexemes rest := lexemes_append_blank first plain [] rest
    refine hs.apart first plain ?_
    rwa [Spells, tokens?, same] at ht

theorem mark {c : Char} {token : Token} (mark : isMark c = true)
    (reads : Token.ofLexeme? arguments [c] = some token) (hs : Spells arguments s ts)
    (ht : Spells arguments t us) : Spells arguments (s ++ c :: t) (ts ++ token :: us) := by
  rw [Spells, tokens?] at hs ht ⊢
  rw [lexemes_append_mark mark, List.mapM_append, List.mapM_cons, hs, ht, reads]
  rfl

theorem opening (hs : Spells arguments s ts) (ht : Spells arguments t us) :
    Spells arguments (s ++ '(' :: t) (ts ++ .opening :: us) := mark (by decide) rfl hs ht

theorem closing (hs : Spells arguments s ts) (ht : Spells arguments t us) :
    Spells arguments (s ++ ')' :: t) (ts ++ .closing :: us) := mark (by decide) rfl hs ht

theorem comma (hs : Spells arguments s ts) (ht : Spells arguments t us) :
    Spells arguments (s ++ ',' :: t) (ts ++ .comma :: us) := mark (by decide) rfl hs ht

theorem single {token : Token} (some_char : s ≠ [])
    (solid : ∀ c ∈ s, isBlank c = false ∧ isMark c = false)
    (reads : Token.ofLexeme? arguments s = some token) : Spells arguments s [token] := by
  rw [Spells, tokens?, lexemes_of_solid some_char solid, List.mapM_cons, reads]
  rfl

end Spells

/-- The characters of names, signs and placeholders lie apart from all blanks. -/
theorem solid_of_toNat {c : Char} (low : 0x2E ≤ c.toNat) (high : c.toNat ≤ 0x7A) :
    isBlank c = false ∧ isMark c = false := by
  constructor
  · exact isBlank_of_toNat (by omega) (by omega)
  · simp only [isMark, Bool.or_eq_false_iff, beq_eq_false_iff_ne]
    refine ⟨⟨?_, ?_⟩, ?_⟩ <;> (rintro rfl; exact absurd low (by decide))

theorem signOf?_of_letter {c : Char} {rest : List Char} (letter : isLetter c = true) :
    signOf? (c :: rest) = none := by
  have bounds := toNat_of_isLetter letter
  rw [signOf?, List.find?_eq_none]
  intro op _ same
  have head : op.sign.toList.head? = some c := by
    rw [beq_iff_eq.mp same]
    rfl
  cases op <;> (cases head; exact absurd bounds.1 (by decide))

namespace Spells

variable {arguments : List Scalar}

/-- A safe name is one word, a keyword among them. -/
theorem word {name : String} (safe : IsSafe name) :
    Spells arguments name.toList [.word name] := by
  obtain ⟨formed, _⟩ := safe
  cases chars : name.toList with
  | nil =>
    rw [chars] at formed
    cases formed
  | cons c rest =>
    rw [chars, isWellFormed, Bool.and_eq_true] at formed
    have bounds := toNat_of_isLetter formed.1
    refine single (List.cons_ne_nil _ _) ?_ ?_
    · rw [List.forall_mem_cons]
      refine ⟨solid_of_toNat (by omega) bounds.2, fun d member => ?_⟩
      have within := toNat_of_isNameChar (List.all_eq_true.mp formed.2 d member)
      exact solid_of_toNat within.1 within.2
    · unfold Token.ofLexeme?
      split
      · next same => cases same; exact absurd bounds.1 (by decide)
      · next same => cases same; exact absurd bounds.1 (by decide)
      · next same => cases same; exact absurd bounds.1 (by decide)
      · next same => cases same; exact absurd bounds.1 (by decide)
      · rw [signOf?_of_letter formed.1, isWellFormed, formed.1, formed.2, ← chars]
        simp

theorem sign (op : Operator) : Spells arguments op.sign.toList [.sign op] := by
  cases op <;> rfl

/-- A placeholder is the argument at its place, counted from one. -/
theorem argument (before after : List Scalar) (v : Scalar) :
    Spells (before ++ v :: after) (placeholder (before.length + 1)) [.argument v] := by
  have digits : ∀ c ∈ numberChars (before.length + 1), c.isDigit = true := fun c member =>
    Nat.isDigit_of_mem_toDigits (by decide) (by decide) member
  have at_place :
      argumentAt? (before ++ v :: after) (numberChars (before.length + 1)) = some v := by
    rw [argumentAt?, if_pos (List.all_eq_true.mpr digits), numberChars,
      Nat.ofDigitChars_ten_toDigits]
    simp
  refine single (List.cons_ne_nil _ _) ?_ ?_
  · rw [placeholder, List.forall_mem_cons]
    refine ⟨by decide, fun c member => ?_⟩
    have bounds := toNat_of_isDigit (digits c member)
    exact solid_of_toNat (by omega) (by omega)
  · change (argumentAt? _ (numberChars (before.length + 1))).map Token.argument = _
    rw [at_place]
    rfl

end Spells

example : tokens? [.int 5, .text "x"] "(a >= $1) OR b = $2".toList =
    some [.opening, .word "a", .sign .gte, .argument (.int 5), .closing, .word "OR", .word "b",
      .sign .eq, .argument (.text "x")] := by
  decide +kernel

theorem exists_mem_lexemes {c : Char} {s : List Char} (h : c ∈ s) (solid : isBlank c = false) :
    ∃ l ∈ lexemes s, c ∈ l := by
  have present : c ∈ s.flatMap fun d => if isMark d then [' ', d, ' '] else [d] :=
    List.mem_flatMap.mpr ⟨c, h, by split <;> simp⟩
  exact exists_mem_words present solid

theorem Token.ofLexeme?_of_percent {arguments : List Scalar} {l : List Char} (h : '%' ∈ l) :
    Token.ofLexeme? arguments l = none := by
  unfold Token.ofLexeme?
  split
  · exact absurd h (by decide)
  · exact absurd h (by decide)
  · exact absurd h (by decide)
  · next digits =>
    have later : '%' ∈ digits := (List.mem_cons.mp h).resolve_left (by decide)
    have odd : digits.all Char.isDigit = false := by
      rw [List.all_eq_false]
      exact ⟨'%', later, by decide⟩
    rw [argumentAt?, odd]
    rfl
  · split
    · next op found =>
      rw [signOf?] at found
      have same := List.find?_some found
      rw [← beq_iff_eq.mp same] at h
      cases op <;> exact absurd h (by decide)
    · rw [if_neg]
      intro formed
      cases l with
      | nil => cases h
      | cons c rest =>
        rw [isWellFormed, Bool.and_eq_true, List.all_eq_true] at formed
        rcases List.mem_cons.mp h with rfl | later
        · exact absurd formed.1 (by decide)
        · exact absurd (formed.2 _ later) (by decide)

/-- A text that can be read holds no percent sign. -/
theorem Spells.percent_not_mem {arguments : List Scalar} {s : List Char} {ts : List Token}
    (h : Spells arguments s ts) : '%' ∉ s := by
  intro present
  obtain ⟨l, member, inside⟩ := exists_mem_lexemes present (by decide)
  obtain ⟨before, after, split⟩ := List.append_of_mem member
  rw [Spells, tokens?, split, List.mapM_append, List.mapM_cons, Token.ofLexeme?_of_percent inside]
    at h
  cases firsts : before.mapM (Token.ofLexeme? arguments) <;> (rw [firsts] at h; cases h)

end ListQuery.Sql
