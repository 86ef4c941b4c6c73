import ListQuery.Proofs.Column.Folded
import ListQuery.Proofs.Sql.Layout
/-!
Relations as a database reads them. An unquoted name is folded to small letters and taken apart at
its dots, a quoted one is a single identifier as it is. The bare name of a table and what is written
for it behind FROM are one relation only if the name is in small letters, has no dots and is not
reserved.
-/
namespace ListQuery.Sql

open Column Text

def isIdentifier : List Char → Bool
  | [] => false
  | c :: rest => (c.isAlpha || c == '_') && rest.all fun d => d.isAlphanum || d == '_' || d == '$'

/-- What is in double quotes, read from behind the opening one to a closing one at the very end. -/
def quotedIdentifier? : List Char → Option (List Char)
  | [] => none
  | ['"'] => some []
  | '"' :: '"' :: rest => (quotedIdentifier? rest).map ('"' :: ·)
  | '"' :: _ => none
  | c :: rest => (quotedIdentifier? rest).map (c :: ·)

/-- The relation a name stands for, by the identifiers from the outermost one on. A quoted name is
taken as a whole. Reserved words are no names unless they are quoted. -/
def relation? (reserved : String → Bool) : List Char → Option (List String)
  | '"' :: rest => (quotedIdentifier? rest).map fun name => [String.ofList name]
  | name =>
    let parts := name.splitOn '.'
    if parts.all fun part => isIdentifier part && !reserved (folded (String.ofList part)) then
      some (parts.map fun part => folded (String.ofList part))
    else none

/-- The names in front of `.*` and behind FROM at the beginning of a text. A name with a blank in it
is not read. -/
def writtenNames? (text : String) : Option (List Char × List Char) :=
  match words text.toList with
  | select :: selected :: introduces :: introduced :: _ =>
    if select = "SELECT".toList ∧ introduces = "FROM".toList then
      (selected.dropSuffix? ".*".toList).map (·, introduced)
    else none
  | _ => none

/-- The relation whose columns are selected is the one that FROM introduces. -/
def SelectsIntroduced (reserved : String → Bool) (text : String) : Prop :=
  ∃ selected introduced relation, writtenNames? text = some (selected, introduced) ∧
    relation? reserved selected = some relation ∧ relation? reserved introduced = some relation

theorem quotedIdentifier?_cons {c : Char} (other : c ≠ '"') (s : List Char) :
    quotedIdentifier? (c :: s) = (quotedIdentifier? s).map (c :: ·) := by
  rw [quotedIdentifier?]
  · exact fun quote _ => other quote
  · exact fun _ quote _ => other quote
  · exact other

/-- Without quotes inside everything is read up to the closing quote. -/
theorem quotedIdentifier?_append {s : List Char} (free : '"' ∉ s) :
    quotedIdentifier? (s ++ ['"']) = some s := by
  induction s with
  | nil => rfl
  | cons c rest ih =>
    rw [List.mem_cons, not_or] at free
    rw [List.cons_append, quotedIdentifier?_cons (Ne.symm free.1), ih free.2]
    rfl

/-- What may stand in a name without quotes is neither a capital nor a dot. -/
theorem small_of_isPlainChar {c : Char} (plain : isPlainChar c = true) :
    c.isUpper = false ∧ c ≠ '.' := by
  constructor
  · rw [← Bool.not_eq_true]
    intro upper
    have bounds := toNat_of_isUpper upper
    simp only [isPlainChar, Bool.or_eq_true, beq_iff_eq] at plain
    rcases plain with ((lower | digit) | rfl) | rfl
    · have low := (toNat_of_isLower lower).1
      omega
    · have high := (toNat_of_isDigit digit).2
      omega
    · exact absurd upper (by decide)
    · exact absurd upper (by decide)
  · rintro rfl
    exact absurd plain (by decide)

section
variable {name : String}

/-- A name in small letters and without dots that is not reserved. -/
structure IsFree (reserved : String → Bool) (name : String) : Prop where
  small : ∀ c ∈ name.toList, c.isUpper = false
  single : isDotted name = false
  unreserved : reserved name = false

theorem isWord_of_isSafe (safe : IsSafe name) : IsWord name := by
  constructor
  · rintro rfl
    exact absurd safe (by decide)
  · intro c member
    have bounds := toNat_of_isNameChar (safe.isNameChar member)
    exact isBlank_of_toNat (by omega) (by omega)

theorem isWord_quoteName (safe : IsSafe name) : IsWord (quoteName name) := by
  have word := isWord_of_isSafe safe
  rcases quoteName_of_isSafe safe with plain | quoted
  · rwa [plain]
  · have quote : IsWord "\"" := by decide
    rw [quoted]
    exact (quote.append word.solid).append quote.solid

/-- A name in double quotes is read as it is. -/
theorem relation?_quoted (reserved : String → Bool) (safe : IsSafe name) :
    relation? reserved ("\"" ++ name ++ "\"").toList = some [name] := by
  have free : '"' ∉ name.toList := fun member => absurd (safe.isNameChar member) (by decide)
  have chars : ("\"" ++ name ++ "\"").toList = '"' :: (name.toList ++ ['"']) := by simp
  rw [chars, relation?, quotedIdentifier?_append free, Option.map_some, String.ofList_toList]

/-- A safe name without quotes is read part by part. -/
theorem relation?_bare (reserved : String → Bool) (safe : IsSafe name) :
    relation? reserved name.toList =
      if (name.toList.splitOn '.').all fun part =>
          isIdentifier part && !reserved (folded (String.ofList part)) then
        some ((name.toList.splitOn '.').map fun part => folded (String.ofList part))
      else none := by
  rw [relation?]
  intro rest quoted
  have quote : '"' ∈ name.toList := quoted ▸ List.mem_cons_self
  exact absurd (safe.isNameChar quote) (by decide)

theorem isIdentifier_of_isSafe (safe : IsSafe name) (single : isDotted name = false) :
    isIdentifier name.toList = true := by
  have undotted : '.' ∉ name.toList :=
    not_mem_of_mem_splitOn (isDotted_eq_false_iff.mp single ▸ List.mem_singleton_self _)
  have formed := safe.1
  cases chars : name.toList with
  | nil =>
    rw [chars] at formed
    cases formed
  | cons c rest =>
    rw [chars, isWellFormed, Bool.and_eq_true, List.all_eq_true] at formed
    rw [chars, List.mem_cons, not_or] at undotted
    have first : c.isAlpha = true := formed.1
    rw [isIdentifier, first, Bool.true_or, Bool.true_and, List.all_eq_true]
    intro d member
    have allowed := formed.2 d member
    have other : d ≠ '.' := fun dot => undotted.2 (dot ▸ member)
    rw [isNameChar, beq_false_of_ne other, Bool.or_false] at allowed
    rw [allowed, Bool.true_or]

theorem relation?_of_single (reserved : String → Bool) (safe : IsSafe name)
    (single : isDotted name = false) : relation? reserved name.toList =
      if reserved (folded name) then none else some [folded name] := by
  rw [relation?_bare reserved safe, isDotted_eq_false_iff.mp single, List.all_cons, List.all_nil,
    Bool.and_true, List.map_singleton, String.ofList_toList, isIdentifier_of_isSafe safe single,
    Bool.true_and]
  cases reserved (folded name) <;> rfl

/-- A name that is read as one identifier has no dots. -/
theorem isDotted_of_relation? {reserved : String → Bool} {part : String} (safe : IsSafe name)
    (read : relation? reserved name.toList = some [part]) : isDotted name = false := by
  rw [relation?_bare reserved safe] at read
  split at read
  · have lengths := congrArg List.length (Option.some.inj read)
    rw [List.length_map] at lengths
    obtain ⟨whole, alone⟩ := List.length_eq_one_iff.mp lengths
    have joined := intercalate_segments name
    rw [alone, List.intercalate_singleton] at joined
    exact isDotted_eq_false_iff.mpr (joined ▸ alone)
  · cases read

/-- A bare name is read as it is only if it is free. -/
theorem relation?_eq_self_iff {reserved : String → Bool} (safe : IsSafe name) :
    relation? reserved name.toList = some [name] ↔ IsFree reserved name := by
  constructor
  · intro read
    have single := isDotted_of_relation? safe read
    rw [relation?_of_single reserved safe single] at read
    split at read
    · cases read
    · next unreserved =>
      have same : folded name = name := List.singleton_inj.mp (Option.some.inj read)
      rw [same, Bool.not_eq_true] at unreserved
      exact ⟨folded_eq_self_iff.mp same, single, unreserved⟩
  · rintro ⟨small, single, unreserved⟩
    rw [relation?_of_single reserved safe single, folded_eq_self_iff.mpr small, unreserved]
    rfl

/-- A table that is written without quotes is in small letters and without dots. -/
theorem isFree_of_quoteName_eq {reserved : String → Bool} {relation : List String}
    (safe : IsSafe name) (unquoted : quoteName name = name)
    (read : relation? reserved name.toList = some relation) : IsFree reserved name := by
  have plain : ∀ c ∈ name.toList, c.isUpper = false ∧ c ≠ '.' := by
    rw [quoteName] at unquoted
    split at unquoted
    · next plain =>
      rw [isPlainName, Bool.and_eq_true, Bool.and_eq_true, List.all_eq_true] at plain
      exact fun c member => small_of_isPlainChar (plain.1.2 c member)
    · have quote : '"' ∈ name.toList := by
        rw [← unquoted, quotedName, String.toList_ofList]
        exact List.mem_cons_self
      exact absurd (safe.isNameChar quote) (by decide)
  have small : ∀ c ∈ name.toList, c.isUpper = false := fun c member => (plain c member).1
  have single : isDotted name = false := by
    rw [isDotted, List.contains_eq_mem, decide_eq_false_iff_not]
    exact fun dot => (plain '.' dot).2 rfl
  rw [relation?_of_single reserved safe single, folded_eq_self_iff.mpr small] at read
  split at read
  · cases read
  · next unreserved => exact ⟨small, single, by simpa using unreserved⟩

/-- A bare name and what is written for it behind FROM stand for one relation exactly when it is
free. -/
theorem exists_relation?_iff {reserved : String → Bool} (safe : IsSafe name) :
    (∃ relation, relation? reserved name.toList = some relation ∧
      relation? reserved (quoteName name).toList = some relation) ↔ IsFree reserved name := by
  rcases quoteName_of_isSafe safe with plain | quoted
  · rw [plain]
    constructor
    · rintro ⟨relation, read, _⟩
      exact isFree_of_quoteName_eq safe plain read
    · intro free
      have read := (relation?_eq_self_iff safe).mpr free
      exact ⟨_, read, read⟩
  · rw [quoted, relation?_quoted reserved safe, ← relation?_eq_self_iff safe]
    constructor
    · rintro ⟨relation, read, same⟩
      rw [read, same]
    · exact fun read => ⟨_, read, rfl⟩

end

namespace Select

/-- Without joins a statement has the table twice among its first words, bare in front of the star
and quoted if need be behind FROM. -/
theorem writtenNames?_text {s : Select} {table : String} (formed : s.WellFormed)
    (selected : s.projection = .allOf table) (single : s.source.joins = []) :
    writtenNames? s.statement.text = some (table.toList, (quoteName s.source.table).toList) := by
  have safe : IsSafe table := by
    have projected := formed.projection
    rwa [selected] at projected
  have plain := unmarked_of_single single
  have star : IsWord (table ++ ".*") := (isWord_of_isSafe safe).append (by decide)
  have introduced := isWord_quoteName formed.source.table
  have chars : s.statement.text.toList = "SELECT".toList ++ ' ' :: ((table ++ ".*").toList ++
      ' ' :: ("\nFROM".toList ++ ' ' :: ((quoteName s.source.table).toList ++
        numberedChars 1 s.tailPieces))) := by
    rw [text_of_wellFormed formed plain, frontText, Source.text, selected, single]
    simp [Projection.text]
  have blank : isBlank ' ' = true := by decide
  have front : words s.statement.text.toList = "SELECT".toList :: (table ++ ".*").toList ::
      "FROM".toList :: (quoteName s.source.table).toList ::
        words (numberedChars 1 s.tailPieces) := by
    rw [chars, words_append_blank blank, words_append_blank blank, words_append_blank blank,
      words_append_of_beginsBlank (s.leadsBlank_tailPieces.beginsBlank_numbered 1), star.words_eq,
      introduced.words_eq]
    rfl
  have bare : (table ++ ".*").toList.dropSuffix? ".*".toList = some table.toList := by
    rw [List.dropSuffix?_eq_some_iff]
    exact ⟨".*".toList, String.toList_append, beq_self_eq_true _⟩
  rw [writtenNames?, front]
  simp only [and_self, if_true, bare, Option.map_some]

end Select

end ListQuery.Sql
