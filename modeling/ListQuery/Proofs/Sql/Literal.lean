import ListQuery.Sql.Literal
import Mathlib.Algebra.Group.Nat.Even
import Mathlib.Data.List.Basic
/-!
Literals as a database reads them. By the standard a literal ends at the first quote that is not
doubled; where backslashes are escapes, a backslash takes the character behind it with it, a quote
as well. What is written for a text is read back by the standard. With escapes it is one literal
exactly when the backslashes in front of quotes and at the end come in pairs, and it stands for the
text itself only if there is no backslash in it.
-/
namespace ListQuery.Sql

inductive LiteralMode where
  | standard
  | escapes
  deriving DecidableEq, Repr

inductive LiteralPart where
  | plain (c : Char)
  | twoQuotes
  | escaped (c : Char)
  deriving DecidableEq, Repr

/-- What was read of a literal and is not yet understood: nothing, a quote that may be one of two or
close the literal, or a backslash. -/
inductive LiteralState where
  | inside
  | quote
  | backslash

/-- The parts of a literal behind its opening quote, and what stands behind the closing one; none
when it is never closed. The digits of an escape by number are plain characters here. -/
def literalParts? (mode : LiteralMode) :
    LiteralState → List Char → Option (List LiteralPart × List Char)
  | .inside, [] | .backslash, [] => none
  | .quote, [] => some ([], [])
  | .inside, c :: rest =>
    if c = quoteChar then literalParts? mode .quote rest
    else if mode = .escapes ∧ c = '\\' then literalParts? mode .backslash rest
    else (literalParts? mode .inside rest).map (Prod.map (.plain c :: ·) id)
  | .quote, c :: rest =>
    if c = quoteChar then (literalParts? mode .inside rest).map (Prod.map (.twoQuotes :: ·) id)
    else some ([], c :: rest)
  | .backslash, c :: rest =>
    (literalParts? mode .inside rest).map (Prod.map (.escaped c :: ·) id)

/-- What a backslash in front of a character stands for. An escape by number, which a digit, an `x`
or a `u` begins, is not read. -/
def escapedChar? (c : Char) : Option Char :=
  if "01234567xuU".toList.contains c then none
  else
    match c with
    | 'b' => some '\x08'
    | 'f' => some '\x0c'
    | 'n' => some '\n'
    | 'r' => some '\r'
    | 't' => some '\t'
    | c => some c

def LiteralPart.char? : LiteralPart → Option Char
  | .plain c => some c
  | .twoQuotes => some quoteChar
  | .escaped c => escapedChar? c

/-- The literal at the front of a text. -/
def literal? (mode : LiteralMode) : List Char → Option (List LiteralPart × List Char)
  | [] => none
  | c :: rest => if c = quoteChar then literalParts? mode .inside rest else none

/-- A text that is one literal and nothing else. -/
def IsLiteral (mode : LiteralMode) (text : String) : Prop :=
  ∃ parts, literal? mode text.toList = some (parts, [])

/-- A text that is one literal and stands for the given value. -/
def Denotes (mode : LiteralMode) (text value : String) : Prop :=
  ∃ parts, literal? mode text.toList = some (parts, []) ∧
    parts.map LiteralPart.char? = value.toList.map some

section
variable {mode : LiteralMode} {c : Char}

theorem literalParts?_twoQuotes (mode : LiteralMode) (s : List Char) :
    literalParts? mode .inside (quoteChar :: quoteChar :: s) =
      (literalParts? mode .inside s).map (Prod.map (.twoQuotes :: ·) id) := rfl

/-- A quote with another character behind it closes the literal. -/
theorem literalParts?_closing (mode : LiteralMode) (other : c ≠ quoteChar) (s : List Char) :
    literalParts? mode .inside (quoteChar :: c :: s) = some ([], c :: s) := by
  rw [literalParts?, if_pos rfl, literalParts?, if_neg other]

theorem literalParts?_escaped (c : Char) (s : List Char) :
    literalParts? .escapes .inside ('\\' :: c :: s) =
      (literalParts? .escapes .inside s).map (Prod.map (.escaped c :: ·) id) := rfl

theorem literalParts?_plain (other : c ≠ quoteChar) (plain : mode = .standard ∨ c ≠ '\\')
    (s : List Char) : literalParts? mode .inside (c :: s) =
      (literalParts? mode .inside s).map (Prod.map (.plain c :: ·) id) := by
  have unescaped : ¬(mode = .escapes ∧ c = '\\') := by
    rintro ⟨rfl, rfl⟩
    rcases plain with standard | different
    · cases standard
    · exact different rfl
  rw [literalParts?, if_neg other, if_neg unescaped]

end

theorem doubleQuotes_quote (s : List Char) :
    doubleQuotes (quoteChar :: s) = quoteChar :: quoteChar :: doubleQuotes s := rfl

theorem doubleQuotes_cons {c : Char} (other : c ≠ quoteChar) (s : List Char) :
    doubleQuotes (c :: s) = c :: doubleQuotes s := by
  rw [doubleQuotes, List.flatMap_cons, if_neg other]
  rfl

/-- What a character is written as where backslashes mean nothing. -/
def writtenPart (c : Char) : LiteralPart := if c = quoteChar then .twoQuotes else .plain c

theorem char?_writtenPart (c : Char) : (writtenPart c).char? = some c := by
  rw [writtenPart]
  split
  · next quote => rw [quote, LiteralPart.char?]
  · rfl

/-- Without escapes every character is read as it was written. -/
theorem literalParts?_doubleQuotes {mode : LiteralMode} {s : List Char}
    (plain : mode = .standard ∨ '\\' ∉ s) :
    literalParts? mode .inside (doubleQuotes s ++ [quoteChar]) = some (s.map writtenPart, []) := by
  induction s with
  | nil => rfl
  | cons c rest ih =>
    have later := ih (plain.imp_right fun absent member => absent (List.mem_cons_of_mem c member))
    by_cases quote : c = quoteChar
    · rw [quote, doubleQuotes_quote, List.cons_append, List.cons_append, literalParts?_twoQuotes,
        later]
      rfl
    · have unescaped : mode = .standard ∨ c ≠ '\\' :=
        plain.imp_right fun absent same => absent (same ▸ List.mem_cons_self)
      rw [doubleQuotes_cons quote, List.cons_append, literalParts?_plain quote unescaped, later,
        List.map_cons, writtenPart, if_neg quote]
      rfl

theorem literal?_textLiteral (mode : LiteralMode) (s : String) :
    literal? mode (textLiteral s).toList =
      literalParts? mode .inside (doubleQuotes s.toList ++ [quoteChar]) := by
  rw [textLiteral, String.toList_ofList, List.cons_append, literal?, if_pos rfl]

theorem denotes_textLiteral {mode : LiteralMode} {s : String}
    (plain : mode = .standard ∨ '\\' ∉ s.toList) : Denotes mode (textLiteral s) s := by
  refine ⟨s.toList.map writtenPart, ?_, ?_⟩
  · rw [literal?_textLiteral, literalParts?_doubleQuotes plain]
  · rw [List.map_map]
    exact List.map_congr_left fun c _ => char?_writtenPart c

/-- The backslashes at the end of a text. -/
def backslashesAtEnd (s : List Char) : Nat := (s.reverse.takeWhile (· = '\\')).length

/-- In front of every quote, and at the end, there is an even number of backslashes. -/
def BackslashesPaired (s : List Char) : Prop :=
  ∀ before after, s = before ++ after → (∀ c ∈ after.head?, c = quoteChar) →
    Even (backslashesAtEnd before)

section
variable {c : Char} {s : List Char}

theorem backslashesAtEnd_le (s : List Char) : backslashesAtEnd s ≤ s.length :=
  Nat.le_trans (List.takeWhile_sublist _).length_le (Nat.le_of_eq List.length_reverse)

theorem backslashesAtEnd_cons (c : Char) (s : List Char) : backslashesAtEnd (c :: s) =
    if backslashesAtEnd s = s.length ∧ c = '\\' then s.length + 1 else backslashesAtEnd s := by
  rw [backslashesAtEnd, List.reverse_cons, List.takeWhile_append, List.length_reverse,
    ← backslashesAtEnd]
  by_cases all : backslashesAtEnd s = s.length
  · by_cases backslash : c = '\\' <;> simp [all, backslash]
  · simp only [all, if_false, false_and]
    rfl

theorem backslashesAtEnd_of_ne (other : c ≠ '\\') (s : List Char) :
    backslashesAtEnd (c :: s) = backslashesAtEnd s := by
  rw [backslashesAtEnd_cons, if_neg fun ⟨_, same⟩ => other same]

/-- A backslash and the character behind it change nothing about the parity at the end. -/
theorem even_backslashesAtEnd_iff (c : Char) (s : List Char) :
    Even (backslashesAtEnd ('\\' :: c :: s)) ↔ Even (backslashesAtEnd s) := by
  have short := backslashesAtEnd_le s
  by_cases all : backslashesAtEnd s = s.length ∧ c = '\\'
  · have both : backslashesAtEnd ('\\' :: c :: s) = backslashesAtEnd s + 2 := by
      rw [backslashesAtEnd_cons, backslashesAtEnd_cons, if_pos all, List.length_cons,
        if_pos ⟨rfl, rfl⟩, all.1]
    have two : Even 2 := ⟨1, rfl⟩
    rw [both, Nat.even_add, iff_true_right two]
  · have same : backslashesAtEnd (c :: s) = backslashesAtEnd s := by
      rw [backslashesAtEnd_cons, if_neg all]
    have fewer : ¬(backslashesAtEnd (c :: s) = (c :: s).length ∧ '\\' = '\\') := by
      rintro ⟨full, _⟩
      rw [same, List.length_cons] at full
      omega
    rw [backslashesAtEnd_cons, if_neg fewer, same]

theorem backslashesPaired_nil : BackslashesPaired [] := by
  intro before after split _
  obtain ⟨rfl, rfl⟩ := List.append_eq_nil_iff.mp split.symm
  exact ⟨0, rfl⟩

theorem backslashesPaired_cons_iff (other : c ≠ '\\') :
    BackslashesPaired (c :: s) ↔ BackslashesPaired s := by
  constructor
  · rintro paired before after rfl stops
    rw [← backslashesAtEnd_of_ne other before]
    exact paired (c :: before) after rfl stops
  · intro paired before after split stops
    cases before with
    | nil => exact ⟨0, rfl⟩
    | cons d before =>
      obtain ⟨rfl, rest⟩ := List.cons_eq_cons.mp split
      rw [backslashesAtEnd_of_ne other]
      exact paired before after rest stops

theorem backslashesPaired_escaped_iff (other : c ≠ quoteChar) :
    BackslashesPaired ('\\' :: c :: s) ↔ BackslashesPaired s := by
  constructor
  · rintro paired before after rfl stops
    rw [← even_backslashesAtEnd_iff c before]
    exact paired ('\\' :: c :: before) after rfl stops
  · intro paired before after split stops
    match before with
    | [] => exact ⟨0, rfl⟩
    | [_] =>
      obtain ⟨_, rfl⟩ := List.cons_eq_cons.mp split
      exact absurd (stops c rfl) other
    | _ :: _ :: before =>
      simp only [List.cons_append, List.cons.injEq] at split
      obtain ⟨rfl, rfl, rest⟩ := split
      rw [even_backslashesAtEnd_iff]
      exact paired before after rest stops

theorem not_backslashesPaired_of_stop (stops : ∀ d ∈ s.head?, d = quoteChar) :
    ¬BackslashesPaired ('\\' :: s) := by
  intro paired
  have one : backslashesAtEnd ['\\'] = 1 := by decide
  have even := paired ['\\'] s rfl stops
  rw [one] at even
  exact absurd even (by decide)

end

/-- Where backslashes are escapes a text is gone through from the left, a backslash together with
the character behind it. -/
theorem escapes_induction {P : List Char → Prop} (nil : P [])
    (quote : ∀ s, P s → P (quoteChar :: s))
    (plain : ∀ c s, c ≠ quoteChar → c ≠ '\\' → P s → P (c :: s))
    (last : P ['\\']) (escaped_quote : ∀ s, P ('\\' :: quoteChar :: s))
    (escaped : ∀ c s, c ≠ quoteChar → P s → P ('\\' :: c :: s)) : ∀ s, P s
  | [] => nil
  | c :: rest => by
    by_cases is_quote : c = quoteChar
    · rw [is_quote]
      exact quote rest (escapes_induction nil quote plain last escaped_quote escaped rest)
    · by_cases backslash : c = '\\'
      · rw [backslash]
        match rest with
        | [] => exact last
        | d :: more =>
          by_cases next_quote : d = quoteChar
          · rw [next_quote]
            exact escaped_quote more
          · exact escaped d more next_quote
              (escapes_induction nil quote plain last escaped_quote escaped more)
      · exact plain c rest is_quote backslash
          (escapes_induction nil quote plain last escaped_quote escaped rest)

/-- With one quote too many in front of it, what is written for a text does not end with its
closing quote. -/
theorem literalParts?_quote_ne (mode : LiteralMode) (s : List Char) (parts : List LiteralPart) :
    literalParts? mode .inside (quoteChar :: (doubleQuotes s ++ [quoteChar])) ≠
      some (parts, []) := by
  induction s generalizing parts with
  | nil =>
    change literalParts? mode .inside [quoteChar, quoteChar] ≠ _
    rw [literalParts?_twoQuotes]
    exact nofun
  | cons c rest ih =>
    by_cases quote : c = quoteChar
    · rw [quote, doubleQuotes_quote, List.cons_append, List.cons_append, literalParts?_twoQuotes]
      intro read
      obtain ⟨⟨more, behind⟩, inner, same⟩ := Option.map_eq_some_iff.mp read
      cases same
      exact ih more inner
    · rw [doubleQuotes_cons quote, List.cons_append, literalParts?_closing mode quote]
      exact nofun

theorem map_part_eq_iff {read : Option (List LiteralPart × List Char)} {part : LiteralPart}
    {parts : List LiteralPart} : read.map (Prod.map (part :: ·) id) = some (parts, []) ↔
      ∃ more, read = some (more, []) ∧ parts = part :: more := by
  rw [Option.map_eq_some_iff]
  constructor
  · rintro ⟨⟨more, behind⟩, inner, same⟩
    cases same
    exact ⟨more, inner, rfl⟩
  · rintro ⟨more, inner, rfl⟩
    exact ⟨(more, []), inner, rfl⟩

/-- What is written for a text, read again with escapes. -/
def readBack? (s : List Char) : Option (List LiteralPart × List Char) :=
  literalParts? .escapes .inside (doubleQuotes s ++ [quoteChar])

section
variable {c : Char} (s : List Char)

theorem readBack?_quote :
    readBack? (quoteChar :: s) = (readBack? s).map (Prod.map (.twoQuotes :: ·) id) := rfl

theorem readBack?_plain (other : c ≠ quoteChar) (unescaped : c ≠ '\\') :
    readBack? (c :: s) = (readBack? s).map (Prod.map (.plain c :: ·) id) := by
  rw [readBack?, doubleQuotes_cons other, List.cons_append,
    literalParts?_plain other (.inr unescaped), readBack?]

theorem readBack?_escaped (other : c ≠ quoteChar) :
    readBack? ('\\' :: c :: s) = (readBack? s).map (Prod.map (.escaped c :: ·) id) := by
  have backslash : '\\' ≠ quoteChar := by decide
  rw [readBack?, doubleQuotes_cons backslash, doubleQuotes_cons other, List.cons_append,
    List.cons_append, literalParts?_escaped, readBack?]

theorem readBack?_escaped_quote_ne (parts : List LiteralPart) :
    readBack? ('\\' :: quoteChar :: s) ≠ some (parts, []) := by
  have backslash : '\\' ≠ quoteChar := by decide
  rw [readBack?, doubleQuotes_cons backslash, doubleQuotes_quote, List.cons_append,
    List.cons_append, List.cons_append, literalParts?_escaped, Ne, map_part_eq_iff]
  rintro ⟨more, inner, _⟩
  exact literalParts?_quote_ne _ s more inner

end

/-- With escapes the closing quote is found at the end exactly when all backslashes in front of
quotes have a partner. -/
theorem exists_readBack?_iff (s : List Char) :
    (∃ parts, readBack? s = some (parts, [])) ↔ BackslashesPaired s := by
  have step {read : Option (List LiteralPart × List Char)} (part : LiteralPart) :
      (∃ parts, read.map (Prod.map (part :: ·) id) = some (parts, [])) ↔
        ∃ parts, read = some (parts, []) := by
    simp only [map_part_eq_iff]
    exact ⟨fun ⟨_, more, inner, _⟩ => ⟨more, inner⟩, fun ⟨more, inner⟩ => ⟨_, more, inner, rfl⟩⟩
  induction s using escapes_induction with
  | nil => exact iff_of_true ⟨[], rfl⟩ backslashesPaired_nil
  | quote s ih =>
    rw [readBack?_quote, step, backslashesPaired_cons_iff (by decide)]
    exact ih
  | plain c s other unescaped ih =>
    rw [readBack?_plain s other unescaped, step, backslashesPaired_cons_iff unescaped]
    exact ih
  | last => exact iff_of_false nofun (not_backslashesPaired_of_stop nofun)
  | escaped_quote s =>
    have stops : ∀ d ∈ [quoteChar].head?, d = quoteChar := fun d first =>
      (Option.some.inj first).symm
    refine iff_of_false ?_ (not_backslashesPaired_of_stop stops)
    rintro ⟨parts, read⟩
    exact readBack?_escaped_quote_ne s parts read
  | escaped c s other ih =>
    rw [readBack?_escaped s other, step, backslashesPaired_escaped_iff other]
    exact ih

/-- A text that is read to its end has no more parts than characters, and fewer where a backslash
has taken another character with it. -/
theorem length_of_readBack? {s : List Char} {parts : List LiteralPart}
    (read : readBack? s = some (parts, [])) :
    parts.length ≤ s.length ∧ ('\\' ∈ s → parts.length < s.length) := by
  induction s using escapes_induction generalizing parts with
  | nil =>
    cases read
    exact ⟨Nat.le_refl 0, nofun⟩
  | quote s ih =>
    rw [readBack?_quote, map_part_eq_iff] at read
    obtain ⟨more, inner, rfl⟩ := read
    refine ⟨Nat.succ_le_succ (ih inner).1, fun member => Nat.succ_lt_succ ((ih inner).2 ?_)⟩
    exact (List.mem_cons.mp member).resolve_left (by decide)
  | plain c s other unescaped ih =>
    rw [readBack?_plain s other unescaped, map_part_eq_iff] at read
    obtain ⟨more, inner, rfl⟩ := read
    refine ⟨Nat.succ_le_succ (ih inner).1, fun member => Nat.succ_lt_succ ((ih inner).2 ?_)⟩
    exact (List.mem_cons.mp member).resolve_left unescaped.symm
  | last => cases read
  | escaped_quote s => exact absurd read (readBack?_escaped_quote_ne s parts)
  | escaped c s other ih =>
    rw [readBack?_escaped s other, map_part_eq_iff] at read
    obtain ⟨more, inner, rfl⟩ := read
    have short := (ih inner).1
    simp only [List.length_cons]
    exact ⟨by omega, fun _ => by omega⟩

theorem isLiteral_escapes_textLiteral_iff (s : String) :
    IsLiteral .escapes (textLiteral s) ↔ BackslashesPaired s.toList := by
  rw [IsLiteral, literal?_textLiteral]
  exact exists_readBack?_iff s.toList

/-- With escapes a literal stands for the text it was written for only if this has no backslash. -/
theorem denotes_escapes_textLiteral_iff (s : String) :
    Denotes .escapes (textLiteral s) s ↔ '\\' ∉ s.toList := by
  refine ⟨?_, fun absent => denotes_textLiteral (.inr absent)⟩
  rintro ⟨parts, read, chars⟩ member
  rw [literal?_textLiteral] at read
  have fewer := (length_of_readBack? read).2 member
  have same := congrArg List.length chars
  rw [List.length_map, List.length_map] at same
  omega

/-- Writes every backslash twice. -/
def doubleBackslashes (s : List Char) : List Char :=
  s.flatMap fun c => if c = '\\' then ['\\', '\\'] else [c]

theorem doubleBackslashes_backslash (s : List Char) :
    doubleBackslashes ('\\' :: s) = '\\' :: '\\' :: doubleBackslashes s := rfl

theorem doubleBackslashes_cons {c : Char} (other : c ≠ '\\') (s : List Char) :
    doubleBackslashes (c :: s) = c :: doubleBackslashes s := by
  rw [doubleBackslashes, List.flatMap_cons, if_neg other]
  rfl

/-- A text of SQL with all its backslashes doubled. -/
def backslashesDoubled (text : String) : String := String.ofList (doubleBackslashes text.toList)

/-- It makes no difference whether quotes or backslashes are doubled first. -/
theorem doubleBackslashes_doubleQuotes (s : List Char) :
    doubleBackslashes (doubleQuotes s) = doubleQuotes (doubleBackslashes s) := by
  simp only [doubleBackslashes, doubleQuotes, List.flatMap_assoc]
  apply List.flatMap_congr
  intro c _
  by_cases quote : c = quoteChar
  · subst quote
    rfl
  · by_cases backslash : c = '\\'
    · subst backslash
      rfl
    · simp [quote, backslash]

theorem toList_backslashesDoubled (s : String) : (backslashesDoubled (textLiteral s)).toList =
    quoteChar :: (doubleBackslashes (doubleQuotes s.toList) ++ [quoteChar]) := by
  simp [backslashesDoubled, textLiteral, doubleBackslashes, quoteChar]

theorem backslashesDoubled_textLiteral (s : String) :
    backslashesDoubled (textLiteral s) = textLiteral (backslashesDoubled s) := by
  rw [← String.toList_inj, toList_backslashesDoubled, doubleBackslashes_doubleQuotes, textLiteral,
    backslashesDoubled]
  simp

/-- With the backslashes doubled every character is read as it was written, escapes or not. -/
theorem literalParts?_doubleBackslashes (s : List Char) :
    ∃ parts, literalParts? .escapes .inside (doubleBackslashes (doubleQuotes s) ++ [quoteChar]) =
      some (parts, []) ∧ parts.map LiteralPart.char? = s.map some := by
  induction s with
  | nil => exact ⟨[], rfl, rfl⟩
  | cons c rest ih =>
    obtain ⟨parts, read, chars⟩ := ih
    suffices first : ∃ part : LiteralPart, part.char? = some c ∧ literalParts? .escapes .inside
        (doubleBackslashes (doubleQuotes (c :: rest)) ++ [quoteChar]) =
          some (part :: parts, []) by
      obtain ⟨part, same, whole⟩ := first
      exact ⟨part :: parts, whole, by rw [List.map_cons, List.map_cons, same, chars]⟩
    by_cases quote : c = quoteChar
    · refine ⟨.twoQuotes, by rw [quote, LiteralPart.char?], ?_⟩
      rw [quote, doubleQuotes_quote, doubleBackslashes_cons (by decide),
        doubleBackslashes_cons (by decide), List.cons_append, List.cons_append,
        literalParts?_twoQuotes, read]
      rfl
    · rw [doubleQuotes_cons quote]
      by_cases backslash : c = '\\'
      · refine ⟨.escaped '\\', by rw [backslash]; rfl, ?_⟩
        rw [backslash, doubleBackslashes_backslash, List.cons_append, List.cons_append,
          literalParts?_escaped, read]
        rfl
      · refine ⟨.plain c, rfl, ?_⟩
        rw [doubleBackslashes_cons backslash, List.cons_append,
          literalParts?_plain quote (.inr backslash), read]
        rfl

theorem denotes_backslashesDoubled (s : String) :
    Denotes .escapes (backslashesDoubled (textLiteral s)) s := by
  obtain ⟨parts, read, chars⟩ := literalParts?_doubleBackslashes s.toList
  refine ⟨parts, ?_, chars⟩
  rw [toList_backslashesDoubled, literal?, if_pos rfl, read]

theorem isLiteral_backslashesDoubled (s : String) :
    IsLiteral .standard (backslashesDoubled (textLiteral s)) := by
  have read : Denotes .standard (textLiteral (backslashesDoubled s)) (backslashesDoubled s) :=
    denotes_textLiteral (.inl rfl)
  obtain ⟨parts, whole, _⟩ := read
  rw [backslashesDoubled_textLiteral]
  exact ⟨parts, whole⟩

end ListQuery.Sql
