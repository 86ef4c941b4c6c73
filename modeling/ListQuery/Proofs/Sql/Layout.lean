import ListQuery.Proofs.Sql.Alphabet
import ListQuery.Proofs.Sql.Stray
/-!
The text of a statement with safe names, part by part: what is selected, the tables, and behind them
the pieces with their placeholders numbered from one on. Only the conditions of joins are raw text,
and they are kept as long as no mark stands in them.
-/
namespace ListQuery.Sql

open Column

def Projection.WellFormed : Projection → Prop
  | .allOf table => IsSafe table
  | .count | .one => True

structure JoinedTable.WellFormed (j : JoinedTable) : Prop where
  table : IsSafe j.table
  asName : ∀ name, j.asName = some name → IsSafe name

structure Source.WellFormed (s : Source) : Prop where
  table : IsSafe s.table
  joins : ∀ j ∈ s.joins, j.WellFormed

structure Select.WellFormed (s : Select) : Prop where
  projection : s.projection.WellFormed
  source : s.source.WellFormed
  criteria : ∀ c ∈ s.criteria, c.WellFormed
  order : ∀ t ∈ s.order, IsSafe t.column

theorem Projection.isStatementText {p : Projection} (formed : p.WellFormed) :
    IsStatementText p.text := by
  cases p with
  | allOf table => exact (IsStatementText.of_isSafe formed).append (by decide)
  | count | one => decide

/-- A safe name is written as it is, or in double quotes. -/
theorem quoteName_of_isSafe {name : String} (safe : IsSafe name) :
    quoteName name = name ∨ quoteName name = "\"" ++ name ++ "\"" := by
  rw [quoteName]
  split
  · exact .inl rfl
  · right
    have single : ∀ c ∈ name.toList, (if c = '"' then ['"', '"'] else [c]) = [c] := by
      intro c member
      refine if_neg fun quote => ?_
      rw [quote] at member
      exact absurd (safe.isNameChar member) (by decide)
    rw [quotedName, List.flatMap_congr single, List.flatMap_singleton', ← String.toList_inj]
    simp

theorem not_mem_toList_append {c : Char} {s t : String} (hs : c ∉ s.toList) (ht : c ∉ t.toList) :
    c ∉ (s ++ t).toList := by
  rw [String.toList_append]
  exact List.not_mem_append hs ht

/-- A text that reads one table, with characters of statements only; double quotes may stand around
the name of the table. -/
def ReadsPlainly (table text : String) : Prop :=
  ∃ selected name tail, text = "SELECT " ++ selected ++ " \nFROM " ++ name ++ tail ∧
    (name = table ∨ name = "\"" ++ table ++ "\"") ∧
    IsStatementText selected ∧ IsStatementText table ∧ IsStatementText tail

theorem ReadsPlainly.not_mem {table text : String} (reads : ReadsPlainly table text) {c : Char}
    (other : isStatementChar c = false) (unquoted : c ≠ '"') : c ∉ text.toList := by
  obtain ⟨selected, name, tail, rfl, quoting, plain, named, rest⟩ := reads
  have lead : IsStatementText "SELECT " := by decide
  have front := ((lead.append plain).append (by decide : IsStatementText " \nFROM ")).not_mem other
  refine not_mem_toList_append (not_mem_toList_append front ?_) (rest.not_mem other)
  rcases quoting with rfl | rfl
  · exact named.not_mem other
  · have quote : c ∉ "\"".toList := fun member => unquoted (List.mem_singleton.mp member)
    exact not_mem_toList_append (not_mem_toList_append quote (named.not_mem other)) quote

section
variable {c : Char} (other : isPhraseChar c = false) (unquoted : c ≠ '"')
include other

theorem Projection.not_mem_text {p : Projection} (formed : p.WellFormed) : c ∉ p.text.toList := by
  cases p with
  | allOf table => exact ((IsPhrase.of_isSafe formed).append (by decide)).not_mem other
  | count => exact IsPhrase.not_mem (by decide) other
  | one =>
    intro member
    rw [List.mem_singleton.mp member] at other
    exact absurd other (by decide)

include unquoted

theorem not_mem_quoteName {name : String} (safe : IsSafe name) : c ∉ (quoteName name).toList := by
  have inside : c ∉ name.toList := (IsPhrase.of_isSafe safe).not_mem other
  rcases quoteName_of_isSafe safe with bare | quoted
  · rwa [bare]
  · have quote : c ∉ "\"".toList := fun member => unquoted (List.mem_singleton.mp member)
    rw [quoted]
    exact not_mem_toList_append (not_mem_toList_append quote inside) quote

theorem not_mem_aliasText {asName : Option String}
    (safe : ∀ name, asName = some name → IsSafe name) : c ∉ (aliasText asName).toList := by
  cases asName with
  | none => exact List.not_mem_nil
  | some name =>
    have lead : IsPhrase " AS " := by decide
    have inside := not_mem_quoteName other unquoted (safe name rfl)
    exact not_mem_toList_append (lead.not_mem other) inside

end

namespace JoinedTable

theorem head?_text (j : JoinedTable) : j.text.toList.head? = some ' ' := by
  have lead : " LEFT OUTER JOIN ".toList.head? = some ' ' := by decide
  exact head?_toList_append (head?_toList_append (head?_toList_append (head?_toList_append lead)))

/-- What is in front of the condition. -/
def leadText (j : JoinedTable) : String :=
  " LEFT OUTER JOIN " ++ quoteName j.table ++ aliasText j.asName ++ " ON "

theorem not_mem_leadText {j : JoinedTable} (formed : j.WellFormed) {c : Char}
    (other : isPhraseChar c = false) (unquoted : c ≠ '"') : c ∉ j.leadText.toList := by
  have join : IsPhrase " LEFT OUTER JOIN " := by decide
  have on : IsPhrase " ON " := by decide
  have name := not_mem_toList_append (join.not_mem other)
    (not_mem_quoteName other unquoted formed.table)
  exact not_mem_toList_append
    (not_mem_toList_append name (not_mem_aliasText other unquoted formed.asName)) (on.not_mem other)

section
variable {P : List Char → Prop} (nothing : P [])
  (behind : ∀ {s t}, P t → '%' ∉ s → P (s ++ t))
  (append : ∀ {s t}, P s → P t → t.head? ≠ some '(' → P (s ++ t))
include behind

theorem text_of_condition {j : JoinedTable} (formed : j.WellFormed) (h : P j.condition.toList) :
    P j.text.toList := by
  have whole := behind h (not_mem_leadText formed (by decide) (by decide : '%' ≠ '"'))
  rwa [← String.toList_append] at whole

include nothing append

/-- What holds of each condition, and where texts meet without a parenthesis, holds of all joined
tables. -/
theorem join_of_conditions {joins : List JoinedTable} (formed : ∀ j ∈ joins, j.WellFormed)
    (each : ∀ j ∈ joins, P j.condition.toList) : P (String.join (joins.map text)).toList := by
  induction joins with
  | nil => exact nothing
  | cons j rest ih =>
    rw [List.forall_mem_cons] at formed each
    have follows : (String.join (rest.map text)).toList.head? ≠ some '(' := by
      cases rest with
      | nil => exact nofun
      | cons next more =>
        rw [List.map_cons, String.join_cons, head?_toList_append next.head?_text]
        decide
    rw [List.map_cons, String.join_cons, String.toList_append]
    exact append (text_of_condition behind formed.1 each.1) (ih formed.2 each.2) follows

end

end JoinedTable

def orderText (terms : List OrderTerm) : String :=
  " ORDER BY " ++ String.intercalate ", " (terms.map OrderTerm.text)

/-- The text of a window whose first argument has the given number. -/
def windowText (number : Nat) : String :=
  " \n LIMIT " ++ String.ofList (placeholder number) ++ " OFFSET " ++
    String.ofList (placeholder (number + 1))

theorem ofList_numberedChars_window {terms : List OrderTerm} (ordered : terms ≠ []) (number : Nat)
    (w : Window) :
    String.ofList (numberedChars number (orderPieces terms ++ windowPieces (some w))) =
      orderText terms ++ windowText number := by
  have lead : orderPieces terms = [.text (orderText terms)] :=
    if_neg fun empty => ordered (List.isEmpty_iff.mp empty)
  rw [lead, ← String.toList_inj]
  simp [numberedChars, windowPieces, windowText]

namespace Select

/-- The tables and the criteria, which decide what rows pass. -/
def bodyText (s : Select) : String :=
  s.source.text ++ String.ofList (numberedChars 1 (wherePieces s.criteria))

/-- The number of the first argument behind the criteria. -/
def nextNumber (s : Select) : Nat := (argumentsOf (wherePieces s.criteria)).length + 1

theorem unmarked_of_single {s : Select} (single : s.source.joins = []) :
    ∀ j ∈ s.source.joins, Unmarked j.condition.toList := by
  rw [single]
  exact fun j member => absurd member List.not_mem_nil

variable {s : Select} (formed : s.WellFormed)
include formed

/-- What is in front of the joined tables. -/
theorem not_mem_mainText {c : Char} (other : isPhraseChar c = false) (unquoted : c ≠ '"') :
    c ∉ ("SELECT " ++ s.projection.text ++ (" \nFROM " ++ quoteName s.source.table)).toList := by
  have select : IsPhrase "SELECT " := by decide
  have main : IsPhrase " \nFROM " := by decide
  have selected := not_mem_toList_append (select.not_mem other)
    (Projection.not_mem_text other formed.projection)
  exact not_mem_toList_append selected (not_mem_toList_append (main.not_mem other)
    (not_mem_quoteName other unquoted formed.source.table))

theorem unmarked_frontText (plain : ∀ j ∈ s.source.joins, Unmarked j.condition.toList) :
    Unmarked s.frontText.toList := by
  have joined := JoinedTable.join_of_conditions unmarked_nil Unmarked.behind Unmarked.append
    formed.source.joins plain
  rw [frontText, Source.text, ← String.append_assoc, String.toList_append]
  exact joined.behind (not_mem_mainText formed (by decide) (by decide))

theorem marksClosed_frontText (closed : ∀ j ∈ s.source.joins, MarksClosed j.condition.toList) :
    MarksClosed s.frontText.toList := by
  have joined := JoinedTable.join_of_conditions marksClosed_nil MarksClosed.behind
    MarksClosed.append formed.source.joins closed
  rw [frontText, Source.text, ← String.append_assoc, String.toList_append]
  exact joined.behind (not_mem_mainText formed (by decide) (by decide))

theorem isPhrase_tailPieces : ∀ p ∈ s.tailPieces, p.IsPhrase := by
  refine List.forall_mem_append.mpr ⟨isPhrase_wherePieces formed.criteria, ?_⟩
  exact List.forall_mem_append.mpr
    ⟨isPhrase_orderPieces formed.order, isPhrase_windowPieces s.window⟩

theorem reads_tail : Reads s.tailPieces s.tailTokens :=
  reads_tailPieces formed.criteria formed.order

/-- Behind the tables every mark is that of the next argument. -/
theorem fragments_tailPieces :
    fragments (markedChars 1 s.tailPieces) = markedFragments 1 s.tailPieces := by
  have plain := fragments_markedChars 1
    (fun _ member => (reads_tail formed).percent_not_mem member) []
  rwa [fragments, List.append_nil, List.append_nil] at plain

/-- The parts behind the tables are written with the number of each argument in its place. -/
theorem numberMarks_tailPieces :
    numberMarks s.statement.arguments.length (markedChars 1 s.tailPieces) =
        numberedChars 1 s.tailPieces ∧
      strayMark? s.statement.arguments.length (markedChars 1 s.tailPieces) = none := by
  have fits : 1 + (argumentsOf s.tailPieces).length ≤ s.statement.arguments.length + 1 := by
    rw [argumentsOf_tailPieces, Nat.add_comm]
  rw [numberMarks, strayMark?, fragments_tailPieces formed]
  exact numbered_markedFragments (Nat.le_refl 1) fits

/-- Everything behind the tables is written with the number of each argument in its place. -/
theorem text_of_wellFormed (plain : ∀ j ∈ s.source.joins, Unmarked j.condition.toList) :
    s.statement.text = s.frontText ++ String.ofList (numberedChars 1 s.tailPieces) := by
  rw [← String.toList_inj, String.toList_append, String.toList_ofList, toList_text,
    numberMarks_append ((unmarked_frontText formed plain).append_take s.head?_tailPieces),
    (numberMarks_tailPieces formed).1]

/-- What is selected, what decides about the rows, and behind it the order and the window. -/
theorem text_eq_body (plain : ∀ j ∈ s.source.joins, Unmarked j.condition.toList) :
    s.statement.text = "SELECT " ++ s.projection.text ++ s.bodyText ++
      String.ofList
        (numberedChars s.nextNumber (orderPieces s.order ++ windowPieces s.window)) := by
  rw [text_of_wellFormed formed plain, tailPieces, numberedChars_append, String.ofList_append,
    frontText, bodyText, nextNumber, Nat.add_comm 1]
  simp only [String.append_assoc]

/-- Without joins the text has nothing but characters of statements. -/
theorem readsPlainly_of_single (single : s.source.joins = []) :
    ReadsPlainly s.source.table s.statement.text := by
  have plain := unmarked_of_single single
  have joined : String.join (s.source.joins.map JoinedTable.text) = "" := by
    rw [single]
    rfl
  have tail : IsStatementText (String.ofList (numberedChars 1 s.tailPieces)) := by
    rw [IsStatementText, String.toList_ofList]
    exact forall_mem_numberedChars (isPhrase_tailPieces formed) 1
  refine ⟨_, _, _, ?_, quoteName_of_isSafe formed.source.table,
    Projection.isStatementText formed.projection, .of_isSafe formed.source.table, tail⟩
  rw [text_of_wellFormed formed plain, frontText, Source.text, joined, String.append_empty,
    ← String.append_assoc]

end Select

end ListQuery.Sql
