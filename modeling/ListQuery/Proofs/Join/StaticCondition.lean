import ListQuery.Join.StaticCondition
import ListQuery.Proofs.Listing.Buildable
import ListQuery.Proofs.Sql.Alphabet
import ListQuery.Proofs.Sql.Literal
/-!
Conditions of joins beside those of requests. A scalar under a known operator is written in both, in
the one as a literal and in the other as an argument, and the texts differ in nothing else. Null is
let through by a condition of a join whatever its operator is, and a whole number that is too long
can be an argument but not a literal. A literal without marks cannot be refused for one.
-/
namespace ListQuery

open Sql Column Number

/-- A condition of a request with the same parts. -/
def StaticCondition.request (c : StaticCondition) : Condition := ⟨c.column, c.operator, c.value⟩

/-- A condition of a request as a text of its own, with its argument. -/
def Condition.statement (c : Condition) : Except QueryFault Statement :=
  c.predicate.map fun p => .ofPieces p.pieces

/-- A text with a literal in the place of its placeholder, which is a dollar sign with the digits
behind it. -/
def fillPlaceholder (literal : List Char) : List Char → List Char
  | [] => []
  | c :: rest =>
    if c = '$' then literal ++ rest.dropWhile Char.isDigit else c :: fillPlaceholder literal rest

theorem fillPlaceholder_of_not_mem {s : List Char} (none_there : '$' ∉ s) (literal t : List Char) :
    fillPlaceholder literal (s ++ t) = s ++ fillPlaceholder literal t := by
  induction s with
  | nil => rfl
  | cons c rest ih =>
    rw [List.mem_cons, not_or] at none_there
    rw [List.cons_append, fillPlaceholder, if_neg (Ne.symm none_there.1), ih none_there.2,
      List.cons_append]

theorem Column.resolve_of_short {column : String} (short : (segments column).length ≤ 2) :
    resolve column = column := if_neg (Nat.not_le.mpr (Nat.lt_succ_of_le short))

/-- Pieces on their own are numbered from one on. -/
theorem Sql.toList_text_ofPieces {ps : List Piece} (phrases : ∀ p ∈ ps, p.IsPhrase) :
    (Statement.ofPieces ps).text.toList = numberedChars 1 ps := by
  have free : ∀ text, .text text ∈ ps → '%' ∉ text.toList := fun text member =>
    IsPhrase.not_mem (phrases _ member) (by decide)
  have numbered := numberMarks_markedChars (Nat.le_refl 1) (Nat.le_of_eq (Nat.add_comm 1 _)) free []
  rw [List.append_nil, numberMarks_nil, List.append_nil] at numbered
  rw [Statement.ofPieces, String.toList_ofList]
  exact numbered

section
variable {s : List Char}

theorem Sql.unmarked_doubleQuotes (h : Unmarked s) : Unmarked (doubleQuotes s) := by
  induction s with
  | nil => exact unmarked_nil
  | cons c rest ih =>
    obtain ⟨front, later⟩ := unmarked_cons_iff.mp h
    by_cases quote : c = quoteChar
    · rw [quote, doubleQuotes_quote]
      exact (ih later).behind (by decide : '%' ∉ [quoteChar, quoteChar])
    · rw [doubleQuotes_cons quote]
      refine unmarked_cons_iff.mpr ⟨fun percent opens => ?_, ih later⟩
      cases rest with
      | nil => cases opens
      | cons d more =>
        by_cases next : d = quoteChar
        · rw [next, doubleQuotes_quote] at opens
          exact absurd (Option.some.inj opens) (by decide)
        · rw [doubleQuotes_cons next] at opens
          exact front percent opens

/-- Two single quotes around a text add no mark to it. -/
theorem Sql.unmarked_textLiteral {text : String} (h : Unmarked text.toList) :
    Unmarked (textLiteral text).toList := by
  have closing : Unmarked [quoteChar] := unmarked_of_length_le_one (Nat.le_refl 1)
  rw [textLiteral, String.toList_ofList]
  exact ((unmarked_doubleQuotes h).append closing (by decide)).behind
    (by decide : '%' ∉ [quoteChar])

theorem Sql.unmarked_of_not_mem (free : '%' ∉ s) : Unmarked s :=
  List.append_nil s ▸ unmarked_nil.behind free

theorem Number.percent_not_mem_wholeText (n : Int) : '%' ∉ (wholeText n).toList := by
  rw [wholeText, String.toList_ofList, wholeChars]
  refine List.not_mem_append ?_ fun digit => ?_
  · split <;> decide
  · have isDigit := Nat.isDigit_of_mem_toDigits (by decide) (by decide) digit
    cases isDigit

end

/-- Null, a truth value, a whole number, or a text without a mark. -/
def Value.IsUnmarked : Value → Prop
  | .null | .scalar (.bool _) | .scalar (.int _) => True
  | .scalar (.text s) => Unmarked s.toList
  | _ => False

theorem Value.unmarked_literal {v : Value} {literal : String} (plain : v.IsUnmarked)
    (written : valueLiteral v = .ok literal) : Unmarked literal.toList := by
  cases v with
  | null =>
    cases written
    exact unmarked_of_not_mem (by decide)
  | scalar s =>
    cases s with
    | bool b =>
      cases written
      cases b <;> exact unmarked_of_not_mem (by decide)
    | int n =>
      have fits : writeWhole n = .ok literal := mapError_eq_ok_iff.mp written
      rw [writeWhole] at fits
      split at fits
      · cases fits
      · cases fits
        exact unmarked_of_not_mem (percent_not_mem_wholeText n)
    | text s =>
      cases written
      exact unmarked_textLiteral plain
    | float x => cases plain
  | list _ | object _ | date _ | moment _ => cases plain

theorem Operator.exists_ofName?_iff {name : String} :
    (∃ op, ofName? name = some op) ↔ name ∈ operatorNames := by
  constructor
  · rintro ⟨op, found⟩
    exact mem_operatorNames found
  · intro known
    obtain ⟨op, _, rfl⟩ := List.mem_map.mp known
    exact ⟨op, ofName?_name op⟩

/-- Null has a test under equality and its opposite only. -/
theorem exists_compares_null_iff {name operator : String} :
    (∃ op p, Operator.ofName? operator = some op ∧ Compares name op .null p) ↔
      operator = Operator.eq.name ∨ operator = Operator.ne.name := by
  constructor
  · rintro ⟨op, p, known, compares⟩
    rw [← Operator.name_of_ofName? known]
    cases compares with
    | isNull => exact .inl rfl
    | isNotNull => exact .inr rfl
  · rintro (rfl | rfl)
    · exact ⟨.eq, _, Operator.ofName?_name .eq, .isNull⟩
    · exact ⟨.ne, _, Operator.ofName?_name .ne, .isNotNull⟩

/-- A scalar can be written unless it is a whole number that is too long. -/
theorem exists_scalarLiteral_iff {s : Scalar} :
    (∃ literal, scalarLiteral s = .ok literal) ↔ (Value.scalar s).IsTyped := by
  cases s with
  | bool b | float x | text t => exact iff_of_true ⟨_, rfl⟩ trivial
  | int n =>
    have short : n.natAbs < tenTo maxWholeDigits ↔
        ¬maxWholeDigits < (Nat.toDigits 10 n.natAbs).length := by
      rw [Nat.not_lt]
      exact (length_toDigits_le_iff (by decide)).symm
    change (∃ literal, (writeWhole n).mapError _ = .ok literal) ↔ n.natAbs < tenTo maxWholeDigits
    simp only [mapError_eq_ok_iff]
    rw [short, writeWhole]
    split
    · next long =>
      refine iff_of_false ?_ fun short => short long
      rintro ⟨_, refused⟩
      cases refused
    · next fits => exact iff_of_true ⟨_, rfl⟩ fits

theorem Condition.statement_eq_ok_iff {c : Condition} {st : Statement} : c.statement = .ok st ↔
    ∃ op p, Operator.ofName? c.operator = some op ∧ IsSafe (resolve c.column) ∧
      Compares (resolve c.column) op c.value p ∧ st = .ofPieces p.pieces := by
  rw [statement, map_eq_ok_iff]
  simp only [predicate_eq_ok_iff, comparison_eq_ok_iff]
  constructor
  · rintro ⟨p, ⟨op, known, safe, compares⟩, rfl⟩
    exact ⟨op, p, known, safe, compares, rfl⟩
  · rintro ⟨op, p, known, safe, compares, rfl⟩
    exact ⟨p, ⟨op, known, safe, compares⟩, rfl⟩

namespace StaticCondition

variable {c : StaticCondition}

theorem text_of_null (null : c.value = .null) : c.text = .ok c.nullTest := by
  rw [text, null]

theorem text_of_scalar {s : Scalar} (scalar : c.value = .scalar s) {op : Operator}
    (known : Operator.ofName? c.operator = some op) : c.text =
      ((scalarLiteral s).map fun literal => c.column ++ " " ++ op.sign ++ " " ++ literal).mapError
        .literal := by
  simp only [text, scalar, known, comparisonText, valueLiteral]
  cases scalarLiteral s <;> rfl

theorem text_of_unknown {s : Scalar} (scalar : c.value = .scalar s)
    (unknown : Operator.ofName? c.operator = none) :
    c.text = .error (.unknownOperator c.operator) := by
  simp only [text, scalar, unknown]

theorem text_of_scalar_eq_ok_iff {s : Scalar} (scalar : c.value = .scalar s) {t : String} :
    c.text = .ok t ↔ ∃ op literal, Operator.ofName? c.operator = some op ∧
      scalarLiteral s = .ok literal ∧ t = c.column ++ " " ++ op.sign ++ " " ++ literal := by
  cases known : Operator.ofName? c.operator with
  | none =>
    rw [text_of_unknown scalar known]
    exact iff_of_false nofun fun ⟨_, _, found, _⟩ => nomatch found
  | some op =>
    rw [text_of_scalar scalar known, mapError_eq_ok_iff, map_eq_ok_iff]
    constructor
    · rintro ⟨literal, written, rfl⟩
      exact ⟨op, literal, rfl, written, rfl⟩
    · rintro ⟨_, literal, same, written, rfl⟩
      cases same
      exact ⟨literal, written, rfl⟩

/-- The two accept the same null or scalar exactly when the operator goes with the value and a whole
number can be written, or the operator is unknown. -/
theorem accepted_alike (safe : IsSafe (resolve c.column))
    (single : c.value = .null ∨ ∃ s, c.value = .scalar s) :
    ((∃ t, c.text = .ok t) ↔ ∃ st, c.request.statement = .ok st) ↔
      c.request.Comparable ∧ (c.operator ∈ operatorNames → c.value.IsTyped) := by
  have requested : (∃ st, c.request.statement = .ok st) ↔
      ∃ op p, Operator.ofName? c.operator = some op ∧ Compares (resolve c.column) op c.value p := by
    simp only [Condition.statement_eq_ok_iff]
    constructor
    · rintro ⟨_, op, p, known, _, compares, _⟩
      exact ⟨op, p, known, compares⟩
    · rintro ⟨op, p, known, compares⟩
      exact ⟨_, op, p, known, safe, compares, rfl⟩
  rcases single with null | ⟨s, scalar⟩
  · have rendered : ∃ t, c.text = .ok t := ⟨_, text_of_null null⟩
    rw [requested, null, exists_compares_null_iff]
    simp [rendered, Condition.Comparable, request, null, Value.IsTyped]
  · have rendered : (∃ t, c.text = .ok t) ↔ c.operator ∈ operatorNames ∧ c.value.IsTyped := by
      rw [← Operator.exists_ofName?_iff, scalar, ← exists_scalarLiteral_iff]
      simp only [text_of_scalar_eq_ok_iff scalar]
      constructor
      · rintro ⟨_, op, literal, known, written, _⟩
        exact ⟨⟨op, known⟩, literal, written⟩
      · rintro ⟨⟨op, known⟩, literal, written⟩
        exact ⟨_, op, literal, known, written, rfl⟩
    have bound : (∃ st, c.request.statement = .ok st) ↔ c.operator ∈ operatorNames := by
      rw [requested, ← Operator.exists_ofName?_iff, scalar]
      exact ⟨fun ⟨op, _, known, _⟩ => ⟨op, known⟩, fun ⟨op, known⟩ => ⟨op, _, known, .compare op s⟩⟩
    have comparable : c.request.Comparable := .inr (.inr ⟨s, scalar⟩)
    rw [rendered, bound, and_iff_right comparable]
    exact and_iff_left_iff_imp

/-- Where both are written, the literal stands where the other has its placeholder. -/
theorem text_eq_fillPlaceholder (kept : resolve c.column = c.column)
    (single : c.value = .null ∨ ∃ s, c.value = .scalar s) {t : String} {st : Statement}
    (rendered : c.text = .ok t) (requested : c.request.statement = .ok st) :
    ∃ literal, valueLiteral c.value = .ok literal ∧
      t.toList = fillPlaceholder literal.toList st.text.toList := by
  obtain ⟨op, p, known, safe, compares, rfl⟩ := Condition.statement_eq_ok_iff.mp requested
  change Operator.ofName? c.operator = some op at known
  change IsSafe (resolve c.column) at safe
  change Compares (resolve c.column) op c.value p at compares
  rw [kept] at safe compares
  have free {text : String} (phrase : IsPhrase text) : '$' ∉ text.toList :=
    phrase.not_mem (by decide)
  rcases single with null | ⟨s, scalar⟩
  · have whole {test : String} (named : c.nullTest = c.column ++ test) (phrase : IsPhrase test) :
        t.toList = fillPlaceholder "NULL".toList
          (Statement.ofPieces [.text (c.column ++ test)]).text.toList := by
      have written : IsPhrase (c.column ++ test) := (IsPhrase.of_isSafe safe).append phrase
      have phrases : ∀ piece ∈ [Piece.text (c.column ++ test)], piece.IsPhrase :=
        List.forall_mem_singleton.mpr written
      rw [toList_text_ofPieces phrases, numberedChars, fillPlaceholder_of_not_mem (free written),
        numberedChars, fillPlaceholder, List.append_nil]
      rw [text_of_null null, named] at rendered
      rw [Except.ok.inj rendered]
    refine ⟨"NULL", by rw [null, valueLiteral], ?_⟩
    rw [null] at compares
    have spelled := Operator.name_of_ofName? known
    cases compares with
    | isNull => exact whole (by rw [nullTest, ← spelled]; rfl) (by decide)
    | isNotNull => exact whole (by rw [nullTest, ← spelled]; rfl) (by decide)
  · obtain ⟨_, literal, found, written, rfl⟩ := (text_of_scalar_eq_ok_iff scalar).mp rendered
    rw [known] at found
    cases found
    rw [scalar] at compares
    cases compares
    refine ⟨literal, by rw [scalar, valueLiteral, written], ?_⟩
    have phrases := Predicate.isPhrase_pieces (p := .compare c.column op s) safe
    have front : '$' ∉ (c.column ++ " " ++ op.sign ++ " ").toList :=
      free (phrases _ List.mem_cons_self)
    have mark : fillPlaceholder literal.toList ['$', '1'] = literal.toList := List.append_nil _
    rw [toList_text_ofPieces phrases, Predicate.pieces, numberedChars,
      fillPlaceholder_of_not_mem front, String.toList_append]
    exact congrArg _ mark.symm

/-- Where neither the column nor the value has a mark, the text has none. -/
theorem unmarked_text (column : Unmarked c.column.toList) (value : c.value.IsUnmarked) {t : String}
    (rendered : c.text = .ok t) : Unmarked t.toList := by
  have behind {rest : String} (plain : Unmarked rest.toList)
      (follows : rest.toList.head? ≠ some '(') : Unmarked (c.column ++ rest).toList := by
    rw [String.toList_append]
    exact column.append plain follows
  rw [text] at rendered
  split at rendered
  · cases rendered
    rw [nullTest]
    split
    · exact behind (unmarked_of_not_mem (by decide)) (by decide)
    · exact behind (unmarked_of_not_mem (by decide)) (by decide)
  · split at rendered
    · cases rendered
    · next op _ =>
      rw [comparisonText] at rendered
      split at rendered
      · next literal written =>
        cases rendered
        have sign : '%' ∉ (" " ++ op.sign ++ " ").toList := by cases op <;> decide
        have blank : " ".toList.head? = some ' ' := by decide
        have first : (" " ++ op.sign ++ " " ++ literal).toList.head? ≠ some '(' := by
          rw [head?_toList_append (head?_toList_append (head?_toList_append blank))]
          decide
        have plain := (Value.unmarked_literal value written).behind sign
        rw [← String.toList_append] at plain
        have whole := behind plain first
        simpa only [String.append_assoc] using whole
      · cases rendered

theorem textUnder_eq_ok_iff {strays : StrayMarks} {t : String} :
    c.textUnder strays = .ok t ↔ c.text = .ok t ∧ strays.refusal? 0 t.toList = none := by
  rw [textUnder, bind_eq_ok_iff]
  constructor
  · rintro ⟨written, rendered, h⟩
    split at h
    · next passed =>
      cases h
      exact ⟨rendered, passed⟩
    · cases h
  · rintro ⟨rendered, passed⟩
    refine ⟨t, rendered, ?_⟩
    rw [passed]

/-- A text is not refused for a mark where such marks are kept, or where there are none. -/
theorem textUnder_eq_text {strays : StrayMarks}
    (marks : strays = .kept ∨ Unmarked c.column.toList ∧ c.value.IsUnmarked) :
    c.textUnder strays = c.text := by
  cases rendered : c.text with
  | error fault =>
    rw [textUnder, rendered]
    rfl
  | ok t =>
    refine textUnder_eq_ok_iff.mpr ⟨rendered, ?_⟩
    rcases marks with rfl | ⟨column, value⟩
    · rfl
    · exact refusal?_of_unmarked strays 0 (unmarked_text column value rendered)

/-- A condition of a join and one of a request are accepted alike only where the operator goes with
the value, since null is never held against the operator in a join. Where both are accepted, the
texts are the same but for the value. Where stray marks are refused, the value is one without. -/
theorem agrees_with_request_iff {strays : StrayMarks} (safe : IsSafe c.column)
    (short : (segments c.column).length ≤ 2) (single : c.value = .null ∨ ∃ s, c.value = .scalar s)
    (marks : strays = .kept ∨ c.value.IsUnmarked) :
    (((∃ t, c.textUnder strays = .ok t) ↔ ∃ st, c.request.statement = .ok st) ↔
      c.request.Comparable ∧ (c.operator ∈ operatorNames → c.value.IsTyped)) ∧
    ∀ t st, c.textUnder strays = .ok t → c.request.statement = .ok st →
      ∃ literal, valueLiteral c.value = .ok literal ∧
        t.toList = fillPlaceholder literal.toList st.text.toList := by
  have kept : resolve c.column = c.column := resolve_of_short short
  have column : Unmarked c.column.toList :=
    unmarked_of_not_mem ((IsPhrase.of_isSafe safe).not_mem (by decide))
  rw [textUnder_eq_text (marks.imp_right fun value => ⟨column, value⟩)]
  refine ⟨accepted_alike (by rwa [kept]) single, ?_⟩
  exact fun t st rendered requested => text_eq_fillPlaceholder kept single rendered requested

/-- A text with a quote under a safe column of two segments. -/
theorem agrees_with_request_iff_for_kind :
    let c : StaticCondition := ⟨"tags.kind", "ne", .scalar (.text "it's")⟩
    c.value.IsUnmarked ∧
      ((∃ t, c.textUnder .refused = .ok t) ↔ ∃ st, c.request.statement = .ok st) ∧
      ∃ literal, valueLiteral c.value = .ok literal ∧ "tags.kind != 'it''s'".toList =
        fillPlaceholder literal.toList "tags.kind != $1".toList := by
  intro c
  have safe : IsSafe c.column := by decide +kernel
  have short : (segments c.column).length ≤ 2 := by decide +kernel
  have scalar : c.value = .null ∨ ∃ s, c.value = .scalar s := .inr ⟨.text "it's", rfl⟩
  have plain : c.value.IsUnmarked := unmarked_of_not_mem (by decide)
  have rendered : c.textUnder .refused = .ok "tags.kind != 'it''s'" := by decide +kernel
  have requested : c.request.statement = .ok ⟨"tags.kind != $1", [.text "it's"]⟩ := by
    decide +kernel
  have marks : StrayMarks.refused = .kept ∨ c.value.IsUnmarked := .inr plain
  have agrees := agrees_with_request_iff safe short scalar marks
  exact ⟨plain, agrees.1.mpr ⟨.inr (.inl rfl), fun _ => trivial⟩, agrees.2 _ _ rendered requested⟩

/-- A misspelled condition of a join is written as a test for null; the same condition is refused in
a request, and in the join itself with any value beside null. -/
theorem misspelled_operator_written :
    let c : StaticCondition := ⟨"tags.deleted_at", "neq", .null⟩
    c.text = .ok "tags.deleted_at IS NULL" ∧
      c.request.statement = .error (.unknownOperator "neq" "tags.deleted_at") ∧
      (StaticCondition.mk "tags.deleted_at" "neq" (.scalar (.text ""))).text =
        .error (.unknownOperator "neq") := by
  refine ⟨?_, ?_, ?_⟩ <;> rfl

/-- Whenever a text is written, it is one literal of the standard. Where backslashes are escapes it
may be read as something else, since only quotes are doubled; with the backslashes doubled as well
it would be one literal in either reading. It is written unless it is refused for a mark. -/
theorem text_reads_as_literal (strays : StrayMarks) (column : String) (op : Operator)
    (value : String) :
    let c : StaticCondition := ⟨column, op.name, .scalar (.text value)⟩
    (∀ t, c.textUnder strays = .ok t →
      ∃ literal, t = column ++ " " ++ op.sign ++ " " ++ literal ∧
        Denotes .standard literal value ∧
        (IsLiteral .escapes literal ↔ BackslashesPaired value.toList) ∧
        (Denotes .escapes literal value ↔ '\\' ∉ value.toList) ∧
        IsLiteral .standard (backslashesDoubled literal) ∧
        Denotes .escapes (backslashesDoubled literal) value) ∧
    (strays = .kept ∨ Unmarked column.toList ∧ Unmarked value.toList →
      ∃ t, c.textUnder strays = .ok t) := by
  intro c
  have written : c.text = .ok (column ++ " " ++ op.sign ++ " " ++ textLiteral value) :=
    (text_of_scalar_eq_ok_iff rfl).mpr ⟨op, _, Operator.ofName?_name op, rfl, rfl⟩
  constructor
  · intro t rendered
    have same := (textUnder_eq_ok_iff.mp rendered).1
    rw [written] at same
    exact ⟨textLiteral value, (Except.ok.inj same).symm, denotes_textLiteral (.inl rfl),
      isLiteral_escapes_textLiteral_iff value, denotes_escapes_textLiteral_iff value,
      isLiteral_backslashesDoubled value, denotes_backslashesDoubled value⟩
  · intro marks
    exact ⟨_, (textUnder_eq_text marks).trans written⟩

/-- A text with a mark, which is kept, and with a quote behind a pair of backslashes. -/
theorem text_reads_as_literal_for_marked_text :
    let c : StaticCondition := ⟨"tags.kind", "eq", .scalar (.text "%(x)s\\\\'s")⟩
    c.textUnder .kept = .ok "tags.kind = '%(x)s\\\\''s'" ∧
      c.textUnder .refused = .error (.strayMark "x") ∧
      ∃ literal, "tags.kind = '%(x)s\\\\''s'" = "tags.kind = " ++ literal ∧
        Denotes .standard literal "%(x)s\\\\'s" := by
  intro c
  have rendered : c.textUnder .kept = .ok "tags.kind = '%(x)s\\\\''s'" := by decide +kernel
  obtain ⟨literal, parts, denotes, _⟩ :=
    (text_reads_as_literal .kept "tags.kind" .eq "%(x)s\\\\'s").1 _ rendered
  exact ⟨rendered, by decide +kernel, literal, parts, denotes⟩

/-- A backslash in front of a quote takes the first of the two quotes written for it, and the second
one closes the literal. -/
theorem backslash_breaks_out :
    let written := "'\\'' OR true --'"
    (StaticCondition.mk "tags.kind" "eq" (.scalar (.text "\\' OR true --"))).text =
        .ok ("tags.kind = " ++ written) ∧
      (literal? .escapes written.toList).map Prod.snd = some " OR true --'".toList ∧
      ¬IsLiteral .escapes written := by
  refine ⟨by decide +kernel, by decide +kernel, ?_⟩
  rintro ⟨parts, read⟩
  have ended : (literal? .escapes "'\\'' OR true --'".toList).map Prod.snd = some [] :=
    congrArg (Option.map Prod.snd) read
  exact absurd ended (by decide +kernel)

end StaticCondition

end ListQuery
