import ListQuery.Proofs.Number.Whole
import ListQuery.Proofs.Steps
import ListQuery.Proofs.Text.Trim
import ListQuery.Value.Typed
/-!
Values that are typed into a request. Nothing but a whole number with too many digits is refused,
and a value that can be typed at all is read as what it was.
-/
namespace ListQuery

open Number Text

namespace Number

/-- A text that is a whole number with more digits than may be read. -/
def IsOverlong (raw : String) : Prop :=
  ∃ w, WholeNumeral.read? (trim raw.toList) = some w ∧ maxWholeDigits < w.digits.length

theorem exists_read?_wholeText {n : Int} (short : n.natAbs < tenTo maxWholeDigits) :
    ∃ w, WholeNumeral.read? (trim (wholeText n).toList) = some w ∧ w.value? = .ok n := by
  have solid : trim (wholeText n).toList = wholeChars n := by
    rw [wholeText, String.toList_ofList]
    exact trimWhere_of_all fun c member => isBlank_of_mem_wholeChars member
  rw [solid]
  exact exists_read?_wholeChars short

theorem not_isOverlong_of_read?_none {raw : String}
    (none_read : WholeNumeral.read? (trim raw.toList) = none) : ¬IsOverlong raw := by
  rintro ⟨w, read, _⟩
  rw [none_read] at read
  cases read

theorem not_isOverlong_of_read? {raw : String} {w : WholeNumeral}
    (read : WholeNumeral.read? (trim raw.toList) = some w) :
    ¬IsOverlong raw ↔ ∃ n, w.value? = .ok n := by
  rw [WholeNumeral.exists_value?_iff, IsOverlong, read]
  simp

end Number

namespace Value

section
variable {raw : String}

theorem ofTyped_of_no_word
    (no_word : ∀ word ∈ ["true", "false", "null"], trim raw.toList ≠ word.toList) :
    ofTyped raw =
      if isBracketed (trim raw.toList) then .ok (.texts (listItems (trim raw.toList)))
      else typedNumber (trim raw.toList) := by
  simp only [List.forall_mem_cons] at no_word
  obtain ⟨not_true, not_false, not_null, _⟩ := no_word
  simp only [ofTyped, if_neg not_true, if_neg not_false, if_neg not_null]

/-- A whole number is no word with a meaning of its own and has no brackets around it. -/
theorem ofTyped_of_numeral {w : WholeNumeral}
    (read : WholeNumeral.read? (trim raw.toList) = some w) :
    ofTyped raw = w.value?.map Value.int := by
  have other {s : List Char} (no_numeral : WholeNumeral.read? s = none) :
      trim raw.toList ≠ s := by
    intro same
    rw [same, no_numeral] at read
    cases read
  have words : ∀ word ∈ ["true", "false", "null"], WholeNumeral.read? word.toList = none := by
    decide
  have bare : isBracketed (trim raw.toList) = false := by
    cases chars : trim raw.toList with
    | nil => rfl
    | cons c rest =>
      have no_bracket : c ≠ '[' := by
        rintro rfl
        exact other (WholeNumeral.read?_bracket rest) chars
      simp [isBracketed, no_bracket]
  rw [ofTyped_of_no_word fun word member => other (words word member), bare,
    if_neg Bool.false_ne_true]
  simp only [typedNumber, read]

/-- A value can be read unless it is a whole number that is too long. -/
theorem exists_ofTyped_iff : (∃ v, ofTyped raw = .ok v) ↔ ¬IsOverlong raw := by
  cases read : WholeNumeral.read? (trim raw.toList) with
  | some w => rw [ofTyped_of_numeral read, exists_map_eq_ok_iff, not_isOverlong_of_read? read]
  | none =>
    have number : ∃ v, typedNumber (trim raw.toList) = .ok v := by
      simp only [typedNumber, read]
      split
      · exact ⟨_, rfl⟩
      · exact ⟨_, rfl⟩
    refine iff_of_true ?_ (not_isOverlong_of_read?_none read)
    simp only [ofTyped]
    split_ifs
    · exact ⟨_, rfl⟩
    · exact ⟨_, rfl⟩
    · exact ⟨_, rfl⟩
    · exact ⟨_, rfl⟩
    · exact number

theorem ofTyped_of_bracketed (enclosed : isBracketed (trim raw.toList) = true) :
    ofTyped raw = .ok (.texts (listItems (trim raw.toList))) := by
  have words : ∀ word ∈ ["true", "false", "null"], isBracketed word.toList = false := by decide
  have no_word : ∀ word ∈ ["true", "false", "null"], trim raw.toList ≠ word.toList := by
    intro word member same
    rw [same, words word member] at enclosed
    cases enclosed
  rw [ofTyped_of_no_word no_word, if_pos enclosed]

end

/-- A value as it is typed. What cannot be typed is left out. -/
def typed : Value → String
  | .null => "null"
  | .scalar (.bool b) => if b then "true" else "false"
  | .scalar (.int n) => wholeText n
  | .scalar (.text s) => s
  | .list items => "[" ++ String.intercalate "," (items.filterMap text?) ++ "]"
  | _ => ""

/-- A text that can stand in a typed list. -/
structure IsListItem (item : String) : Prop where
  some_char : item ≠ ""
  trimmed : trim item.toList = item.toList
  plain : ∀ c ∈ item.toList, c ≠ ',' ∧ c ≠ '[' ∧ c ≠ ']'

instance (item : String) : Decidable (IsListItem item) :=
  decidable_of_iff (item ≠ "" ∧ trim item.toList = item.toList ∧
      item.toList.all fun c => c ≠ ',' ∧ c ≠ '[' ∧ c ≠ ']')
    ⟨fun ⟨h, i, j⟩ => ⟨h, i, by simpa using j⟩, fun ⟨h, i, j⟩ => ⟨h, i, by simpa using j⟩⟩

/-- The values that can be typed. A text is one of them if it does not read as something else. -/
inductive IsTypeable : Value → Prop where
  | null : IsTypeable .null
  | bool (b : Bool) : IsTypeable (.bool b)
  | int {n : Int} (short : n.natAbs < tenTo maxWholeDigits) : IsTypeable (.int n)
  | text {s : String} (itself : ofTyped s = .ok (.text s)) : IsTypeable (.text s)
  | texts {items : List String} (each : ∀ item ∈ items, IsListItem item) :
    IsTypeable (.texts items)

section
variable {items : List String} (each : ∀ item ∈ items, IsListItem item)
include each

theorem listItems_enclosed :
    listItems ('[' :: ([','].intercalate (items.map String.toList) ++ [']'])) = items := by
  have kept : ∀ c ∈ [','].intercalate (items.map String.toList), isBracket c = false := by
    have comma : isBracket ',' = false := by decide
    refine forall_mem_intercalate (List.forall_mem_singleton.mpr comma) (List.forall_mem_map.mpr ?_)
    intro item member c inside
    obtain ⟨_, opening, closing⟩ := (each item member).plain c inside
    simp [isBracket, opening, closing]
  rw [listItems, trimWhere_enclosed (by decide) (by decide) kept]
  cases items with
  | nil => rfl
  | cons first rest =>
    have parts : ([','].intercalate ((first :: rest).map String.toList)).splitOn ',' =
        (first :: rest).map String.toList := by
      refine List.splitOn_intercalate ',' (List.forall_mem_map.mpr ?_) (List.cons_ne_nil _ _)
      intro item member inside
      exact ((each item member).plain ',' inside).1 rfl
    have some_char : ([','].intercalate ((first :: rest).map String.toList)).isEmpty = false := by
      rw [List.isEmpty_eq_false_iff]
      intro empty
      rw [empty] at parts
      -- an empty text has one part, and it is empty
      obtain ⟨blank, _⟩ := List.cons_eq_cons.mp parts
      exact (each first List.mem_cons_self).some_char (String.toList_eq_nil_iff.mp blank.symm)
    have trimmed : ∀ item ∈ first :: rest, String.ofList (trim item.toList) = item := by
      intro item member
      rw [(each item member).trimmed, String.ofList_toList]
    simp only [some_char, if_neg Bool.false_ne_true, commaPieces, parts, List.map_map]
    exact (List.map_congr_left trimmed).trans (List.map_id _)

/-- A typed list is read as its items. -/
theorem ofTyped_typed_texts : ofTyped (typed (.texts items)) = .ok (.texts items) := by
  have themselves : (items.map text).filterMap text? = items := by
    rw [List.filterMap_map]
    exact List.filterMap_some
  have chars : (typed (.texts items)).toList =
      '[' :: ([','].intercalate (items.map String.toList) ++ [']']) := by
    rw [texts, typed, themselves, String.toList_append, String.toList_append,
      String.toList_intercalate]
    rfl
  have last : ('[' :: ([','].intercalate (items.map String.toList) ++ [']'])).getLast? =
      some ']' := by
    rw [← List.cons_append, List.getLast?_concat]
  have whole : trim (typed (.texts items)).toList =
      '[' :: ([','].intercalate (items.map String.toList) ++ [']']) := by
    rw [chars]
    refine trimWhere_of_ends ?_ ?_
    · rintro c ⟨⟩
      decide
    · rw [last]
      rintro c ⟨⟩
      decide
  have enclosed : isBracketed (trim (typed (.texts items)).toList) = true := by
    rw [whole, isBracketed, last]
    rfl
  rw [ofTyped_of_bracketed enclosed, whole, listItems_enclosed each]

end

/-- What is typed for a value is read as this value. -/
theorem ofTyped_typed {v : Value} (typeable : v.IsTypeable) : ofTyped v.typed = .ok v := by
  cases typeable with
  | null => rfl
  | bool b => cases b <;> rfl
  | int short =>
    obtain ⟨w, read, value⟩ := exists_read?_wholeText short
    rw [int, typed, ofTyped_of_numeral read, value]
    rfl
  | text itself => exact itself
  | texts each => exact ofTyped_typed_texts each

end Value

end ListQuery
