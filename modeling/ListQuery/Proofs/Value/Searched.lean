import ListQuery.Listing.Where
import ListQuery.Proofs.Value.Typed
/-!
Search terms as they are typed. A term is read as a value, and the value is written as a text again
when it is searched for. Words come back, and so do texts that are no list and no number; lists and
numbers come back exactly where they were typed in the form in which they are written.
-/
namespace ListQuery

open Number Text

/-- A trimmed text that is searched for as it was typed. -/
inductive IsSearchedAsTyped : List Char → Prop
  | text {s : List Char} (bare : isBracketed s = false) (no_whole : WholeNumeral.read? s = none)
      (no_decimal : typedDecimal? s = none) : IsSearchedAsTyped s
  | list {middle : List Char} (bare : trimWhere isBracket middle = middle)
      (trimmed : ∀ piece ∈ middle.splitOn ',', trim piece = piece) :
    IsSearchedAsTyped ('[' :: (middle ++ [']']))
  | whole (n : Int) : IsSearchedAsTyped (wholeChars n)
  | decimal {s : List Char} {x : Binary64} (no_whole : WholeNumeral.read? s = none)
      (read : typedDecimal? s = some x) (written : x.text.toList = s) : IsSearchedAsTyped s

theorem exists_middle_of_isBracketed {s : List Char} (enclosed : isBracketed s = true) :
    ∃ middle, s = '[' :: (middle ++ [']']) := by
  rw [isBracketed, Bool.and_eq_true, beq_iff_eq, beq_iff_eq] at enclosed
  obtain ⟨first, last⟩ := enclosed
  obtain ⟨rest, rfl⟩ := List.head?_eq_some_iff.mp first
  rcases List.eq_nil_or_concat' rest with rfl | ⟨middle, c, rfl⟩
  · cases last
  · rw [← List.cons_append, List.getLast?_concat] at last
    cases last
    exact ⟨middle, rfl⟩

/-- The items of a list, put together again. -/
theorem intercalate_listItems (s : List Char) :
    [','].intercalate ((listItems s).map String.toList) =
      [','].intercalate (commaPieces (trimWhere isBracket s)) := by
  rw [listItems]
  split
  · next empty =>
    rw [List.isEmpty_iff.mp empty]
    rfl
  · rw [List.map_map]
    have same : String.toList ∘ String.ofList = id := by
      funext chars
      exact String.toList_ofList
    rw [same, List.map_id]

theorem searchText_texts (items : List String) :
    searchText (.texts items) = .ok ("[" ++ String.intercalate "," items ++ "]") := by
  have texts : (items.map Value.text).mapM itemText = .ok items := by
    rw [mapM_eq_ok_iff, List.forall₂_map_left_iff, List.forall₂_same]
    exact fun _ _ => rfl
  rw [Value.texts, searchText, texts]
  rfl

/-- A list is put together as its middle exactly when no bracket and no blank is lost. -/
theorem intercalate_commaPieces_eq_iff {middle : List Char} :
    [','].intercalate (commaPieces (trimWhere isBracket middle)) = middle ↔
      trimWhere isBracket middle = middle ∧ ∀ piece ∈ middle.splitOn ',', trim piece = piece := by
  have trimmed_sublist (s : List Char) : ([','].intercalate (commaPieces s)).Sublist s := by
    have smaller := sublist_intercalate (f := trim) [','] fun piece (_ : piece ∈ s.splitOn ',') =>
      trimWhere_sublist isBlank piece
    rwa [List.intercalate_splitOn] at smaller
  constructor
  · intro same
    have inner := trimWhere_sublist isBracket middle
    have whole := trimmed_sublist (trimWhere isBracket middle)
    rw [same] at whole
    have bare := inner.antisymm whole
    rw [bare] at same
    refine ⟨bare, fun piece member => ?_⟩
    have free : ∀ piece ∈ commaPieces middle, ',' ∉ piece := by
      refine List.forall_mem_map.mpr fun piece member inside => ?_
      exact not_mem_of_mem_splitOn member ((trimWhere_sublist isBlank piece).subset inside)
    have parts := List.splitOn_intercalate ',' free (by simp [commaPieces, List.splitOn_ne_nil])
    rw [same] at parts
    have fixed : (middle.splitOn ',').map trim = (middle.splitOn ',').map id := by
      rw [List.map_id]
      exact parts.symm
    exact List.map_inj_left.mp fixed piece member
  · rintro ⟨bare, trimmed⟩
    have pieces : commaPieces middle = middle.splitOn ',' := by
      rw [commaPieces, List.map_congr_left trimmed, List.map_id']
    rw [bare, pieces, List.intercalate_splitOn]

theorem isBracketed_enclosed (middle : List Char) :
    isBracketed ('[' :: (middle ++ [']'])) = true := by
  rw [isBracketed, ← List.cons_append, List.getLast?_concat]
  rfl

theorem Number.Numeral.read?_bracket (rest : List Char) : Numeral.read? ('[' :: rest) = none := by
  have no_digit : digitValue? '[' = none := by decide
  simp [read?, readSign, readDigits, no_digit]

theorem typedDecimal?_bracket (rest : List Char) : typedDecimal? ('[' :: rest) = none := by
  rw [typedDecimal?, Numeral.read?_bracket]
  split <;> rfl

section
variable {s : List Char}

/-- A list is searched for as it was typed if it is one of the lists that are. -/
theorem shown_list_iff {middle : List Char} :
    ("[" ++ String.intercalate "," (listItems ('[' :: (middle ++ [']']))) ++ "]").toList =
        '[' :: (middle ++ [']']) ↔ IsSearchedAsTyped ('[' :: (middle ++ [']'])) := by
  have outer : trimWhere isBracket ('[' :: (middle ++ [']'])) = trimWhere isBracket middle :=
    trimWhere_between rfl rfl middle
  have chars :
      ("[" ++ String.intercalate "," (listItems ('[' :: (middle ++ [']']))) ++ "]").toList =
        '[' :: ([','].intercalate (commaPieces (trimWhere isBracket middle)) ++ [']']) := by
    rw [String.toList_append, String.toList_append, String.toList_intercalate, ← outer,
      ← intercalate_listItems]
    rfl
  rw [chars, List.cons_inj_right, List.append_left_inj, intercalate_commaPieces_eq_iff]
  constructor
  · rintro ⟨bare, trimmed⟩
    exact .list bare trimmed
  · generalize typed : '[' :: (middle ++ [']']) = s
    rintro (⟨bare, _, _⟩ | ⟨bare, trimmed⟩ | n | ⟨_, read, _⟩)
    · rw [← typed, isBracketed_enclosed] at bare
      cases bare
    · rw [List.cons_inj_right, List.append_left_inj] at typed
      rw [typed]
      exact ⟨bare, trimmed⟩
    · obtain ⟨w, read, _⟩ := read?_wholeChars n
      rw [← typed, WholeNumeral.read?_bracket] at read
      cases read
    · rw [← typed, typedDecimal?_bracket] at read
      cases read

/-- A whole number is searched for as it was typed if it was typed as it is written. -/
theorem shown_whole_iff {w : WholeNumeral} (read : WholeNumeral.read? s = some w) :
    wholeChars w.value = s ↔ IsSearchedAsTyped s := by
  constructor
  · intro written
    exact written ▸ .whole w.value
  · rintro (⟨_, no_whole, _⟩ | @⟨middle, _, _⟩ | n | ⟨no_whole, _, _⟩)
    · rw [no_whole] at read
      cases read
    · rw [WholeNumeral.read?_bracket] at read
      cases read
    · obtain ⟨other, again, value, _⟩ := read?_wholeChars n
      rw [read] at again
      cases again
      rw [value]
    · rw [no_whole] at read
      cases read

theorem shown_decimal_iff {x : Binary64} (no_whole : WholeNumeral.read? s = none)
    (read : typedDecimal? s = some x) : x.text.toList = s ↔ IsSearchedAsTyped s := by
  constructor
  · exact .decimal no_whole read
  · rintro (⟨_, _, no_decimal⟩ | @⟨middle, _, _⟩ | n | ⟨_, again, written⟩)
    · rw [no_decimal] at read
      cases read
    · rw [typedDecimal?_bracket] at read
      cases read
    · obtain ⟨w, whole, _⟩ := read?_wholeChars n
      rw [whole] at no_whole
      cases no_whole
    · rw [again] at read
      cases read
      exact written

end

theorem searchText_int {n : Int} (short : n.natAbs < tenTo maxWholeDigits) :
    searchText (.int n) = .ok (wholeText n) := by
  change (writeWhole n).mapError QueryFault.whole = _
  rw [writeWhole_of_lt short]
  rfl

/-- What is searched for is a text, and it is what was typed, but for blanks around it, exactly for
the terms that are searched for as they are typed. -/
theorem searchText_ofTyped {raw : String} {v : Value} (typed : Value.ofTyped raw = .ok v) :
    ∃ t, searchText v = .ok t ∧
      (t.toList = trim raw.toList ↔ IsSearchedAsTyped (trim raw.toList)) := by
  have words : ∀ word ∈ ["true", "false", "null"], IsSearchedAsTyped word.toList := by
    simp only [List.forall_mem_cons]
    exact ⟨.text rfl rfl rfl, .text rfl rfl rfl, .text rfl rfl rfl, nofun⟩
  rw [Value.ofTyped] at typed
  generalize trim raw.toList = s at typed ⊢
  split at typed
  · next word =>
    cases typed
    exact ⟨"true", rfl, iff_of_true word.symm (word ▸ words "true" (by simp))⟩
  split at typed
  · next word =>
    cases typed
    exact ⟨"false", rfl, iff_of_true word.symm (word ▸ words "false" (by simp))⟩
  split at typed
  · next word =>
    cases typed
    exact ⟨"null", rfl, iff_of_true word.symm (word ▸ words "null" (by simp))⟩
  split at typed
  · next enclosed =>
    cases typed
    obtain ⟨middle, rfl⟩ := exists_middle_of_isBracketed enclosed
    exact ⟨_, searchText_texts _, shown_list_iff⟩
  · next bare =>
    rw [typedNumber] at typed
    split at typed
    · next w read =>
      obtain ⟨n, value, rfl⟩ := map_eq_ok_iff.mp typed
      refine ⟨wholeText n, searchText_int (natAbs_value_lt read value), ?_⟩
      rw [wholeText, String.toList_ofList, WholeNumeral.value_of_value? value]
      exact shown_whole_iff read
    · next no_whole =>
      split at typed
      · next x read =>
        cases typed
        exact ⟨x.text, rfl, shown_decimal_iff no_whole read⟩
      · next no_decimal =>
        cases typed
        refine ⟨String.ofList s, rfl, iff_of_true String.toList_ofList ?_⟩
        exact .text (Bool.not_eq_true _ ▸ bare) no_whole no_decimal

end ListQuery
