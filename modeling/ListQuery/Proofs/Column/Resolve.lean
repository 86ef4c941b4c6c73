import ListQuery.Column.Name
import ListQuery.Column.Path
import ListQuery.Proofs.Text.Words
import Mathlib.Data.List.Basic
/-!
References as SQL writes them. What is kept of a reference is its last segment and the one in front
of it; resolving it again changes nothing, and it is a safe name exactly when the owner of the
column, if there is one, starts with a letter.
-/
namespace ListQuery.Column

open Text

theorem toList_joinSegments (parts : List (List Char)) :
    (joinSegments (parts.map String.ofList)).toList = ['.'].intercalate parts := by
  have same : (parts.map String.ofList).map String.toList = parts := by
    simp [Function.comp_def]
  rw [joinSegments, String.toList_intercalate, same]
  rfl

theorem intercalate_suffix {back : List (List Char)} (some_part : back ≠ [])
    (front : List (List Char)) :
    ['.'].intercalate back <:+ ['.'].intercalate (front ++ back) := by
  induction front with
  | nil => exact List.suffix_refl _
  | cons part rest ih =>
    have later : rest ++ back ≠ [] := fun empty => some_part (List.append_eq_nil_iff.mp empty).2
    rw [List.cons_append, List.intercalate_cons_of_ne_nil later]
    exact ih.trans (List.suffix_append _ _)

/-- The segment in front of the last one, which names the table of a column. -/
def owner? (column : String) : Option String := (segments column).dropLast.getLast?

theorem intercalate_segments (column : String) :
    ['.'].intercalate (column.toList.splitOn '.') = column.toList := List.intercalate_splitOn '.'

/-- A reference is bare, or it has an owner in front of its last segment. -/
theorem bare_or_owned (column : String) :
    column.toList.splitOn '.' = [column.toList] ∨
      ∃ front owner last, column.toList.splitOn '.' = front ++ [owner, last] := by
  have whole := intercalate_segments column
  rcases List.eq_nil_or_concat' (column.toList.splitOn '.') with empty | ⟨before, last, parts⟩
  · exact absurd empty (List.splitOn_ne_nil _ _)
  · rcases List.eq_nil_or_concat' before with rfl | ⟨front, owner, rfl⟩
    · rw [parts, List.nil_append, List.intercalate_singleton] at whole
      exact .inl (by rw [parts, List.nil_append, whole])
    · exact .inr ⟨front, owner, last, by rw [parts, List.append_assoc]; rfl⟩

section
variable {column : String} {front : List (List Char)} {owner last : List Char}
  (parts : column.toList.splitOn '.' = front ++ [owner, last])
include parts

theorem owner?_of_owned : owner? column = some (String.ofList owner) := by
  have grouped : front ++ [owner, last] = front ++ [owner] ++ [last] := by
    rw [List.append_assoc]
    rfl
  rw [owner?, segments, parts, grouped, List.map_append, List.map_singleton, List.dropLast_concat,
    List.map_append, List.map_singleton, List.getLast?_concat]

theorem toList_resolve_of_owned : (resolve column).toList = owner ++ '.' :: last := by
  have pair : ['.'].intercalate [owner, last] = owner ++ '.' :: last := by
    rw [List.intercalate_cons_cons, List.intercalate_singleton, List.append_assoc]
    rfl
  rw [resolve, segments, parts]
  split
  · have behind : ((front ++ [owner, last]).map String.ofList).drop
        (((front ++ [owner, last]).map String.ofList).length - 2) =
          [owner, last].map String.ofList := by
      rw [List.map_append, List.length_append]
      exact List.drop_left
    rw [behind, toList_joinSegments, pair]
  · next short =>
    have none_before : front = [] := by
      rw [List.length_map, List.length_append] at short
      exact List.length_eq_zero_iff.mp (by
        change ¬3 ≤ front.length + 2 at short
        omega)
    have whole := intercalate_segments column
    rw [parts, none_before, List.nil_append, pair] at whole
    exact whole.symm

theorem splitOn_resolve_of_owned : (resolve column).toList.splitOn '.' = [owner, last] := by
  have free {part : List Char} (member : part ∈ [owner, last]) : '.' ∉ part :=
    not_mem_of_mem_splitOn (parts ▸ List.mem_append_right front member)
  rw [toList_resolve_of_owned parts, List.splitOn_append_cons_self_of_not_mem (free (by simp)),
    List.splitOn_eq_singleton (free (by simp))]

/-- The path of a column is every segment but the last. -/
theorem segments_path_of_owned :
    segments (path column) = (front ++ [owner]).map String.ofList := by
  have grouped : front ++ [owner, last] = front ++ [owner] ++ [last] := by
    rw [List.append_assoc]
    rfl
  have before : (segments column).dropLast = (front ++ [owner]).map String.ofList := by
    rw [segments, parts, grouped, List.map_append, List.map_singleton, List.dropLast_concat]
  have free : ∀ part ∈ front ++ [owner], '.' ∉ part := fun part member =>
    not_mem_of_mem_splitOn (parts ▸ grouped ▸ List.mem_append_left [last] member)
  have chars : (path column).toList = ['.'].intercalate (front ++ [owner]) := by
    rw [path, before, toList_joinSegments]
  rw [segments, chars, List.splitOn_intercalate '.' free (by simp)]

end

theorem segments_path_of_bare {column : String}
    (bare : column.toList.splitOn '.' = [column.toList]) : segments (path column) = [""] := by
  have alone : path column = "" := by
    rw [path, segments, bare]
    rfl
  rw [alone]
  rfl

/-- The number of relationships that lead to a column. -/
def hops (column : String) : Nat := (segments column).dropLast.length

theorem hops_pos_of_path {column : String} (some_path : path column ≠ "") : 0 < hops column := by
  rw [hops, List.length_pos_iff]
  intro none_before
  rw [path, none_before] at some_path
  exact some_path rfl

theorem segments_path {column : String} (some_hop : 0 < hops column) :
    segments (path column) = (segments column).dropLast := by
  rcases bare_or_owned column with bare | ⟨front, owner, last, parts⟩
  · rw [hops, segments, bare] at some_hop
    cases some_hop
  · have grouped : front ++ [owner, last] = front ++ [owner] ++ [last] := by
      rw [List.append_assoc]
      rfl
    rw [segments_path_of_owned parts, segments, parts, grouped, ← List.map_dropLast,
      List.dropLast_concat]

theorem splitOn_append_dot (p q : String) : (p ++ "." ++ q).toList.splitOn '.' =
    p.toList.splitOn '.' ++ q.toList.splitOn '.' := by
  rw [String.append_assoc, String.toList_append, String.toList_append]
  exact List.splitOnP_append_cons _ _ rfl

theorem segments_append (p q : String) : segments (p ++ "." ++ q) = segments p ++ segments q := by
  rw [segments, splitOn_append_dot, List.map_append]
  rfl

/-- The owner of a column is what its path ends with. -/
theorem owner?_of_path {column owner : String}
    (ends : (segments (path column)).getLast? = some owner) (named : owner ≠ "") :
    owner? column = some owner ∧ path column ≠ "" := by
  constructor
  · rcases bare_or_owned column with bare | ⟨front, name, last, parts⟩
    · rw [segments_path_of_bare bare] at ends
      exact absurd (Option.some.inj ends).symm named
    · rw [segments_path_of_owned parts, List.map_append, List.map_singleton, List.getLast?_concat]
        at ends
      rw [owner?_of_owned parts, ends]
  · intro none_before
    rw [none_before] at ends
    exact absurd (Option.some.inj ends).symm named

theorem isDotted_eq_false_iff {column : String} :
    isDotted column = false ↔ column.toList.splitOn '.' = [column.toList] := by
  rw [isDotted, List.contains_eq_mem, decide_eq_false_iff_not]
  constructor
  · exact List.splitOn_eq_singleton
  · intro bare
    exact not_mem_of_mem_splitOn (bare ▸ List.mem_singleton_self _)

theorem isDotted_of_path_ne {column : String} (some_path : path column ≠ "") :
    isDotted column = true := by
  by_contra undotted
  have bare := isDotted_eq_false_iff.mp (Bool.not_eq_true _ ▸ undotted)
  rw [path, segments, bare] at some_path
  exact some_path rfl

/-- The path of a reference of two segments is the first one. -/
theorem path_of_pair {column : String} {owner last : List Char}
    (parts : column.toList.splitOn '.' = [owner, last]) : path column = String.ofList owner := by
  rw [path, segments, parts]
  simp [joinSegments]

theorem resolve_of_bare {column : String} (bare : column.toList.splitOn '.' = [column.toList]) :
    resolve column = column := by
  rw [resolve, segments, bare]
  rfl

theorem resolve_resolve (column : String) : resolve (resolve column) = resolve column := by
  rcases bare_or_owned column with bare | ⟨front, owner, last, parts⟩
  · rw [resolve_of_bare bare, resolve_of_bare bare]
  · have again := splitOn_resolve_of_owned parts
    rw [resolve, segments, again]
    rfl

theorem isDotted_of_owned {column : String} {front : List (List Char)} {owner last : List Char}
    (parts : column.toList.splitOn '.' = front ++ [owner, last]) : isDotted column = true := by
  rw [← Bool.not_eq_false, isDotted_eq_false_iff, parts]
  intro bare
  have length := congrArg List.length bare
  simp at length

theorem isDotted_resolve (column : String) : isDotted (resolve column) = isDotted column := by
  rcases bare_or_owned column with bare | ⟨front, owner, last, parts⟩
  · rw [resolve_of_bare bare]
  · rw [isDotted_of_owned parts]
    have kept : (resolve column).toList.splitOn '.' = [] ++ [owner, last] :=
      splitOn_resolve_of_owned parts
    exact isDotted_of_owned kept

/-- A bare column behind the name of a table is kept as it is, unless the name has a dot itself. -/
theorem resolve_append_eq_self_iff {table column : String} (bare : isDotted column = false) :
    resolve (table ++ "." ++ column) = table ++ "." ++ column ↔ isDotted table = false := by
  have together : (table ++ "." ++ column).toList.splitOn '.' =
      table.toList.splitOn '.' ++ [column.toList] := by
    rw [splitOn_append_dot, isDotted_eq_false_iff.mp bare]
  rcases bare_or_owned table with alone | ⟨front, owner, last, parts⟩
  · rw [alone] at together
    refine iff_of_true ?_ (isDotted_eq_false_iff.mpr alone)
    have pair : (table ++ "." ++ column).toList.splitOn '.' =
        [] ++ [table.toList, column.toList] := together
    rw [← String.toList_inj, toList_resolve_of_owned pair]
    simp
  · have grouped : table.toList.splitOn '.' ++ [column.toList] =
        front ++ [owner] ++ [last, column.toList] := by
      rw [parts, List.append_assoc, List.append_assoc]
      rfl
    refine iff_of_false (fun same => ?_) (by rw [isDotted_of_owned parts]; nofun)
    have kept := splitOn_resolve_of_owned (together.trans grouped)
    rw [same, together, grouped] at kept
    have length := congrArg List.length kept
    simp at length

/-- What stands in front of the dot of a resolved reference is the owner of the column. -/
theorem head?_resolve (column : String) : head? (resolve column) = owner? column := by
  rcases bare_or_owned column with bare | ⟨front, owner, last, parts⟩
  · rw [resolve_of_bare bare, head?, isDotted_eq_false_iff.mpr bare, owner?, segments, bare]
    rfl
  · rw [head?, isDotted_resolve, isDotted_of_owned parts, if_pos rfl, segments,
      splitOn_resolve_of_owned parts, owner?_of_owned parts]
    rfl

example : owner? "tags.parent.name" = some "parent" ∧ owner? "title" = none := by decide +kernel

/-- Whether a name starts as safe names do. -/
def StartsWithLetter (name : String) : Prop := name.toList.head?.any isLetter = true

theorem isNameChar_of_isLetter {c : Char} (h : isLetter c = true) : isNameChar c = true := by
  rw [isLetter] at h
  rw [isNameChar, Char.isAlphanum, h]
  rfl

theorem toNat_of_isUpper {c : Char} (h : c.isUpper = true) : 0x41 ≤ c.toNat ∧ c.toNat ≤ 0x5A :=
  of_decide_eq_true h

theorem toNat_of_isLower {c : Char} (h : c.isLower = true) :
    0x61 ≤ c.toNat ∧ c.toNat ≤ 0x7A := by
  have both : (decide (0x61 ≤ c.toNat) && decide (c.toNat ≤ 0x7A)) = true := h
  simpa only [Bool.and_eq_true, decide_eq_true_eq] using both

theorem toNat_of_isLetter {c : Char} (h : isLetter c = true) :
    0x41 ≤ c.toNat ∧ c.toNat ≤ 0x7A := by
  have cases : c.isUpper = true ∨ c.isLower = true := Bool.or_eq_true _ _ ▸ h
  have bounds := cases.imp toNat_of_isUpper toNat_of_isLower
  omega

theorem toNat_of_isNameChar {c : Char} (h : isNameChar c = true) :
    0x2E ≤ c.toNat ∧ c.toNat ≤ 0x7A := by
  simp only [isNameChar, Char.isAlphanum, Bool.or_eq_true, beq_iff_eq] at h
  rcases h with ((letter | digit) | rfl) | rfl
  · have bounds := toNat_of_isLetter letter
    omega
  · have bounds := toNat_of_isDigit digit
    omega
  · decide
  · decide

theorem IsSafe.isNameChar {name : String} (safe : IsSafe name) {c : Char} (h : c ∈ name.toList) :
    Column.isNameChar c = true := by
  obtain ⟨formed, _⟩ := safe
  cases chars : name.toList with
  | nil =>
    rw [chars] at h
    cases h
  | cons d rest =>
    rw [chars] at h formed
    rw [isWellFormed, Bool.and_eq_true, List.all_eq_true] at formed
    rcases List.mem_cons.mp h with rfl | later
    · exact isNameChar_of_isLetter formed.1
    · exact formed.2 c later

/-- Resolving a safe name gives a safe name exactly when its owner starts with a letter. -/
theorem isSafe_resolve_iff {column : String} (safe : IsSafe column) :
    IsSafe (resolve column) ↔ ∀ owner, owner? column = some owner → StartsWithLetter owner := by
  rcases bare_or_owned column with bare | ⟨front, owner, last, parts⟩
  · have none_before : owner? column = none := by
      rw [owner?, segments, bare]
      rfl
    rw [resolve_of_bare bare, none_before]
    exact ⟨nofun, fun _ => safe⟩
  · have kept := toList_resolve_of_owned parts
    have suffix : owner ++ '.' :: last <:+ column.toList := by
      have whole := intercalate_segments column
      have back := intercalate_suffix (List.cons_ne_nil owner [last]) front
      rw [← parts, whole] at back
      simpa [List.intercalate_cons_cons] using back
    have named : ∀ c ∈ owner ++ '.' :: last, isNameChar c = true := fun c member =>
      safe.isNameChar (suffix.subset member)
    have short : (owner ++ '.' :: last).length ≤ maxNameLength :=
      Nat.le_trans suffix.length_le safe.2
    rw [owner?_of_owned parts, IsSafe, kept, and_iff_left short]
    simp only [Option.some.injEq, forall_eq', StartsWithLetter, String.toList_ofList]
    cases owner with
    | nil => exact ⟨nofun, nofun⟩
    | cons c rest =>
      rw [List.cons_append, List.forall_mem_cons] at named
      rw [List.cons_append, isWellFormed, List.all_eq_true.mpr named.2, Bool.and_true]
      rfl

end ListQuery.Column
