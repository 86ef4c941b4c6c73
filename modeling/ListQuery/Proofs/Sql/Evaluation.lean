import ListQuery.Proofs.Sql.Clause
import ListQuery.Proofs.Sql.Truth
/-!
The truth of a condition as it is written. Its tokens are read from left to right: `AND` binds
tighter than `OR`, and parentheses hold a condition of their own. The clause ends where an order or
a window begins. Read this way, it says of a row what its criteria say.
-/
namespace ListQuery.Sql

/-- The items of a list up to its closing parenthesis, and what is behind it. -/
def readItems? : List Token → Option (List Scalar × List Token)
  | .argument v :: .closing :: rest => some ([v], rest)
  | .argument v :: .comma :: rest => (readItems? rest).map fun read => (v :: read.1, read.2)
  | _ => none

/-- The test in front of other tokens. A word in front of a sign or a keyword is a column. -/
def readTest? : List Token → Option (Predicate × List Token)
  | .word column :: .sign op :: .argument v :: rest => some (.compare column op v, rest)
  | .word column :: .word "IS" :: .word "NULL" :: rest => some (.isNull column, rest)
  | .word column :: .word "IS" :: .word "NOT" :: .word "NULL" :: rest =>
    some (.isNotNull column, rest)
  | .word column :: .word "IN" :: .opening :: rest =>
    (readItems? rest).map fun read => (.oneOf column read.1, read.2)
  | .word column :: .word "NOT" :: .word "IN" :: .opening :: rest =>
    (readItems? rest).map fun read => (.noneOf column read.1, read.2)
  | .word column :: .word "ILIKE" :: .argument (.text pattern) :: rest =>
    some (.matching column pattern, rest)
  | .word "true" :: rest => some (.always, rest)
  | .word "false" :: rest => some (.never, rest)
  | _ => none

theorem readItems?_length {ts rest : List Token} {items : List Scalar}
    (h : readItems? ts = some (items, rest)) : rest.length < ts.length := by
  fun_induction readItems? ts generalizing items with
  | case1 v more =>
    cases h
    simp only [List.length_cons]
    omega
  | case2 v more ih =>
    obtain ⟨read, found, same⟩ := Option.map_eq_some_iff.mp h
    cases same
    have shorter := ih found
    simp only [List.length_cons]
    omega
  | case3 => cases h

theorem readTest?_length {ts rest : List Token} {p : Predicate}
    (h : readTest? ts = some (p, rest)) : rest.length < ts.length := by
  have items {more : List Token} {make : List Scalar → Predicate}
      (h : (readItems? more).map (fun read => (make read.1, read.2)) = some (p, rest)) :
      rest.length < more.length := by
    obtain ⟨read, found, same⟩ := Option.map_eq_some_iff.mp h
    cases same
    exact readItems?_length found
  unfold readTest? at h
  split at h
  case h_4 =>
    have shorter := items h
    simp only [List.length_cons]
    omega
  case h_5 =>
    have shorter := items h
    simp only [List.length_cons]
    omega
  case h_9 => cases h
  all_goals
    cases h
    simp only [List.length_cons]
    omega

/-- A condition that is being read: its alternatives so far, and the conjunction of the last one. -/
structure Group where
  alternatives : Truth
  conjunction : Truth

namespace Group

def start : Group := ⟨.no, .yes⟩

def add (g : Group) (t : Truth) : Group := { g with conjunction := g.conjunction.both t }

def value (g : Group) : Truth := g.alternatives.either g.conjunction

/-- Begins another alternative. -/
def next (g : Group) : Group := ⟨g.value, .yes⟩

end Group

/-- Whether a clause ends in front of the given tokens. -/
def endsClause : List Token → Bool
  | [] | .word "ORDER" :: _ | .word "LIMIT" :: _ => true
  | _ => false

section
variable (truth : Predicate → Truth)

mutual

/-- The value of a condition from a test or an opening parenthesis on, given the conditions around
it that are still open. -/
def operandValue? (around : List Group) (g : Group) : List Token → Option Truth
  | .opening :: rest => operandValue? (g :: around) .start rest
  | ts =>
    match _h : readTest? ts with
    | some (p, rest) => connectiveValue? around (g.add (truth p)) rest
    | none => none
  termination_by ts => ts.length
  decreasing_by
    · simp
    · exact readTest?_length _h

/-- The value of a condition from behind a test or a closing parenthesis on. -/
def connectiveValue? (around : List Group) (g : Group) : List Token → Option Truth
  | .word "AND" :: rest => operandValue? around g rest
  | .word "OR" :: rest => operandValue? around g.next rest
  | .closing :: rest =>
    match around with
    | outer :: more => connectiveValue? more (outer.add g.value) rest
    | [] => none
  | ts => if around.isEmpty && endsClause ts then some g.value else none
  termination_by ts => ts.length
  decreasing_by all_goals simp

end

/-- The value of a clause; without one every row passes. -/
def clauseValue? : List Token → Option Truth
  | .word "WHERE" :: rest => operandValue? truth [] .start rest
  | ts => if endsClause ts then some .yes else none

end

theorem readItems?_itemTokens {items : List Scalar} (some_item : items ≠ []) (rest : List Token) :
    readItems? (itemTokens items ++ .closing :: rest) = some (items, rest) := by
  induction items with
  | nil => exact absurd rfl some_item
  | cons v more ih =>
    cases more with
    | nil => rfl
    | cons w others =>
      have later := ih (List.cons_ne_nil w others)
      have split : itemTokens (v :: w :: others) =
          .argument v :: .comma :: itemTokens (w :: others) :=
        separatedTokens_cons_cons .comma [.argument v] _ _
      rw [split, List.cons_append, List.cons_append, readItems?, later]
      rfl

section
variable {Cell : Type} {truth : Predicate → Truth} {around : List Group} {g : Group}
  {rest : List Token}

theorem operandValue?_opening :
    operandValue? truth around g (.opening :: rest) =
      operandValue? truth (g :: around) .start rest := by
  rw [operandValue?]

theorem operandValue?_test {ts : List Token} {p : Predicate}
    (reads : readTest? ts = some (p, rest)) :
    operandValue? truth around g ts = connectiveValue? truth around (g.add (truth p)) rest := by
  unfold operandValue?
  split
  · cases reads
  · split
    · next found =>
      rw [reads] at found
      cases found
      rfl
    · next found =>
      rw [reads] at found
      cases found

theorem connectiveValue?_closing {outer : Group} :
    connectiveValue? truth (outer :: around) g (.closing :: rest) =
      connectiveValue? truth around (outer.add g.value) rest := by
  rw [connectiveValue?]

theorem connectiveValue?_and :
    connectiveValue? truth around g (.word "AND" :: rest) = operandValue? truth around g rest := by
  rw [connectiveValue?]

theorem connectiveValue?_or :
    connectiveValue? truth around g (.word "OR" :: rest) =
      operandValue? truth around g.next rest := by
  rw [connectiveValue?]

theorem Group.value_start_add (t : Truth) : (start.add t).value = t := by
  rw [value, add, start, Truth.yes_both, Truth.no_either]

theorem endsClause_iff : endsClause rest = true ↔
    rest = [] ∨ ∃ more, rest = .word "ORDER" :: more ∨ rest = .word "LIMIT" :: more := by
  constructor
  · intro h
    unfold endsClause at h
    split at h
    · exact .inl rfl
    · exact .inr ⟨_, .inl rfl⟩
    · exact .inr ⟨_, .inr rfl⟩
    · cases h
  · rintro (rfl | ⟨more, rfl | rfl⟩) <;> rfl

theorem connectiveValue?_of_endsClause (ends : endsClause rest = true) :
    connectiveValue? truth [] g rest = some g.value := by
  rcases endsClause_iff.mp ends with rfl | ⟨more, rfl | rfl⟩ <;>
    simp [connectiveValue?, endsClause]

theorem clauseValue?_of_endsClause (ends : endsClause rest = true) :
    clauseValue? truth rest = some .yes := by
  rcases endsClause_iff.mp ends with rfl | ⟨more, rfl | rfl⟩ <;> simp [clauseValue?, endsClause]

/-- What can stand behind an operand. -/
inductive Follows : List Token → Prop
  | ends {ts : List Token} : endsClause ts = true → Follows ts
  | closing (ts : List Token) : Follows (.closing :: ts)
  | conjunct (ts : List Token) : Follows (.word "AND" :: ts)
  | alternative (ts : List Token) : Follows (.word "OR" :: ts)

/-- A word in front of another word could be a column, so it matters what follows a constant. -/
theorem readTest?_constant (follows : Follows rest) :
    readTest? (.word "true" :: rest) = some (.always, rest) ∧
      readTest? (.word "false" :: rest) = some (.never, rest) := by
  cases follows with
  | ends ends => rcases endsClause_iff.mp ends with rfl | ⟨more, rfl | rfl⟩ <;> exact ⟨rfl, rfl⟩
  | closing more | conjunct more | alternative more => exact ⟨rfl, rfl⟩

variable (truth around g)

/-- A predicate is read as one operand. -/
theorem operandValue?_predicate {p : Predicate} (formed : p.WellFormed) (follows : Follows rest) :
    operandValue? truth around g (p.tokens ++ rest) =
      connectiveValue? truth around (g.add (truth p)) rest := by
  cases p with
  | always => exact operandValue?_test (readTest?_constant follows).1
  | never => exact operandValue?_test (readTest?_constant follows).2
  | compare column op v => exact operandValue?_test rfl
  | isNull column => exact operandValue?_test rfl
  | isNotNull column => exact operandValue?_test rfl
  | oneOf column items =>
    have list := readItems?_itemTokens formed.2 rest
    refine operandValue?_test ?_
    simp only [Predicate.tokens, List.cons_append, List.append_assoc, List.nil_append, readTest?]
    rw [list]
    rfl
  | noneOf column items =>
    have list := readItems?_itemTokens formed.2 (.closing :: rest)
    simp only [Predicate.tokens, List.cons_append, List.append_assoc, List.nil_append]
    have test : readTest? (.word column :: .word "NOT" :: .word "IN" :: .opening ::
        (itemTokens items ++ .closing :: .closing :: rest)) =
          some (.noneOf column items, .closing :: rest) := by
      rw [readTest?, list]
      rfl
    rw [operandValue?_opening, operandValue?_test test, connectiveValue?_closing,
      Group.value_start_add]
  | matching column pattern => exact operandValue?_test rfl

/-- Alternatives are read as one group that holds where any of them does. -/
theorem operandValue?_choice {members : List Predicate} (some_member : members ≠ [])
    (formed : ∀ p ∈ members, p.WellFormed) (follows : Follows rest) (alternatives : Truth) :
    ∃ last : Group, last.value = (members.map truth).foldl .either alternatives ∧
      operandValue? truth around ⟨alternatives, .yes⟩
        (separatedTokens (.word "OR") (members.map Predicate.tokens) ++ rest) =
          connectiveValue? truth around last rest := by
  induction members generalizing alternatives with
  | nil => exact absurd rfl some_member
  | cons p others ih =>
    rw [List.forall_mem_cons] at formed
    cases others with
    | nil =>
      refine ⟨Group.add ⟨alternatives, .yes⟩ (truth p), ?_, ?_⟩
      · simp [Group.value, Group.add]
      · rw [List.map_singleton, separatedTokens_singleton]
        exact operandValue?_predicate truth around _ formed.1 follows
    | cons q more =>
      obtain ⟨last, value, read⟩ := ih (List.cons_ne_nil q more) formed.2
        (alternatives.either (truth p))
      refine ⟨last, value, ?_⟩
      rw [List.map_cons] at read
      rw [List.map_cons, List.map_cons, separatedTokens_cons_cons, List.append_assoc,
        List.cons_append, operandValue?_predicate truth around _ formed.1 (.alternative _),
        connectiveValue?_or, ← read]
      simp [Group.next, Group.value, Group.add]

theorem operandValue?_criterion {tests : CellTests Cell} {row : Row Cell} {c : Criterion}
    (formed : c.WellFormed) (follows : Follows rest) :
    operandValue? (Predicate.truth tests row) around g (c.tokens false ++ rest) =
      connectiveValue? (Predicate.truth tests row) around (g.add (c.truth tests row)) rest := by
  cases c with
  | single p => exact operandValue?_predicate _ _ _ formed follows
  | anyOf members =>
    obtain ⟨last, value, read⟩ := operandValue?_choice (Predicate.truth tests row) (g :: around)
      formed.1 formed.2 (.closing rest) .no
    have tokens : (Criterion.anyOf members).tokens false ++ rest =
        .opening ::
          (separatedTokens (.word "OR") (members.map Predicate.tokens) ++ .closing :: rest) := by
      simp [Criterion.tokens]
    rw [tokens, operandValue?_opening]
    change operandValue? _ _ ⟨.no, .yes⟩ _ = _
    rw [read, connectiveValue?_closing, value]
    rfl

section
variable {tests : CellTests Cell} {row : Row Cell} (ends : endsClause rest = true)
include ends

/-- Criteria with `AND` between them are read as their conjunction. -/
theorem operandValue?_conjunction {criteria : List Criterion} (some_criterion : criteria ≠ [])
    (formed : ∀ c ∈ criteria, c.WellFormed) (conjunction : Truth) :
    operandValue? (Predicate.truth tests row) [] ⟨.no, conjunction⟩
        (separatedTokens (.word "AND") (criteria.map (Criterion.tokens false)) ++ rest) =
      some ((criteria.map (Criterion.truth tests row)).foldl .both conjunction) := by
  induction criteria generalizing conjunction with
  | nil => exact absurd rfl some_criterion
  | cons c others ih =>
    rw [List.forall_mem_cons] at formed
    cases others with
    | nil =>
      rw [List.map_singleton, separatedTokens_singleton,
        operandValue?_criterion _ _ formed.1 (.ends ends), connectiveValue?_of_endsClause ends]
      simp [Group.value, Group.add]
    | cons d more =>
      rw [List.map_cons, List.map_cons, separatedTokens_cons_cons, List.append_assoc,
        List.cons_append, operandValue?_criterion _ _ formed.1 (.conjunct _),
        connectiveValue?_and]
      exact ih (List.cons_ne_nil d more) formed.2 (conjunction.both (c.truth tests row))

/-- The clause of several criteria is read as all of them. -/
theorem clauseValue?_clauseTokens {criteria : List Criterion}
    (formed : ∀ c ∈ criteria, c.WellFormed) :
    clauseValue? (Predicate.truth tests row) (clauseTokens criteria ++ rest) =
      some (.all (criteria.map (Criterion.truth tests row))) := by
  match criteria with
  | [] => exact clauseValue?_of_endsClause ends
  | [c] =>
    have alone := formed c (List.mem_singleton_self c)
    have value : Truth.all ([c].map (Criterion.truth tests row)) = c.truth tests row := by
      simp [Truth.all]
    rw [value, clauseTokens, List.cons_append, clauseValue?]
    cases c with
    | single p =>
      rw [Criterion.tokens, operandValue?_predicate _ [] .start alone (.ends ends),
        connectiveValue?_of_endsClause ends, Group.value_start_add]
      rfl
    | anyOf members =>
      obtain ⟨last, value, read⟩ := operandValue?_choice (Predicate.truth tests row) [] alone.1
        alone.2 (.ends ends) .no
      change operandValue? _ [] ⟨.no, .yes⟩ _ = _
      rw [Criterion.tokens, if_pos rfl, read, connectiveValue?_of_endsClause ends, value]
      rfl
  | c :: d :: more =>
    exact operandValue?_conjunction ends (List.cons_ne_nil c _) formed .yes

end

end

/-- The order and the window end the clause in front of them. -/
theorem endsClause_tail (terms : List OrderTerm) (window : Option Window) :
    endsClause (orderTokens terms ++ windowTokens window) = true := by
  rw [orderTokens]
  split
  · cases window <;> rfl
  · rfl

end ListQuery.Sql
