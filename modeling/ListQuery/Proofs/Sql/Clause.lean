import ListQuery.Proofs.Sql.Numbering
import ListQuery.Proofs.Sql.Token
import Mathlib.Data.List.Forall2
/-!
Clauses as tokens. The text of a criterion, with its placeholders numbered, is read as the tokens
that belong to it, and the clause of several criteria as theirs with `AND` between neighbours. The
order and the window are read behind it.
-/
namespace ListQuery.Sql

open Column Text

/-- Several groups of tokens with a token between neighbours. -/
def separatedTokens (separator : Token) (groups : List (List Token)) : List Token :=
  [separator].intercalate groups

theorem separatedTokens_singleton (separator : Token) (ts : List Token) :
    separatedTokens separator [ts] = ts := List.intercalate_singleton

theorem separatedTokens_cons_cons (separator : Token) (ts us : List Token)
    (rest : List (List Token)) : separatedTokens separator (ts :: us :: rest) =
      ts ++ separator :: separatedTokens separator (us :: rest) := by
  rw [separatedTokens, List.intercalate_cons_cons, List.append_assoc]
  rfl

def itemTokens (items : List Scalar) : List Token :=
  separatedTokens .comma (items.map fun v => [.argument v])

namespace Predicate

def tokens : Predicate → List Token
  | .always => [.word "true"]
  | .never => [.word "false"]
  | .compare column op v => [.word column, .sign op, .argument v]
  | .isNull column => [.word column, .word "IS", .word "NULL"]
  | .isNotNull column => [.word column, .word "IS", .word "NOT", .word "NULL"]
  | .oneOf column items => .word column :: .word "IN" :: .opening :: itemTokens items ++ [.closing]
  | .noneOf column items =>
    .opening :: .word column :: .word "NOT" :: .word "IN" :: .opening :: itemTokens items ++
      [.closing, .closing]
  | .matching column pattern => [.word column, .word "ILIKE", .argument (.text pattern)]

/-- The column is a safe name, and a choice has items to choose from. -/
def WellFormed : Predicate → Prop
  | .always | .never => True
  | .compare column _ _ | .isNull column | .isNotNull column | .matching column _ => IsSafe column
  | .oneOf column items | .noneOf column items => IsSafe column ∧ items ≠ []

end Predicate

namespace Criterion

def tokens (alone : Bool) : Criterion → List Token
  | .single p => p.tokens
  | .anyOf members =>
    let choice := separatedTokens (.word "OR") (members.map Predicate.tokens)
    if alone then choice else .opening :: choice ++ [.closing]

/-- Its predicates are well formed, and a choice has members to choose from. -/
def WellFormed : Criterion → Prop
  | .single p => p.WellFormed
  | .anyOf members => members ≠ [] ∧ ∀ p ∈ members, p.WellFormed

end Criterion

def clauseTokens : List Criterion → List Token
  | [] => []
  | [c] => .word "WHERE" :: c.tokens true
  | criteria =>
    .word "WHERE" :: separatedTokens (.word "AND") (criteria.map (Criterion.tokens false))

def OrderTerm.tokens (t : OrderTerm) : List Token :=
  [.word t.column, .word (if t.descending then "DESC" else "ASC")]

def orderTokens (terms : List OrderTerm) : List Token :=
  if terms.isEmpty then []
  else .word "ORDER" :: .word "BY" :: separatedTokens .comma (terms.map OrderTerm.tokens)

def windowTokens : Option Window → List Token
  | none => []
  | some w => [.word "LIMIT", .argument (.int w.limit), .word "OFFSET", .argument (.int w.offset)]

theorem head?_toList_append {c : Char} {s t : String} (h : s.toList.head? = some c) :
    (s ++ t).toList.head? = some c := by
  rw [String.toList_append, List.head?_append, h]
  rfl

/-- Pieces that are none or begin with a text that begins with a blank. -/
def LeadsBlank (ps : List Piece) : Prop :=
  ps = [] ∨ ∃ text rest, ps = .text text :: rest ∧ text.toList.head? = some ' '

namespace LeadsBlank

variable {ps qs : List Piece}

theorem nil : LeadsBlank [] := .inl rfl

theorem text {s : String} (first : s.toList.head? = some ' ') (rest : List Piece) :
    LeadsBlank (.text s :: rest) := .inr ⟨s, rest, rfl, first⟩

theorem append (hp : LeadsBlank ps) (hq : LeadsBlank qs) : LeadsBlank (ps ++ qs) := by
  rcases hp with rfl | ⟨s, rest, rfl, first⟩
  · exact hq
  · exact text first (rest ++ qs)

theorem beginsBlank_append {s t : List Char} (first : s.head? = some ' ') :
    BeginsBlank (s ++ t) := by
  rw [BeginsBlank, List.head?_append, first]
  exact fun c same => Option.some.inj same ▸ (by decide)

theorem beginsBlank_marked (h : LeadsBlank ps) (number : Nat) :
    BeginsBlank (markedChars number ps) := by
  rcases h with rfl | ⟨s, rest, rfl, first⟩
  · exact beginsBlank_nil
  · exact beginsBlank_append first

theorem beginsBlank_numbered (h : LeadsBlank ps) (number : Nat) :
    BeginsBlank (numberedChars number ps) := by
  rcases h with rfl | ⟨s, rest, rfl, first⟩
  · exact beginsBlank_nil
  · exact beginsBlank_append first

end LeadsBlank

/-- Pieces that are read as the given tokens wherever their arguments stand among all arguments. -/
def Reads (pieces : List Piece) (tokens : List Token) : Prop :=
  ∀ before after, Spells (before ++ argumentsOf pieces ++ after)
    (numberedChars (before.length + 1) pieces) tokens

namespace Reads

variable {ps qs : List Piece} {ts us : List Token}

theorem nil : Reads [] [] := fun _ _ => .nil

/-- The texts between the arguments hold no percent sign. -/
theorem percent_not_mem (h : Reads ps ts) {s : String} (member : .text s ∈ ps) :
    '%' ∉ s.toList := by
  intro present
  have inside (number : Nat) : '%' ∈ numberedChars number ps := by
    clear h
    induction ps generalizing number with
    | nil => cases member
    | cons piece rest ih =>
      rcases List.mem_cons.mp member with rfl | later
      · exact List.mem_append_left _ present
      · cases piece with
        | text _ => exact List.mem_append_right _ (ih later _)
        | argument _ => exact List.mem_append_right _ (ih later _)
  exact (h [] []).percent_not_mem (inside _)

theorem text {s : String} {ts : List Token} (h : ∀ arguments, Spells arguments s.toList ts) :
    Reads [.text s] ts := by
  intro before after
  rw [numberedChars, numberedChars, List.append_nil]
  exact h _

theorem word {name : String} (safe : IsSafe name) : Reads [.text name] [.word name] :=
  text fun _ => .word safe

theorem argument (v : Scalar) : Reads [.argument v] [.argument v] := by
  intro before after
  have place := Spells.argument before after v
  rw [numberedChars, numberedChars, List.append_nil]
  simpa [argumentsOf, Piece.argument?] using place

/-- Two readings are one reading, if the text between the two keeps them apart. -/
theorem join (separator : String) (middle : List Token) (hp : Reads ps ts) (hq : Reads qs us)
    (apart : ∀ {arguments s t ts us}, Spells arguments s ts → Spells arguments t us →
      Spells arguments (s ++ separator.toList ++ t) (ts ++ middle ++ us)) :
    Reads (ps ++ .text separator :: qs) (ts ++ middle ++ us) := by
  intro before after
  have left := hp before (argumentsOf qs ++ after)
  have right := hq (before ++ argumentsOf ps) after
  have arguments : argumentsOf (ps ++ .text separator :: qs) = argumentsOf ps ++ argumentsOf qs :=
    argumentsOf_append ps _
  rw [List.length_append, Nat.add_right_comm] at right
  rw [arguments, numberedChars_append, numberedChars, ← List.append_assoc]
  simp only [List.append_assoc] at left right ⊢
  simpa only [List.append_assoc] using apart left right

/-- A text in one piece is read as the same text in two. -/
theorem merge {s t : String} (h : Reads (.text s :: .text t :: ps) ts) :
    Reads (.text (s ++ t) :: ps) ts := by
  intro before after
  have parts := h before after
  rw [numberedChars, String.toList_append]
  simp only [numberedChars, ← List.append_assoc] at parts ⊢
  exact parts

theorem blank (hp : Reads ps ts) (hq : Reads qs us) : Reads (ps ++ .text " " :: qs) (ts ++ us) := by
  have both := join " " [] hp hq fun hs ht => by simpa using hs.blank ht
  simpa using both

theorem append (lead : LeadsBlank qs) (hp : Reads ps ts) (hq : Reads qs us) :
    Reads (ps ++ qs) (ts ++ us) := by
  intro before after
  have left := hp before (argumentsOf qs ++ after)
  have right := hq (before ++ argumentsOf ps) after
  rw [List.length_append, Nat.add_right_comm] at right
  rw [argumentsOf_append, numberedChars_append]
  simp only [List.append_assoc] at left right ⊢
  exact left.append (lead.beginsBlank_numbered _) right

theorem opening (hp : Reads ps ts) (hq : Reads qs us) :
    Reads (ps ++ .text "(" :: qs) (ts ++ .opening :: us) := by
  have both := join "(" [.opening] hp hq fun hs ht => by simpa using hs.opening ht
  simpa using both

theorem closing (hp : Reads ps ts) : Reads (ps ++ [.text ")"]) (ts ++ [.closing]) := by
  have both := join ")" [.closing] hp nil fun hs ht => by simpa using hs.closing ht
  simpa using both

theorem separated (separator : String) (middle : Token)
    (apart : ∀ {arguments s t ts us}, Spells arguments s ts → Spells arguments t us →
      Spells arguments (s ++ separator.toList ++ t) (ts ++ [middle] ++ us))
    {α : Type} {pieces : α → List Piece} {tokens : α → List Token} {parts : List α}
    (each : ∀ a ∈ parts, Reads (pieces a) (tokens a)) :
    Reads (Sql.separated separator (parts.map pieces))
      (separatedTokens middle (parts.map tokens)) := by
  induction parts with
  | nil => exact nil
  | cons a rest ih =>
    rw [List.forall_mem_cons] at each
    cases rest with
    | nil =>
      have same (p : List Piece) : Sql.separated separator [p] = p := List.intercalate_singleton
      rw [List.map_singleton, List.map_singleton, same, separatedTokens_singleton]
      exact each.1
    | cons b more =>
      have joined := join separator [middle] each.1 (ih each.2) apart
      rw [Sql.separated] at joined ⊢
      simpa only [List.map_cons, List.intercalate_cons_cons, separatedTokens_cons_cons,
        List.append_assoc, List.singleton_append] using joined

end Reads

def keywords : List String :=
  ["true", "false", "IS", "NOT", "NULL", "IN", "ILIKE", "OR", "AND", "WHERE", "ORDER", "BY", "DESC",
    "ASC", "LIMIT", "OFFSET"]

theorem isSafe_of_mem_keywords {name : String} (h : name ∈ keywords) : IsSafe name := by
  have each : ∀ word ∈ keywords, IsSafe word := by decide +kernel
  exact each name h

namespace Spells

variable {arguments : List Scalar} {s t : List Char} {ts us : List Token}

theorem keyword {name : String} (h : name ∈ keywords) :
    Spells arguments name.toList [.word name] := .word (isSafe_of_mem_keywords h)

theorem alternative (hs : Spells arguments s ts) (ht : Spells arguments t us) :
    Spells arguments (s ++ " OR ".toList ++ t) (ts ++ [.word "OR"] ++ us) := by
  have both := hs.blank ((keyword (by decide : "OR" ∈ keywords)).blank ht)
  simpa using both

theorem conjunct (hs : Spells arguments s ts) (ht : Spells arguments t us) :
    Spells arguments (s ++ " AND ".toList ++ t) (ts ++ [.word "AND"] ++ us) := by
  have both := hs.blank ((keyword (by decide : "AND" ∈ keywords)).blank ht)
  simpa using both

end Spells

theorem reads_argumentList (items : List Scalar) :
    Reads (argumentList items) (itemTokens items) := by
  refine Reads.separated ", " .comma (fun hs ht => ?_) fun v _ => Reads.argument v
  have both := hs.comma (Spells.nil.blank ht)
  simpa using both

theorem Predicate.reads {p : Predicate} (h : p.WellFormed) : Reads p.pieces p.tokens := by
  cases p with
  | always => exact .text fun _ => Spells.keyword (by decide)
  | never => exact .text fun _ => Spells.keyword (by decide)
  | compare column op v =>
    have head : Reads [.text (column ++ " " ++ op.sign)] [.word column, .sign op] :=
      .text fun arguments => by
        simpa [String.toList_append] using (Spells.word h).blank (Spells.sign op)
    exact (head.blank (.argument v)).merge
  | isNull column =>
    refine .text fun arguments => ?_
    have test : Spells arguments _ _ := (Spells.word h).blank
      ((Spells.keyword (by decide : "IS" ∈ keywords)).blank
        (Spells.keyword (by decide : "NULL" ∈ keywords)))
    simpa [String.toList_append, tokens] using test
  | isNotNull column =>
    refine .text fun arguments => ?_
    have test : Spells arguments _ _ := (Spells.word h).blank
      ((Spells.keyword (by decide : "IS" ∈ keywords)).blank
        ((Spells.keyword (by decide : "NOT" ∈ keywords)).blank
          (Spells.keyword (by decide : "NULL" ∈ keywords))))
    simpa [String.toList_append, tokens] using test
  | oneOf column items =>
    have head : Reads [.text (column ++ " IN ")] [.word column, .word "IN"] := by
      refine .text fun arguments => ?_
      have words : Spells arguments _ _ := (Spells.word h.1).blank
        ((Spells.keyword (by decide : "IN" ∈ keywords)).blank .nil)
      simpa [String.toList_append] using words
    have whole : column ++ " IN (" = column ++ " IN " ++ "(" := by
      rw [String.append_assoc]
      rfl
    rw [pieces, whole]
    exact (head.opening (reads_argumentList items)).closing.merge
  | noneOf column items =>
    have head : Reads [.text ("(" ++ column ++ " NOT IN ")]
        [.opening, .word column, .word "NOT", .word "IN"] := by
      refine .text fun arguments => ?_
      have words : Spells arguments _ _ := Spells.nil.opening ((Spells.word h.1).blank
        ((Spells.keyword (by decide : "NOT" ∈ keywords)).blank
          ((Spells.keyword (by decide : "IN" ∈ keywords)).blank .nil)))
      simpa [String.toList_append] using words
    have both := Reads.join "))" [.closing, .closing] (head.opening (reads_argumentList items)) .nil
      fun hs ht => by simpa using (hs.closing Spells.nil).closing ht
    have whole : "(" ++ column ++ " NOT IN (" = "(" ++ column ++ " NOT IN " ++ "(" := by
      simp only [String.append_assoc]
      rfl
    rw [pieces, whole]
    simpa [tokens] using both.merge
  | matching column pattern =>
    have head : Reads [.text (column ++ " ILIKE")] [.word column, .word "ILIKE"] := by
      refine .text fun arguments => ?_
      have words : Spells arguments _ _ :=
        (Spells.word h).blank (Spells.keyword (by decide : "ILIKE" ∈ keywords))
      simpa [String.toList_append] using words
    have whole : column ++ " ILIKE " = column ++ " ILIKE" ++ " " := by
      rw [String.append_assoc]
      rfl
    rw [pieces, whole]
    exact (head.blank (.argument (.text pattern))).merge

theorem Criterion.reads {c : Criterion} (h : c.WellFormed) (alone : Bool) :
    Reads (c.pieces alone) (c.tokens alone) := by
  cases c with
  | single p => exact Predicate.reads h
  | anyOf members =>
    have choice := Reads.separated " OR " (.word "OR") Spells.alternative fun p member =>
      Predicate.reads (h.2 p member)
    rw [pieces, tokens]
    cases alone with
    | true => exact choice
    | false => exact (Reads.nil.opening choice).closing

theorem reads_conjunction {criteria : List Criterion} (h : ∀ c ∈ criteria, c.WellFormed) :
    Reads (conjunctionPieces criteria) (clauseTokens criteria) := by
  have lead {ps : List Piece} {ts : List Token} (body : Reads ps ts) :
      Reads (.text " \nWHERE " :: ps) (.word "WHERE" :: ts) := by
    have head : Reads [.text " \nWHERE"] [.word "WHERE"] := .text fun _ =>
      Spells.nil.blank (Spells.keyword (by decide : "WHERE" ∈ keywords)).line
    exact (head.blank body).merge
  match criteria with
  | [] => exact .nil
  | [c] => exact lead (Criterion.reads (h c (List.mem_singleton_self c)) true)
  | c :: d :: rest =>
    have body := Reads.separated " AND " (.word "AND") Spells.conjunct fun e member =>
      Criterion.reads (h e member) false
    exact lead body

theorem OrderTerm.spells {t : OrderTerm} (safe : IsSafe t.column) (arguments : List Scalar) :
    Spells arguments t.text.toList t.tokens := by
  rw [text, tokens]
  cases t.descending with
  | true =>
    have term : Spells arguments _ _ :=
      (Spells.word safe).blank (Spells.keyword (by decide : "DESC" ∈ keywords))
    simpa [String.toList_append] using term
  | false =>
    have term : Spells arguments _ _ :=
      (Spells.word safe).blank (Spells.keyword (by decide : "ASC" ∈ keywords))
    simpa [String.toList_append] using term

theorem spells_orderTerms {terms : List OrderTerm} (safe : ∀ t ∈ terms, IsSafe t.column)
    (arguments : List Scalar) :
    Spells arguments (String.intercalate ", " (terms.map OrderTerm.text)).toList
      (separatedTokens .comma (terms.map OrderTerm.tokens)) := by
  induction terms with
  | nil => exact Spells.nil
  | cons t rest ih =>
    rw [List.forall_mem_cons] at safe
    cases rest with
    | nil =>
      rw [List.map_singleton, List.map_singleton, String.intercalate_singleton,
        separatedTokens_singleton]
      exact t.spells safe.1 arguments
    | cons u more =>
      have both := (t.spells safe.1 arguments).comma (Spells.nil.blank (ih safe.2))
      simp only [List.map_cons, String.intercalate_cons_cons, separatedTokens_cons_cons,
        String.toList_append, List.append_assoc]
      exact both

theorem reads_orderPieces {terms : List OrderTerm} (safe : ∀ t ∈ terms, IsSafe t.column) :
    Reads (orderPieces terms) (orderTokens terms) := by
  rw [orderPieces, orderTokens]
  split
  · exact .nil
  · refine .text fun arguments => ?_
    have words : Spells arguments _ _ :=
      Spells.nil.blank ((Spells.keyword (by decide : "ORDER" ∈ keywords)).blank
        ((Spells.keyword (by decide : "BY" ∈ keywords)).blank (spells_orderTerms safe arguments)))
    simpa [String.toList_append] using words

theorem reads_windowPieces (window : Option Window) :
    Reads (windowPieces window) (windowTokens window) := by
  cases window with
  | none => exact .nil
  | some w =>
    have head : Reads [.text " \n LIMIT"] [.word "LIMIT"] := .text fun _ =>
      Spells.nil.blank (Spells.nil.blank (Spells.keyword (by decide : "LIMIT" ∈ keywords))).line
    have limit : Reads [.text " \n LIMIT ", .argument (.int w.limit)] _ :=
      (head.blank (.argument _)).merge
    refine limit.join " OFFSET " [.word "OFFSET"] (.argument (.int w.offset)) fun hs ht => ?_
    have both := hs.blank ((Spells.keyword (by decide : "OFFSET" ∈ keywords)).blank ht)
    simpa using both

namespace Criterion

theorem wellFormed_of_mem_simplify {criteria : List Criterion}
    (h : ∀ c ∈ criteria, c.WellFormed) : ∀ c ∈ simplify criteria, c.WellFormed := by
  intro c member
  rw [simplify] at member
  split at member
  · rw [List.mem_singleton.mp member]
    trivial
  · split at member
    · split at member
      · cases member
      · rw [List.mem_singleton.mp member]
        trivial
    · exact h c (List.mem_filter.mp member).1

theorem wellFormed_reduced {c : Criterion} (h : c.WellFormed) : c.reduced.WellFormed := by
  cases c with
  | single p => exact h
  | anyOf members =>
    have kept : possible members ≠ [] ∧ ∀ p ∈ possible members, p.WellFormed := by
      rw [possible]
      split
      · refine ⟨List.cons_ne_nil _ _, fun p member => ?_⟩
        rw [List.mem_singleton.mp member]
        trivial
      · next some_kept =>
        exact ⟨some_kept, fun p member => h.2 p (List.mem_filter.mp member).1⟩
    rw [reduced]
    split
    · next only =>
      rw [only] at kept
      exact kept.2 _ (List.mem_singleton_self _)
    · exact kept

theorem wellFormed_written {criteria : List Criterion} (h : ∀ c ∈ criteria, c.WellFormed) :
    ∀ c ∈ written criteria, c.WellFormed := by
  intro c member
  obtain ⟨d, inside, rfl⟩ := List.mem_map.mp member
  exact wellFormed_reduced (wellFormed_of_mem_simplify h d inside)

end Criterion

theorem leadsBlank_wherePieces (criteria : List Criterion) : LeadsBlank (wherePieces criteria) := by
  rw [wherePieces]
  match Criterion.written criteria with
  | [] => exact .nil
  | [_] => exact .text rfl _
  | _ :: _ :: _ => exact .text rfl _

theorem leadsBlank_orderPieces (terms : List OrderTerm) : LeadsBlank (orderPieces terms) := by
  rw [orderPieces]
  split
  · exact .nil
  · exact .text (head?_toList_append rfl) []

theorem leadsBlank_windowPieces (window : Option Window) : LeadsBlank (windowPieces window) := by
  cases window with
  | none => exact .nil
  | some w => exact .text rfl _

theorem argumentsOf_orderPieces (terms : List OrderTerm) :
    argumentsOf (orderPieces terms) = [] := by
  rw [orderPieces]
  split <;> rfl

namespace Select

/-- What is selected, and the tables. -/
def frontText (s : Select) : String := "SELECT " ++ s.projection.text ++ s.source.text

/-- What is written piece by piece behind the tables. -/
def tailPieces (s : Select) : List Piece :=
  wherePieces s.criteria ++ (orderPieces s.order ++ windowPieces s.window)

def tailTokens (s : Select) : List Token :=
  clauseTokens (Criterion.written s.criteria) ++ (orderTokens s.order ++ windowTokens s.window)

/-- Each part behind the tables has a blank in front of it. -/
theorem leadsBlank_tailPieces (s : Select) : LeadsBlank s.tailPieces :=
  (leadsBlank_wherePieces _).append ((leadsBlank_orderPieces _).append (leadsBlank_windowPieces _))

theorem head?_tailPieces (s : Select) : (markedChars 1 s.tailPieces).head? ≠ some '(' :=
  (s.leadsBlank_tailPieces.beginsBlank_marked 1).head?_ne (by decide)

theorem markedChars_pieces (s : Select) :
    markedChars 1 s.pieces = s.frontText.toList ++ markedChars 1 s.tailPieces := by
  rw [pieces, bodyPieces, tailPieces, frontText, String.toList_append]
  simp only [List.cons_append, markedChars, List.append_assoc]

theorem toList_text (s : Select) : s.statement.text.toList =
    numberMarks s.statement.arguments.length
      (s.frontText.toList ++ markedChars 1 s.tailPieces) := by
  change (String.ofList (numberMarks _ (markedChars 1 s.pieces))).toList = _
  rw [String.toList_ofList, markedChars_pieces]
  rfl

theorem arguments_statement (s : Select) : s.statement.arguments =
    argumentsOf (wherePieces s.criteria) ++ argumentsOf (windowPieces s.window) := by
  change argumentsOf s.pieces = _
  rw [pieces, bodyPieces, argumentsOf_append, argumentsOf_append, argumentsOf_orderPieces,
    List.append_nil]
  rfl

theorem argumentsOf_tailPieces (s : Select) : argumentsOf s.tailPieces = s.statement.arguments := by
  rw [arguments_statement, tailPieces, argumentsOf_append, argumentsOf_append,
    argumentsOf_orderPieces, List.nil_append]

/-- What is written behind the tables is read as the criteria, the order and the window. -/
theorem reads_tailPieces {s : Select} (criteria : ∀ c ∈ s.criteria, c.WellFormed)
    (order : ∀ t ∈ s.order, IsSafe t.column) : Reads s.tailPieces s.tailTokens := by
  have clause := reads_conjunction (Criterion.wellFormed_written criteria)
  have behind := (reads_orderPieces order).append (leadsBlank_windowPieces s.window)
    (reads_windowPieces s.window)
  exact clause.append ((leadsBlank_orderPieces _).append (leadsBlank_windowPieces _)) behind

end Select

end ListQuery.Sql
