import ListQuery.Join.Basic
import ListQuery.Join.StaticCondition
import ListQuery.Query.Options
/-!
Relationships: named edges from a table to another one. A relationship becomes one join, or two when
a junction lies between the tables; its static conditions go into the last of them. A table that
refers to itself is joined under a name of its own for each level, and a polymorphic relationship
goes to the table that the filter on its type column selects.
-/
namespace ListQuery

inductive LinkKind where
  | oneToMany
  | manyToOne
  | manyToMany (junction foreignKey targetKey : String)
  | selfReferential (maxDepth : Int)
  | polymorphic (typeColumn idColumn : String) (typeMap : OrderedMap String)
  | unsupported (kind : String)
  deriving DecidableEq, Repr

def LinkKind.name : LinkKind → String
  | .oneToMany => "one_to_many"
  | .manyToOne => "many_to_one"
  | .manyToMany _ _ _ => "many_to_many"
  | .selfReferential _ => "self_referential"
  | .polymorphic _ _ _ => "polymorphic"
  | .unsupported kind => kind

/-- The kind with a name, with nothing else known about it. -/
def LinkKind.ofName (name : String) : LinkKind :=
  if name = "one_to_many" then .oneToMany
  else if name = "many_to_one" then .manyToOne
  else if name = "many_to_many" then .manyToMany "" "" ""
  else if name = "self_referential" then .selfReferential 1
  else if name = "polymorphic" then .polymorphic "" "" .empty
  else .unsupported name

structure Relationship where
  name : String
  target : String
  foreignKey : String
  primaryKey : String
  targetPrimaryKey : String
  kind : LinkKind
  conditions : List StaticCondition

/-- Why a set of relationships cannot be put together. -/
inductive RegistryFault where
  | depthBelowOne
  | duplicateRelationship (name parent : String)
  | duplicateRegistry (table : String)
  deriving DecidableEq, Repr

def RegistryFault.message : RegistryFault → String
  | .depthBelowOne => "max_depth must be >= 1"
  | .duplicateRelationship name parent => s!"duplicate relationship '{name}' on '{parent}'"
  | .duplicateRegistry table => s!"duplicate registry for table '{table}'"

/-- What a relationship adds to a query: its joins, and the name of the table it leads to. -/
structure Hop where
  joins : List Join
  reference : String
  deriving DecidableEq, Repr

/-- The equality of two columns that ties a joined table to its parent. -/
def columnsEqual (table column parent parentColumn : String) : String :=
  table ++ "." ++ column ++ " = " ++ parent ++ "." ++ parentColumn

namespace Relationship

def defaultKey : String := "id"

def ofKind (kind : LinkKind) (name target foreignKey : String) : Relationship :=
  ⟨name, target, foreignKey, defaultKey, defaultKey, kind, []⟩

def oneToMany : (name target foreignKey : String) → Relationship := ofKind .oneToMany

def manyToOne : (name target foreignKey : String) → Relationship := ofKind .manyToOne

def manyToMany (name target junction foreignKey targetKey : String) : Relationship :=
  ofKind (.manyToMany junction foreignKey targetKey) name target ""

def selfReferential (name table foreignKey : String) (maxDepth : Int) :
    Except RegistryFault Relationship :=
  if maxDepth < 1 then .error .depthBelowOne
  else .ok (ofKind (.selfReferential maxDepth) name table foreignKey)

def polymorphic (name typeColumn idColumn : String) (typeMap : OrderedMap String) : Relationship :=
  ofKind (.polymorphic typeColumn idColumn typeMap) name "" ""

def withConditions (r : Relationship) (conditions : List StaticCondition) : Relationship :=
  { r with conditions := r.conditions ++ conditions }

def maxDepth (r : Relationship) : Int :=
  match r.kind with
  | .selfReferential depth => depth
  | _ => 1

def typeMap (r : Relationship) : OrderedMap String :=
  match r.kind with
  | .polymorphic _ _ map => map
  | _ => .empty

def isSelfReferential (r : Relationship) : Bool :=
  match r.kind with
  | .selfReferential _ => true
  | _ => false

/-- The table that a filter on the type column selects. -/
def mappedTable? (typeColumn : String) (map : OrderedMap String) (o : Options) : Option String :=
  (o.filter.get? typeColumn).bind fun v => v.text?.bind map.get?

/-- The table a relationship leads to. -/
def table? (r : Relationship) (o : Options) : Option String :=
  match r.kind with
  | .polymorphic typeColumn _ map => mappedTable? typeColumn map o
  | _ => some r.target

/-- The name of the copy of a table that is joined to itself at a depth. -/
def copyName (r : Relationship) (depth : Nat) : String :=
  r.name ++ "_" ++ r.target ++ if 1 < depth then s!"_{depth}" else ""

/-- The joins of a relationship without its static conditions; none when it leads nowhere. -/
def bareHop? (r : Relationship) (parent : String) (o : Options) (depth : Nat) :
    Except JoinFault (Option Hop) :=
  match r.kind with
  | .manyToOne =>
    let tie := columnsEqual r.target r.targetPrimaryKey parent r.foreignKey
    .ok (some ⟨[⟨r.target, tie, none⟩], r.target⟩)
  | .oneToMany =>
    let tie := columnsEqual r.target r.foreignKey parent r.primaryKey
    .ok (some ⟨[⟨r.target, tie, none⟩], r.target⟩)
  | .manyToMany junction foreignKey targetKey =>
    let near := columnsEqual junction foreignKey parent r.primaryKey
    let far := columnsEqual r.target r.targetPrimaryKey junction targetKey
    .ok (some ⟨[⟨junction, near, none⟩, ⟨r.target, far, none⟩], r.target⟩)
  | .selfReferential maxDepth =>
    if maxDepth < depth then .ok none
    else
      let copy := r.copyName depth
      let tie := columnsEqual copy r.targetPrimaryKey parent r.foreignKey
      .ok (some ⟨[⟨r.target ++ " AS " ++ copy, tie, some copy⟩], copy⟩)
  | .polymorphic typeColumn idColumn map =>
    .ok ((mappedTable? typeColumn map o).map fun table =>
      ⟨[⟨table, columnsEqual table r.targetPrimaryKey parent idColumn, none⟩], table⟩)
  | .unsupported kind => .error (.unsupportedKind kind)

/-- Adds a condition to the last of several joins. -/
def strengthenLast (extra : String) : List Join → List Join
  | [] => []
  | [j] => [{ j with condition := j.condition ++ " AND " ++ extra }]
  | j :: rest => j :: strengthenLast extra rest

/-- The joins of a relationship from a parent at a depth of self-reference. -/
def hop? (r : Relationship) (parent : String) (o : Options) (depth : Nat) :
    Except JoinFault (Option Hop) := do
  match ← r.bareHop? parent o depth with
  | none => .ok none
  | some hop =>
    if r.conditions.isEmpty then .ok (some hop)
    else
      let extra ← r.conditions.mapM StaticCondition.text
      .ok (some { hop with joins := strengthenLast (String.intercalate " AND " extra) hop.joins })

end Relationship

end ListQuery
