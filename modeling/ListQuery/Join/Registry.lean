import ListQuery.Column.Path
import ListQuery.Distinct
import ListQuery.Join.Relationship
import ListQuery.Text.Quoted
/-!
Registries of relationships, and the joins that a description needs. Each dotted column is a path;
a path is walked from its first segment on, through the registry of each table it reaches, and ends
silently where a segment is unknown or a table has no registry. A table is joined once for every
name it is known by.
-/
namespace ListQuery

open Text Column

/-- The relationships of one table, under distinct names. -/
structure Registry where
  parent : String
  relationships : List Relationship
  distinct_names : (relationships.map (·.name)).Nodup

namespace Registry

def names (r : Registry) : List String := r.relationships.map (·.name)

def ofList (parent : String) (relationships : List Relationship) : Except RegistryFault Registry :=
  match h : firstRepeat? [] (relationships.map (·.name)) with
  | some name => .error (.duplicateRelationship name parent)
  | none => .ok ⟨parent, relationships, (nodup_of_firstRepeat? h).1⟩

def extend (r : Registry) (relationships : List Relationship) : Except RegistryFault Registry :=
  ofList r.parent (r.relationships ++ relationships)

def get? (r : Registry) (name : String) : Option Relationship :=
  r.relationships.find? fun rel => rel.name == name

def describe (r : Registry) : String :=
  "RelationshipRegistry(" ++ quoted r.parent ++ ", " ++ quotedList r.names ++ ")"

/-- Whether a column may be used: it starts with a relationship, or it is listed. -/
def admits (r : Registry) (column : String) (listed : List String) : Bool :=
  (head? column).any r.names.contains || listed.contains column

def unlistedMessage (column : String) : String := s!"column '{column}' is not in whitelist"

end Registry

/-- The registries of several tables, one for each. -/
structure Graph where
  registries : List Registry
  distinct_parents : (registries.map (·.parent)).Nodup

namespace Graph

def tables (g : Graph) : List String := g.registries.map (·.parent)

def ofList (registries : List Registry) : Except RegistryFault Graph :=
  match h : firstRepeat? [] (registries.map (·.parent)) with
  | some table => .error (.duplicateRegistry table)
  | none => .ok ⟨registries, (nodup_of_firstRepeat? h).1⟩

def get? (g : Graph) (table : String) : Option Registry :=
  g.registries.find? fun r => r.parent == table

end Graph

/-- A join with the name its table is known by. -/
def keyedJoin (j : Join) : Except JoinFault (String × Join) :=
  match j.key? with
  | some key => .ok (key, j)
  | none => .error .blankTable

/-- The registry of the table that a relationship leads to. A table that refers to itself needs none
but its own. -/
def Registry.next? (r : Registry) (graph : Option Graph) (o : Options) (rel : Relationship) :
    Option Registry :=
  if rel.isSelfReferential then some r
  else graph.bind fun g => (rel.table? o).bind g.get?

/-- The joins along a path, given the name of the table that was reached and the relationships that
were followed. -/
def Registry.walk (graph : Option Graph) (o : Options) (r : Registry) (parent : String)
    (followed : List String) : List String → Except JoinFault (List (String × Join))
  | [] => .ok []
  | segment :: rest =>
    match r.get? segment with
    | none => .ok []
    | some rel => do
      match ← rel.hop? parent o (followed.count segment + 1) with
      | none => .ok []
      | some hop =>
        let joins ← hop.joins.mapM keyedJoin
        match r.next? graph o rel with
        | none => .ok joins
        | some next =>
          let more ← walk graph o next hop.reference (segment :: followed) rest
          .ok (joins ++ more)

/-- The distinct paths of the columns of a description. -/
def Options.paths (o : Options) : List String :=
  distinct ((o.columns.map path).filter fun p => !p.isEmpty)

def Registry.walkPath (r : Registry) (graph : Option Graph) (o : Options) (path : String) :
    Except JoinFault (List (String × Join)) :=
  r.walk graph o r.parent [] (segments path)

/-- The joins that the columns of a description need. -/
def Registry.joins (r : Registry) (graph : Option Graph) (o : Options) :
    Except JoinFault (List Join) := do
  let walks ← o.paths.mapM (r.walkPath graph o)
  .ok ((firstByKey walks.flatten).map (·.2))

def Graph.joins (g : Graph) (table : String) (o : Options) : Except JoinFault (List Join) :=
  match g.get? table with
  | none => .ok []
  | some r => r.joins (some g) o

/-- The joins of a list: from its own registry, or else from the one a graph has for its table. -/
def listJoins (table : String) (registry : Option Registry) (graph : Option Graph) (o : Options) :
    Except JoinFault (List Join) :=
  match registry <|> graph.bind (·.get? table) with
  | none => .ok []
  | some r => r.joins graph o

end ListQuery
