import DirectoryAccess.Schema
/-!
# Projections

A projection looks at an entity through some of its properties.  A closed one says which names it reads, an open one
reads any.  The view of an entity serves a name when the projection reads it and the schema knows it, and reads its
value only then; every other name has no value.
-/
namespace DirectoryAccess

/-- The names that a projection reads. -/
inductive Accessors where
  | closed (names : List String)
  | anything
deriving DecidableEq

def Accessors.isClosed : Accessors → Bool
  | .closed _ => true
  | .anything => false

/-- The names that a closed projection reads; of an open one they are not known. -/
def Accessors.inputs : Accessors → List String
  | .closed names => names
  | .anything => []

structure Projection where
  typeName : String
  accessors : Accessors
deriving DecidableEq

/-- The names that a view serves: all of them, or these. -/
abbrev AccessTable := Option (List String)

/-- The table of a projection over entities of a schema. -/
def AccessTable.of {ε : Type} (s : Schema ε) : Accessors → AccessTable
  | .closed names => some (names.filter s.knows)
  | .anything => none

def AccessTable.serves (t : AccessTable) (name : String) : Bool :=
  match t with
  | some names => names.contains name
  | none => true

/-- An entity seen through a table. -/
structure View where
  table : AccessTable
  read : String → Option Value

namespace View

variable {ε : Type}

def of (s : Schema ε) (t : AccessTable) (e : ε) : View := ⟨t, s.read e⟩

def get (v : View) (name : String) : Option Value := if v.table.serves name then v.read name else none

def texts (v : View) (name : String) : List String :=
  match v.get name with
  | some x => x.texts
  | none => []

/-- The first text of the value. -/
def text? (v : View) (name : String) : Option String := (v.texts name).head?

def integer? (v : View) (name : String) : Option Int64 := (v.get name).bind Value.integer?

def boolean? (v : View) (name : String) : Option Bool := (v.get name).bind Value.boolean?

end View

/-- The view of an entity through a projection. -/
def Projection.view {ε : Type} (p : Projection) (s : Schema ε) (e : ε) : View :=
  View.of s (AccessTable.of s p.accessors) e

end DirectoryAccess
