import DirectoryAccess.Schema
import DirectoryAccess.Filter
/-!
# Entities as entries

A mapping is a schema and the base below which entities of that schema are kept.  The name of a new entity is its
naming attribute, then the base of the schema, then this base.

`entryOf` is the whole entry of an entity.  `changesOf` is what has to be written onto an entry that is already there:
the same, and a null for every stored property that the entity does not have, so that attributes of the mapping are
removed and all others are left alone.
-/
namespace DirectoryAccess

structure Mapping (ε : Type) where
  schema : Schema ε
  base : Name

namespace Mapping

variable {ε : Type}

/-- The name an entity has; the root is none. -/
def id? (m : Mapping ε) (e : ε) : Option Name := (m.schema.id? e).filter (fun n => !n.isRoot)

/-- Where the entries of these entities stand. -/
def searchBase (m : Mapping ε) : Except Fault Name :=
  match Name.read m.schema.base with
  | .ok relative => .ok (relative.append m.base)
  | .error fault => .error (.mapping (.entityBase m.schema.base fault))

/-- The first text of the naming attribute, unless it is empty. -/
def namingText? (m : Mapping ε) (attr : String) (e : ε) : Option String :=
  (((m.schema.attributes e).textsOf attr).head?).filter (fun s => !s.isEmpty)

/-- The name that a new entity is stored under. -/
def nameFor (m : Mapping ε) (e : ε) : Except Fault Name :=
  match m.schema.naming? with
  | none => .error (.mapping (.noNaming m.schema.typeName))
  | some p =>
    match m.namingText? p.attr e with
    | none => .error (.mapping (.namingUnset p.attr))
    | some value => m.searchBase.map (·.child p.attr value)

/-- The entries of these entities, and of them those that fulfil the criteria. -/
def restrict (m : Mapping ε) (criteria : Option Filter) : Filter :=
  match m.schema.classes.map (Filter.equals classAttribute) ++ criteria.toList with
  | [] => Filter.everything
  | [f] => f
  | fs => .all fs

/-- The classes of the schema as a value. -/
def classesValue (m : Mapping ε) : Value := .list (m.schema.classes.map .text)

def entryOf (m : Mapping ε) (e : ε) (n : Name) : Entry :=
  ⟨n, (Attributes.ofPairs ((m.schema.attributes e).pairs.filter (fun p => !p.2.isNull))).set classAttribute
    m.classesValue⟩

/-- A null for the attribute, unless it has a value. -/
def orNull (as : Attributes) (p : Property) : Attributes :=
  if p.isStored && !as.has p.attr then as.set p.attr .null else as

def changesOf (m : Mapping ε) (e : ε) (n : Name) : Entry :=
  ⟨n, m.schema.properties.foldl orNull (m.entryOf e n).attributes⟩

end Mapping
end DirectoryAccess
