import DirectoryAccess.Fault
import DirectoryAccess.Entry
/-!
# Schemas of entities

An entity is a value of the caller's own type that is kept as an entry.  Its schema says how: the classes of its
entries, the base below which they stand, the properties by which predicates, projections and records refer to it, and
functions between entities and entries.

A property is the name of the entry (`id`), the attribute that new names are made of (`naming`), any other attribute,
or nothing that is stored (`transient`).
-/
namespace DirectoryAccess

inductive Role where
  | id
  | naming
  | plain
  | transient
deriving DecidableEq

/-- A property of an entity and the attribute behind it, which is empty where there is none. -/
structure Property where
  name : String
  attr : String
  role : Role
deriving DecidableEq

namespace Property

def id (name : String) : Property := ⟨name, "", .id⟩

def naming (name attr : String) : Property := ⟨name, attr, .naming⟩

def plain (name attr : String) : Property := ⟨name, attr, .plain⟩

def transient (name : String) : Property := ⟨name, "", .transient⟩

def isId (p : Property) : Bool := p.role = .id

/-- An attribute stands behind it. -/
def isStored (p : Property) : Bool := p.role = .naming || p.role = .plain

end Property

structure Schema (ε : Type) where
  typeName : String
  /-- Classes written on every entry and asked for in every search. -/
  classes : List String
  /-- The written name, relative to a base of the caller's, below which the entries stand. -/
  base : String
  properties : List Property
  id? : ε → Option Name
  setId : Name → ε → ε
  /-- The attributes of an entity without its classes; a null one is as good as missing. -/
  attributes : ε → Attributes
  ofEntry : Entry → Except Fault ε
  /-- Whether an entity that keeps count itself has never been stored. -/
  isNew? : ε → Option Bool := fun _ => none
  /-- The value of a property that is not stored, where the entity can tell it. -/
  computed? : ε → String → Option Value := fun _ _ => none

namespace Schema

variable {ε : Type}

def property? (s : Schema ε) (name : String) : Option Property := s.properties.find? (·.name == name)

def knows (s : Schema ε) (name : String) : Bool := (s.property? name).isSome

/-- The attribute behind the property, if there is one. -/
def attrOf? (s : Schema ε) (name : String) : Option String :=
  ((s.property? name).filter Property.isStored).map Property.attr

/-- The first property that names are made of. -/
def naming? (s : Schema ε) : Option Property := s.properties.find? (fun p => p.role = .naming)

/-- The value of an attribute that is there and not null. -/
def valueOf? (as : Attributes) (attr : String) : Option Value := (as.find? attr).filter (fun v => !v.isNull)

/-- The value of the entity's property. -/
def read (s : Schema ε) (e : ε) (name : String) : Option Value :=
  match s.property? name with
  | none => none
  | some p =>
    match p.role with
    | .id => (s.id? e).map (fun n => .text n.text)
    | .naming => valueOf? (s.attributes e) p.attr
    | .plain => valueOf? (s.attributes e) p.attr
    | .transient => s.computed? e name

end Schema
end DirectoryAccess
