import DirectoryAccess.Client
import DirectoryAccess.Listing
import DirectoryAccess.Mapping
import DirectoryAccess.Settings
/-!
# Repositories

A repository keeps entities of one schema in a directory.  It names them, turns them into entries and back, and confines
every search to its base, its scope and the classes of its schema.

An entity is new when it says so itself, or else when it has no name yet.  A new entity is created under its computed
name, which it is given; any other is written onto the entry that is there.  Batches go from left to right and end with
the first fault; what was done before it stays done.
-/
namespace DirectoryAccess

/-- The attribute that is asked for where only the number of entries matters. -/
def countAttribute : String := "objectclass"

structure Repository (σ ε : Type) where
  client : Client σ
  mapping : Mapping ε
  placement : Placement := {}

namespace Repository

variable {σ ε : Type}

/-- A repository in a place of its own, if that is a place for one. -/
def placed (client : Client σ) (mapping : Mapping ε) (placement : Placement) : Except Fault (Repository σ ε) :=
  match placement.check with
  | .ok _ => .ok { client, mapping, placement }
  | .error fault => .error (.invalidSettings fault)

/-! ## Searches -/

/-- Where all searches start: the base that was set, or that of the mapping. -/
def searchBase (r : Repository σ ε) : Except Fault Name :=
  if r.placement.base.isRoot then r.mapping.searchBase else .ok r.placement.base

/-- The query for entries of this repository that fulfil the criteria. -/
def queryFor (r : Repository σ ε) (criteria : Option Filter) (attributes : List String) (limit : Option UInt64) :
    Except Fault Query :=
  r.searchBase.map (fun base =>
    { base, scope := r.placement.scope, filter := r.mapping.restrict criteria, attributes, limit })

/-- A query of the caller's, confined to entries of this repository's classes. -/
def confine (r : Repository σ ε) (q : Query) : Query := { q with filter := r.mapping.restrict (some q.filter) }

def searchEntries (r : Repository σ ε) (criteria : Option Filter) (attributes : List String)
    (limit : Option UInt64) : Action σ (List Entry) := do
  let q ← Action.ofExcept (r.queryFor criteria attributes limit)
  r.client.find q

/-- How many entries there are, at most `limit`, reading as little of them as can be. -/
def countMatching (r : Repository σ ε) (criteria : Option Filter) (limit : Option UInt64) : Action σ Nat := do
  let q ← Action.ofExcept (r.queryFor criteria [countAttribute] limit)
  r.client.count q

/-- The entities of entries, up to the first that is not one. -/
def entitiesOf (r : Repository σ ε) (entries : List Entry) : Except Fault (List ε) :=
  entries.mapM r.mapping.schema.ofEntry

/-! ## Reading -/

def requireId (n : Name) : Except Fault Unit := if n.isRoot then .error (.invalidArgument .rootId) else .ok ()

/-- The entity of that name, if there is an entry. -/
def findById (r : Repository σ ε) (n : Name) : Action σ (Option ε) := do
  Action.ofExcept (requireId n)
  match ← (r.client.lookup n).attempt with
  | .ok entry => return some (← Action.ofExcept (r.mapping.schema.ofEntry entry))
  | .error (.notFound _) => return none
  | .error fault => throw fault

def existsById (r : Repository σ ε) (n : Name) : Action σ Bool := return (← r.findById n).isSome

def findAll (r : Repository σ ε) : Action σ (List ε) := do
  let entries ← r.searchEntries none [] none
  Action.ofExcept (r.entitiesOf entries)

/-- The entities of those names that there are, in the order of the names. -/
def findAllById (r : Repository σ ε) : List Name → Action σ (List ε)
  | [] => return []
  | n :: ns => do
    let found ← r.findById n
    return found.toList ++ (← findAllById r ns)

def count (r : Repository σ ε) : Action σ Nat := r.countMatching none none

/-- The one entity that a query of the caller's finds, if any. -/
def findOneQuery (r : Repository σ ε) (q : Query) : Action σ (Option ε) := do
  match ← (r.client.findOne (r.confine q)).attempt with
  | .ok entry => return some (← Action.ofExcept (r.mapping.schema.ofEntry entry))
  | .error .emptyResult => return none
  | .error (.notFound _) => return none
  | .error fault => throw fault

/-- All entities that a query of the caller's finds. -/
def findAllQuery (r : Repository σ ε) (q : Query) : Action σ (List ε) := do
  let entries ← r.client.find (r.confine q)
  Action.ofExcept (r.entitiesOf entries)

/-! ## Writing -/

/-- The name of an entity, or the one it would be stored under. -/
def nameOf (r : Repository σ ε) (e : ε) : Except Fault Name :=
  match r.mapping.id? e with
  | some n => .ok n
  | none => r.mapping.nameFor e

def isNew (r : Repository σ ε) (e : ε) : Bool := (r.mapping.schema.isNew? e).getD (r.mapping.id? e).isNone

/-- Creates or writes the entity, and gives it with the name under which it is stored. -/
def save (r : Repository σ ε) (e : ε) : Action σ ε := do
  let n ← Action.ofExcept (r.nameOf e)
  if r.isNew e then
    let e := r.mapping.schema.setId n e
    r.client.create (r.mapping.entryOf e n)
    return e
  else
    r.client.update (r.mapping.changesOf e n)
    return e

def saveAll (r : Repository σ ε) : List ε → Action σ (List ε)
  | [] => return []
  | e :: es => do
    let saved ← r.save e
    return saved :: (← saveAll r es)

def deleteById (r : Repository σ ε) (n : Name) : Action σ Unit := do
  Action.ofExcept (requireId n)
  r.client.unbind n

def delete (r : Repository σ ε) (e : ε) : Action σ Unit := do
  let n ← Action.ofExcept (r.nameOf e)
  r.client.delete (r.mapping.entryOf e n)

def deleteAllById (r : Repository σ ε) : List Name → Action σ Unit
  | [] => pure ()
  | n :: ns => do
    r.deleteById n
    deleteAllById r ns

def deleteEntities (r : Repository σ ε) : List ε → Action σ Unit
  | [] => pure ()
  | e :: es => do
    r.delete e
    deleteEntities r es

/-- Removes every entity of this repository, one by one. -/
def deleteAll (r : Repository σ ε) : Action σ Unit := do
  let es ← r.findAll
  r.deleteEntities es

end Repository
end DirectoryAccess
