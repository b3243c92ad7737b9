import DirectoryAccess.Memo
import DirectoryAccess.Predicate.Filter
import DirectoryAccess.Repository
/-!
# Selections

A selection is a predicate on the entities of a repository together with what is wanted of each: the entity itself, a
projection of it, or a record made from it.  Refining a selection gives a new one; every way to run it makes one search.

Only the attributes that are needed are fetched: those that were named, or those behind the properties that a closed
projection reads, or else all.  A projection that reads nothing that is stored still has to ask for something, and asks
for the classes.

Results are made one at a time from the entries found, so a row that cannot be made is a fault of that row only; `all`
ends with the first.
-/
namespace DirectoryAccess

/-- What is made of each entity. -/
inductive Shape (ε ρ : Type) where
  | entity (make : ε → ρ)
  | projection (p : Projection) (make : View → ρ)
  | record (t : RecordType ρ)

structure Selection (ε ρ : Type) where
  predicate : Predicate
  /-- Attributes to fetch, where the caller names them. -/
  named : List String := []
  shape : Shape ε ρ

/-- All entities for which the predicate holds. -/
def Selection.ofPredicate {ε : Type} (p : Predicate) : Selection ε ε := { predicate := p, shape := .entity id }

namespace Selection

variable {σ ε ρ : Type}

/-! ## Refining -/

/-- The same selection with something else made of each entity. -/
def shaped {ρ' : Type} (q : Selection ε ρ) (shape : Shape ε ρ') : Selection ε ρ' :=
  { predicate := q.predicate, named := q.named, shape }

/-- The same selection, fetching the named attributes only. -/
def project (q : Selection ε ρ) (names : List String) : Except Fault (Selection ε ρ) :=
  if names.any Text.isVoid then .error (.invalidArgument .blankAttribute) else .ok { q with named := names }

def sortBy (_ : Selection ε ρ) (_ : Sorting) : Except Fault (Selection ε ρ) := .error (.unsupported "sort_by")

/-- No selection has an order, since `sortBy` refuses. -/
def isSorted (_ : Selection ε ρ) : Bool := false

/-! ## Attributes -/

/-- The attribute to fetch for a property: none for one that is not stored, its own name for one that is not known. -/
def fetched? (s : Schema ε) (property : String) : Option String :=
  match s.property? property with
  | some p => if p.isStored then some p.attr else none
  | none => some property

def fetchedFor (s : Schema ε) (properties : List String) : List String :=
  match properties.filterMap (fetched? s), properties with
  | [], _ :: _ => [countAttribute]
  | names, _ => names

/-- The attributes to fetch; none means all. -/
def attributes (s : Schema ε) (q : Selection ε ρ) : List String :=
  if q.named.isEmpty then
    match q.shape with
    | .projection p _ => fetchedFor s p.accessors.inputs
    | .entity _ => []
    | .record _ => []
  else q.named

/-! ## Running -/

/-- What is made of an entry. -/
def convert (s : Schema ε) (shape : Shape ε ρ) (entry : Entry) : Action Memo ρ := do
  let e ← Action.ofExcept (s.ofEntry entry)
  match shape with
  | .entity make => return make e
  | .projection p make => Action.ofStep (fun m => (.ok (make (m.view s p e).1), (m.view s p e).2))
  | .record t => Memo.make s t e

def convertAll (s : Schema ε) (shape : Shape ε ρ) : List Entry → Action Memo (List ρ)
  | [] => return []
  | entry :: entries => do
    let row ← convert s shape entry
    return row :: (← convertAll s shape entries)

def search (r : Repository σ ε) (q : Selection ε ρ) (limit : Option UInt64) : Action σ (List Entry) := do
  let f ← Action.ofExcept (q.predicate.compile r.mapping.schema)
  r.searchEntries (some f) (q.attributes r.mapping.schema) limit

/-- The one result, if there is one; more are a fault. -/
def one (r : Repository σ ε) (q : Selection ε ρ) : Action (σ × Memo) (Option ρ) := do
  match ← (q.search r (some 2)).onFirst with
  | [] => return none
  | [entry] => return some (← (convert r.mapping.schema q.shape entry).onSecond)
  | entries => throw (.cardinality 1 entries.length)

/-- The first result, if there is one. -/
def first (r : Repository σ ε) (q : Selection ε ρ) : Action (σ × Memo) (Option ρ) := do
  match ← (q.search r (some 2)).onFirst with
  | [] => return none
  | entry :: _ => return some (← (convert r.mapping.schema q.shape entry).onSecond)

/-- Results that are still to be made. -/
structure Pending (ε ρ : Type) where
  schema : Schema ε
  shape : Shape ε ρ
  entries : List Entry

/-- The next result, which is made now, and those after it. -/
def Pending.next? (p : Pending ε ρ) : Option (Action Memo ρ × Pending ε ρ) :=
  match p.entries with
  | [] => none
  | entry :: entries => some (convert p.schema p.shape entry, { p with entries })

/-- All results up to the first fault. -/
def Pending.collect (p : Pending ε ρ) : Action Memo (List ρ) := convertAll p.schema p.shape p.entries

/-- The search now, the results when they are asked for. -/
def stream (r : Repository σ ε) (q : Selection ε ρ) : Action σ (Pending ε ρ) := do
  let entries ← q.search r none
  return { schema := r.mapping.schema, shape := q.shape, entries }

def all (r : Repository σ ε) (q : Selection ε ρ) : Action (σ × Memo) (List ρ) := do
  let pending ← (q.stream r).onFirst
  pending.collect.onSecond

def count (r : Repository σ ε) (q : Selection ε ρ) : Action σ Nat := do
  let f ← Action.ofExcept (q.predicate.compile r.mapping.schema)
  r.countMatching (some f) none

/-- Whether there is any result. -/
def exists? (r : Repository σ ε) (q : Selection ε ρ) : Action σ Bool := do
  let f ← Action.ofExcept (q.predicate.compile r.mapping.schema)
  return decide (0 < (← r.countMatching (some f) (some 1)))

def page (_ : Repository σ ε) (_ : Selection ε ρ) (_ : Page) : Action (σ × Memo) (List ρ) :=
  throw (.unsupported "page")

end Selection

/-! ## Entities by predicate -/

namespace Repository

variable {σ ε : Type}

def findAllSorted (_ : Repository σ ε) (_ : Predicate) (_ : Sorting) : Action σ (List ε) :=
  throw (.unsupported "find_all_sorted")

def findAllOrdered (_ : Repository σ ε) (_ : List SortKey) : Action σ (List ε) :=
  throw (.unsupported "find_all_ordered")

def findAllWithOrder (_ : Repository σ ε) (_ : Predicate) (_ : List SortKey) : Action σ (List ε) :=
  throw (.unsupported "find_all_with_order")

def findAllPaged (_ : Repository σ ε) (_ : Predicate) (_ : Page) : Action σ (List ε) :=
  throw (.unsupported "find_all_paged")

end Repository
end DirectoryAccess
