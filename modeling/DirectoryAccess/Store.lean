import DirectoryAccess.Client
import DirectoryAccess.Filter.Matching
/-!
# A directory in memory

The entries in the order in which they were added, and every search that was made, oldest first.  Names are kept apart
by `Name.same`: there is one entry for a name whatever its spelling, as long as there was at the start.

An operation that fails leaves the entries as they are, which `Action.ofUpdate` makes plain: it gives a new store or a
fault.
-/
namespace DirectoryAccess

structure Store where
  entries : List Entry
  asked : List Query := []

namespace Store

def ofEntries (entries : List Entry) : Store := { entries }

def find? (s : Store) (n : Name) : Option Entry := s.entries.find? (fun e => e.name.same n)

def holds (s : Store) (n : Name) : Bool := s.entries.any (fun e => e.name.same n)

def size (s : Store) : Nat := s.entries.length

/-- Applies `f` to the first entry of that name. -/
def replaceFirst (n : Name) (f : Entry → Entry) : List Entry → List Entry
  | [] => []
  | e :: es => if e.name.same n then f e :: es else e :: replaceFirst n f es

/-- Drops the first entry of that name. -/
def dropFirst (n : Name) : List Entry → List Entry
  | [] => []
  | e :: es => if e.name.same n then es else e :: dropFirst n es

/-- Puts the entry in the place of the one of its name, or at the end. -/
def insert (s : Store) (entry : Entry) : Store :=
  if s.holds entry.name then { s with entries := replaceFirst entry.name (fun _ => entry) s.entries }
  else { s with entries := s.entries ++ [entry] }

/-! ## Writing -/

def create (entry : Entry) (s : Store) : Except Fault Store :=
  if entry.name.isRoot then .error (.invalidArgument .rootEntry)
  else if s.holds entry.name then .error (.alreadyExists entry.name)
  else .ok { s with entries := s.entries ++ [entry] }

/-- Writes one attribute; null removes it. -/
def writeAttribute (as : Attributes) (name : String) (v : Value) : Attributes :=
  if v.isNull then as.erase name else as.set name v

/-- Writes all attributes of `changes`. -/
def writeAttributes (as changes : Attributes) : Attributes :=
  changes.pairs.foldl (fun as p => writeAttribute as p.1 p.2) as

def update (changes : Entry) (s : Store) : Except Fault Store :=
  if s.holds changes.name then
    .ok { s with
      entries := replaceFirst changes.name
        (fun e => { e with attributes := writeAttributes e.attributes changes.attributes }) s.entries }
  else .error (.notFound changes.name)

def unbind (n : Name) (s : Store) : Except Fault Store :=
  if s.holds n then .ok { s with entries := dropFirst n s.entries } else .error (.notFound n)

/-! ## Reading -/

def lookup (n : Name) (s : Store) : Except Fault Entry :=
  match s.find? n with
  | some entry => .ok entry
  | none => .error (.notFound n)

/-- The name is as deep below the base as the scope says. -/
def inScope (n base : Name) : Scope → Bool
  | .base => n.same base
  | .oneLevel =>
    match n.parent? with
    | some above => above.same base
    | none => false
  | .subtree => n.endsWith base

/-- At most so many. -/
def limited {α : Type} (limit : Option UInt64) (as : List α) : List α :=
  match limit with
  | some n => as.take n.toNat
  | none => as

/-- The entries that the query asks for, in stored order. -/
def matching (s : Store) (q : Query) : List Entry :=
  (limited q.limit (s.entries.filter (fun e => inScope e.name q.base q.scope && q.filter.selects e.attributes))).map
    (fun e => { e with attributes := e.attributes.keep q.attributes })

/-- The store with the query in its record. -/
def ask (s : Store) (q : Query) : Store := { s with asked := s.asked ++ [q] }

/-- The store with an empty record. -/
def forget (s : Store) : Store := { s with asked := [] }

/-! ## As a client -/

def client : Client Store where
  label := "in-memory"
  probe := pure ()
  create entry := Action.ofUpdate (create entry)
  update changes := Action.ofUpdate (update changes)
  lookup n := Action.ofStep (fun s => (lookup n s, s))
  search q := Action.ofStep (fun s => (.ok ((s.matching q).map .ok), s.ask q))
  unbind n := Action.ofUpdate (unbind n)

/-! ## One law per operation -/

theorem holds_iff (s : Store) (n : Name) : s.holds n = true ↔ ∃ e ∈ s.entries, e.name.same n = true := by
  simp [holds]

theorem find?_isSome (s : Store) (n : Name) : (s.find? n).isSome = s.holds n := by
  simp [find?, holds, List.isSome_find?]

@[simp] theorem entries_ask (s : Store) (q : Query) : (s.ask q).entries = s.entries := rfl

@[simp] theorem asked_ask (s : Store) (q : Query) : (s.ask q).asked = s.asked ++ [q] := rfl

end Store
end DirectoryAccess
