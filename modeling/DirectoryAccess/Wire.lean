import DirectoryAccess.Fault
import DirectoryAccess.Filter.Written
import DirectoryAccess.Search
/-!
# What goes over the wire

The requests a client makes of a directory server, the responses it gets, and entries as servers send them: names as
text, values as rows of octets.
-/
namespace DirectoryAccess

abbrev Octets := List UInt8

/-- A change of one attribute. -/
inductive Change where
  | replace (attr : String) (values : List Octets)
  | delete (attr : String)
deriving DecidableEq

def Change.attr : Change → String
  | .replace attr _ => attr
  | .delete attr => attr

inductive Request where
  | bind (name password : String)
  | unbind
  /-- A size limit of zero is none. -/
  | search (base : String) (scope : Scope) (sizeLimit : Nat) (filter : String) (attributes : List String)
  | add (name : String) (attributes : List (String × List Octets))
  | modify (name : String) (changes : List Change)
  | delete (name : String)
  | extended (oid : String)
deriving DecidableEq

/-- An entry as a server sends it. -/
structure RawEntry where
  name : String
  attributes : List (String × List Octets)
deriving DecidableEq

/-- The result of a request, after the entries found. -/
structure Response where
  code : UInt32 := 0
  matched : String := ""
  text : String := ""
  entries : List RawEntry := []
deriving DecidableEq

def Response.refusal (r : Response) : Refusal := ⟨r.code, r.matched, r.text⟩

/-- The request was done. -/
def Response.done (r : Response) : Bool := r.code == 0

/-- The limit as a server is told it: limits beyond 31 bits are cut down to them. -/
def sizeLimit (limit : Option UInt64) : Nat :=
  match limit with
  | some n => min n.toNat 0x7fffffff
  | none => 0

/-! ## Sets of values -/

/-- Puts a row in its place among rows in order, unless it is there. -/
def insertRow (row : Octets) : List Octets → List Octets
  | [] => [row]
  | r :: rs => if row = r then r :: rs else if Text.octetsBefore row r then row :: r :: rs else r :: insertRow row rs

/-- The rows in order, each once. -/
def rowSet (rows : List Octets) : List Octets := rows.foldr insertRow []

theorem mem_insertRow {row x : Octets} : ∀ {rows : List Octets}, x ∈ insertRow row rows ↔ x = row ∨ x ∈ rows
  | [] => by simp [insertRow]
  | r :: rs => by
    unfold insertRow
    split
    · rename_i h; simp [h]
    · split
      · simp
      · simp only [List.mem_cons, @mem_insertRow row x rs]
        constructor
        · rintro (h | h | h) <;> simp [h]
        · rintro (h | h | h) <;> simp [h]

theorem mem_rowSet {x : Octets} : ∀ {rows : List Octets}, x ∈ rowSet rows ↔ x ∈ rows
  | [] => by simp [rowSet]
  | r :: rs => by
    have ih : x ∈ List.foldr insertRow [] rs ↔ x ∈ rs := mem_rowSet
    simp [rowSet, mem_insertRow, ih]

theorem rowSet_eq_nil_iff {rows : List Octets} : rowSet rows = [] ↔ rows = [] := by
  constructor
  · intro h
    cases rows with
    | nil => rfl
    | cons r rs =>
      have : r ∈ rowSet (r :: rs) := mem_rowSet.2 List.mem_cons_self
      rw [h] at this
      cases this
  · rintro rfl; rfl

end DirectoryAccess
