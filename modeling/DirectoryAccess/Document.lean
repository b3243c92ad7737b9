/-!
# Documents

The tree in which values, filters, queries and settings are exchanged with configuration files and other programs:
nothing, truth values, numbers, texts, lists, and objects with named fields.  A number is an integer only when it is
written as one; any other number is kept as it was written and equals no integer.

The readers of this module (`required`, `optional`, `fieldOr`) are what the stored forms of the domain types are made
of.  A field that is missing, empty (`null`) or of the wrong kind is told apart by them, never by their callers.
-/
namespace DirectoryAccess

inductive Document where
  | null
  | boolean (b : Bool)
  | integer (n : Int)
  | fraction (literal : String)
  | text (s : String)
  | list (items : List Document)
  | object (fields : List (String × Document))

namespace Document

/-! ## Reading one node -/

def text? : Document → Option String
  | .text s => some s
  | _ => none

def boolean? : Document → Option Bool
  | .boolean b => some b
  | _ => none

def integer? : Document → Option Int
  | .integer n => some n
  | _ => none

/-- A whole number from zero up to, and not including, `bound`. -/
def natBelow? (bound : Nat) (d : Document) : Option Nat :=
  d.integer?.bind (fun n => if 0 ≤ n ∧ n < bound then some n.toNat else none)

def list? : Document → Option (List Document)
  | .list ds => some ds
  | _ => none

def listOf? {α : Type} (read : Document → Option α) (d : Document) : Option (List α) :=
  d.list?.bind (·.mapM read)

/-! ## Reading the fields of an object -/

def fields? : Document → Option (List (String × Document))
  | .object fs => some fs
  | _ => none

/-- The field of that name; `none` also where `d` has no fields at all. -/
def field? (d : Document) (name : String) : Option Document := d.fields?.bind (·.lookup name)

/-- The field must be there and readable. -/
def required {α : Type} (d : Document) (name : String) (read : Document → Option α) : Option α :=
  (d.field? name).bind read

/-- The field may be missing, and then has the value `whenMissing`; it may not be unreadable. -/
def fieldOr {α : Type} (d : Document) (name : String) (whenMissing : α) (read : Document → Option α) : Option α :=
  match d.field? name with
  | none => some whenMissing
  | some x => read x

/-- The field may be missing or null, and then has no value; it may not be otherwise unreadable. -/
def optional {α : Type} (d : Document) (name : String) (read : Document → Option α) : Option (Option α) :=
  match d.field? name with
  | none => some none
  | some .null => some none
  | some x => (read x).map some

/-! ## Building -/

instance : Coe String Document := ⟨.text⟩

instance : Coe Bool Document := ⟨.boolean⟩

instance : Coe Nat Document := ⟨fun n => .integer n⟩

def texts (ss : List String) : Document := .list (ss.map .text)

def nat (n : Nat) : Document := .integer n

/-- Null where there is no value. -/
def ofOption {α : Type} (write : α → Document) : Option α → Document
  | none => .null
  | some a => write a

/-- A field that is written only where it has a value. -/
def present {α : Type} (name : String) (write : α → Document) : Option α → List (String × Document)
  | none => []
  | some a => [(name, write a)]

/-- A field that is written only where its list has members. -/
def nonempty {α : Type} (name : String) (write : α → Document) : List α → List (String × Document)
  | [] => []
  | as => [(name, .list (as.map write))]

end Document
end DirectoryAccess
