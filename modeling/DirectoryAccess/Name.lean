import DirectoryAccess.Text.Case
/-!
# Distinguished names

An entry is named by its own part and those of the entries above it, the most specific first; a part gives the type of
an attribute and a value.  The name without parts is the root.

Names are equal when they have as many parts and part by part the types are equal up to the case of ASCII letters and
the values have one lower-case form (`Name.same`).  `Name.key` is what this relation compares, so equal names have
equal keys and a table of names can be kept by key.  Equality of the spelling itself is plain `=`.

The tree of names: `parent?` drops the first part, `child` puts one in front, `append` puts a whole name under another,
and `endsWith`, `below` and `stripSuffix?` look at the end of a name.
-/
namespace DirectoryAccess

/-- One part of a name: the type of an attribute and a value, neither of them escaped. -/
structure Rdn where
  type : String
  value : String
deriving DecidableEq

/-- A distinguished name, its most specific part first. -/
structure Name where
  rdns : List Rdn
deriving DecidableEq

/-! ## Equality -/

namespace Rdn

def same (a b : Rdn) : Bool := Text.sameName a.type b.type && Text.lower a.value == Text.lower b.value

def key (r : Rdn) : String × String := (Text.fold r.type, Text.lower r.value)

theorem same_iff_key {a b : Rdn} : a.same b = true ↔ a.key = b.key := by
  simp [same, key, Text.sameName]

/-- Parts are equal in pairs, and there are as many. -/
def sameAll : List Rdn → List Rdn → Bool
  | [], [] => true
  | a :: as, b :: bs => a.same b && sameAll as bs
  | _, _ => false

theorem sameAll_iff_key : ∀ {as bs : List Rdn}, sameAll as bs = true ↔ as.map key = bs.map key
  | [], [] => by simp [sameAll]
  | [], _ :: _ => by simp [sameAll]
  | _ :: _, [] => by simp [sameAll]
  | a :: as, b :: bs => by simp [sameAll, same_iff_key, @sameAll_iff_key as bs]

end Rdn

namespace Name

def same (a b : Name) : Bool := Rdn.sameAll a.rdns b.rdns

def key (n : Name) : List (String × String) := n.rdns.map Rdn.key

theorem same_iff_key {a b : Name} : a.same b = true ↔ a.key = b.key := Rdn.sameAll_iff_key

theorem same_refl (a : Name) : a.same a = true := same_iff_key.2 rfl

theorem same_symm {a b : Name} (h : a.same b = true) : b.same a = true := same_iff_key.2 (same_iff_key.1 h).symm

theorem same_trans {a b c : Name} (h : a.same b = true) (h' : b.same c = true) : a.same c = true :=
  same_iff_key.2 ((same_iff_key.1 h).trans (same_iff_key.1 h'))

/-- The first of each run of equal names, wherever the others stand. -/
def distinct (names : List Name) : List Name :=
  names.foldl (fun kept n => if kept.any (·.same n) then kept else kept ++ [n]) []

/-! ## The tree of names -/

def root : Name := ⟨[]⟩

def size (n : Name) : Nat := n.rdns.length

def isRoot (n : Name) : Bool := n.rdns.isEmpty

/-- The most specific part. -/
def rdn? (n : Name) : Option Rdn := n.rdns.head?

/-- The name one level up; the root has none. -/
def parent? (n : Name) : Option Name :=
  match n.rdns with
  | [] => none
  | _ :: rest => some ⟨rest⟩

def child (n : Name) (type value : String) : Name := ⟨⟨type, value⟩ :: n.rdns⟩

/-- The name `n` placed under `suffix`. -/
def append (n suffix : Name) : Name := ⟨n.rdns ++ suffix.rdns⟩

/-- The last parts of `n` are those of `suffix`. -/
def endsWith (n suffix : Name) : Bool := Rdn.sameAll (n.rdns.drop (n.size - suffix.size)) suffix.rdns

/-- Strictly below `ancestor`. -/
def below (n ancestor : Name) : Bool := decide (ancestor.size < n.size) && n.endsWith ancestor

/-- What stands in front of `suffix`. -/
def stripSuffix? (n suffix : Name) : Option Name :=
  if n.endsWith suffix then some ⟨n.rdns.take (n.size - suffix.size)⟩ else none

@[simp] theorem parent?_child (n : Name) (type value : String) : (n.child type value).parent? = some n := rfl

@[simp] theorem append_root (n : Name) : n.append root = n := by simp [append, root]

@[simp] theorem root_append (n : Name) : root.append n = n := by simp [append, root]

@[simp] theorem size_append (n suffix : Name) : (n.append suffix).size = n.size + suffix.size := by
  simp [append, size]

end Name
end DirectoryAccess
