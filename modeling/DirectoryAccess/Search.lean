import DirectoryAccess.Filter
/-!
# Searches

A search starts at a base, goes as deep as its scope says, and asks for the entries that a filter selects: for certain
attributes of them or all, and for any number of them or at most so many.
-/
namespace DirectoryAccess

/-- How deep below its base a search goes. -/
inductive Scope where
  /-- The base itself. -/
  | base
  /-- What is right below the base. -/
  | oneLevel
  /-- The base and all that is below it. -/
  | subtree
deriving DecidableEq

namespace Scope

def all : List Scope := [.base, .oneLevel, .subtree]

/-- The word for a scope in settings. -/
def word : Scope → String
  | .base => "base"
  | .oneLevel => "onelevel"
  | .subtree => "subtree"

/-- A text that is no word for a scope. -/
structure Unknown where
  given : String
deriving DecidableEq

def Unknown.message (u : Unknown) : String :=
  "invalid search scope '" ++ u.given ++ "', expected one of: base, onelevel, subtree"

/-- The scope that a word in any case stands for; two of them have a short word too. -/
def read (s : String) : Except Unknown Scope :=
  let w := Text.lower s
  if w = "base" then .ok .base
  else if w = "onelevel" ∨ w = "one" then .ok .oneLevel
  else if w = "subtree" ∨ w = "sub" then .ok .subtree
  else .error ⟨s⟩

end Scope

/-- A search; without more said it covers the whole tree. -/
structure Query where
  base : Name := Name.root
  scope : Scope := .subtree
  filter : Filter := Filter.everything
  /-- Attributes to fetch; none named means all. -/
  attributes : List String := []
  limit : Option UInt64 := none

/-- Not all attributes are asked for. -/
def Query.narrowed (q : Query) : Bool := !q.attributes.isEmpty

end DirectoryAccess
