import DirectoryAccess.Attribute.Value
/-!
# Predicates

What callers ask of entities, in terms of properties.  A leaf compares a property with a value, with a text, with any
of several values, or with nothing at all; leaves are combined by all, any and not.
-/
namespace DirectoryAccess

/-- How a property has to stand to a value. -/
inductive Comparison where
  | equal
  | different
  | atLeast
  | atMost
  | above
  | below
deriving DecidableEq

/-- How a property has to stand to a text.  In `like`, a percent sign stands for any run of characters. -/
inductive Resemblance where
  | like
  | startsWith
  | endsWith
  | contains
deriving DecidableEq

inductive Predicate where
  | compare (c : Comparison) (property : String) (value : Value)
  | resembles (r : Resemblance) (property text : String)
  | oneOf (property : String) (values : List Value)
  | isNull (property : String)
  | isNotNull (property : String)
  | all (ps : List Predicate)
  | any (ps : List Predicate)
  | not (p : Predicate)

namespace Predicate

/-- `self` and `other`; more conditions join a conjunction that is already there. -/
def andAlso (self other : Predicate) : Predicate :=
  match self with
  | .all ps => .all (ps ++ [other])
  | _ => .all [self, other]

/-- `self` or `other`; more conditions join a disjunction that is already there. -/
def orElse (self other : Predicate) : Predicate :=
  match self with
  | .any ps => .any (ps ++ [other])
  | _ => .any [self, other]

/-- The property that a leaf speaks of. -/
def property? : Predicate → Option String
  | .compare _ property _ => some property
  | .resembles _ property _ => some property
  | .oneOf property _ => some property
  | .isNull property => some property
  | .isNotNull property => some property
  | .all _ => none
  | .any _ => none
  | .not _ => none

/-- The names, and after them this one if it is new. -/
def addName (names : List String) (name : String) : List String :=
  if names.contains name then names else names ++ [name]

mutual

/-- Adds the properties of the leaves to the names, from left to right. -/
def collect : Predicate → List String → List String
  | .all ps, names => collectAll ps names
  | .any ps, names => collectAll ps names
  | .not p, names => collect p names
  | leaf, names =>
    match leaf.property? with
    | some property => addName names property
    | none => names

def collectAll : List Predicate → List String → List String
  | [], names => names
  | p :: ps, names => collectAll ps (collect p names)

end

/-- The properties that the predicate speaks of, each once, in the order in which they first come up. -/
def properties (p : Predicate) : List String := collect p []

end Predicate
end DirectoryAccess
