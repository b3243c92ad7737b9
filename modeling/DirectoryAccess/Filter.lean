import DirectoryAccess.Entry
import DirectoryAccess.Text.Substring
/-!
# Filters

Which entries a search is after: conditions on one attribute each, and their combination by all, any and not.

A condition compares the values of the attribute with an asserted text (`Test`), asks for pieces of text in order
(`substring`), or asks whether there is a value at all (`present`).  `pattern` makes a condition out of a text in which
one character stands for any run of characters.
-/
namespace DirectoryAccess

/-- How a value has to stand to the asserted text. -/
inductive Test where
  | equals
  | contains
  | startsWith
  | endsWith
  | above
  | atLeast
  | below
  | atMost
deriving DecidableEq

inductive Filter where
  | test (t : Test) (attr value : String)
  | substring (attr : String) (initial : Option String) (middle : List String) (final : Option String)
  | present (attr : String)
  | all (fs : List Filter)
  | any (fs : List Filter)
  | not (f : Filter)

namespace Filter

def equals (attr value : String) : Filter := .test .equals attr value

/-- Every entry has a class, so this selects every entry. -/
def everything : Filter := .present classAttribute

/-- `self` and `other`; more conditions join a conjunction that is already there. -/
def andWith (self other : Filter) : Filter :=
  match self with
  | .all fs => .all (fs ++ [other])
  | _ => .all [self, other]

/-- `self` or `other`; more conditions join a disjunction that is already there. -/
def orWith (self other : Filter) : Filter :=
  match self with
  | .any fs => .any (fs ++ [other])
  | _ => .any [self, other]

/-! ## Patterns -/

/-- An empty piece asks for nothing and is left out. -/
def piece? (cs : List Char) : Option String := if cs.isEmpty then none else some (String.ofList cs)

/-- The condition that a value reads like `text`, where `wildcard` stands for any run of characters. -/
def pattern (attr text : String) (wildcard : Char) : Filter :=
  match Text.split wildcard text.toList with
  | first :: rest =>
    match rest.getLast? with
    | some last => .substring attr (piece? first) (rest.dropLast.filterMap piece?) (piece? last)
    | none => equals attr text
  | [] => equals attr text

/-- The pattern in which an asterisk stands for any run of characters. -/
def wildcard (attr text : String) : Filter := pattern attr text '*'

end Filter
end DirectoryAccess
