import DirectoryAccess.Form.Entry
import DirectoryAccess.Search
/-!
# The stored form of searches

A scope is its word; one of the scopes is also read under a shorter one.  A filter is an object that names its kind in
the field `type`.  In filters and queries, what is absent is not written: pieces of text that are not asked for, empty
lists of them, an empty list of attributes, a missing limit.
-/
namespace DirectoryAccess

def Scope.toDocument (s : Scope) : Document := .text s.word

def Scope.ofDocument? (d : Document) : Option Scope :=
  d.text?.bind (fun w =>
    if w = "base" then some .base
    else if w = "onelevel" ∨ w = "one" then some .oneLevel
    else if w = "subtree" then some .subtree
    else none)

def Test.word : Test → String
  | .equals => "equals"
  | .contains => "contains"
  | .startsWith => "starts_with"
  | .endsWith => "ends_with"
  | .above => "greater_than"
  | .atLeast => "greater_than_or_equals"
  | .below => "less_than"
  | .atMost => "less_than_or_equals"

def Test.all : List Test := [.equals, .contains, .startsWith, .endsWith, .above, .atLeast, .below, .atMost]

def Test.ofWord? (w : String) : Option Test := Test.all.find? (fun t => t.word == w)

namespace Filter

/-! ## Writing -/

/-- An object that names its kind. -/
def node (kind : String) (fields : List (String × Document)) : Document := .object (("type", .text kind) :: fields)

mutual

def toDocument : Filter → Document
  | .test t attr value => node t.word [("attribute", .text attr), ("value", .text value)]
  | .substring attr initial middle final =>
    node "substring"
      (("attribute", .text attr)
        :: (Document.present "initial" .text initial ++ Document.nonempty "any" .text middle
          ++ Document.present "final" .text final))
  | .present attr => node "present" [("attribute", .text attr)]
  | .all fs => node "and" [("filters", .list (toDocuments fs))]
  | .any fs => node "or" [("filters", .list (toDocuments fs))]
  | .not f => node "not" [("filter", toDocument f)]

def toDocuments : List Filter → List Document
  | [] => []
  | f :: fs => toDocument f :: toDocuments fs

end

/-! ## Reading -/

/-- A field of an object, and the filter or the list of filters that it is. -/
structure Part where
  name : String
  filter : Option Filter
  filters : Option (List Filter)

/-- The filter of an object with these fields, given what its fields are. -/
def build (d : Document) (parts : List Part) : Option Filter := do
  let kind ← d.required "type" Document.text?
  let attr := d.required "attribute" Document.text?
  let part := fun name => parts.find? (fun p => p.name == name)
  if kind = "and" then
    return .all (← (part "filters").bind Part.filters)
  else if kind = "or" then
    return .any (← (part "filters").bind Part.filters)
  else if kind = "not" then
    return .not (← (part "filter").bind Part.filter)
  else if kind = "present" then
    return .present (← attr)
  else if kind = "substring" then
    let initial ← d.optional "initial" Document.text?
    let middle ← d.fieldOr "any" [] (Document.listOf? Document.text?)
    let final ← d.optional "final" Document.text?
    return .substring (← attr) initial middle final
  else
    return .test (← Test.ofWord? kind) (← attr) (← d.required "value" Document.text?)

mutual

def ofDocument? : Document → Option Filter
  | .object fs => build (.object fs) (partsOf fs)
  | _ => none

def listOfDocument? : Document → Option (List Filter)
  | .list ds => ofDocuments? ds
  | _ => none

def ofDocuments? : List Document → Option (List Filter)
  | [] => some []
  | d :: ds =>
    match ofDocument? d with
    | none => none
    | some f => (ofDocuments? ds).map (f :: ·)

def partsOf : List (String × Document) → List Part
  | [] => []
  | (name, d) :: fs => ⟨name, ofDocument? d, listOfDocument? d⟩ :: partsOf fs

end

end Filter

namespace Query

def toDocument (q : Query) : Document :=
  .object
    ([("base", q.base.toDocument), ("scope", q.scope.toDocument), ("filter", q.filter.toDocument)]
      ++ Document.nonempty "attributes" .text q.attributes
      ++ Document.present "count_limit" (fun n => .nat n.toNat) q.limit)

def ofDocument? (d : Document) : Option Query := do
  let base ← d.required "base" Name.ofDocument?
  let scope ← d.fieldOr "scope" .subtree Scope.ofDocument?
  let filter ← d.required "filter" Filter.ofDocument?
  let attributes ← d.fieldOr "attributes" [] (Document.listOf? Document.text?)
  let limit ← d.optional "count_limit" (Document.natBelow? UInt64.size)
  return { base, scope, filter, attributes, limit := limit.map UInt64.ofNat }

end Query
end DirectoryAccess
