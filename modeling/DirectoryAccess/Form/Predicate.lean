import DirectoryAccess.Form.Tagged
import DirectoryAccess.Predicate
/-!
# The form of predicates

An object that names its kind in the field `p`.  Values are in the tagged form.  Besides the kinds that are written,
two more are read that join the predicates in the fields `left` and `right`.
-/
namespace DirectoryAccess

def Comparison.word : Comparison → String
  | .equal => "eq"
  | .different => "ne"
  | .atLeast => "goe"
  | .atMost => "loe"
  | .above => "gt"
  | .below => "lt"

def Comparison.ofWord? (w : String) : Option Comparison :=
  [Comparison.equal, .different, .atLeast, .atMost, .above, .below].find? (fun c => c.word == w)

def Resemblance.word : Resemblance → String
  | .like => "like"
  | .startsWith => "starts_with"
  | .endsWith => "ends_with"
  | .contains => "contains"

def Resemblance.ofWord? (w : String) : Option Resemblance :=
  [Resemblance.like, .startsWith, .endsWith, .contains].find? (fun r => r.word == w)

namespace Predicate

mutual

def toDocument : Predicate → Document
  | .compare c property v => .object [("p", c.word), ("property", property), ("value", v.toTagged)]
  | .resembles r property s => .object [("p", r.word), ("property", property), ("value", s)]
  | .oneOf property vs => .object [("p", "in"), ("property", property), ("values", .list (vs.map Value.toTagged))]
  | .isNull property => .object [("p", "is_null"), ("property", property)]
  | .isNotNull property => .object [("p", "is_not_null"), ("property", property)]
  | .all ps => .object [("p", "all_of"), ("of", .list (toDocuments ps))]
  | .any ps => .object [("p", "any_of"), ("of", .list (toDocuments ps))]
  | .not p => .object [("p", "not"), ("inner", toDocument p)]

def toDocuments : List Predicate → List Document
  | [] => []
  | p :: ps => toDocument p :: toDocuments ps

end

/-- A field of an object, and the predicate or the list of predicates that it is. -/
structure Part where
  name : String
  predicate : Option Predicate
  predicates : Option (List Predicate)

/-- The predicate of an object with these fields, given what its fields are. -/
def build (d : Document) (parts : List Part) : Option Predicate := do
  let kind ← d.required "p" Document.text?
  let one := fun name => (parts.find? (fun p => p.name == name)).bind Part.predicate
  let many := (parts.find? (fun p => p.name == "of")).bind Part.predicates
  let property := d.required "property" Document.text?
  match kind with
  | "all_of" => return .all (← many)
  | "any_of" => return .any (← many)
  | "and" => return (← one "left").andAlso (← one "right")
  | "or" => return (← one "left").orElse (← one "right")
  | "not" => return .not (← one "inner")
  | "is_null" => return .isNull (← property)
  | "is_not_null" => return .isNotNull (← property)
  | "in" => return .oneOf (← property) (← d.required "values" (Document.listOf? Value.ofTagged?))
  | _ =>
    match Comparison.ofWord? kind with
    | some c => return .compare c (← property) (← d.required "value" Value.ofTagged?)
    | none => return .resembles (← Resemblance.ofWord? kind) (← property) (← d.required "value" Document.text?)

mutual

def ofDocument? : Document → Option Predicate
  | .object fs => build (.object fs) (partsOf fs)
  | _ => none

def listOfDocument? : Document → Option (List Predicate)
  | .list ds => ofDocuments? ds
  | _ => none

def ofDocuments? : List Document → Option (List Predicate)
  | [] => some []
  | d :: ds =>
    match ofDocument? d with
    | none => none
    | some p => (ofDocuments? ds).map (p :: ·)

def partsOf : List (String × Document) → List Part
  | [] => []
  | (name, d) :: fs => ⟨name, ofDocument? d, listOfDocument? d⟩ :: partsOf fs

end

end Predicate
end DirectoryAccess
