import DirectoryAccess.Filter
import DirectoryAccess.Predicate
import DirectoryAccess.Schema
/-!
# Predicates as filters

A predicate on properties becomes a filter on attributes.  That needs every property to have an attribute, every value
that is compared to be one text, and every list to have members; of several faults the first from the left is reported,
and at a leaf that of the property before that of its value.
-/
namespace DirectoryAccess

/-- The attribute behind a property that a predicate speaks of. -/
def Schema.attrOf {ε : Type} (s : Schema ε) (property : String) : Except ArgumentFault String :=
  match s.property? property with
  | some p => if p.isStored then .ok p.attr else .error (.unstoredProperty property)
  | none => .error (.unknownProperty property s.typeName)

namespace Predicate

variable {ε : Type}

/-- The value as the one text that it has. -/
def operand (property : String) (v : Value) : Except ArgumentFault String :=
  match v.texts with
  | [s] => .ok s
  | ss => .error (.operandCount property ss.length)

def comparisonFilter (c : Comparison) (attr value : String) : Filter :=
  match c with
  | .equal => .equals attr value
  | .different => .not (.equals attr value)
  | .atLeast => .test .atLeast attr value
  | .atMost => .test .atMost attr value
  | .above => .test .above attr value
  | .below => .test .below attr value

def resemblanceFilter (r : Resemblance) (attr text : String) : Filter :=
  match r with
  | .like => .pattern attr text '%'
  | .startsWith => .test .startsWith attr text
  | .endsWith => .test .endsWith attr text
  | .contains => .test .contains attr text

/-- Equality with any of the texts. -/
def oneOfFilter (property attr : String) : List String → Except ArgumentFault Filter
  | [] => .error (.noOperands property)
  | [s] => .ok (.equals attr s)
  | ss => .ok (.any (ss.map (Filter.equals attr)))

mutual

def toFilter (s : Schema ε) : Predicate → Except ArgumentFault Filter
  | .compare c property value => do
    let attr ← s.attrOf property
    return comparisonFilter c attr (← operand property value)
  | .resembles r property text => return resemblanceFilter r (← s.attrOf property) text
  | .oneOf property values => do
    let attr ← s.attrOf property
    oneOfFilter property attr (← values.mapM (operand property))
  | .isNull property => return .not (.present (← s.attrOf property))
  | .isNotNull property => return .present (← s.attrOf property)
  | .all ps => if ps.isEmpty then throw .emptyAll else return .all (← toFilters s ps)
  | .any ps => if ps.isEmpty then throw .emptyAny else return .any (← toFilters s ps)
  | .not p => return .not (← toFilter s p)

def toFilters (s : Schema ε) : List Predicate → Except ArgumentFault (List Filter)
  | [] => return []
  | p :: ps => do
    let f ← toFilter s p
    return f :: (← toFilters s ps)

end

/-- The filter for the predicate, with a fault as callers see it. -/
def compile (s : Schema ε) (p : Predicate) : Except Fault Filter := (toFilter s p).mapError .invalidArgument

end Predicate
end DirectoryAccess
