import DirectoryAccess.Description.Settings
import DirectoryAccess.Selection
/-!
# Descriptions of selections

Values and predicates in full; of repositories, selections, views and recipes what tells one from another.
-/
namespace DirectoryAccess

open Description

variable {σ ε ρ : Type}

namespace Value

mutual

def describe : Value → Description
  | .null => .word "Null"
  | .text s => .call "String" [.quoted s]
  | .integer n => .call "Integer" [.word (Text.decimal n)]
  | .boolean b => .call "Boolean" [Description.boolean b]
  | .binary bs => .call "Binary" [.row (bs.map (fun b => .nat b.toNat))]
  | .list vs => .call "Array" [.row (describeAll vs)]

def describeAll : List Value → List Description
  | [] => []
  | v :: vs => describe v :: describeAll vs

end

end Value

def Comparison.title : Comparison → String
  | .equal => "Eq"
  | .different => "Ne"
  | .atLeast => "Goe"
  | .atMost => "Loe"
  | .above => "Gt"
  | .below => "Lt"

def Resemblance.title : Resemblance → String
  | .like => "Like"
  | .startsWith => "StartsWith"
  | .endsWith => "EndsWith"
  | .contains => "Contains"

/-- What the text of a resemblance is called. -/
def Resemblance.operandTitle : Resemblance → String
  | .like => "pattern"
  | _ => "value"

namespace Predicate

mutual

def describe : Predicate → Description
  | .compare c property value => whole c.title [("property", .quoted property), ("value", value.describe)]
  | .resembles r property text => whole r.title [("property", .quoted property), (r.operandTitle, .quoted text)]
  | .oneOf property values => whole "In" [("property", .quoted property), ("values", .row (values.map Value.describe))]
  | .isNull property => whole "IsNull" [("property", .quoted property)]
  | .isNotNull property => whole "IsNotNull" [("property", .quoted property)]
  | .all ps => .call "And" [.row (describeAll ps)]
  | .any ps => .call "Or" [.row (describeAll ps)]
  | .not p => .call "Not" [describe p]

def describeAll : List Predicate → List Description
  | [] => []
  | p :: ps => describe p :: describeAll ps

end

end Predicate

/-- What makes filters of predicates on entities of a schema. -/
def Schema.describeTranslator (s : Schema ε) : Description :=
  whole "LdapPredicateTranslator" [("entity", .quoted s.typeName)]

def Recipe.describe (r : Recipe ρ) : Description := partly "Constructor" [("parameters", quotedRow r.parameters)]

def AccessTable.describe (t : AccessTable) : Description :=
  whole "AccessorTable" [("readable", Description.ofOption (fun names => .set (names.map .quoted)) t)]

def View.describe (v : View) : Description := partly "ProjectionProxy" [("accessors", v.table.describe)]

def Repository.describe (r : Repository σ ε) : Description :=
  whole "EntryRepository"
    [("entity", .quoted r.mapping.schema.typeName), ("client", .quoted r.client.label),
      ("config", r.placement.describe)]

/-- A repository as something to make selections from. -/
def Repository.describeSelecting (r : Repository σ ε) : Description :=
  partly "PredicateRepository" [("repository", r.describe)]

namespace Shape

/-- The name of the type of the results. -/
def typeName (s : Schema ε) : Shape ε ρ → String
  | .entity _ => s.typeName
  | .projection p _ => p.typeName
  | .record t => t.typeName

def describe : Shape ε ρ → Description
  | .entity _ => .word "Entity"
  | .projection _ _ => .word "Projection"
  | .record _ => .word "Dto"

end Shape

def Selection.describe (s : Schema ε) (q : Selection ε ρ) : Description :=
  partly "FluentQuery"
    [("entity", .quoted s.typeName), ("result", .quoted (q.shape.typeName s)), ("predicate", q.predicate.describe),
      ("projection", quotedRow q.named)]

def Selection.Pending.describe (p : Selection.Pending ε ρ) : Description :=
  partly "QueryStream" [("remaining", .nat p.entries.length), ("shape", p.shape.describe)]

end DirectoryAccess
