import DirectoryAccess.Action
import DirectoryAccess.Schema
/-!
# Records made from entities

A record is a value of the caller's own type that can be made in several ways.  A recipe names the properties it takes
and builds the record from their values; properties that can be set afterwards are assigned one by one.

For entities of a schema the recipe with the most properties is used of those whose properties the schema knows all, and
of several such the first.  What can be set, is known, and is not taken by the recipe is assigned after it (`Binding`).
So no property is both taken and assigned.
-/
namespace DirectoryAccess

/-! ## Arguments -/

/-- The values of the properties that a recipe takes, without those that have none. -/
structure Arguments where
  values : List (String × Value)
deriving DecidableEq

/-- Builds something from arguments, each of which can be taken once. -/
abbrev Build (α : Type) := Action Arguments α

namespace Build

/-- The argument itself, which is gone then. -/
def take (name : String) : Build (Option Value) :=
  Action.ofStep (fun args => (.ok (args.values.lookup name), ⟨args.values.filter (fun p => p.1 != name)⟩))

def textOption (name : String) : Build (Option String) := return (← take name).bind (fun v => v.texts.head?)

def integerOption (name : String) : Build (Option Int64) := return (← take name).bind Value.integer?

def booleanOption (name : String) : Build (Option Bool) := return (← take name).bind Value.boolean?

def texts (name : String) : Build (List String) := do
  match ← take name with
  | some v => return v.texts
  | none => return []

/-- What there is, or a fault that names the argument. -/
def require {α : Type} (name : String) (read : Build (Option α)) : Build α := do
  match ← read with
  | some a => return a
  | none => throw (.mapping (.missingArgument name))

def text (name : String) : Build String := require name (textOption name)

def integer (name : String) : Build Int64 := require name (integerOption name)

end Build

/-! ## Recipes -/

structure Recipe (ρ : Type) where
  parameters : List String
  build : Build ρ

structure RecordType (ρ : Type) where
  typeName : String
  recipes : List (Recipe ρ)
  /-- Properties that can be assigned to a record. -/
  settable : List String := []
  assign : String → Value → ρ → Except Fault ρ := fun _ _ r => .ok r

/-- The recipe to use, by its place, and what to assign after it. -/
structure Binding where
  recipe : Nat
  parameters : List String
  remaining : List String
deriving DecidableEq

namespace RecordType

variable {ε ρ : Type}

/-- Every property that the recipe takes is known. -/
def resolvable (s : Schema ε) (r : Recipe ρ) : Bool := r.parameters.all s.knows

/-- The better of the best so far and the recipe in place `i`. -/
def better (s : Schema ε) (best : Option (Nat × Recipe ρ)) (i : Nat) (r : Recipe ρ) : Option (Nat × Recipe ρ) :=
  if resolvable s r && best.all (fun b => decide (b.2.parameters.length < r.parameters.length)) then some (i, r)
  else best

/-- The best of the recipes, of which the first is in place `i`. -/
def bestFrom (s : Schema ε) (best : Option (Nat × Recipe ρ)) (i : Nat) : List (Recipe ρ) → Option (Nat × Recipe ρ)
  | [] => best
  | r :: rs => bestFrom s (better s best i r) (i + 1) rs

def best? (t : RecordType ρ) (s : Schema ε) : Option (Nat × Recipe ρ) := bestFrom s none 0 t.recipes

def resolve (t : RecordType ρ) (s : Schema ε) : Except Fault Binding :=
  match t.best? s with
  | none => .error (.mapping (.noRecipe t.typeName s.typeName))
  | some (i, r) =>
    .ok ⟨i, r.parameters, t.settable.filter (fun p => !r.parameters.contains p && s.knows p)⟩

/-- The arguments for a recipe: the properties that have a value. -/
def argumentsOf (s : Schema ε) (e : ε) (parameters : List String) : Arguments :=
  ⟨parameters.filterMap (fun p => (s.read e p).map (fun v => (p, v)))⟩

/-- Assigns the properties that have a value, until one is refused. -/
def assignAll (t : RecordType ρ) (s : Schema ε) (e : ε) : List String → ρ → Except Fault ρ
  | [], r => .ok r
  | p :: ps, r =>
    match s.read e p with
    | none => assignAll t s e ps r
    | some v =>
      match t.assign p v r with
      | .ok r => assignAll t s e ps r
      | .error fault => .error fault

/-- The record that a binding makes of an entity. -/
def makeWith (t : RecordType ρ) (s : Schema ε) (b : Binding) (e : ε) : Except Fault ρ :=
  match t.recipes[b.recipe]? with
  | none => .error (.mapping (.noRecipe t.typeName s.typeName))
  | some r =>
    match (r.build.exec (argumentsOf s e b.parameters)).1 with
    | .ok record => t.assignAll s e b.remaining record
    | .error fault => .error fault

/-- The record made of an entity. -/
def make (t : RecordType ρ) (s : Schema ε) (e : ε) : Except Fault ρ :=
  match t.resolve s with
  | .ok b => t.makeWith s b e
  | .error fault => .error fault

end RecordType
end DirectoryAccess
