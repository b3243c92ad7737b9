import DirectoryAccess.Projection
import DirectoryAccess.Record
/-!
# What has been worked out

Tables of projections and bindings of records depend on types only, so they are worked out once and kept.  A type is
known by its name here: one name stands for one schema, one projection and one record.

Under that condition nothing but `Memo` itself can tell whether something was kept.  A binding that cannot be worked
out is not kept and fails again.
-/
namespace DirectoryAccess

structure Memo where
  accessors : List (String × Accessors) := []
  tables : List ((String × String) × AccessTable) := []
  bindings : List ((String × String) × Binding) := []

namespace Memo

variable {ε ρ : Type}

/-- The names that a projection reads. -/
def accessorsOf (m : Memo) (p : Projection) : Accessors × Memo :=
  match m.accessors.lookup p.typeName with
  | some a => (a, m)
  | none => (p.accessors, { m with accessors := m.accessors ++ [(p.typeName, p.accessors)] })

def tableOf (m : Memo) (s : Schema ε) (p : Projection) : AccessTable × Memo :=
  match m.tables.lookup (s.typeName, p.typeName) with
  | some t => (t, m)
  | none =>
    let (a, m) := m.accessorsOf p
    let t := AccessTable.of s a
    (t, { m with tables := m.tables ++ [((s.typeName, p.typeName), t)] })

/-- The view of an entity through a projection. -/
def view (m : Memo) (s : Schema ε) (p : Projection) (e : ε) : View × Memo :=
  let (t, m) := m.tableOf s p
  (View.of s t e, m)

def bindingOf (s : Schema ε) (t : RecordType ρ) : Action Memo Binding :=
  Action.ofStep (fun m =>
    match m.bindings.lookup (s.typeName, t.typeName) with
    | some b => (.ok b, m)
    | none =>
      match t.resolve s with
      | .ok b => (.ok b, { m with bindings := m.bindings ++ [((s.typeName, t.typeName), b)] })
      | .error fault => (.error fault, m))

/-- The properties that are taken by the recipe in use. -/
def parametersOf (s : Schema ε) (t : RecordType ρ) : Action Memo (List String) :=
  return (← bindingOf s t).parameters

/-- The record made of an entity. -/
def make (s : Schema ε) (t : RecordType ρ) (e : ε) : Action Memo ρ := do
  let b ← bindingOf s t
  Action.ofExcept (t.makeWith s b e)

/-- How many tables are kept. -/
def tableCount (m : Memo) : Nat := m.tables.length

/-- How many bindings are kept. -/
def bindingCount (m : Memo) : Nat := m.bindings.length

end Memo
end DirectoryAccess
