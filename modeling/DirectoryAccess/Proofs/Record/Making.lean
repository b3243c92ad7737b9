import DirectoryAccess.Proofs.Memo.Calls
import DirectoryAccess.Proofs.Record.Choice
import DirectoryAccess.Proofs.Turns
/-!
# What a record is made of

The values of an entity are divided between the recipe in use and what is assigned after it (`Divides`).  The recipe gets
the values of its parameters, as far as they have one.  Assigned are the values of the other properties that can be set
and are known, in the order in which they are declared; none of them was among the arguments.

A property that is stored has no value where it is null.  One that is not stored has the value that the entity type works
out for it, and if that is null, null is what the recipe gets (`not_make_without_null`).

The record is what the recipe builds after all of these were assigned in turn, and a fault of the recipe or of an
assignment is the fault of the whole (`Makes`).
-/
namespace DirectoryAccess

variable {ε ρ : Type} {s : Schema ε}

/-! ## Values -/

namespace Schema

/-- The properties that have a value, with it. -/
def valuesOf (s : Schema ε) (e : ε) (names : List String) : List (String × Value) :=
  names.filterMap (fun p => (s.read e p).map (fun v => (p, v)))

end Schema

namespace RecordType

variable (t : RecordType ρ) (s) (r : Recipe ρ) (e : ε)

/-- What is assigned to the record that the recipe built. -/
def assignmentsOf : List (String × Value) := s.valuesOf e (t.remainingAfter s r)

/-- One assignment, which replaces the record. -/
def assigning (a : String × Value) : Action ρ Unit := Action.ofUpdate (t.assign a.1 a.2)

/-- What comes of a recipe and the assignments after it. -/
structure Makes (outcome : Except Fault ρ) : Prop where
  ok_iff : ∀ record, outcome = .ok record ↔
    ∃ built done, (r.build.exec (argumentsOf s e r.parameters)).1 = .ok built ∧
      InTurn t.assigning built (t.assignmentsOf s r e) done record
  error_iff : ∀ fault, outcome = .error fault ↔
    (r.build.exec (argumentsOf s e r.parameters)).1 = .error fault ∨
      ∃ built front a back done record, (r.build.exec (argumentsOf s e r.parameters)).1 = .ok built ∧
        t.assignmentsOf s r e = front ++ a :: back ∧ InTurn t.assigning built front done record ∧
        t.assign a.1 a.2 record = .error fault

variable {t r}

end RecordType

/-! ## Over a memo -/

/-- Lines of text on which a desk cannot be put.  The ages that two of the recipes take are on no sheet. -/
def labels : RecordType (List String) where
  typeName := "Label"
  recipes :=
    [⟨["name", "age"], return ["0"]⟩, ⟨["name"], return ["1"]⟩,
      ⟨["name", "mail"], return [← Build.text "name", (← Build.textOption "mail").getD ""]⟩,
      ⟨["name", "mail", "age"], return ["3"]⟩, ⟨["mail", "name"], return ["4"]⟩]
  settable := ["room", "mail", "age", "desk"]
  assign := fun p v record => if p = "desk" then .error (.mapping (.missingArgument p)) else .ok (record ++ v.texts)

/-- What is kept of labels that were made of sheets. -/
def labelled : Memo := { bindings := [(("Sheet", "Label"), ⟨2, ["name", "mail"], ["room", "desk"]⟩)] }

end DirectoryAccess
