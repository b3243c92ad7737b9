import DirectoryAccess.Predicate.Filter
import DirectoryAccess.Proofs.Outcome
/-!
# Predicates that have a filter

Whether a predicate becomes a filter is decided node by node.  Every node has a condition of its own (`Sound`) that says
nothing about the nodes inside it: a property has to be kept in an attribute, what is compared has to be one text, and
lists must have members.  A predicate has a filter exactly if all nodes in it are sound, wherever they stand.

If one is not, the fault is that of the first node from the left that has a flaw (`flaw?`), a node coming before those
inside it (`faultOf_toFilter`, by induction on the predicate).
-/
namespace DirectoryAccess

/-! ## The fault of an outcome -/

section

variable {ε α β : Type}

/-- The fault of a computation that has failed. -/
def faultOf : Except ε α → Option ε
  | .error e => some e
  | .ok _ => none

theorem faultOf_eq_some_iff {x : Except ε α} {e : ε} : faultOf x = some e ↔ x = .error e := by
  cases x <;> simp [faultOf]

theorem faultOf_eq_none_iff {x : Except ε α} : faultOf x = none ↔ ∃ a, x = .ok a := by
  cases x <;> simp [faultOf]

/-- Of two steps, the first that fails has the fault, if that of the second does not hang on the first one's result. -/
theorem faultOf_bind {x : Except ε α} {f : α → Except ε β} {e : Option ε} (h : ∀ a, faultOf (f a) = e) :
    faultOf (x >>= f) = (faultOf x).or e := by
  cases x with
  | error e' => rfl
  | ok a => exact h a

/-- What is only made into something else fails as it does. -/
theorem faultOf_bind_pure (x : Except ε α) (g : α → β) : faultOf (x >>= fun a => pure (g a)) = faultOf x := by
  cases x <;> rfl

/-- The same step for each member: the first that fails has the fault. -/
theorem faultOf_mapM (f : α → Except ε β) (as : List α) : faultOf (as.mapM f) = as.findSome? (fun a => faultOf (f a)) := by
  induction as with
  | nil => rfl
  | cons a as ih =>
    rw [List.mapM_cons, List.findSome?_cons]
    cases hfa : f a with
    | error e => rfl
    | ok b => exact (faultOf_bind_pure (as.mapM f) (b :: ·)).trans ih

end

variable {ε : Type}

/-! ## Nodes -/

namespace Schema

/-- The property has a descriptor, and it is that of an attribute. -/
def Stores (s : Schema ε) (property : String) : Prop :=
  ∃ p, s.property? property = some p ∧ (p.role = .naming ∨ p.role = .plain)

/-- What is wrong with a property that a predicate speaks of. -/
def propertyFlaw? (s : Schema ε) (property : String) : Option ArgumentFault :=
  match s.property? property with
  | some p => if p.role = .naming ∨ p.role = .plain then none else some (.unstoredProperty property)
  | none => some (.unknownProperty property s.typeName)

theorem propertyFlaw?_eq_none_iff (s : Schema ε) (property : String) :
    s.propertyFlaw? property = none ↔ s.Stores property := by
  unfold propertyFlaw? Stores
  cases s.property? property with
  | none => simp
  | some p =>
    simp only [Option.some.injEq, exists_eq_left']
    split <;> rename_i hrole <;> simp [hrole]

instance (s : Schema ε) (property : String) : Decidable (s.Stores property) :=
  decidable_of_iff _ (s.propertyFlaw?_eq_none_iff property)

theorem faultOf_attrOf (s : Schema ε) (property : String) : faultOf (s.attrOf property) = s.propertyFlaw? property := by
  unfold attrOf propertyFlaw?
  cases s.property? property with
  | none => rfl
  | some p =>
    have hstored : p.isStored = true ↔ p.role = .naming ∨ p.role = .plain := by simp [Property.isStored]
    simp only [hstored]
    split <;> rfl

end Schema

namespace Predicate

mutual

/-- The predicate and all that it is made of, from left to right, each before what is inside it. -/
def nodes : Predicate → List Predicate
  | .compare c property value => [.compare c property value]
  | .resembles r property text => [.resembles r property text]
  | .oneOf property values => [.oneOf property values]
  | .isNull property => [.isNull property]
  | .isNotNull property => [.isNotNull property]
  | .all ps => .all ps :: nodesOfAll ps
  | .any ps => .any ps :: nodesOfAll ps
  | .not p => .not p :: nodes p

def nodesOfAll : List Predicate → List Predicate
  | [] => []
  | p :: ps => nodes p ++ nodesOfAll ps

end

/-- What a node needs to have a filter, whatever is inside it. -/
def Sound (s : Schema ε) : Predicate → Prop
  | .compare _ property value => s.Stores property ∧ value.texts.length = 1
  | .resembles _ property _ => s.Stores property
  | .oneOf property values => s.Stores property ∧ values ≠ [] ∧ ∀ v ∈ values, v.texts.length = 1
  | .isNull property => s.Stores property
  | .isNotNull property => s.Stores property
  | .all ps => ps ≠ []
  | .any ps => ps ≠ []
  | .not _ => True

/-- What is wrong with a value that is compared. -/
def operandFlaw? (property : String) (v : Value) : Option ArgumentFault :=
  if v.texts.length = 1 then none else some (.operandCount property v.texts.length)

/-- What is wrong with the node itself, a property before what it is compared with. -/
def flaw? (s : Schema ε) : Predicate → Option ArgumentFault
  | .compare _ property value => (s.propertyFlaw? property).or (operandFlaw? property value)
  | .resembles _ property _ => s.propertyFlaw? property
  | .oneOf property values =>
    (s.propertyFlaw? property).or
      ((values.findSome? (operandFlaw? property)).or (if values = [] then some (.noOperands property) else none))
  | .isNull property => s.propertyFlaw? property
  | .isNotNull property => s.propertyFlaw? property
  | .all ps => if ps.isEmpty then some .emptyAll else none
  | .any ps => if ps.isEmpty then some .emptyAny else none
  | .not _ => none

/-! ## What the nodes need -/

theorem operandFlaw?_eq_none_iff (property : String) (v : Value) :
    operandFlaw? property v = none ↔ v.texts.length = 1 := by
  simp [operandFlaw?]

theorem flaw?_eq_none_iff (s : Schema ε) (p : Predicate) : p.flaw? s = none ↔ p.Sound s := by
  cases p <;>
    simp [flaw?, Sound, s.propertyFlaw?_eq_none_iff, operandFlaw?_eq_none_iff, and_comm]

instance (s : Schema ε) (p : Predicate) : Decidable (p.Sound s) := decidable_of_iff _ (flaw?_eq_none_iff s p)

/-- No node has a flaw exactly if all are sound. -/
theorem findSome?_flaw?_eq_none_iff (s : Schema ε) (p : Predicate) :
    p.nodes.findSome? (flaw? s) = none ↔ ∀ q ∈ p.nodes, q.Sound s := by
  simp only [List.findSome?_eq_none_iff, flaw?_eq_none_iff]

/-! ## What becoming a filter needs -/

theorem faultOf_operand (property : String) (v : Value) : faultOf (operand property v) = operandFlaw? property v := by
  unfold operand operandFlaw?
  split
  · rename_i t ht
    rw [ht]
    rfl
  · rename_i hmany
    have hlength : v.texts.length ≠ 1 := fun h => by
      obtain ⟨t, ht⟩ := List.length_eq_one_iff.1 h
      exact hmany t ht
    rw [if_neg hlength]
    rfl

/-- Equality with any of the texts that the values have. -/
theorem faultOf_oneOfFilter (property attr : String) (values : List Value) :
    faultOf (values.mapM (operand property) >>= oneOfFilter property attr) =
      (values.findSome? (operandFlaw? property)).or (if values = [] then some (.noOperands property) else none) := by
  cases values with
  | nil => rfl
  | cons v values =>
    have hoperands : faultOf ((v :: values).mapM (operand property)) = (v :: values).findSome? (operandFlaw? property) := by
      rw [faultOf_mapM]
      simp only [faultOf_operand]
    rw [if_neg (List.cons_ne_nil v values), Option.or_none, ← hoperands]
    cases htexts : (v :: values).mapM (operand property) with
    | error a => rfl
    | ok texts =>
      obtain ⟨t, texts, rfl, -, -⟩ := mapM_eq_ok_cons htexts
      cases texts <;> rfl

theorem findSome?_nodes_leaf {s : Schema ε} {p : Predicate} (h : p.nodes = [p]) :
    p.nodes.findSome? (flaw? s) = p.flaw? s := by
  rw [h, List.findSome?_singleton]

mutual

/-- **The fault of a predicate that has no filter is that of its first node with a flaw.** -/
theorem faultOf_toFilter (s : Schema ε) : ∀ p : Predicate, faultOf (p.toFilter s) = p.nodes.findSome? (flaw? s)
  | .compare c property value => by
    have hvalue (attr : String) : faultOf (operand property value >>= fun t => pure (comparisonFilter c attr t)) =
        operandFlaw? property value := by
      rw [faultOf_bind_pure, faultOf_operand]
    rw [findSome?_nodes_leaf rfl, toFilter, faultOf_bind hvalue, s.faultOf_attrOf, flaw?]
  | .resembles r property text => by
    rw [findSome?_nodes_leaf rfl, toFilter, faultOf_bind_pure, s.faultOf_attrOf, flaw?]
  | .oneOf property values => by
    rw [findSome?_nodes_leaf rfl, toFilter, faultOf_bind (fun attr => faultOf_oneOfFilter property attr values),
      s.faultOf_attrOf, flaw?]
  | .isNull property => by
    rw [findSome?_nodes_leaf rfl, toFilter, faultOf_bind_pure, s.faultOf_attrOf, flaw?]
  | .isNotNull property => by
    rw [findSome?_nodes_leaf rfl, toFilter, faultOf_bind_pure, s.faultOf_attrOf, flaw?]
  | .all ps => by
    rw [toFilter, nodes, List.findSome?_cons, flaw?]
    split
    · rfl
    · rw [faultOf_bind_pure]
      exact faultOf_toFilters s ps
  | .any ps => by
    rw [toFilter, nodes, List.findSome?_cons, flaw?]
    split
    · rfl
    · rw [faultOf_bind_pure]
      exact faultOf_toFilters s ps
  | .not p => by
    rw [toFilter, nodes, List.findSome?_cons, flaw?, faultOf_bind_pure]
    exact faultOf_toFilter s p

theorem faultOf_toFilters (s : Schema ε) : ∀ ps : List Predicate,
    faultOf (toFilters s ps) = (nodesOfAll ps).findSome? (flaw? s)
  | [] => rfl
  | p :: ps => by
    have hrest (f : Filter) : faultOf (toFilters s ps >>= fun fs => pure (f :: fs)) =
        (nodesOfAll ps).findSome? (flaw? s) := by
      rw [faultOf_bind_pure, faultOf_toFilters s ps]
    rw [toFilters, nodesOfAll, List.findSome?_append, faultOf_bind hrest, faultOf_toFilter s p]

end

theorem compile_eq_error_iff (s : Schema ε) (p : Predicate) (fault : Fault) :
    p.compile s = .error fault ↔ ∃ a, p.nodes.findSome? (flaw? s) = some a ∧ fault = .invalidArgument a := by
  rw [compile, mapError_eq_error_iff]
  simp only [← faultOf_toFilter, faultOf_eq_some_iff, eq_comm (a := fault)]

/-- **A predicate has a filter exactly if all its nodes are sound.** -/
theorem exists_compile_iff (s : Schema ε) (p : Predicate) :
    (∃ f, p.compile s = .ok f) ↔ ∀ q ∈ p.nodes, q.Sound s := by
  simp only [compile, mapError_eq_ok_iff]
  rw [← faultOf_eq_none_iff, faultOf_toFilter, findSome?_flaw?_eq_none_iff]

end Predicate
end DirectoryAccess
