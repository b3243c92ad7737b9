import DirectoryAccess.Client.Recording
import DirectoryAccess.Proofs.Client.Handing
import DirectoryAccess.Proofs.Predicate.Expressible
import DirectoryAccess.Proofs.Predicate.Meaning
import DirectoryAccess.Selection
import DirectoryAccess.Store
/-!
# Selections that are refused

A selection is compiled before anything is asked of the client.  So one whose predicate has no filter fails in every way
to run it, over any client whatever, with the fault of the predicate, and leaves the client as it is
(`exec_of_fault`).  Which predicates these are is said node by node (`expressible_or_refused`).
-/
namespace DirectoryAccess
namespace Selection

open Predicate (flaw?)

variable {σ ε ρ : Type}

/-- Every way to run the selection fails with the fault, and client and memo are left as they were. -/
def RefusedBy (r : Repository σ ε) (q : Selection ε ρ) (fault : Fault) : Prop :=
  ∀ (s : σ) (memo : Memo),
    (q.one r).exec (s, memo) = (.error fault, (s, memo)) ∧
      (q.first r).exec (s, memo) = (.error fault, (s, memo)) ∧
      (q.all r).exec (s, memo) = (.error fault, (s, memo)) ∧
      (q.stream r).exec s = (.error fault, s) ∧
      (q.count r).exec s = (.error fault, s) ∧
      (q.exists? r).exec s = (.error fault, s)

/-- Where the predicate does not compile, every way to run the selection fails alike and asks nothing. -/
theorem exec_of_fault {r : Repository σ ε} {q : Selection ε ρ} {fault : Fault}
    (h : q.predicate.compile r.mapping.schema = .error fault) : q.RefusedBy r fault := by
  intro s memo
  have hsearch (limit : Option UInt64) : (q.search r limit).exec s = (.error fault, s) := by
    unfold search
    rw [Action.exec_bind, Action.exec_ofExcept, h]
  have hstream : (q.stream r).exec s = (.error fault, s) := by
    unfold stream
    rw [Action.exec_bind, hsearch]
  refine ⟨?_, ?_, ?_, hstream, ?_, ?_⟩
  · unfold one
    rw [Action.exec_bind, Action.exec_onFirst, hsearch]
  · unfold first
    rw [Action.exec_bind, Action.exec_onFirst, hsearch]
  · unfold all
    rw [Action.exec_bind, Action.exec_onFirst, hstream]
  · unfold count
    rw [Action.exec_bind, Action.exec_ofExcept, h]
  · unfold exists?
    rw [Action.exec_bind, Action.exec_ofExcept, h]

/-- **A predicate has a filter exactly if all nodes in it are sound, and is never searched for otherwise.**

A predicate with a node that is not sound is an invalid argument, for the flaw of the first such node from the left; every
way to run a selection with it fails with that, and leaves the client of the repository as it is, whatever it records. -/
theorem expressible_or_refused (s : Schema ε) (p : Predicate) :
    ((∃ f, p.compile s = .ok f) ↔ ∀ node ∈ p.nodes, node.Sound s) ∧
      ((¬ ∀ node ∈ p.nodes, node.Sound s) →
        ∃ flaw, p.nodes.findSome? (flaw? s) = some flaw ∧ p.compile s = .error (.invalidArgument flaw) ∧
          ∀ {σ ρ : Type} (r : Repository σ ε) (q : Selection ε ρ), r.mapping.schema = s → q.predicate = p →
            q.RefusedBy r (.invalidArgument flaw)) := by
  refine ⟨p.exists_compile_iff s, fun hunsound => ?_⟩
  rw [← Predicate.findSome?_flaw?_eq_none_iff] at hunsound
  obtain ⟨flaw, hflaw⟩ := Option.ne_none_iff_exists'.1 hunsound
  have hcompile : p.compile s = .error (.invalidArgument flaw) :=
    (p.compile_eq_error_iff s _).2 ⟨flaw, hflaw, rfl⟩
  refine ⟨flaw, hflaw, hcompile, fun r q hs hp => exec_of_fault ?_⟩
  rw [hs, hp, hcompile]

/-- Persons, behind a client that keeps a record of what it is asked. -/
def recordedPersons : Repository (Recording Store) Unit where
  client := Recording.client "recorded" Store.client
  mapping := { schema := Predicate.persons, base := .root }

/-- A list with two texts inside it, below a negation, is what is wrong, and not the empty disjunction behind it. -/
theorem expressible_or_refused_nested :
    let p : Predicate := .all [.compare .equal "name" (.list [.null, .text "a"]),
      .not (.oneOf "number" [.integer 1, .list [.text "2", .list [.integer 3]]]), .any []]
    let start : Recording Store := { inner := .ofEntries [⟨.root, .empty⟩] }
    (∃ node ∈ p.nodes, ¬ node.Sound Predicate.persons) ∧
      p.compile Predicate.persons = .error (.invalidArgument (.operandCount "number" 2)) ∧
      ((ofPredicate p).count recordedPersons).exec start =
        (.error (.invalidArgument (.operandCount "number" 2)), start) := by
  intro p start
  have hunsound : ∃ node ∈ p.nodes, ¬ node.Sound Predicate.persons := by decide +kernel
  have hnot : ¬ ∀ node ∈ p.nodes, node.Sound Predicate.persons := by
    obtain ⟨node, hnode, h⟩ := hunsound
    exact fun hall => h (hall node hnode)
  obtain ⟨flaw, hflaw, hcompile, hrefused⟩ := (expressible_or_refused Predicate.persons p).2 hnot
  obtain rfl : ArgumentFault.operandCount "number" 2 = flaw :=
    Option.some.inj (Eq.trans (by decide +kernel) hflaw)
  exact ⟨hunsound, hcompile, (hrefused recordedPersons (ofPredicate p) rfl rfl start {}).2.2.2.2.1⟩

end Selection
end DirectoryAccess
