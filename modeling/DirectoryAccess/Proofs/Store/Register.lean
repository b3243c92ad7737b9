import DirectoryAccess.Proofs.Store.Writing
import Mathlib.Data.List.Dedup
/-!
# What a directory is, without its list of entries

A `Register` says which entry stands under each name, where a name is one however it is spelled, which names were ever
added, and what was searched for since the record was last cleared.  Each operation changes it in one plain way
(`Register.after`), and each that is no search has its answer from it (`Register.answer?`).

Writing onto an entry is a merge of two sets of attributes: what the changes do not name stays, and of what they name
the last value counts (`Store.writeAttributes_eq_merged`).
-/
namespace DirectoryAccess

/-! ## Writing pairs one after another -/

namespace Attributes

/-- The last pair of every name. -/
def lastWrites : List (String × Value) → List (String × Value)
  | [] => []
  | p :: ps => if has ⟨ps⟩ p.1 then lastWrites ps else p :: lastWrites ps

/-- What `changes` does not name stays; of each name in it the last value counts, and a null is none. -/
def merged (old changes : Attributes) : Attributes :=
  ⟨old.pairs.filter (fun p => !changes.has p.1) ++ (lastWrites changes.pairs).filter (fun p => !p.2.isNull)⟩

end Attributes

namespace Store

theorem pairs_writeAttributes_eq (as changes : Attributes) :
    (writeAttributes as changes).pairs = (as.merged changes).pairs := by
  obtain ⟨pairs⟩ := changes
  unfold writeAttributes Attributes.merged
  induction pairs generalizing as with
  | nil =>
    have hall : as.pairs.filter (fun p => !Attributes.has ⟨[]⟩ p.1) = as.pairs :=
      List.filter_eq_self.2 (fun _ _ => rfl)
    exact (congrArg (· ++ []) hall).trans (List.append_nil _) |>.symm
  | cons p ps ih =>
    -- The pairs before are kept if neither this one nor a later one has their name.
    have hold : (as.pairs.filter (fun q => !Text.sameName q.1 p.1)).filter (fun q => !Attributes.has ⟨ps⟩ q.1) =
        as.pairs.filter (fun q => !Attributes.has ⟨p :: ps⟩ q.1) := by
      rw [List.filter_filter]
      refine List.filter_congr (fun q _ => ?_)
      rw [Attributes.has_cons, Attributes.sameName_comm p.1, Bool.not_or, Bool.and_comm]
    have hnew : ([p].filter (fun q => !q.2.isNull)).filter (fun q => !Attributes.has ⟨ps⟩ q.1) ++
          (Attributes.lastWrites ps).filter (fun q => !q.2.isNull) =
        (Attributes.lastWrites (p :: ps)).filter (fun q => !q.2.isNull) := by
      rw [Attributes.lastWrites]
      cases hlater : Attributes.has ⟨ps⟩ p.1 <;> cases hnull : p.2.isNull <;> simp [hlater, hnull]
    rw [List.foldl_cons, ih, pairs_writeAttribute]
    simp only [List.filter_append, List.append_assoc, hold, hnew]

/-- Writing changes onto attributes merges the two. -/
theorem writeAttributes_eq_merged (as changes : Attributes) : writeAttributes as changes = as.merged changes :=
  congrArg Attributes.mk (pairs_writeAttributes_eq as changes)

end Store

/-! ## What is asked of a directory -/

/-- What can be asked of a directory in memory, with the type of what it gives. -/
inductive Operation : Type → Type 1 where
  | create (entry : Entry) : Operation Unit
  | update (changes : Entry) : Operation Unit
  | insert (entry : Entry) : Operation Unit
  | unbind (n : Name) : Operation Unit
  | delete (entry : Entry) : Operation Unit
  | lookup (n : Name) : Operation Entry
  | get (n : Name) : Operation (Option Entry)
  | find (q : Query) : Operation (List Entry)
  | findOne (q : Query) : Operation Entry
  | search {τ : Type} (q : Query) (handler : Handler τ) (start : τ) : Operation τ
  | clear : Operation Unit

variable {α : Type}

def Operation.action : Operation α → Action Store α
  | .create entry => Store.client.create entry
  | .update changes => Store.client.update changes
  | .insert entry => modify (·.insert entry)
  | .unbind n => Store.client.unbind n
  | .delete entry => Store.client.delete entry
  | .lookup n => Store.client.lookup n
  | .get n => Action.ofStep (fun s => (.ok (s.find? n), s))
  | .find q => Store.client.find q
  | .findOne q => Store.client.findOne q
  | .search q handler start => Store.client.gather q handler start
  | .clear => modify Store.forget

/-- The store after a row of operations, whatever each of them gives. -/
def Store.afterAll (s : Store) (ops : List (Σ α : Type, Operation α)) : Store :=
  ops.foldl (fun s o => (o.2.action.exec s).2) s

/-! ## What a directory should be -/

/-- A directory without its list: what stands under each name, told apart by `Name.key`. -/
structure Register where
  at? : List (String × String) → Option Entry
  /-- Every name that was added, each time it was, the latest last. -/
  added : List (List (String × String))
  asked : List Query := []

namespace Register

def ofEntries (entries : List Entry) : Register where
  at? k := entries.find? (fun e => e.name.key = k)
  added := entries.map (fun e => e.name.key)

def holds (r : Register) (n : Name) : Bool := (r.at? n.key).isSome

/-- The names that are there, in the order in which they were added last. -/
def present (r : Register) : List (List (String × String)) := r.added.dedup.filter (fun k => (r.at? k).isSome)

/-- The entry stands under its name, which is added if it is not there. -/
def place (r : Register) (entry : Entry) : Register :=
  { r with
    at? := fun k => if k = entry.name.key then some entry else r.at? k
    added := if r.holds entry.name then r.added else r.added ++ [entry.name.key] }

/-- Nothing stands under the name. -/
def drop (r : Register) (n : Name) : Register := { r with at? := fun k => if k = n.key then none else r.at? k }

def ask (r : Register) (q : Query) : Register := { r with asked := r.asked ++ [q] }

def after (r : Register) : Operation α → Register
  | .create entry => if entry.name.isRoot || r.holds entry.name then r else r.place entry
  | .update changes =>
    match r.at? changes.name.key with
    | some e => r.place ⟨e.name, e.attributes.merged changes.attributes⟩
    | none => r
  | .insert entry => r.place entry
  | .unbind n => r.drop n
  | .delete entry => r.drop entry.name
  | .lookup _ => r
  | .get _ => r
  | .find q => r.ask q
  | .findOne q => r.ask q
  | .search q _ _ => r.ask q
  | .clear => { r with asked := [] }

def afterAll (r : Register) (ops : List (Σ α : Type, Operation α)) : Register := ops.foldl (fun r o => r.after o.2) r

/-- Something has to stand under the name. -/
def need (r : Register) (n : Name) : Except Fault Unit := if r.holds n then .ok () else .error (.notFound n)

/-- What the operation gives, as far as it depends on names alone: what a search finds is left open. -/
def answer? (r : Register) : Operation α → Option (Except Fault α)
  | .create entry =>
    if entry.name.isRoot then some (.error (.invalidArgument .rootEntry))
    else if r.holds entry.name then some (.error (.alreadyExists entry.name))
    else some (.ok ())
  | .update changes => some (r.need changes.name)
  | .insert _ => some (.ok ())
  | .unbind n => some (r.need n)
  | .delete entry => some (r.need entry.name)
  | .lookup n =>
    match r.at? n.key with
    | some e => some (.ok e)
    | none => some (.error (.notFound n))
  | .get n => some (.ok (r.at? n.key))
  | .find _ => none
  | .findOne _ => none
  | .search _ _ _ => none
  | .clear => some (.ok ())

/-! ## The names present -/

theorem nodup_present (r : Register) : r.present.Nodup := (List.nodup_dedup r.added).filter _

theorem dedup_concat (l : List (List (String × String))) (a : List (String × String)) :
    (l ++ [a]).dedup = l.dedup.filter (fun k => k != a) ++ [a] := by
  induction l with
  | nil => rfl
  | cons b l ih =>
    rw [List.cons_append]
    by_cases hmem : b ∈ l
    · rw [List.dedup_cons_of_mem hmem, List.dedup_cons_of_mem (List.mem_append_left _ hmem), ih]
    · rw [List.dedup_cons_of_notMem hmem]
      by_cases hb : b = a
      · have hlast : b ∈ l ++ [a] := by simp [hb]
        rw [List.dedup_cons_of_mem hlast, ih]
        simp [hb]
      · have hnot : b ∉ l ++ [a] := by simp [hmem, hb]
        rw [List.dedup_cons_of_notMem hnot, ih]
        simp [hb]

theorem present_place_of_holds {r : Register} {entry : Entry} (h : r.holds entry.name = true) :
    (r.place entry).present = r.present := by
  have hadded : (r.place entry).added = r.added := if_pos h
  unfold present
  rw [hadded]
  refine List.filter_congr (fun k _ => ?_)
  have hat : (r.place entry).at? k = if k = entry.name.key then some entry else r.at? k := rfl
  rw [hat]
  by_cases hk : k = entry.name.key
  · rw [if_pos hk, hk]
    exact h.symm
  · rw [if_neg hk]

theorem present_place_of_not_holds {r : Register} {entry : Entry} (h : r.holds entry.name = false) :
    (r.place entry).present = r.present ++ [entry.name.key] := by
  have hadded : (r.place entry).added = r.added ++ [entry.name.key] := if_neg (by simp [h])
  have hat (k : List (String × String)) :
      (r.place entry).at? k = if k = entry.name.key then some entry else r.at? k := rfl
  unfold present
  rw [hadded, dedup_concat, List.filter_append, List.filter_filter]
  congr 1
  · refine List.filter_congr (fun k _ => ?_)
    rw [hat]
    by_cases hk : k = entry.name.key
    · subst hk
      have hnone : (r.at? entry.name.key).isSome = false := h
      simp [hnone]
    · simp [hk]
  · simp [hat]

theorem present_drop (r : Register) (n : Name) : (r.drop n).present = r.present.filter (fun k => k != n.key) := by
  have hat (k : List (String × String)) : (r.drop n).at? k = if k = n.key then none else r.at? k := rfl
  unfold present
  rw [List.filter_filter]
  refine List.filter_congr (fun k _ => ?_)
  rw [hat]
  by_cases hk : k = n.key <;> simp [hk]

end Register

end DirectoryAccess
