import DirectoryAccess.Proofs.Repository.Save
import DirectoryAccess.Proofs.Store.Searching
/-!
# The searches of a repository

Every search of a repository over a directory in memory is one query, which goes into the record: it starts at the base
of the repository, is as deep as its scope, and asks for its classes and the criteria.  Without a base there is no
query, and the fault is that of the base.
-/
namespace DirectoryAccess
namespace Repository

variable {ε : Type} {m : Mapping ε} {placement : Placement}

/-- The query for entries of the mapping that fulfil the criteria. -/
def queryAt (m : Mapping ε) (placement : Placement) (base : Name) (criteria : Option Filter) (attributes : List String)
    (limit : Option UInt64) : Query :=
  { base, scope := placement.scope, filter := m.restrict criteria, attributes, limit }

theorem mapping_inMemory : (inMemory m placement).mapping = m := rfl

theorem searchBase_inMemory :
    (inMemory m placement).searchBase = if placement.base.isRoot then m.searchBase else .ok placement.base := rfl

theorem queryFor_eq {base : Name} (h : (inMemory m placement).searchBase = .ok base) (criteria : Option Filter)
    (attributes : List String) (limit : Option UInt64) :
    (inMemory m placement).queryFor criteria attributes limit =
      .ok (queryAt m placement base criteria attributes limit) := by
  rw [queryFor, h]
  rfl

/-- Searches have a base wherever the mapping has one. -/
theorem exists_searchBase_of_mapping {above : Name} (h : m.searchBase = .ok above) :
    ∃ base, (inMemory m placement).searchBase = .ok base := by
  rw [searchBase_inMemory]
  by_cases hroot : placement.base.isRoot = true
  · exact ⟨above, by rw [if_pos hroot, h]⟩
  · exact ⟨placement.base, if_neg hroot⟩

/-- Where the base of the schema is a name, searches have a base. -/
theorem exists_searchBase {relative : Name} (h : Name.read m.schema.base = .ok relative) :
    ∃ base, (inMemory m placement).searchBase = .ok base := by
  have hmapping : m.searchBase = .ok (relative.append m.base) := by rw [Mapping.searchBase, h]
  exact exists_searchBase_of_mapping hmapping

section

variable {base : Name} (h : (inMemory m placement).searchBase = .ok base) (criteria : Option Filter)
  (attributes : List String) (limit : Option UInt64) (s : Store)

include h

theorem exec_searchEntries :
    ((inMemory m placement).searchEntries criteria attributes limit).exec s =
      (.ok (s.matching (queryAt m placement base criteria attributes limit)),
        s.ask (queryAt m placement base criteria attributes limit)) := by
  unfold searchEntries
  rw [Action.exec_bind, Action.exec_ofExcept, queryFor_eq h]
  exact Store.exec_find _ s

theorem exec_countMatching :
    ((inMemory m placement).countMatching criteria limit).exec s =
      (.ok (s.matching (queryAt m placement base criteria [countAttribute] limit)).length,
        s.ask (queryAt m placement base criteria [countAttribute] limit)) := by
  unfold countMatching
  rw [Action.exec_bind, Action.exec_ofExcept, queryFor_eq h]
  exact Store.exec_count _ s

end

end Repository
end DirectoryAccess
