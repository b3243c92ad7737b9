import DirectoryAccess.Memo
/-!
# Views that are kept

A memo answers for a schema and a projection as if nothing were kept, as long as what it keeps under their names is
theirs (`Memo.Keeps`).  The empty memo keeps nothing, and what a view adds is right.
-/
namespace DirectoryAccess
namespace Memo

variable {ε : Type}

/-- What is kept under the names of the schema and the projection is theirs. -/
structure Keeps (m : Memo) (s : Schema ε) (p : Projection) : Prop where
  accessors : ∀ a, m.accessors.lookup p.typeName = some a → a = p.accessors
  table : ∀ t, m.tables.lookup (s.typeName, p.typeName) = some t → t = AccessTable.of s p.accessors

theorem keeps_empty (s : Schema ε) (p : Projection) : Keeps {} s p where
  accessors := fun _ h => by cases h
  table := fun _ h => by cases h

variable {m : Memo} {s : Schema ε} {p : Projection}

theorem Keeps.accessorsOf (h : m.Keeps s p) :
    (m.accessorsOf p).1 = p.accessors ∧ (m.accessorsOf p).2.Keeps s p ∧ (m.accessorsOf p).2.tables = m.tables := by
  unfold Memo.accessorsOf
  cases hlookup : m.accessors.lookup p.typeName with
  | some a => exact ⟨h.accessors a hlookup, h, rfl⟩
  | none =>
    refine ⟨rfl, ⟨fun a ha => ?_, h.table⟩, rfl⟩
    rw [List.lookup_append, hlookup, Option.none_or, List.lookup_cons_self] at ha
    exact (Option.some.inj ha).symm

theorem Keeps.tableOf (h : m.Keeps s p) :
    (m.tableOf s p).1 = AccessTable.of s p.accessors ∧ (m.tableOf s p).2.Keeps s p := by
  unfold Memo.tableOf
  cases hlookup : m.tables.lookup (s.typeName, p.typeName) with
  | some t => exact ⟨h.table t hlookup, h⟩
  | none =>
    obtain ⟨haccessors, hkeeps, htables⟩ := h.accessorsOf
    have htable : AccessTable.of s (m.accessorsOf p).1 = AccessTable.of s p.accessors := by rw [haccessors]
    refine ⟨htable, ⟨hkeeps.accessors, fun t ht => ?_⟩⟩
    dsimp only at ht
    rw [List.lookup_append, htables, hlookup, Option.none_or, List.lookup_cons_self] at ht
    exact (Option.some.inj ht).symm.trans htable

/-- **A view is what it is without a memo**, and what is kept then is right. -/
theorem Keeps.view (h : m.Keeps s p) (e : ε) : (m.view s p e).1 = p.view s e ∧ (m.view s p e).2.Keeps s p := by
  obtain ⟨htable, hkeeps⟩ := h.tableOf
  refine ⟨?_, hkeeps⟩
  show View.of s (m.tableOf s p).1 e = View.of s (AccessTable.of s p.accessors) e
  rw [htable]

end Memo
end DirectoryAccess
