import DirectoryAccess.Proofs.Client.Handing
import DirectoryAccess.Store
/-!
# Searching a directory in memory

A search leaves the entries alone and puts one query into the record, its own, whatever the handler does with what is
found (`exec_gather`).  What is found depends on the limit and on the attributes asked for in one way only: a limit
keeps the first so many (`matching_limit`), and the attributes have no say in which entries there are
(`length_matching`).
-/
namespace DirectoryAccess

/-- The entry with the named attributes only, or with all if none are named. -/
def Entry.keep (names : List String) (e : Entry) : Entry := { e with attributes := e.attributes.keep names }

namespace Store

/-! ## The entries found -/

/-- All entries that are asked for, without regard to the limit and with all their attributes. -/
def selected (s : Store) (q : Query) : List Entry :=
  s.entries.filter (fun e => inScope e.name q.base q.scope && q.filter.selects e.attributes)

theorem matching_eq (s : Store) (q : Query) :
    s.matching q = (limited q.limit (s.selected q)).map (Entry.keep q.attributes) := rfl

theorem limited_map {α β : Type} (limit : Option UInt64) (f : α → β) (as : List α) :
    limited limit (as.map f) = (limited limit as).map f := by
  cases limit with
  | none => rfl
  | some n => exact List.map_take.symm

theorem matching_limit (s : Store) (q : Query) (n : UInt64) :
    s.matching { q with limit := some n } = (s.matching { q with limit := none }).take n.toNat := by
  rw [matching_eq, matching_eq]
  exact List.map_take

theorem length_matching (s : Store) {q : Query} (h : q.limit = none) :
    (s.matching q).length = (s.selected q).length := by
  rw [matching_eq, h, List.length_map]
  rfl

/-! ## The search as an action -/

section

variable {τ : Type} (q : Query) (s : Store)

theorem exec_search : (client.search q).exec s = (.ok ((s.matching q).map .ok), s.ask q) := rfl

theorem exec_searchInto (handler : Handler τ) (t : τ) :
    (client.searchInto q handler).exec (s, t) =
      (((feed handler ((s.matching q).map .ok)).exec t).1,
        (s.ask q, ((feed handler ((s.matching q).map .ok)).exec t).2)) := by
  rw [Client.exec_searchInto, exec_search]

/-- A search gives what its handler comes to on the entries found, and puts the query into the record. -/
theorem exec_gather (handler : Handler τ) (t : τ) :
    (client.gather q handler t).exec s =
      ((((feed handler ((s.matching q).map .ok)).exec t).1.map
        (fun _ => ((feed handler ((s.matching q).map .ok)).exec t).2)), s.ask q) := by
  unfold Client.gather
  rw [Action.exec_ofStep, exec_searchInto]
  rcases (feed handler ((s.matching q).map .ok)).exec t with ⟨_ | _, _⟩ <;> rfl

theorem exec_find : (client.find q).exec s = (.ok (s.matching q), s.ask q) := by
  unfold Client.find
  rw [exec_gather, exec_feed_collect]
  rfl

theorem exec_count : (client.count q).exec s = (.ok (s.matching q).length, s.ask q) := by
  unfold Client.count
  rw [exec_gather, exec_feed_tally]
  simp [Except.map]

theorem exec_findOne :
    (client.findOne q).exec s =
      ((match s.matching q with
        | [] => .error .emptyResult
        | [entry] => .ok entry
        | entries => .error (.cardinality 1 entries.length)), s.ask q) := by
  unfold Client.findOne
  rw [Action.exec_bind, exec_find]
  rcases s.matching q with _ | ⟨entry, _ | ⟨other, entries⟩⟩ <;> rfl

end

end Store
end DirectoryAccess
