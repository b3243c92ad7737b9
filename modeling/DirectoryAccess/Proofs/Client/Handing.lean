import DirectoryAccess.Client
import DirectoryAccess.Proofs.Turns
/-!
# What handlers are given

A handler is given the entries of a search one after another, and the first fault, its own or that of a row, ends this.
To say what it has been given it is watched: the entries are listed beside its state, and nothing else is different
(`exec_feed_watched`).  What is listed is the rows from the first on, as far as the search went.  So a client that
never gives more rows than a bound never hands over more entries (`length_handed_le`).
-/
namespace DirectoryAccess

variable {σ τ : Type}

namespace Action

variable {α β : Type}

@[simp] theorem exec_onFirst (a : Action σ α) (s : σ × τ) :
    a.onFirst.exec s = ((a.exec s.1).1, ((a.exec s.1).2, s.2)) := rfl

@[simp] theorem exec_onSecond (a : Action τ α) (s : σ × τ) :
    a.onSecond.exec s = ((a.exec s.2).1, (s.1, (a.exec s.2).2)) := rfl

end Action

/-- The same handler, with a list of the entries it was given beside its own state. -/
def watched (handler : Handler τ) : Handler (List Entry × τ) := fun entry =>
  Action.ofStep (fun t => (((handler entry).exec t.2).1, (t.1 ++ [entry], ((handler entry).exec t.2).2)))

/-! ## Feeding -/

section

variable (handler : Handler τ)

/-- Rows after entries are handed over once the entries are, without a fault. -/
theorem exec_feed_append : ∀ (entries : List Entry) (rows : List Row) (t : τ),
    (feed handler (entries.map .ok ++ rows)).exec t =
      match (feed handler (entries.map .ok)).exec t with
      | (.ok _, t') => (feed handler rows).exec t'
      | (.error fault, t') => (.error fault, t')
  | [], _, _ => rfl
  | entry :: entries, rows, t => by
    rw [List.map_cons, List.cons_append, exec_feed_cons, exec_feed_cons]
    rcases (handler entry).exec t with ⟨fault | _, t'⟩
    · rfl
    · exact exec_feed_append entries rows t'

/-- To watch a handler changes nothing but the list, and that by the rows from the first on: by all of them if none
fails. -/
theorem exec_feed_watched : ∀ (rows : List Row) (seen : List Entry) (t : τ), ∃ given : List Entry,
    (feed (watched handler) rows).exec (seen, t) =
        (((feed handler rows).exec t).1, (seen ++ given, ((feed handler rows).exec t).2)) ∧
      given.map .ok <+: rows ∧ (((feed handler rows).exec t).1 = .ok () → given.map .ok = rows)
  | [], seen, _ => ⟨[], by rw [List.append_nil]; rfl, List.nil_prefix, fun _ => rfl⟩
  | .error _ :: _, seen, _ => ⟨[], by rw [List.append_nil]; rfl, List.nil_prefix, fun h => by cases h⟩
  | .ok entry :: rows, seen, t => by
    rw [exec_feed_cons, exec_feed_cons]
    unfold watched
    rw [Action.exec_ofStep]
    dsimp only
    rcases (handler entry).exec t with ⟨fault | _, t'⟩
    · exact ⟨[entry], rfl, (List.prefix_cons_inj _).2 List.nil_prefix, fun h => by cases h⟩
    · obtain ⟨given, hgiven, hprefix, hall⟩ := exec_feed_watched rows (seen ++ [entry]) t'
      rw [List.append_assoc] at hgiven
      exact ⟨entry :: given, hgiven, (List.prefix_cons_inj _).2 hprefix, fun h => congrArg (List.cons _) (hall h)⟩

/-- A handler that does not fail is given all entries. -/
theorem exec_feed_watched_of_ok {entries : List Entry} {t t' : τ}
    (h : (feed handler (entries.map .ok)).exec t = (.ok (), t')) (seen : List Entry) :
    (feed (watched handler) (entries.map .ok)).exec (seen, t) = (.ok (), (seen ++ entries, t')) := by
  obtain ⟨given, hgiven, -, hall⟩ := exec_feed_watched handler (entries.map .ok) seen t
  obtain rfl : given = entries :=
    (List.map_inj_right (fun _ _ h => Except.ok.inj h)).1 (hall (congrArg Prod.fst h))
  rw [hgiven, h]

/-- A handler that fails on an entry is given this and those before it, and none of those behind. -/
theorem exec_feed_watched_of_error {before : List Entry} {entry : Entry} {t t' t'' : τ} {fault : Fault}
    (hbefore : (feed handler (before.map .ok)).exec t = (.ok (), t'))
    (hentry : (handler entry).exec t' = (.error fault, t'')) (behind : List Row) (seen : List Entry) :
    (feed (watched handler) (before.map .ok ++ .ok entry :: behind)).exec (seen, t) =
      (.error fault, (seen ++ (before ++ [entry]), t'')) := by
  rw [exec_feed_append, exec_feed_watched_of_ok handler hbefore]
  dsimp only
  rw [exec_feed_cons]
  unfold watched
  rw [Action.exec_ofStep]
  dsimp only
  rw [hentry, List.append_assoc]

end

/-! ## Searching -/

namespace Client

variable (c : Client σ) (q : Query) (handler : Handler τ)

/-- A search hands over the rows that the client gives. -/
theorem exec_searchInto (s : σ) (t : τ) :
    (c.searchInto q handler).exec (s, t) =
      match (c.search q).exec s with
      | (.ok rows, s') => (((feed handler rows).exec t).1, (s', ((feed handler rows).exec t).2))
      | (.error fault, s') => (.error fault, (s', t)) := by
  unfold searchInto
  rw [Action.exec_bind, Action.exec_onFirst]
  rcases (c.search q).exec s with ⟨fault | rows, s'⟩ <;> rfl

/-- The entries that a search hands to the handler, in the order in which it does. -/
def handed (s : σ) (t : τ) : List Entry := ((c.searchInto q (watched handler)).exec (s, ([], t))).2.2.1

/-- No more entries are handed over than the client gives rows. -/
theorem length_handed_le {s : σ} {n : Nat}
    (h : ∀ rows s', (c.search q).exec s = (.ok rows, s') → rows.length ≤ n) (t : τ) :
    (c.handed q handler s t).length ≤ n := by
  unfold handed
  rw [exec_searchInto]
  rcases hsearch : (c.search q).exec s with ⟨fault | rows, s'⟩
  · exact Nat.zero_le n
  · obtain ⟨given, hgiven, hprefix, -⟩ := exec_feed_watched handler rows [] t
    dsimp only
    rw [hgiven, List.nil_append]
    have hle : given.length ≤ rows.length := by simpa using hprefix.length_le
    exact Nat.le_trans hle (h rows s' hsearch)

end Client
end DirectoryAccess
