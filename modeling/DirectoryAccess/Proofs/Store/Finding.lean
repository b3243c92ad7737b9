import DirectoryAccess.Proofs.Name.Hierarchy
import DirectoryAccess.Proofs.Store.Searching
/-!
# What is found, and how much of it

Which entries a search is after is decided by its base, its scope and its filter alone (`Query.Wants`): a scope says how
many steps up from the name of an entry the base is to be found.  The limit and the attributes that are asked for come
afterwards.  A limit keeps the first so many, and the attributes decide how much is seen of each entry, whether the filter
looks at them or not; so all searches that differ in these only find parts of one list (`searches_agree`).

A handler sees that list too, up to the first entry on which it fails.
-/
namespace DirectoryAccess

/-- The base may be so many levels above the entries that are in this scope. -/
def Scope.Spans : Scope → Nat → Prop
  | .base, levels => levels = 0
  | .oneLevel, levels => levels = 1
  | .subtree, _ => True

/-- The base is found as many steps above the entry as the scope says, and the filter selects the entry. -/
def Query.Wants (q : Query) (e : Entry) : Prop :=
  (∃ levels above, q.scope.Spans levels ∧ e.name.up? levels = some above ∧ q.base.same above = true) ∧
    q.filter.selects e.attributes = true

/-- A search for the same entries: for these attributes of them, and at most so many. -/
def Query.asking (q : Query) (attributes : List String) (limit : Option UInt64) : Query := { q with attributes, limit }

namespace Store

/-! ## Scopes -/

theorem inScope_iff {n base : Name} (scope : Scope) : inScope n base scope = true ↔
    ∃ levels above, scope.Spans levels ∧ n.up? levels = some above ∧ base.same above = true := by
  cases scope with
  | base =>
    constructor
    · intro h
      exact ⟨0, n, rfl, rfl, Name.same_symm h⟩
    · rintro ⟨levels, above, rfl, hup, hsame⟩
      obtain rfl : n = above := Option.some.inj hup
      exact Name.same_symm hsame
  | oneLevel =>
    have hone : n.up? 1 = n.parent? := Option.bind_fun_some _
    have hany : inScope n base .oneLevel = n.parent?.any (·.same base) := by
      dsimp only [inScope]
      cases n.parent? <;> rfl
    rw [hany, Option.any_eq_true]
    constructor
    · rintro ⟨above, hparent, hsame⟩
      exact ⟨1, above, rfl, hone.trans hparent, Name.same_symm hsame⟩
    · rintro ⟨levels, above, rfl, hup, hsame⟩
      exact ⟨above, hone.symm.trans hup, Name.same_symm hsame⟩
  | subtree =>
    rw [inScope, Name.endsWith_iff_up?]
    simp [Scope.Spans]

/-- What is asked for, among the entries, in stored order. -/
theorem exists_selected_eq_filter (s : Store) (q : Query) :
    ∃ wanted : Entry → Bool, (∀ e, wanted e = true ↔ q.Wants e) ∧ s.selected q = s.entries.filter wanted := by
  refine ⟨_, fun e => ?_, rfl⟩
  rw [Bool.and_eq_true, inScope_iff, Query.Wants]

/-! ## Handlers -/

section

variable {τ : Type} {q : Query} {s : Store} {handler : Handler τ} {t t' : τ}

/-- A handler that does not fail is given all that is found. -/
theorem exec_searchInto_watched_of_ok (h : (feed handler ((s.matching q).map .ok)).exec t = (.ok (), t')) :
    (client.searchInto q (watched handler)).exec (s, ([], t)) = (.ok (), (s.ask q, (s.matching q, t'))) := by
  rw [exec_searchInto, exec_feed_watched_of_ok handler h, List.nil_append]

/-- A handler that fails on an entry is given what is found up to there, and the search fails alike. -/
theorem exec_searchInto_watched_of_error {k : Nat} {entry : Entry} {t'' : τ} {fault : Fault}
    (hk : (s.matching q)[k]? = some entry)
    (hbefore : (feed handler (((s.matching q).take k).map .ok)).exec t = (.ok (), t'))
    (hentry : (handler entry).exec t' = (.error fault, t'')) :
    (client.searchInto q (watched handler)).exec (s, ([], t)) =
      (.error fault, (s.ask q, ((s.matching q).take (k + 1), t''))) := by
  have hrows : (s.matching q).map .ok =
      ((s.matching q).take k).map .ok ++ .ok entry :: (((s.matching q).drop (k + 1)).map .ok : List Row) := by
    obtain ⟨hlt, rfl⟩ := List.getElem?_eq_some_iff.1 hk
    rw [← List.map_cons, ← List.map_append, ← List.drop_eq_getElem_cons hlt, List.take_append_drop]
  have htake : (s.matching q).take (k + 1) = (s.matching q).take k ++ [entry] := by
    rw [List.take_add_one, hk]
    rfl
  rw [exec_searchInto, hrows, exec_feed_watched_of_error handler hbefore hentry, List.nil_append, htake]

end

/-! ## All searches for the same entries -/

/-- **Searches for the same entries find parts of one list.**

The list is what is found with no limit and all attributes: in stored order, the entries that are wanted.  A limit finds
the first so many of them, and with certain attributes asked for the same entries are found with these only.  Counting
counts what is found.  A handler that fails on an entry has been given this and those before it, its fault is that of the
search, and the entries stay as they are. -/
theorem searches_agree (s : Store) (q : Query) :
    ∃ all : List Entry,
      (∃ wanted : Entry → Bool, (∀ e, wanted e = true ↔ q.Wants e) ∧ all = s.entries.filter wanted) ∧
      (client.find (q.asking [] none)).exec s = (.ok all, s.ask (q.asking [] none)) ∧
      (∀ n, (client.find (q.asking [] (some n))).exec s = (.ok (all.take n.toNat), s.ask (q.asking [] (some n)))) ∧
      (∀ names, (client.find (q.asking names none)).exec s =
          (.ok (all.map (Entry.keep names)), s.ask (q.asking names none)) ∧
        (all.map (Entry.keep names)).map Entry.name = all.map Entry.name) ∧
      ∃ found, found = (limited q.limit all).map (Entry.keep q.attributes) ∧
        (client.find q).exec s = (.ok found, s.ask q) ∧
        (client.count q).exec s = (.ok found.length, s.ask q) ∧
        (∀ {τ : Type} (handler : Handler τ) (t t' : τ),
          ((feed handler (found.map .ok)).exec t = (.ok (), t') →
            (client.searchInto q (watched handler)).exec (s, ([], t)) = (.ok (), (s.ask q, (found, t')))) ∧
          ∀ (k : Nat) (entry : Entry) (t'' : τ) (fault : Fault), found[k]? = some entry →
            (feed handler ((found.take k).map .ok)).exec t = (.ok (), t') →
            (handler entry).exec t' = (.error fault, t'') →
            (client.searchInto q (watched handler)).exec (s, ([], t)) =
              (.error fault, (s.ask q, (found.take (k + 1), t'')))) ∧
        (s.ask q).entries = s.entries := by
  have hfind (names : List String) (limit : Option UInt64) : (client.find (q.asking names limit)).exec s =
      (.ok ((limited limit (s.selected q)).map (Entry.keep names)), s.ask (q.asking names limit)) := exec_find _ s
  have hwhole (entries : List Entry) : entries.map (Entry.keep []) = entries := List.map_id' entries
  refine ⟨s.selected q, s.exists_selected_eq_filter q, ?_, fun n => ?_, fun names => ⟨hfind names none, ?_⟩,
    s.matching q, matching_eq s q, exec_find q s, exec_count q s, fun handler t t' => ⟨?_, ?_⟩, rfl⟩
  · rw [hfind, hwhole]
    rfl
  · rw [hfind, hwhole]
    rfl
  · rw [List.map_map]
    rfl
  · exact exec_searchInto_watched_of_ok
  · exact fun k entry t'' fault => exec_searchInto_watched_of_error

/-- Takes so many entries and no more. -/
def upTo (n : Nat) : Handler Nat := fun _ =>
  Action.ofStep (fun taken => if taken < n then (.ok (), taken + 1) else (.error .emptyResult, taken))

/-- An organization, two members in different spellings, and a member of another one. -/
def members : Store :=
  .ofEntries [⟨⟨[⟨"dc", "x"⟩]⟩, ⟨[("dc", .text "x")]⟩⟩,
    ⟨⟨[⟨"cn", "a"⟩, ⟨"dc", "X"⟩]⟩, ⟨[("cn", .text "a"), ("SN", .text "A")]⟩⟩,
    ⟨⟨[⟨"cn", "c"⟩, ⟨"dc", "y"⟩]⟩, ⟨[("cn", .text "c")]⟩⟩,
    ⟨⟨[⟨"cn", "b"⟩, ⟨"ou", "o"⟩, ⟨"DC", "x"⟩]⟩, ⟨[("cn", .text "b")]⟩⟩]

/-- Members below `dc=x` are found by an attribute that is not asked for; a handler that takes one of them has been given
the second when it fails. -/
theorem searches_agree_interrupted :
    let q : Query := { base := ⟨[⟨"dc", "x"⟩]⟩, filter := .present "cn", attributes := ["sn"] }
    let first : Entry := ⟨⟨[⟨"cn", "a"⟩, ⟨"dc", "X"⟩]⟩, ⟨[("SN", .text "A")]⟩⟩
    let second : Entry := ⟨⟨[⟨"cn", "b"⟩, ⟨"ou", "o"⟩, ⟨"DC", "x"⟩]⟩, ⟨[]⟩⟩
    (feed (upTo 1) [.ok first]).exec 0 = (.ok (), 1) ∧ (upTo 1 second).exec 1 = (.error .emptyResult, 1) ∧
      (client.count q).exec members = (.ok 2, members.ask q) ∧
      (client.searchInto q (watched (upTo 1))).exec (members, ([], 0)) =
        (.error .emptyResult, (members.ask q, ([first, second], 1))) := by
  intro q first second
  obtain ⟨-, -, -, -, -, found, -, hfind, hcount, hhandler, -⟩ := searches_agree members q
  obtain rfl : [first, second] = found := by
    have hmatching : members.matching q = [first, second] := by decide +kernel
    rw [← hmatching]
    exact Except.ok.inj (congrArg Prod.fst ((exec_find q members).symm.trans hfind))
  exact ⟨rfl, rfl, hcount, (hhandler (upTo 1) 0 1).2 1 second 1 .emptyResult rfl rfl rfl⟩

end Store
end DirectoryAccess
