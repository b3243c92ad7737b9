import DirectoryAccess.Proofs.Outcome
import DirectoryAccess.Proofs.Session.Plan
import DirectoryAccess.Proofs.Store.Searching
/-!
# Limits of searches

A search for at most so many entries hands no more than these to its handler.  A directory in memory cuts the list of
what is found.  A session leaves it to the server and tells it the limit, and a server that honours the limits it is told
(`Transport.Honours`) sends no more rows than that.

Between the two is the limit of zero.  On the wire zero means no limit at all, and a session sends it as it is
(`search_limit_zero`).  So the bound holds for every limit over a directory in memory, and for every limit but zero over
a session (`handed_within_limit`).
-/
namespace DirectoryAccess

variable {τ : Type}

/-- A search is answered with no more entries than its size limit, unless that is zero, which is none. -/
def Transport.Honours (t : Transport τ) : Prop :=
  ∀ (seconds : Option UInt64) (base : String) (scope : Scope) (limit : Nat) (filter : String)
    (attributes : List String) (s : τ) (response : Response),
      (t.exchange seconds (.search base scope limit filter attributes) s).1 = some response →
        0 < limit → response.entries.length ≤ limit

theorem Store.length_matching_le {q : Query} {n : UInt64} (h : q.limit = some n) (s : Store) :
    (s.matching q).length ≤ n.toNat := by
  rw [matching_eq, h, List.length_map, limited]
  exact List.length_take_le _ _

namespace Session

/-- A limit that is not zero is told as one that is not zero and no larger. -/
theorem sizeLimit_bounds {n : UInt64} (h : n ≠ 0) : 0 < sizeLimit (some n) ∧ sizeLimit (some n) ≤ n.toNat := by
  have hpos : n.toNat ≠ 0 := fun hzero => h (UInt64.toNat_inj.1 hzero)
  dsimp only [sizeLimit]
  omega

section

variable (t : Transport τ) (server : Server)

/-- The response to a request is what the transport answered to it. -/
theorem exists_exchange_of_call {request : Request} {lost : Fault} {st after : Session × τ} {response : Response}
    (h : (call t server request lost).exec st = (.ok response, after)) :
    ∃ seconds s, (t.exchange seconds request s).1 = some response := by
  unfold call at h
  obtain ⟨_, connected, -, h⟩ := Action.exec_bind_eq_ok_iff.1 h
  obtain ⟨answer, st', hexchange, h⟩ := Action.exec_bind_eq_ok_iff.1 h
  cases answer with
  | none => cases h
  | some given =>
    obtain rfl : given = response := Except.ok.inj (congrArg Prod.fst h)
    exact ⟨_, connected.2, Except.ok.inj (congrArg Prod.fst hexchange)⟩

/-- What is sent for a search. -/
def searchRequest (q : Query) : Request :=
  .search q.base.text q.scope (sizeLimit q.limit) q.filter.text (if q.attributes.isEmpty then ["*"] else q.attributes)

/-- A search finds rows when its request is answered with them, as a success or as cut off at a limit. -/
theorem search_eq_ok_iff {q : Query} {st after : Session × τ} {rows : List Row} :
    (search t server q).exec st = (.ok rows, after) ↔
      ∃ response, (call t server (searchRequest q) (.operation .searchLost)).exec st = (.ok response, after) ∧
        ((response.code == 4 && q.limit.isSome) = true ∨ accept response q.base "search" = .ok ()) ∧
        response.entries.map RawEntry.entry = rows := by
  have hchecked (response : Response) :
      ((if !(response.code == 4 && q.limit.isSome) then accept response q.base "search" else .ok ()) >>= fun _ =>
        (.ok (response.entries.map RawEntry.entry) : Except Fault (List Row))) = .ok rows ↔
      ((response.code == 4 && q.limit.isSome) = true ∨ accept response q.base "search" = .ok ()) ∧
        response.entries.map RawEntry.entry = rows := by
    rw [bind_eq_ok_iff]
    cases (response.code == 4 && q.limit.isSome) with
    | true => simp
    | false =>
      constructor
      · rintro ⟨⟨⟩, haccepted, hrows⟩
        exact ⟨.inr haccepted, Except.ok.inj hrows⟩
      · rintro ⟨hcut | haccepted, hrows⟩
        · cases hcut
        · exact ⟨(), haccepted, congrArg Except.ok hrows⟩
  rw [search_eq_run]
  refine Action.exec_bind_eq_ok_iff.trans ⟨?_, ?_⟩
  · rintro ⟨response, st', hcall, h⟩
    obtain ⟨hrows, rfl⟩ := Prod.mk.inj h
    exact ⟨response, hcall, (hchecked response).1 hrows⟩
  · rintro ⟨response, hcall, hrest⟩
    exact ⟨response, after, hcall, Prod.ext ((hchecked response).2 hrest) rfl⟩

/-- The limit of zero is sent like none, so whatever is found without a limit is found with this one. -/
theorem search_limit_zero (q : Query) {st after : Session × τ} {rows : List Row}
    (h : (search t server { q with limit := none }).exec st = (.ok rows, after)) :
    (search t server { q with limit := some 0 }).exec st = (.ok rows, after) := by
  obtain ⟨response, hcall, hcode, hrows⟩ := (search_eq_ok_iff t server).1 h
  have haccepted : accept response q.base "search" = .ok () := by simpa using hcode
  exact (search_eq_ok_iff t server).2 ⟨response, hcall, .inr haccepted, hrows⟩

variable {t}

theorem length_search_le (hhonours : t.Honours) {q : Query} {n : UInt64} (hq : q.limit = some n) (hn : n ≠ 0)
    {st after : Session × τ} {rows : List Row} (h : (search t server q).exec st = (.ok rows, after)) :
    rows.length ≤ n.toNat := by
  obtain ⟨response, hcall, -, rfl⟩ := (search_eq_ok_iff t server).1 h
  obtain ⟨seconds, s, hresponse⟩ := exists_exchange_of_call t server hcall
  have hrequest : 0 < sizeLimit q.limit → response.entries.length ≤ sizeLimit q.limit :=
    hhonours seconds _ _ _ _ _ s response hresponse
  rw [hq] at hrequest
  obtain ⟨hpos, hle⟩ := sizeLimit_bounds hn
  rw [List.length_map]
  exact Nat.le_trans (hrequest hpos) hle

end

/-! ## A server for runs -/

/-- Answers every search with all there is, as far as the limit goes, and grants everything else. -/
def shelf (entries : List RawEntry) : Transport Unit where
  connect := fun _ _ => (true, ())
  exchange := fun _ request _ =>
    match request with
    | .search _ _ limit _ _ => (some { entries := if limit = 0 then entries else entries.take limit }, ())
    | _ => (some {}, ())
  notify := fun _ _ => ()

theorem honours_shelf (entries : List RawEntry) : (shelf entries).Honours := by
  intro seconds base scope limit filter attributes s response h hpos
  obtain rfl : { entries := if limit = 0 then entries else entries.take limit } = response := Option.some.inj h
  rw [if_neg (Nat.ne_of_gt hpos)]
  exact List.length_take_le _ _

def shelfServer : Server := { host := "h", base := ⟨[⟨"dc", "x"⟩]⟩, bindName := "cn=admin" }

def shelfMembers : List RawEntry := [⟨"cn=a", []⟩, ⟨"cn=b", []⟩, ⟨"cn=c", []⟩]

/-- All members, and at most so many. -/
def atMost (n : UInt64) : Query := { base := ⟨[⟨"dc", "x"⟩]⟩, filter := .present "cn", limit := some n }

/-- All members are handed over for the limit of zero. -/
theorem length_handed_shelf_zero :
    ((client (shelf shelfMembers) shelfServer).handed (atMost 0) Client.tally ({}, ()) 0).length = 3 := by
  decide +kernel

/-! ## The bound -/

/-- **No more entries are handed over than the limit says, except that over a session zero is no limit.**

The directory in memory keeps to every limit.  A session with a server that honours the limits it is told keeps to a
limit, whatever is searched and however the server answers, if and only if it is not zero; with zero it finds all that is
found without a limit. -/
theorem handed_within_limit (n : UInt64) :
    (∀ (q : Query), q.limit = some n → ∀ {σ : Type} (handler : Handler σ) (s : Store) (u : σ),
      (Store.client.handed q handler s u).length ≤ n.toNat) ∧
    ((∀ {τ : Type} (t : Transport τ), t.Honours → ∀ (server : Server) (q : Query), q.limit = some n →
      ∀ {σ : Type} (handler : Handler σ) (st : Session × τ) (u : σ),
        ((client t server).handed q handler st u).length ≤ n.toNat) ↔ n ≠ 0) ∧
    ∀ {τ : Type} (t : Transport τ) (server : Server) (q : Query) (st after : Session × τ) (rows : List Row),
      ((client t server).search { q with limit := none }).exec st = (.ok rows, after) →
      ((client t server).search { q with limit := some 0 }).exec st = (.ok rows, after) := by
  refine ⟨fun q hq σ handler s u => ?_, ⟨fun hall hzero => ?_, fun hn => ?_⟩, fun t server q st after rows => ?_⟩
  · refine Client.length_handed_le Store.client q handler (fun rows s' h => ?_) u
    obtain rfl : (s.matching q).map .ok = rows := Except.ok.inj (congrArg Prod.fst h)
    rw [List.length_map]
    exact Store.length_matching_le hq s
  · subst hzero
    have hle := hall (shelf shelfMembers) (honours_shelf _) shelfServer (atMost 0) rfl Client.tally ({}, ()) 0
    rw [length_handed_shelf_zero] at hle
    exact absurd hle (by decide)
  · intro τ t hhonours server q hq σ handler st u
    exact Client.length_handed_le _ q handler (fun rows after => length_search_le server hhonours hq hn) u
  · exact search_limit_zero t server q

/-- Three members at a session, and two of them handed over. -/
theorem handed_within_limit_two :
    (shelf shelfMembers).Honours ∧
      ((client (shelf shelfMembers) shelfServer).count { atMost 2 with limit := none }).exec ({}, ()) =
        (.ok 3, ({ connected := true }, ())) ∧
      ((client (shelf shelfMembers) shelfServer).handed (atMost 2) Client.tally ({}, ()) 0).length ≤ 2 :=
  ⟨honours_shelf _, rfl,
    (handed_within_limit 2).2.1.2 (by decide) _ (honours_shelf _) shelfServer (atMost 2) rfl Client.tally ({}, ()) 0⟩

/-- Three members handed over for the limit of zero. -/
theorem not_handed_within_limit :
    ¬ ∀ (n : UInt64) {τ : Type} (t : Transport τ), t.Honours → ∀ (server : Server) (q : Query), q.limit = some n →
      ∀ {σ : Type} (handler : Handler σ) (st : Session × τ) (u : σ),
        ((client t server).handed q handler st u).length ≤ n.toNat := by
  intro hall
  have hle := hall 0 (shelf shelfMembers) (honours_shelf _) shelfServer (atMost 0) rfl Client.tally ({}, ()) 0
  rw [length_handed_shelf_zero] at hle
  exact absurd hle (by decide)

end Session
end DirectoryAccess
