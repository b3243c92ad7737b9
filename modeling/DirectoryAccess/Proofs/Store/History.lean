import DirectoryAccess.Proofs.Store.Register
import DirectoryAccess.Proofs.Store.Searching
/-!
# A directory through any history

Whatever is asked of a directory in memory, one operation after another, it stays an ordered map from names to entries.
`Store.Follows` ties a store to a register.  Every operation keeps the tie (`Follows.step`), so every history does
(`history_follows_register`): names stay apart, what stands under a name is what the register says, the entries stand
in the order in which their names were added last, and an operation that fails leaves all of them as they are.
-/
namespace DirectoryAccess

variable {α : Type}

/-! ## A store and its register -/

namespace Store

/-- The names of the entries, as they are told apart. -/
def keys (s : Store) : List (List (String × String)) := s.entries.map (fun e => e.name.key)

/-- The store is as the register says. -/
structure Follows (s : Store) (r : Register) : Prop where
  at_eq : ∀ n, s.find? n = r.at? n.key
  order : s.keys = r.present
  asked : s.asked = r.asked

theorem Follows.nodup {s : Store} {r : Register} (h : s.Follows r) : s.keys.Nodup := by
  rw [h.order]
  exact r.nodup_present

theorem Follows.holds_eq {s : Store} {r : Register} (h : s.Follows r) (n : Name) : r.holds n = s.holds n := by
  rw [← find?_isSome, h.at_eq, Register.holds]

theorem find?_eq_none_iff {s : Store} {n : Name} : s.find? n = none ↔ n.key ∉ s.keys := by
  unfold find? keys
  rw [List.find?_eq_none, List.mem_map, not_exists]
  constructor
  · rintro h e ⟨he, hkey⟩
    exact h e he (Name.same_iff_key.2 hkey)
  · intro h e he hsame
    exact h e ⟨he, Name.same_iff_key.1 hsame⟩

theorem follows_ofEntries {entries : List Entry}
    (h : entries.Pairwise (fun x y => x.name.same y.name = false)) :
    (ofEntries entries).Follows (.ofEntries entries) := by
  have hnodup : (entries.map (fun e => e.name.key)).Nodup := by
    refine List.pairwise_map.2 (h.imp ?_)
    intro x y hxy hkey
    rw [Name.same_iff_key.2 hkey] at hxy
    cases hxy
  constructor
  case at_eq =>
    intro n
    have hsame : (fun e : Entry => e.name.same n) = (fun e => decide (e.name.key = n.key)) := by
      funext e
      rw [Bool.eq_iff_iff, decide_eq_true_iff]
      exact Name.same_iff_key
    show entries.find? (fun e => e.name.same n) = _
    rw [hsame]
    rfl
  case order =>
    have hadded : (Register.ofEntries entries).added = entries.map (fun e => e.name.key) := rfl
    rw [Register.present, hadded, hnodup.dedup]
    refine (List.filter_eq_self.2 ?_).symm
    intro k hk
    obtain ⟨e, he, rfl⟩ := List.mem_map.1 hk
    exact List.find?_isSome.2 ⟨e, he, by simp⟩
  case asked => rfl

/-! ## What one operation does -/

theorem places_insert (s : Store) (entry : Entry) : s.Places entry.name entry (s.insert entry) := by
  unfold insert
  cases hfind : s.find? entry.name with
  | none =>
    rw [if_neg (by simp [holds_eq_false_iff.2 hfind])]
    refine ⟨s.entries, [], by simp [hfind], fun _ => rfl, ?_, rfl⟩
    intro x hx
    simpa using List.find?_eq_none.1 hfind x hx
  | some e =>
    obtain ⟨hname, front, back, hentries, hfront⟩ := find?_eq_some_iff.1 hfind
    have hholds : s.holds entry.name = true := by rw [← find?_isSome, hfind]; rfl
    rw [if_pos hholds]
    refine ⟨front, back, by simp [hfind, hentries], by simp [hfind], hfront, ?_⟩
    rw [hentries, replaceFirst_append hname hfront]

theorem Places.find?_of_not_same {n k : Name} {entry : Entry} {before after : Store}
    (h : Places n entry before after) (hname : entry.name.same n = true) (hk : n.same k = false) :
    after.find? k = before.find? k := by
  have hother (e : Entry) (he : e.name.same n = true) : e.name.same k = false := by
    rw [← hk, Bool.eq_iff_iff]
    exact ⟨fun h => Name.same_trans (Name.same_symm he) h, fun h => Name.same_trans he h⟩
  obtain ⟨front, back, hentries, -, -, rfl⟩ := h
  unfold Store.find? at hentries ⊢
  cases hfind : before.entries.find? (fun e => e.name.same n) with
  | none =>
    rw [hfind] at hentries
    rw [hentries]
    simp [List.find?_append, hother entry hname]
  | some e =>
    have he : e.name.same n = true := List.find?_some (p := fun e : Entry => e.name.same n) hfind
    rw [hfind] at hentries
    rw [hentries]
    simp [List.find?_append, hother entry hname, hother e he]

theorem Follows.place {s s' : Store} {r : Register} {entry : Entry} {n : Name} (h : s.Follows r)
    (hplaces : s.Places n entry s') (hname : entry.name.same n = true) : s'.Follows (r.place entry) := by
  have hkey : entry.name.key = n.key := Name.same_iff_key.1 hname
  constructor
  case at_eq =>
    intro k
    have hat : (r.place entry).at? k.key = if k.key = entry.name.key then some entry else r.at? k.key := rfl
    rw [hat]
    by_cases hk : k.key = entry.name.key
    · have hsame : k.same n = true := Name.same_iff_key.2 (hk.trans hkey)
      rw [if_pos hk, find?_congr s' hsame, hplaces.find? hname]
    · have hdiffer : n.same k = false := by
        rw [Bool.eq_false_iff]
        exact fun hsame => hk ((Name.same_iff_key.1 hsame).symm.trans hkey.symm)
      rw [if_neg hk, hplaces.find?_of_not_same hname hdiffer, h.at_eq]
  case order =>
    have hholds : r.holds entry.name = s.holds n := by
      rw [h.holds_eq, ← find?_isSome, ← find?_isSome, find?_congr s hname]
    have horder := h.order
    obtain ⟨front, back, hentries, hback, -, rfl⟩ := hplaces
    unfold keys at horder ⊢
    cases hfind : s.find? n with
    | none =>
      rw [← find?_isSome, hfind] at hholds
      rw [Register.present_place_of_not_holds hholds, ← horder, hentries, hback hfind, hfind]
      simp
    | some e =>
      have he : e.name.key = n.key := Name.same_iff_key.1 (find?_eq_some_iff.1 hfind).1
      rw [← find?_isSome, hfind] at hholds
      rw [Register.present_place_of_holds hholds, ← horder, hentries, hfind]
      simp [hkey, he]
  case asked =>
    obtain ⟨front, back, -, -, -, rfl⟩ := hplaces
    exact h.asked

theorem keys_dropFirst (n : Name) : ∀ entries : List Entry,
    (dropFirst n entries).map (fun e => e.name.key) = (entries.map (fun e => e.name.key)).erase n.key
  | [] => rfl
  | e :: entries => by
    rw [dropFirst, List.map_cons, List.erase_cons]
    by_cases he : e.name.same n = true
    · have hkey : e.name.key = n.key := Name.same_iff_key.1 he
      rw [if_pos he, if_pos (by simp [hkey])]
    · have hkey : e.name.key ≠ n.key := fun hkey => he (Name.same_iff_key.2 hkey)
      rw [if_neg he, if_neg (by simp [hkey]), List.map_cons, keys_dropFirst n entries]

theorem find?_dropFirst {n k : Name} (hk : n.same k = false) : ∀ entries : List Entry,
    (dropFirst n entries).find? (fun e => e.name.same k) = entries.find? (fun e => e.name.same k)
  | [] => rfl
  | e :: entries => by
    rw [dropFirst]
    by_cases he : e.name.same n = true
    · have hdiffer : e.name.same k = false := by
        rw [← hk, Bool.eq_iff_iff]
        exact ⟨fun h => Name.same_trans (Name.same_symm he) h, fun h => Name.same_trans he h⟩
      rw [if_pos he, List.find?_cons, hdiffer]
    · rw [if_neg he, List.find?_cons, List.find?_cons, find?_dropFirst hk entries]

theorem Follows.drop {s : Store} {r : Register} (h : s.Follows r) (n : Name) :
    Follows { s with entries := dropFirst n s.entries } (r.drop n) := by
  have hkeys : keys { s with entries := dropFirst n s.entries } = s.keys.filter (fun k => k != n.key) := by
    rw [← h.nodup.erase_eq_filter]
    exact keys_dropFirst n s.entries
  constructor
  case at_eq =>
    intro k
    have hat : (r.drop n).at? k.key = if k.key = n.key then none else r.at? k.key := rfl
    rw [hat]
    by_cases hk : k.key = n.key
    · rw [if_pos hk, find?_eq_none_iff, hkeys]
      simp [hk]
    · have hdiffer : n.same k = false := by
        rw [Bool.eq_false_iff]
        exact fun hsame => hk (Name.same_iff_key.1 hsame).symm
      rw [if_neg hk, ← h.at_eq]
      exact find?_dropFirst hdiffer s.entries
  case order => rw [hkeys, h.order, Register.present_drop]
  case asked => exact h.asked

/-- A change to the store as an action: it is done, or the fault is given and the store left. -/
theorem exec_ofUpdate (f : Store → Except Fault Store) (s : Store) :
    (Action.ofUpdate f).exec s =
      match f s with
      | .ok s' => (.ok (), s')
      | .error fault => (.error fault, s) := by
  unfold Action.ofUpdate
  rw [Action.exec_ofStep]
  cases f s <;> rfl

theorem exec_unbind (n : Name) (s : Store) :
    (client.unbind n).exec s =
      if s.holds n then (.ok (), { s with entries := dropFirst n s.entries }) else (.error (.notFound n), s) := by
  show (Action.ofUpdate (unbind n)).exec s = _
  rw [exec_ofUpdate, unbind]
  cases s.holds n <;> rfl

/-- The answer to a removal, and the store after it. -/
theorem Follows.unbind {s : Store} {r : Register} (h : s.Follows r) (n : Name) :
    ((client.unbind n).exec s).1 = r.need n ∧ ((client.unbind n).exec s).2.Follows (r.drop n) := by
  rw [exec_unbind, Register.need, h.holds_eq]
  cases hholds : s.holds n with
  | true => exact ⟨rfl, h.drop n⟩
  | false =>
    -- What is not there can be dropped from the register without a difference.
    have hdrop : r.drop n = r := by
      have hnone : r.at? n.key = none := by rw [← h.at_eq, ← holds_eq_false_iff, hholds]
      have hat : (r.drop n).at? = r.at? := by
        funext k
        show (if k = n.key then none else r.at? k) = r.at? k
        by_cases hk : k = n.key
        · rw [if_pos hk, hk, hnone]
        · rw [if_neg hk]
      exact congrArg (fun at? => { r with at? }) hat
    rw [hdrop]
    exact ⟨rfl, h⟩

theorem Follows.ask {s : Store} {r : Register} (h : s.Follows r) (q : Query) : (s.ask q).Follows (r.ask q) where
  at_eq := h.at_eq
  order := h.order
  asked := congrArg (· ++ [q]) h.asked

/-- **One operation**: the store after it is as the register says, and so is its answer. -/
theorem Follows.step {s : Store} {r : Register} (h : s.Follows r) (o : Operation α) :
    (o.action.exec s).2.Follows (r.after o) ∧ ∀ x, r.answer? o = some x → (o.action.exec s).1 = x := by
  cases o with
  | create entry =>
    show ((Action.ofUpdate (create entry)).exec s).2.Follows _ ∧
      ∀ x, _ → ((Action.ofUpdate (create entry)).exec s).1 = x
    rw [exec_ofUpdate, Register.after, Register.answer?, h.holds_eq]
    cases hroot : entry.name.isRoot with
    | true => exact ⟨by simpa [create, hroot] using h, by simp [create, hroot]⟩
    | false =>
      cases hholds : s.holds entry.name with
      | true => exact ⟨by simpa [create, hroot, hholds] using h, by simp [create, hroot, hholds]⟩
      | false =>
        have hok : create entry s = .ok { s with entries := s.entries ++ [entry] } :=
          create_eq_ok_iff.2 ⟨hroot, holds_eq_false_iff.1 hholds, rfl⟩
        have hplaces := places_of_create hok
        rw [hok]
        exact ⟨by simpa using h.place hplaces (Name.same_refl entry.name), by simp⟩
  | update changes =>
    show ((Action.ofUpdate (update changes)).exec s).2.Follows _ ∧
      ∀ x, _ → ((Action.ofUpdate (update changes)).exec s).1 = x
    rw [exec_ofUpdate, Register.after, Register.answer?, Register.need, Register.holds, ← h.at_eq]
    cases hfind : s.find? changes.name with
    | none =>
      rw [update_of_find?_eq_none hfind]
      exact ⟨h, by simp⟩
    | some e =>
      obtain ⟨s', hok, hplaces⟩ := exists_update_of_find? hfind
      have hname : (written e changes.attributes).name.same changes.name = true := (find?_eq_some_iff.1 hfind).1
      have hwritten : written e changes.attributes = ⟨e.name, e.attributes.merged changes.attributes⟩ := by
        rw [written, writeAttributes_eq_merged]
      have hplace := h.place hplaces hname
      rw [hwritten] at hplace
      rw [hok]
      exact ⟨hplace, by simp⟩
  | insert entry =>
    refine ⟨h.place (s.places_insert entry) (Name.same_refl entry.name), ?_⟩
    intro x hx
    exact Option.some.inj hx
  | unbind n =>
    obtain ⟨hanswer, hfollows⟩ := h.unbind n
    refine ⟨hfollows, ?_⟩
    intro x hx
    exact hanswer.trans (Option.some.inj hx)
  | delete entry =>
    obtain ⟨hanswer, hfollows⟩ := h.unbind entry.name
    refine ⟨hfollows, ?_⟩
    intro x hx
    exact hanswer.trans (Option.some.inj hx)
  | lookup n =>
    show s.Follows r ∧ ∀ x, _ → lookup n s = x
    rw [Register.answer?, lookup, h.at_eq]
    refine ⟨h, ?_⟩
    intro x hx
    cases hat : r.at? n.key with
    | none => simpa [hat] using hx
    | some e => simpa [hat] using hx
  | get n =>
    refine ⟨h, ?_⟩
    intro x hx
    have hget : ((Operation.get n).action.exec s).1 = .ok (s.find? n) := rfl
    rw [hget, h.at_eq]
    exact Option.some.inj hx
  | find q =>
    show ((client.find q).exec s).2.Follows _ ∧ _
    rw [exec_find]
    exact ⟨h.ask q, fun x hx => by cases hx⟩
  | findOne q =>
    show ((client.findOne q).exec s).2.Follows _ ∧ _
    rw [exec_findOne]
    exact ⟨h.ask q, fun x hx => by cases hx⟩
  | search q handler start =>
    show ((client.gather q handler start).exec s).2.Follows _ ∧ _
    rw [exec_gather]
    exact ⟨h.ask q, fun x hx => by cases hx⟩
  | clear =>
    refine ⟨⟨h.at_eq, h.order, rfl⟩, ?_⟩
    intro x hx
    exact Option.some.inj hx

/-- What fails leaves the entries as they are, in any store. -/
theorem entries_of_error (o : Operation α) {s : Store} {fault : Fault} (h : (o.action.exec s).1 = .error fault) :
    (o.action.exec s).2.entries = s.entries := by
  have hupdate (f : Store → Except Fault Store) (hf : ((Action.ofUpdate f).exec s).1 = .error fault) :
      ((Action.ofUpdate f).exec s).2.entries = s.entries := by
    rw [exec_ofUpdate] at hf ⊢
    cases hfs : f s with
    | error _ => rfl
    | ok s' =>
      rw [hfs] at hf
      cases hf
  cases o with
  | create entry => exact hupdate (create entry) h
  | update changes => exact hupdate (update changes) h
  | insert entry => cases h
  | unbind n => exact hupdate (Store.unbind n) h
  | delete entry => exact hupdate (Store.unbind entry.name) h
  | lookup n => rfl
  | get n => rfl
  | find q =>
    show ((client.find q).exec s).2.entries = s.entries
    rw [exec_find]
    rfl
  | findOne q =>
    show ((client.findOne q).exec s).2.entries = s.entries
    rw [exec_findOne]
    rfl
  | search q handler start =>
    show ((client.gather q handler start).exec s).2.entries = s.entries
    rw [exec_gather]
    rfl
  | clear => rfl

/-! ## Any history -/

theorem Follows.afterAll {s : Store} {r : Register} (h : s.Follows r) (ops : List (Σ α : Type, Operation α)) :
    (s.afterAll ops).Follows (r.afterAll ops) := by
  induction ops generalizing s r with
  | nil => exact h
  | cons o ops ih => exact ih (h.step o.2).1

/-- **A directory is an ordered map from names to entries, whatever is asked of it.** -/
theorem history_follows_register {start : List Entry}
    (hstart : start.Pairwise (fun x y => x.name.same y.name = false)) (ops : List (Σ α : Type, Operation α))
    (o : Operation α) :
    let s := (ofEntries start).afterAll ops
    let r := (Register.ofEntries start).afterAll ops
    s.entries.Pairwise (fun x y => x.name.same y.name = false) ∧
      (∀ n, s.find? n = r.at? n.key) ∧
      s.keys = r.present ∧
      s.asked = r.asked ∧
      (∀ x, r.answer? o = some x → (o.action.exec s).1 = x) ∧
      ∀ fault, (o.action.exec s).1 = .error fault → (o.action.exec s).2.entries = s.entries := by
  intro s r
  have h : s.Follows r := (follows_ofEntries hstart).afterAll ops
  refine ⟨?_, h.at_eq, h.order, h.asked, (h.step o).2, fun _ => entries_of_error o⟩
  refine (List.pairwise_map.1 h.nodup).imp ?_
  intro x y hdiffer
  rw [Bool.eq_false_iff]
  exact fun hsame => hdiffer (Name.same_iff_key.1 hsame)

/-- Two people, the first with an address. -/
def pair : List Entry :=
  [⟨⟨[⟨"cn", "a"⟩]⟩, ⟨[("cn", .text "a"), ("mail", .text "a@x")]⟩⟩, ⟨⟨[⟨"cn", "b"⟩]⟩, ⟨[("cn", .text "b")]⟩⟩]

/-- The address of the second is set and that of the first removed; the first goes, and comes back in capitals. -/
def moves : List (Σ α : Type, Operation α) :=
  [⟨_, .update ⟨⟨[⟨"CN", "B"⟩]⟩, ⟨[("mail", .text "b@x")]⟩⟩⟩,
    ⟨_, .update ⟨⟨[⟨"cn", "a"⟩]⟩, ⟨[("MAIL", .null)]⟩⟩⟩,
    ⟨_, .unbind ⟨[⟨"cn", "A"⟩]⟩⟩,
    ⟨_, .findOne { base := ⟨[⟨"cn", "c"⟩]⟩ }⟩,
    ⟨_, .create ⟨⟨[⟨"CN", "A"⟩]⟩, ⟨[]⟩⟩⟩]

theorem history_follows_register_moves :
    pair.Pairwise (fun x y => x.name.same y.name = false) ∧
      ((ofEntries pair).afterAll moves).keys = [[("cn", "b")], [("cn", "a")]] ∧
      ((ofEntries pair).afterAll moves).find? ⟨[⟨"Cn", "b"⟩]⟩ =
        some ⟨⟨[⟨"cn", "b"⟩]⟩, ⟨[("cn", .text "b"), ("mail", .text "b@x")]⟩⟩ ∧
      ((ofEntries pair).afterAll moves).asked = [{ base := ⟨[⟨"cn", "c"⟩]⟩ }] ∧
      ((Operation.create ⟨⟨[⟨"cn", "a"⟩]⟩, ⟨[]⟩⟩).action.exec ((ofEntries pair).afterAll moves)).1 =
        .error (.alreadyExists ⟨[⟨"cn", "a"⟩]⟩) ∧
      ((Operation.create ⟨⟨[⟨"cn", "a"⟩]⟩, ⟨[]⟩⟩).action.exec ((ofEntries pair).afterAll moves)).2.entries =
        ((ofEntries pair).afterAll moves).entries := by
  have hstart : pair.Pairwise (fun x y => x.name.same y.name = false) := by decide
  obtain ⟨-, hfind, hkeys, hasked, hanswer, hfailed⟩ :=
    history_follows_register hstart moves (Operation.create ⟨⟨[⟨"cn", "a"⟩]⟩, ⟨[]⟩⟩)
  have hcreate := hanswer _ rfl
  exact ⟨hstart, hkeys.trans (by decide), (hfind _).trans (by decide), hasked, hcreate, hfailed _ hcreate⟩

end Store
end DirectoryAccess
