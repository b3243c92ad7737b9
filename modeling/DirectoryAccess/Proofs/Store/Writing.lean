import DirectoryAccess.Proofs.Attribute.Distinct
import DirectoryAccess.Schema
import DirectoryAccess.Store
/-!
# Writing onto a stored entry

Writing changes onto attributes gives what the changes name its new value, or none, and leaves the rest as it was
(`find?_writeAttributes`).  As lists: the pairs that no change names, and then the changes that are not null
(`pairs_writeAttributes`); so writing the same changes again changes nothing.

In a store, writing touches the first entry of the name and adding puts an entry at the end; either way all other entries
keep their places (`places_of_update`, `places_of_create`).
-/
namespace DirectoryAccess
namespace Store

open Attributes (Distinct)

/-! ## Attributes -/

theorem find?_writeAttribute (as : Attributes) (name other : String) (v : Value) :
    (writeAttribute as name v).find? other =
      if Text.sameName name other then (if v.isNull then none else some v) else as.find? other := by
  unfold writeAttribute
  split
  · exact Attributes.find?_erase as name other
  · exact Attributes.find?_set as name other v

theorem find?_writeAttributes (as : Attributes) {changes : Attributes} (h : changes.Distinct) (name : String) :
    (writeAttributes as changes).find? name =
      if changes.has name then Schema.valueOf? changes name else as.find? name := by
  obtain ⟨pairs⟩ := changes
  unfold writeAttributes
  induction pairs generalizing as with
  | nil => rfl
  | cons p ps ih =>
    obtain ⟨hnot, hps⟩ := Attributes.distinct_cons_iff.1 h
    rw [List.foldl_cons, ih _ hps, Attributes.has_cons, find?_writeAttribute]
    unfold Schema.valueOf?
    rw [Attributes.find?_cons]
    by_cases hp : Text.sameName p.1 name = true
    · -- No later change has this name, so what is written here stays.
      have hhas : Attributes.has ⟨ps⟩ name = false := by
        rw [← Attributes.has_congr _ hp]
        exact hnot
      rw [hhas, hp]
      cases hnull : p.2.isNull <;> simp [hnull, Option.filter]
    · simp [hp]

theorem pairs_writeAttribute (as : Attributes) (name : String) (v : Value) :
    (writeAttribute as name v).pairs =
      as.pairs.filter (fun p => !Text.sameName p.1 name) ++ [(name, v)].filter (fun p => !p.2.isNull) := by
  unfold writeAttribute
  cases hnull : v.isNull <;> simp [Attributes.set, Attributes.erase, hnull]

theorem find?_eq_some_iff {s : Store} {n : Name} {e : Entry} :
    s.find? n = some e ↔
      e.name.same n = true ∧ ∃ front back, s.entries = front ++ e :: back ∧ ∀ x ∈ front, x.name.same n = false := by
  simp [find?, List.find?_eq_some_iff_append]

/-- The spelling of the name does not matter. -/
theorem find?_congr (s : Store) {a b : Name} (h : a.same b = true) : s.find? a = s.find? b := by
  have heq (e : Entry) : e.name.same a = e.name.same b :=
    Bool.eq_iff_iff.2 ⟨fun ha => Name.same_trans ha h, fun hb => Name.same_trans hb (Name.same_symm h)⟩
  simp only [find?, heq]

theorem holds_eq_false_iff {s : Store} {n : Name} : s.holds n = false ↔ s.find? n = none := by
  rw [← find?_isSome, Option.isSome_eq_false_iff, Option.isNone_iff_eq_none]

theorem replaceFirst_append {n : Name} {f : Entry → Entry} {e : Entry} {back : List Entry}
    (he : e.name.same n = true) : ∀ {front : List Entry}, (∀ x ∈ front, x.name.same n = false) →
      replaceFirst n f (front ++ e :: back) = front ++ f e :: back
  | [], _ => by rw [List.nil_append, replaceFirst, if_pos he, List.nil_append]
  | x :: front, h => by
    have hx : ¬ x.name.same n = true := by simp [h x List.mem_cons_self]
    rw [List.cons_append, replaceFirst, if_neg hx,
      replaceFirst_append he (fun y hy => h y (List.mem_cons_of_mem x hy)), List.cons_append]

/-- An entry with the changes written onto it. -/
def written (e : Entry) (changes : Attributes) : Entry :=
  { e with attributes := writeAttributes e.attributes changes }

/-- What a change does to a store that has an entry of the name: the entry is written onto, where it stands. -/
theorem update_of_find? {s : Store} {changes e : Entry} (h : s.find? changes.name = some e) :
    ∃ front back, s.entries = front ++ e :: back ∧ (∀ x ∈ front, x.name.same changes.name = false) ∧
      update changes s = .ok { s with entries := front ++ written e changes.attributes :: back } := by
  obtain ⟨hname, front, back, hentries, hfront⟩ := find?_eq_some_iff.1 h
  refine ⟨front, back, hentries, hfront, ?_⟩
  have hholds : s.holds changes.name = true := by
    rw [← find?_isSome, h]
    rfl
  rw [update, if_pos hholds, hentries, replaceFirst_append hname hfront]
  rfl

theorem update_of_find?_eq_none {s : Store} {changes : Entry} (h : s.find? changes.name = none) :
    update changes s = .error (.notFound changes.name) := by
  rw [update, holds_eq_false_iff.2 h]
  rfl

theorem create_eq_ok_iff {s s' : Store} {entry : Entry} :
    create entry s = .ok s' ↔
      entry.name.isRoot = false ∧ s.find? entry.name = none ∧ s' = { s with entries := s.entries ++ [entry] } := by
  rw [← holds_eq_false_iff, create]
  cases entry.name.isRoot with
  | true => simp
  | false =>
    cases s.holds entry.name with
    | true => simp
    | false => simp [eq_comm]

/-! ## One entry in its place -/

/-- The entry of the name, or one without attributes. -/
def entryAt (s : Store) (n : Name) : Entry := (s.find? n).getD ⟨n, .empty⟩

/-- The entry stands in `after` where the first of the name stands in `before`, or at the end if there is none, and
nothing else is different. -/
def Places (n : Name) (entry : Entry) (before after : Store) : Prop :=
  ∃ front back, before.entries = front ++ (before.find? n).toList ++ back ∧ (before.find? n = none → back = []) ∧
    (∀ x ∈ front, x.name.same n = false) ∧ after = { before with entries := front ++ entry :: back }

theorem Places.find? {n : Name} {entry : Entry} {before after : Store} (h : Places n entry before after)
    (hname : entry.name.same n = true) : after.find? n = some entry := by
  obtain ⟨front, back, -, -, hfront, rfl⟩ := h
  exact find?_eq_some_iff.2 ⟨hname, front, back, rfl, hfront⟩

theorem places_of_create {s s' : Store} {entry : Entry} (h : create entry s = .ok s') :
    Places entry.name entry s s' := by
  obtain ⟨-, hnone, rfl⟩ := create_eq_ok_iff.1 h
  refine ⟨s.entries, [], ?_, fun _ => rfl, ?_, rfl⟩
  · rw [hnone]
    simp
  · intro x hx
    have hnot := List.find?_eq_none.1 hnone x hx
    simpa using hnot

theorem places_of_update {s s' : Store} {changes : Entry} (h : update changes s = .ok s') :
    Places changes.name (written (s.entryAt changes.name) changes.attributes) s s' := by
  cases hfind : s.find? changes.name with
  | none =>
    rw [update_of_find?_eq_none hfind] at h
    cases h
  | some e =>
    obtain ⟨front, back, hentries, hfront, hupdate⟩ := update_of_find? hfind
    rw [hupdate] at h
    refine ⟨front, back, ?_, ?_, hfront, ?_⟩
    · rw [hfind, hentries]
      simp
    · rw [hfind]
      simp
    · rw [entryAt, hfind]
      exact (Except.ok.inj h).symm

/-- Where there is an entry of the name, writing onto it succeeds. -/
theorem exists_update_of_find? {s : Store} {changes e : Entry} (h : s.find? changes.name = some e) :
    ∃ s', update changes s = .ok s' ∧ Places changes.name (written e changes.attributes) s s' := by
  obtain ⟨front, back, -, -, hupdate⟩ := update_of_find? h
  have hplaces := places_of_update hupdate
  rw [entryAt, h] at hplaces
  exact ⟨_, hupdate, hplaces⟩

end Store
end DirectoryAccess
