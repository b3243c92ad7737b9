import DirectoryAccess.Attribute.Table
import DirectoryAccess.Proofs.Attribute.Distinct
import Mathlib.Data.Set.Card
/-!
# Attribute sets against a map of folded names

A `Folded` map has at most one spelling and one value under each name in small letters, and each edit of a set changes it
in one plain way (`Folded.after`).  Sets that are made by edits follow it: their rows are what it has, so what is found
under a name, and how many names there are, is read off the map (`edits_follow_folded`).

`Listed` lets a table list its rows in any order after every edit.  That no answer depends on the order is then no more
than that all such tables follow one map.  The operations on sets leave their rows in one of these orders
(`listed_edited`): on rows whose names differ, finding a name in two steps and in one is the same.
-/
namespace DirectoryAccess
namespace Attributes

/-! ## What differs by more than case -/

theorem distinct_iff_nodup {as : Attributes} : as.Distinct ↔ (as.names.map Text.fold).Nodup := by
  rw [distinct_iff_names, List.Nodup, List.pairwise_map]
  have hfold (a b : String) : Text.sameName a b = false ↔ Text.fold a ≠ Text.fold b := by
    rw [← Bool.not_eq_true, Text.sameName_iff]
  simp only [hfold]

theorem Distinct.perm {as bs : Attributes} (h : as.Distinct) (hperm : as.pairs.Perm bs.pairs) : bs.Distinct := by
  rw [distinct_iff_names] at h ⊢
  exact (pairwise_not_sameName_perm (hperm.map Prod.fst)).1 h

theorem Distinct.eq_of_mem_names {as : Attributes} (h : as.Distinct) {a b : String} (ha : a ∈ as.names)
    (hb : b ∈ as.names) (hsame : Text.sameName a b = true) : a = b :=
  List.inj_on_of_nodup_map (distinct_iff_nodup.1 h) ha hb (Text.sameName_iff.1 hsame)

theorem Distinct.eq_of_mem_pairs {as : Attributes} (h : as.Distinct) {p q : String × Value} (hp : p ∈ as.pairs)
    (hq : q ∈ as.pairs) (hsame : Text.sameName p.1 q.1 = true) : p = q := by
  rw [distinct_iff_nodup, names, List.map_map] at h
  exact List.inj_on_of_nodup_map h hp hq (Text.sameName_iff.1 hsame)

/-! ## Two steps find what one finds -/

/-- Where one member at most passes the test, the order in which they are looked at does not matter. -/
theorem find?_eq_some_iff_of_unique {α : Type} {test : α → Bool} {l : List α}
    (h : ∀ a ∈ l, ∀ b ∈ l, test a = true → test b = true → a = b) {a : α} :
    l.find? test = some a ↔ a ∈ l ∧ test a = true := by
  constructor
  · intro hfind
    exact ⟨List.mem_of_find?_eq_some hfind, List.find?_some hfind⟩
  · rintro ⟨hmem, htest⟩
    obtain ⟨b, hb⟩ := Option.isSome_iff_exists.1 (List.find?_isSome.2 ⟨a, hmem, htest⟩)
    rw [hb, h b (List.mem_of_find?_eq_some hb) a hmem (List.find?_some hb) htest]

theorem mem_names_iff {as : Attributes} {key : String} : key ∈ as.names ↔ ∃ v, (key, v) ∈ as.pairs := by
  simp [names]

theorem Distinct.rowAt?_eq_some_iff {as : Attributes} (h : as.Distinct) {key : String} {v : Value} :
    as.rowAt? key = some v ↔ (key, v) ∈ as.pairs := by
  have hunique : ∀ p ∈ as.pairs, ∀ q ∈ as.pairs, (p.1 == key) = true → (q.1 == key) = true → p = q := by
    intro p hp q hq hpkey hqkey
    have hsame : Text.sameName p.1 q.1 = true := by
      rw [eq_of_beq hpkey, eq_of_beq hqkey]
      exact Text.sameName_refl key
    exact h.eq_of_mem_pairs hp hq hsame
  unfold rowAt?
  rw [Option.map_eq_some_iff]
  simp only [find?_eq_some_iff_of_unique hunique]
  constructor
  · rintro ⟨⟨k, w⟩, ⟨hmem, hkey⟩, rfl⟩
    obtain rfl : k = key := eq_of_beq hkey
    exact hmem
  · intro hmem
    exact ⟨(key, v), ⟨hmem, beq_self_eq_true key⟩, rfl⟩

theorem Distinct.spelling?_eq_some_iff {as : Attributes} (h : as.Distinct) {name key : String} :
    as.spelling? name = some key ↔ key ∈ as.names ∧ Text.sameName key name = true := by
  unfold spelling?
  split
  · rename_i hexact
    have hname : name ∈ as.names := List.contains_iff_mem.1 hexact
    constructor
    · intro hkey
      obtain rfl : name = key := Option.some.inj hkey
      exact ⟨hname, Text.sameName_refl name⟩
    · rintro ⟨hkey, hsame⟩
      exact congrArg some (h.eq_of_mem_names hname hkey (Text.sameName_symm hsame))
  · refine find?_eq_some_iff_of_unique (fun k hk l hl hkname hlname => ?_)
    exact h.eq_of_mem_names hk hl (Text.sameName_trans hkname (Text.sameName_symm hlname))

theorem Distinct.lookup?_eq {as : Attributes} (h : as.Distinct) (name : String) : as.lookup? name = as.find? name := by
  refine Option.ext (fun v => ?_)
  rw [lookup?, Option.bind_eq_some_iff, h.find?_eq_some_iff]
  constructor
  · rintro ⟨key, hkey, hrow⟩
    exact ⟨key, h.rowAt?_eq_some_iff.1 hrow, (h.spelling?_eq_some_iff.1 hkey).2⟩
  · rintro ⟨key, hmem, hsame⟩
    exact ⟨key, h.spelling?_eq_some_iff.2 ⟨mem_names_iff.2 ⟨v, hmem⟩, hsame⟩, h.rowAt?_eq_some_iff.2 hmem⟩

theorem Distinct.isSome_spelling? {as : Attributes} (h : as.Distinct) (name : String) :
    (as.spelling? name).isSome = as.has name := by
  rw [Bool.eq_iff_iff, Option.isSome_iff_exists, has_iff]
  constructor
  · rintro ⟨key, hkey⟩
    obtain ⟨hmem, hsame⟩ := h.spelling?_eq_some_iff.1 hkey
    obtain ⟨v, hv⟩ := mem_names_iff.1 hmem
    exact ⟨(key, v), hv, hsame⟩
  · rintro ⟨p, hp, hsame⟩
    exact ⟨p.1, h.spelling?_eq_some_iff.2 ⟨mem_names_iff.2 ⟨p.2, hp⟩, hsame⟩⟩

/-- The key that was found is the only one of that name. -/
theorem Distinct.withoutRow_of_spelling? {as : Attributes} (h : as.Distinct) {name key : String}
    (hkey : as.spelling? name = some key) : as.withoutRow key = as.erase name := by
  obtain ⟨hmem, hsame⟩ := h.spelling?_eq_some_iff.1 hkey
  refine congrArg Attributes.mk (List.filter_congr (fun p hp => ?_))
  rw [Bool.eq_iff_iff, bne_iff_ne, Bool.not_eq_true', ← Bool.not_eq_true,
    sameName_congr_right (Text.sameName_symm hsame)]
  refine not_congr ⟨fun heq => ?_, fun hname => ?_⟩
  · rw [heq]
    exact Text.sameName_refl key
  · exact h.eq_of_mem_names (mem_names_iff.2 ⟨p.2, hp⟩) hmem hname

theorem Distinct.erase_of_spelling?_eq_none {as : Attributes} (h : as.Distinct) {name : String}
    (hkey : as.spelling? name = none) : as.erase name = as := by
  have hnot : as.has name = false := by
    rw [← h.isSome_spelling?, hkey]
    rfl
  exact congrArg Attributes.mk (pairs_erase_of_not_has hnot)

theorem Distinct.take_eq {as : Attributes} (h : as.Distinct) (name : String) :
    as.take name = (as.find? name, as.erase name) := by
  have hfound := h.lookup?_eq name
  unfold take
  unfold lookup? at hfound
  cases hkey : as.spelling? name with
  | none =>
    rw [hkey] at hfound
    exact Prod.ext hfound (h.erase_of_spelling?_eq_none hkey).symm
  | some key =>
    rw [hkey] at hfound
    exact Prod.ext hfound (h.withoutRow_of_spelling? hkey)

theorem withRow_erase (as : Attributes) (name : String) (v : Value) : (as.erase name).withRow name v = as.set name v := by
  have hnone : ((as.erase name).withoutRow name).pairs = (as.erase name).pairs := by
    refine List.filter_eq_self.2 (fun p hp => bne_iff_ne.2 (fun heq => ?_))
    have hnot := (List.mem_filter.1 hp).2
    rw [heq, Text.sameName_refl] at hnot
    cases hnot
  rw [withRow, hnone, set]

theorem Distinct.write_eq {as : Attributes} (h : as.Distinct) (name : String) (v : Value) :
    as.write name v = as.set name v := by
  rw [← withRow_erase]
  unfold write
  cases hkey : as.spelling? name with
  | none => exact congrArg (·.withRow name v) (h.erase_of_spelling?_eq_none hkey).symm
  | some key => exact congrArg (·.withRow name v) (h.withoutRow_of_spelling? hkey)

/-! ## Edits -/

/-- What changes a set. -/
inductive Edit where
  | set (name : String) (v : Value)
  | remove (name : String)
  | keep (names : List String)
  | collect (pairs : List (String × Value))

def edited (as : Attributes) : Edit → Attributes
  | .set name v => as.set name v
  | .remove name => as.erase name
  | .keep names => as.keep names
  | .collect pairs => ofPairs pairs

def editedAll (as : Attributes) (edits : List Edit) : Attributes := edits.foldl edited as

/-- Writing the pairs one after another. -/
def writes (pairs : List (String × Value)) : List Edit := pairs.map (fun p => .set p.1 p.2)

/-- A table that began empty may list these rows after the edits: each goes by keys, and after each the rows may be listed
in any order.  Collecting pairs begins with a new table. -/
inductive Listed : List Edit → Attributes → Prop where
  | empty : Listed [] .empty
  | set {edits : List Edit} {as bs : Attributes} {name : String} {v : Value} :
      Listed edits as → (as.write name v).pairs.Perm bs.pairs → Listed (edits ++ [.set name v]) bs
  | remove {edits : List Edit} {as bs : Attributes} {name : String} :
      Listed edits as → (as.take name).2.pairs.Perm bs.pairs → Listed (edits ++ [.remove name]) bs
  | keep {edits : List Edit} {as bs : Attributes} {names : List String} :
      Listed edits as → (as.keep names).pairs.Perm bs.pairs → Listed (edits ++ [.keep names]) bs
  | collect {edits : List Edit} {as : Attributes} {pairs : List (String × Value)} :
      Listed (writes pairs) as → Listed (edits ++ [.collect pairs]) as

/-! ## The map of folded names -/

/-- What stands under each name in small letters: how the name is spelled, and the value. -/
def Folded : Type := String → Option (String × Value)

namespace Folded

def empty : Folded := fun _ => none

def after (r : Folded) : Edit → Folded
  | .set name v => fun k => if k = Text.fold name then some (name, v) else r k
  | .remove name => fun k => if k = Text.fold name then none else r k
  | .keep names => fun k => if names = [] ∨ "*" ∈ names ∨ k ∈ names.map Text.fold then r k else none
  | .collect pairs => fun k => (pairs.filter (fun p => Text.fold p.1 = k)).getLast?

def afterAll (r : Folded) (edits : List Edit) : Folded := edits.foldl after r

def value? (r : Folded) (name : String) : Option Value := (r (Text.fold name)).map Prod.snd

def spelling? (r : Folded) (name : String) : Option String := (r (Text.fold name)).map Prod.fst

/-- The names under which something stands. -/
def keys (r : Folded) : Set String := {k | (r k).isSome = true}

theorem afterAll_writes (pairs : List (String × Value)) : ∀ (r : Folded) (k : String),
    r.afterAll (writes pairs) k = (((pairs.filter (fun p => Text.fold p.1 = k)).getLast?).or (r k)) := by
  induction pairs with
  | nil => exact fun _ _ => rfl
  | cons p ps ih =>
    intro r k
    have hcons : r.afterAll (writes (p :: ps)) = (r.after (.set p.1 p.2)).afterAll (writes ps) := rfl
    have hset : r.after (.set p.1 p.2) k = if k = Text.fold p.1 then some p else r k := rfl
    rw [hcons, ih, hset, List.filter_cons]
    by_cases hp : k = Text.fold p.1
    · rw [if_pos hp, if_pos (by simp [hp]), List.getLast?_cons]
      cases (ps.filter (fun q => Text.fold q.1 = k)).getLast? <;> rfl
    · rw [if_neg hp, if_neg (by simpa using Ne.symm hp)]

end Folded

/-- The rows are what the map has. -/
structure Follows (as : Attributes) (r : Folded) : Prop where
  distinct : as.Distinct
  mem_iff : ∀ p k, r k = some p ↔ p ∈ as.pairs ∧ Text.fold p.1 = k

theorem follows_empty : Follows empty Folded.empty where
  distinct := distinct_empty
  mem_iff p k := by simp [Folded.empty, empty]

theorem Follows.perm {as bs : Attributes} {r : Folded} (h : Follows as r) (hperm : as.pairs.Perm bs.pairs) :
    Follows bs r where
  distinct := h.distinct.perm hperm
  mem_iff p k := by rw [h.mem_iff, hperm.mem_iff]

/-- Dropping all rows of some names drops the names. -/
theorem Follows.restrict {as bs : Attributes} {r : Folded} (h : Follows as r) (hbs : bs.Distinct)
    {stays : String → Prop} [DecidablePred stays]
    (hmem : ∀ p, p ∈ bs.pairs ↔ p ∈ as.pairs ∧ stays (Text.fold p.1)) :
    Follows bs (fun k => if stays k then r k else none) where
  distinct := hbs
  mem_iff p k := by
    rw [hmem]
    split
    · rename_i hk
      rw [h.mem_iff]
      constructor
      · rintro ⟨hp, rfl⟩
        exact ⟨⟨hp, hk⟩, rfl⟩
      · rintro ⟨⟨hp, -⟩, rfl⟩
        exact ⟨hp, rfl⟩
    · rename_i hk
      constructor
      · intro hnone
        cases hnone
      · rintro ⟨⟨-, hstays⟩, rfl⟩
        exact absurd hstays hk

theorem mem_erase_iff (as : Attributes) (name : String) (p : String × Value) :
    p ∈ (as.erase name).pairs ↔ p ∈ as.pairs ∧ Text.fold p.1 ≠ Text.fold name := by
  simp [erase, Text.sameName]

theorem Follows.remove {as : Attributes} {r : Folded} (h : Follows as r) (name : String) :
    Follows (as.erase name) (r.after (.remove name)) := by
  have hafter : r.after (.remove name) = fun k => if k ≠ Text.fold name then r k else none :=
    funext (fun k => (ite_not (k = Text.fold name) (r k) none).symm)
  rw [hafter]
  exact h.restrict (h.distinct.erase name) (mem_erase_iff as name)

/-- To write is to remove and then to add a row. -/
theorem Follows.set {as : Attributes} {r : Folded} (h : Follows as r) (name : String) (v : Value) :
    Follows (as.set name v) (r.after (.set name v)) where
  distinct := h.distinct.set name v
  mem_iff p k := by
    have hafter : r.after (.set name v) k = if k = Text.fold name then some (name, v) else r k := rfl
    have hmem : p ∈ (as.set name v).pairs ↔ p ∈ (as.erase name).pairs ∨ p = (name, v) := by simp [Attributes.set]
    rw [hafter, hmem, mem_erase_iff]
    split
    · rename_i hk
      subst hk
      constructor
      · intro hp
        obtain rfl : (name, v) = p := Option.some.inj hp
        exact ⟨.inr rfl, rfl⟩
      · rintro ⟨⟨-, hne⟩ | rfl, hk⟩
        · exact absurd hk hne
        · rfl
    · rename_i hk
      rw [h.mem_iff]
      constructor
      · rintro ⟨hp, rfl⟩
        exact ⟨.inl ⟨hp, hk⟩, rfl⟩
      · rintro ⟨⟨hp, -⟩ | rfl, rfl⟩
        · exact ⟨hp, rfl⟩
        · exact absurd rfl hk

theorem Distinct.keep {as : Attributes} (h : as.Distinct) (names : List String) : (as.keep names).Distinct := by
  unfold Attributes.keep
  split
  · exact h
  · exact List.Pairwise.filter _ h

theorem mem_keep_iff (as : Attributes) (names : List String) (p : String × Value) : p ∈ (as.keep names).pairs ↔
    p ∈ as.pairs ∧ (names = [] ∨ "*" ∈ names ∨ Text.fold p.1 ∈ names.map Text.fold) := by
  unfold Attributes.keep
  split
  · rename_i hall
    have hall : names = [] ∨ "*" ∈ names := by simpa [List.isEmpty_iff] using hall
    exact ⟨fun hp => ⟨hp, by tauto⟩, fun hp => hp.1⟩
  · rename_i hall
    have hall : names ≠ [] ∧ "*" ∉ names := by simpa [List.isEmpty_iff] using hall
    simp [List.mem_filter, Text.sameName, hall.1, hall.2]

theorem Follows.keep {as : Attributes} {r : Folded} (h : Follows as r) (names : List String) :
    Follows (as.keep names) (r.after (.keep names)) :=
  h.restrict (h.distinct.keep names) (mem_keep_iff as names)

/-- **Whatever order the rows are listed in after each edit, they are those of the map.** -/
theorem Listed.follows {edits : List Edit} {as : Attributes} (h : Listed edits as) :
    Follows as (Folded.empty.afterAll edits) := by
  have hafter (edits : List Edit) (e : Edit) :
      Folded.empty.afterAll (edits ++ [e]) = (Folded.empty.afterAll edits).after e := by
    rw [Folded.afterAll, List.foldl_append]
    rfl
  induction h with
  | empty => exact follows_empty
  | set _ hperm ih =>
    rw [ih.distinct.write_eq] at hperm
    rw [hafter]
    exact (ih.set _ _).perm hperm
  | remove _ hperm ih =>
    rw [ih.distinct.take_eq] at hperm
    rw [hafter]
    exact (ih.remove _).perm hperm
  | keep _ hperm ih =>
    rw [hafter]
    exact (ih.keep _).perm hperm
  | collect _ ih =>
    -- What stood in the old table plays no part: the writes start from nothing.
    rename_i edits as pairs _
    have hcollect : Folded.empty.afterAll (writes pairs) = (Folded.empty.afterAll edits).after (.collect pairs) :=
      funext (fun k => (Folded.afterAll_writes pairs Folded.empty k).trans (Option.or_none))
    rw [hafter, ← hcollect]
    exact ih

/-! ## The order of the operations on sets -/

theorem Listed.concat_set {edits : List Edit} {as : Attributes} (h : Listed edits as) (name : String) (v : Value) :
    Listed (edits ++ [.set name v]) (as.set name v) := by
  refine .set h ?_
  rw [h.follows.distinct.write_eq]

theorem listed_writes (pairs : List (String × Value)) : Listed (writes pairs) (ofPairs pairs) := by
  induction pairs using List.reverseRecOn with
  | nil => exact .empty
  | append_singleton ps p ih =>
    have hwrites : writes (ps ++ [p]) = writes ps ++ [.set p.1 p.2] := List.map_append
    have hpairs : ofPairs (ps ++ [p]) = (ofPairs ps).set p.1 p.2 := List.foldl_append
    rw [hwrites, hpairs]
    exact ih.concat_set p.1 p.2

/-- The operations on sets list the rows in an order in which a table may list them. -/
theorem listed_edited (edits : List Edit) : Listed edits (editedAll .empty edits) := by
  induction edits using List.reverseRecOn with
  | nil => exact .empty
  | append_singleton edits e ih =>
    have hedited : editedAll .empty (edits ++ [e]) = (editedAll .empty edits).edited e := List.foldl_append
    rw [hedited]
    cases e with
    | set name v => exact ih.concat_set name v
    | remove name =>
      refine .remove ih ?_
      rw [ih.follows.distinct.take_eq]
      rfl
    | keep names => exact .keep ih (List.Perm.refl _)
    | collect pairs => exact .collect (listed_writes pairs)

/-! ## Answers -/

section

variable {as : Attributes} {r : Folded} (h : Follows as r)
include h

theorem Follows.find?_eq (name : String) : as.find? name = r.value? name := by
  refine Option.ext (fun v => ?_)
  rw [h.distinct.find?_eq_some_iff, Folded.value?, Option.map_eq_some_iff]
  simp only [h.mem_iff, Text.sameName_iff]
  constructor
  · rintro ⟨key, hmem, hsame⟩
    exact ⟨(key, v), ⟨hmem, hsame⟩, rfl⟩
  · rintro ⟨⟨key, w⟩, ⟨hmem, hsame⟩, rfl⟩
    exact ⟨key, hmem, hsame⟩

theorem Follows.spelling?_eq (name : String) : as.spelling? name = r.spelling? name := by
  refine Option.ext (fun key => ?_)
  rw [h.distinct.spelling?_eq_some_iff, mem_names_iff, Folded.spelling?, Option.map_eq_some_iff]
  simp only [h.mem_iff, Text.sameName_iff]
  constructor
  · rintro ⟨⟨v, hmem⟩, hsame⟩
    exact ⟨(key, v), ⟨hmem, hsame⟩, rfl⟩
  · rintro ⟨⟨k, v⟩, ⟨hmem, hsame⟩, rfl⟩
    exact ⟨⟨v, hmem⟩, hsame⟩

theorem Follows.size_eq : as.size = r.keys.ncard := by
  have hkeys : r.keys = ((as.names.map Text.fold).toFinset : Set String) := by
    ext k
    simp only [Folded.keys, Set.mem_ofPred_eq, Option.isSome_iff_exists, h.mem_iff, List.coe_toFinset, List.mem_map,
      names]
    constructor
    · rintro ⟨p, hp, hk⟩
      exact ⟨p.1, ⟨p, hp, rfl⟩, hk⟩
    · rintro ⟨-, ⟨p, hp, rfl⟩, hk⟩
      exact ⟨p, hp, hk⟩
  rw [hkeys, Set.ncard_coe_finset, List.toFinset_card_of_nodup (distinct_iff_nodup.1 h.distinct), List.length_map,
    names, List.length_map, size]

theorem Follows.perm_pairs {bs : Attributes} (hbs : Follows bs r) : as.pairs.Perm bs.pairs := by
  have hnodup {cs : Attributes} (hcs : cs.Distinct) : cs.pairs.Nodup := ((distinct_iff_nodup.1 hcs).of_map _).of_map _
  have hmem {cs : Attributes} (hcs : Follows cs r) (p : String × Value) : p ∈ cs.pairs ↔ r (Text.fold p.1) = some p := by
    rw [hcs.mem_iff, and_iff_left rfl]
  rw [List.perm_ext_iff_of_nodup (hnodup h.distinct) (hnodup hbs.distinct)]
  exact fun p => (hmem h p).trans (hmem hbs p).symm

end

/-- **Edits of a set are edits of a map of folded names, in whatever order its rows are listed.**

After any edits the operations on sets leave one of the tables that may come about.  In each of these no two names are
equal up to case; what stands under a name and how it is spelled, whether in two steps or in one, what taking it gives,
and how many names there are, all are those of the map; and all these tables have the same rows. -/
theorem edits_follow_folded :
    (∀ edits, Listed edits (editedAll .empty edits)) ∧
    ∀ edits as, Listed edits as →
      let r := Folded.empty.afterAll edits
      as.Distinct ∧
      (∀ name, as.lookup? name = r.value? name ∧ as.find? name = r.value? name) ∧
      (∀ name, as.spelling? name = r.spelling? name ∧ as.has name = (r.spelling? name).isSome) ∧
      (∀ name, as.take name = (r.value? name, as.erase name)) ∧
      as.size = r.keys.ncard ∧
      ∀ bs, Listed edits bs → as.pairs.Perm bs.pairs := by
  refine ⟨listed_edited, fun edits as h => ?_⟩
  have hfollows := h.follows
  have hdistinct := hfollows.distinct
  refine ⟨hdistinct, fun name => ⟨?_, hfollows.find?_eq name⟩, fun name => ⟨hfollows.spelling?_eq name, ?_⟩,
    fun name => ?_, hfollows.size_eq, fun bs hbs => hfollows.perm_pairs hbs.follows⟩
  · rw [hdistinct.lookup?_eq, hfollows.find?_eq]
  · rw [← hdistinct.isSome_spelling?, hfollows.spelling?_eq]
  · rw [hdistinct.take_eq, hfollows.find?_eq]

/-- A name in two spellings among the pairs, rows listed the other way round, and one attribute kept. -/
theorem edits_follow_folded_shuffled :
    let edits : List Edit :=
      [.collect [("CN", .text "a"), ("sn", .null), ("cn", .text "b")], .keep ["SN", "Cn"], .set "SN" (.integer 7)]
    let as : Attributes := ⟨[("SN", .integer 7), ("cn", .text "b")]⟩
    Listed edits as ∧ as.lookup? "CN" = some (.text "b") ∧ as.spelling? "sN" = some "SN" ∧
      as.take "sn" = (some (.integer 7), ⟨[("cn", .text "b")]⟩) ∧ (Folded.empty.afterAll edits).keys.ncard = 2 ∧
      as.pairs.Perm (editedAll .empty edits).pairs := by
  intro edits as
  have hfirst : Listed [.set "CN" (.text "a")] ⟨[("CN", .text "a")]⟩ := .set .empty (by decide +kernel)
  have hsecond : Listed [.set "CN" (.text "a"), .set "sn" .null] ⟨[("sn", .null), ("CN", .text "a")]⟩ :=
    .set hfirst (by decide +kernel)
  have hwrites : Listed (writes [("CN", .text "a"), ("sn", .null), ("cn", .text "b")])
      ⟨[("cn", .text "b"), ("sn", .null)]⟩ := .set hsecond (by decide +kernel)
  have hkept : Listed [.collect [("CN", .text "a"), ("sn", .null), ("cn", .text "b")], .keep ["SN", "Cn"]]
      ⟨[("sn", .null), ("cn", .text "b")]⟩ := .keep (@Listed.collect [] _ _ hwrites) (by decide +kernel)
  have h : Listed edits as := .set hkept (by decide +kernel)
  obtain ⟨hedited, htables⟩ := edits_follow_folded
  obtain ⟨-, hvalue, hspelling, htake, hsize, hperm⟩ := htables edits as h
  refine ⟨h, ?_, ?_, ?_, hsize.symm, hperm _ (hedited edits)⟩
  · rw [(hvalue "CN").1]
    decide +kernel
  · rw [(hspelling "sN").1]
    decide +kernel
  · rw [htake "sn"]
    decide +kernel

end Attributes
end DirectoryAccess
