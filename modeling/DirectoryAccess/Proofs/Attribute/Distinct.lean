import DirectoryAccess.Attribute.Set
/-!
# Names that differ

Attribute sets are made by writing, erasing and keeping, and none of these brings two spellings of a name into a set
(`Distinct`).  In such a set a name has at most one value, whatever the order of the pairs (`find?_eq_some_iff`), and
writing its pairs one after another gives the set back (`ofPairs_pairs`).
-/
namespace DirectoryAccess
namespace Attributes

/-- No two names are equal up to case. -/
def Distinct (as : Attributes) : Prop := as.pairs.Pairwise (fun p q => Text.sameName p.1 q.1 = false)

instance (as : Attributes) : Decidable as.Distinct := List.instDecidablePairwise as.pairs

/-! ## Spellings of one name -/

theorem sameName_comm (a b : String) : Text.sameName a b = Text.sameName b a := by
  rw [Bool.eq_iff_iff]
  exact ⟨fun h => Text.sameName_symm h, fun h => Text.sameName_symm h⟩

theorem not_sameName_symm {a b : String} (h : Text.sameName a b = false) : Text.sameName b a = false :=
  (sameName_comm b a).trans h

theorem sameName_congr_right {a b : String} (h : Text.sameName a b = true) (name : String) :
    Text.sameName name a = Text.sameName name b := by
  rw [Bool.eq_iff_iff]
  exact ⟨fun ha => Text.sameName_trans ha h, fun hb => Text.sameName_trans hb (Text.sameName_symm h)⟩

theorem sameName_congr_left {a b : String} (h : Text.sameName a b = true) (name : String) :
    Text.sameName a name = Text.sameName b name := by
  rw [sameName_comm a, sameName_comm b, sameName_congr_right h]

theorem find?_congr (as : Attributes) {a b : String} (h : Text.sameName a b = true) : as.find? a = as.find? b := by
  simp only [find?, sameName_congr_right h]

theorem has_congr (as : Attributes) {a b : String} (h : Text.sameName a b = true) : as.has a = as.has b := by
  simp only [has, sameName_congr_right h]

theorem has_iff (as : Attributes) (name : String) :
    as.has name = true ↔ ∃ p ∈ as.pairs, Text.sameName p.1 name = true := by
  simp [has]

theorem has_eq_false_iff (as : Attributes) (name : String) :
    as.has name = false ↔ ∀ p ∈ as.pairs, Text.sameName p.1 name = false := by
  simp [has]

theorem find?_eq_none_iff (as : Attributes) (name : String) : as.find? name = none ↔ as.has name = false := by
  rw [← find?_isSome, Option.isSome_eq_false_iff, Option.isNone_iff_eq_none]

theorem find?_cons (p : String × Value) (ps : List (String × Value)) (name : String) :
    find? ⟨p :: ps⟩ name = if Text.sameName p.1 name then some p.2 else find? ⟨ps⟩ name := by
  unfold find?
  rw [List.find?_cons]
  cases Text.sameName p.1 name <;> rfl

theorem has_cons (p : String × Value) (ps : List (String × Value)) (name : String) :
    has ⟨p :: ps⟩ name = (Text.sameName p.1 name || has ⟨ps⟩ name) := rfl

/-! ## Sets stay distinct -/

theorem distinct_empty : empty.Distinct := List.Pairwise.nil

theorem distinct_cons_iff {p : String × Value} {ps : List (String × Value)} :
    Distinct ⟨p :: ps⟩ ↔ has ⟨ps⟩ p.1 = false ∧ Distinct ⟨ps⟩ := by
  rw [Distinct, List.pairwise_cons, has_eq_false_iff]
  simp only [sameName_comm p.1, Distinct]

theorem distinct_iff_names {as : Attributes} :
    as.Distinct ↔ as.names.Pairwise (fun a b => Text.sameName a b = false) := by
  rw [names, List.pairwise_map]
  rfl

/-- Names differ in whatever order they are. -/
theorem pairwise_not_sameName_perm {ns ms : List String} (h : ns.Perm ms) :
    ns.Pairwise (fun a b => Text.sameName a b = false) ↔ ms.Pairwise (fun a b => Text.sameName a b = false) :=
  h.pairwise_iff not_sameName_symm

theorem Distinct.erase {as : Attributes} (h : as.Distinct) (name : String) : (as.erase name).Distinct :=
  List.Pairwise.filter _ h

theorem Distinct.set {as : Attributes} (h : as.Distinct) (name : String) (v : Value) : (as.set name v).Distinct := by
  refine List.pairwise_append.2 ⟨h.erase name, List.pairwise_singleton _ _, ?_⟩
  intro p hp q hq
  obtain rfl : q = (name, v) := List.mem_singleton.1 hq
  have hp := (List.mem_filter.1 hp).2
  simpa using hp

theorem distinct_ofPairs (pairs : List (String × Value)) : (ofPairs pairs).Distinct := by
  have hstep : ∀ (pairs : List (String × Value)) (as : Attributes), as.Distinct →
      (pairs.foldl (fun as p => as.set p.1 p.2) as).Distinct := by
    intro pairs
    induction pairs with
    | nil => exact fun _ h => h
    | cons p ps ih => exact fun as h => ih _ (h.set p.1 p.2)
  exact hstep pairs empty distinct_empty

/-! ## Reading distinct sets -/

theorem Distinct.find?_eq_some_iff {as : Attributes} (h : as.Distinct) {name : String} {v : Value} :
    as.find? name = some v ↔ ∃ k, (k, v) ∈ as.pairs ∧ Text.sameName k name = true := by
  obtain ⟨pairs⟩ := as
  induction pairs with
  | nil => simp [Attributes.find?]
  | cons p ps ih =>
    obtain ⟨hnot, hps⟩ := distinct_cons_iff.1 h
    rw [find?_cons]
    split
    · rename_i hp
      constructor
      · intro hv
        exact ⟨p.1, by rw [← Option.some.inj hv]; exact List.mem_cons_self, hp⟩
      · rintro ⟨k, hk, hsame⟩
        rcases List.mem_cons.1 hk with rfl | hk
        · rfl
        · have hhas : has ⟨ps⟩ p.1 = true :=
            (has_iff _ _).2 ⟨_, hk, Text.sameName_trans hsame (Text.sameName_symm hp)⟩
          rw [hhas] at hnot
          cases hnot
    · rename_i hp
      rw [ih hps]
      constructor
      · rintro ⟨k, hk, hsame⟩
        exact ⟨k, List.mem_cons_of_mem _ hk, hsame⟩
      · rintro ⟨k, hk, hsame⟩
        rcases List.mem_cons.1 hk with rfl | hk
        · exact absurd hsame hp
        · exact ⟨k, hk, hsame⟩

/-- Of a distinct set, the pairs that pass a test on their values give the values that do. -/
theorem Distinct.find?_filter {as : Attributes} (h : as.Distinct) (test : Value → Bool) (name : String) :
    find? ⟨as.pairs.filter (fun p => test p.2)⟩ name = (as.find? name).filter test := by
  have hfilter : Distinct ⟨as.pairs.filter (fun p => test p.2)⟩ := List.Pairwise.filter _ h
  refine Option.ext (fun v => ?_)
  rw [Option.filter_eq_some_iff, hfilter.find?_eq_some_iff, h.find?_eq_some_iff]
  constructor
  · rintro ⟨k, hk, hsame⟩
    obtain ⟨hk, htest⟩ := List.mem_filter.1 hk
    exact ⟨⟨k, hk, hsame⟩, htest⟩
  · rintro ⟨⟨k, hk, hsame⟩, htest⟩
    exact ⟨k, List.mem_filter.2 ⟨hk, htest⟩, hsame⟩

/-! ## Writing onto a set -/

theorem pairs_erase_of_not_has {as : Attributes} {name : String} (h : as.has name = false) :
    (as.erase name).pairs = as.pairs := by
  rw [has_eq_false_iff] at h
  refine List.filter_eq_self.2 (fun p hp => ?_)
  rw [h p hp]
  rfl

theorem pairs_set_of_not_has {as : Attributes} {name : String} (h : as.has name = false) (v : Value) :
    (as.set name v).pairs = as.pairs ++ [(name, v)] := by
  rw [set, pairs_erase_of_not_has h]

theorem has_set (as : Attributes) (name other : String) (v : Value) :
    (as.set name v).has other = (Text.sameName name other || as.has other) := by
  rw [← find?_isSome, ← find?_isSome, find?_set]
  cases Text.sameName name other <;> rfl

/-- Pairs with different names give themselves when they are written one after another. -/
theorem ofPairs_pairs {as : Attributes} (h : as.Distinct) : ofPairs as.pairs = as := by
  have hstep : ∀ (pairs : List (String × Value)) (front : Attributes), Distinct ⟨front.pairs ++ pairs⟩ →
      (pairs.foldl (fun as p => as.set p.1 p.2) front).pairs = front.pairs ++ pairs := by
    intro pairs
    induction pairs with
    | nil => simp
    | cons p ps ih =>
      intro front h
      have hnot : front.has p.1 = false :=
        (has_eq_false_iff _ _).2 (fun q hq => (List.pairwise_append.1 h).2.2 q hq p List.mem_cons_self)
      have hset : (front.set p.1 p.2).pairs = front.pairs ++ [p] := pairs_set_of_not_has hnot p.2
      have happend : front.pairs ++ p :: ps = (front.set p.1 p.2).pairs ++ ps := by
        rw [hset, List.append_assoc, List.singleton_append]
      rw [happend] at h
      rw [List.foldl_cons, ih _ h, happend]
  exact congrArg Attributes.mk (hstep as.pairs empty h)

/-! ## Keeping some names -/

/-- What is kept is as it was, and nothing else is left. -/
theorem find?_keep (as : Attributes) (names : List String) (attr : String) :
    (as.keep names).find? attr =
      if names.isEmpty || names.contains "*" || names.any (fun n => Text.sameName n attr) then as.find? attr
      else none := by
  unfold keep
  by_cases hall : (names.isEmpty || names.contains "*") = true
  · rw [if_pos hall, hall, Bool.true_or, if_pos rfl]
  · rw [if_neg hall, Bool.eq_false_iff.2 hall, Bool.false_or]
    -- Among pairs of that name the test is the same for all.
    have htest : (fun p : String × Value =>
          names.any (fun n => Text.sameName n p.1) && Text.sameName p.1 attr) =
        fun p => names.any (fun n => Text.sameName n attr) && Text.sameName p.1 attr := by
      funext p
      by_cases hp : Text.sameName p.1 attr = true
      · simp only [hp, Bool.and_true, sameName_congr_right hp]
      · rw [Bool.eq_false_iff.2 hp, Bool.and_false, Bool.and_false]
    unfold find?
    rw [List.find?_filter]
    simp only [Bool.decide_and, Bool.decide_eq_true, htest]
    cases names.any (fun n => Text.sameName n attr) with
    | true => simp
    | false => simp

end Attributes
end DirectoryAccess
