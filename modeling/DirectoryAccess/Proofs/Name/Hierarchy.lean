import DirectoryAccess.Name
import Mathlib.Data.List.Basic
/-!
# The order of names

A name ends with another when its last parts are those of the other up to case.  Keys forget case, and between keys this
is the order of lists by suffix (`endsWith_iff_key`).  So names under names are ordered as suffixes are, and all that is
asked about the tree of names may be asked of any spelling (`hierarchy_laws`).

Where a name ends with another it is cut in two (`endsWith_iff_exists`).  What the walk upwards (`up?`) reaches and what
is put together again are read off this cut.
-/
namespace DirectoryAccess
namespace Name

/-- The name so many levels up; there is none above the root. -/
def up? : Nat → Name → Option Name
  | 0, a => some a
  | levels + 1, a => a.parent?.bind (up? levels)

/-- Neither is there, or both are and they are the same name. -/
def SameIfAny (x y : Option Name) : Prop := Option.Rel (fun a b => a.same b = true) x y

/-! ## Names by their keys -/

theorem length_key (a : Name) : a.key.length = a.size := List.length_map _

theorem key_append (a b : Name) : (a.append b).key = a.key ++ b.key := List.map_append

theorem size_eq_of_same {a b : Name} (h : a.same b = true) : a.size = b.size := by
  rw [← length_key, ← length_key, same_iff_key.1 h]

theorem isRoot_eq_false_iff {a : Name} : a.isRoot = false ↔ 0 < a.size := by
  rw [isRoot, List.isEmpty_eq_false_iff, size, List.length_pos_iff]

theorem endsWith_iff_key {a b : Name} : a.endsWith b = true ↔ b.key <:+ a.key := by
  have hdrop : (a.rdns.drop (a.size - b.size)).map Rdn.key = a.key.drop (a.key.length - b.key.length) := by
    rw [List.map_drop, length_key, length_key]
    rfl
  rw [endsWith, Rdn.sameAll_iff_key, hdrop, List.suffix_iff_eq_drop]
  exact eq_comm

theorem below_iff {a b : Name} : a.below b = true ↔ b.size < a.size ∧ a.endsWith b = true := by
  rw [below, Bool.and_eq_true, decide_eq_true_eq]

theorem sameIfAny_iff_key {x y : Option Name} : SameIfAny x y ↔ x.map key = y.map key := by
  unfold SameIfAny
  constructor
  · rintro (h | _)
    · exact congrArg some (same_iff_key.1 h)
    · rfl
  · intro h
    cases x with
    | none =>
      cases y with
      | none => exact .none
      | some b => cases h
    | some a =>
      cases y with
      | none => cases h
      | some b => exact .some (same_iff_key.2 (Option.some.inj h))

/-! ## Cutting a name in two -/

/-- A name that ends with another is a name put under one that is the same as the other. -/
theorem endsWith_iff_exists {a b : Name} :
    a.endsWith b = true ↔ ∃ front back : Name, a = front.append back ∧ b.same back = true := by
  constructor
  · intro h
    refine ⟨⟨a.rdns.take (a.size - b.size)⟩, ⟨a.rdns.drop (a.size - b.size)⟩, ?_, ?_⟩
    · exact congrArg Name.mk (List.take_append_drop _ _).symm
    · exact same_symm h
  · rintro ⟨front, back, rfl, hsame⟩
    rw [endsWith_iff_key, key_append, same_iff_key.1 hsame]
    exact List.suffix_append _ _

/-- It is below the other when something was put under. -/
theorem below_iff_exists {a b : Name} :
    a.below b = true ↔ ∃ front back : Name, front.isRoot = false ∧ a = front.append back ∧ b.same back = true := by
  have hsize {front back : Name} (hsame : b.same back = true) :
      b.size < (front.append back).size ↔ front.isRoot = false := by
    rw [size_append, size_eq_of_same hsame, Nat.lt_add_left_iff_pos, isRoot_eq_false_iff]
  rw [below_iff, endsWith_iff_exists]
  constructor
  · rintro ⟨hlt, front, back, rfl, hsame⟩
    exact ⟨front, back, (hsize hsame).1 hlt, rfl, hsame⟩
  · rintro ⟨front, back, hroot, rfl, hsame⟩
    exact ⟨(hsize hsame).2 hroot, front, back, rfl, hsame⟩

theorem endsWith_of_same_append {a b r : Name} (h : (r.append b).same a = true) : a.endsWith b = true := by
  rw [endsWith_iff_key, ← same_iff_key.1 h, key_append]
  exact List.suffix_append _ _

theorem same_append_of_cut {b front back : Name} (h : b.same back = true) :
    (front.append b).same (front.append back) = true := by
  rw [same_iff_key, key_append, key_append, same_iff_key.1 h]

/-! ## Walking up -/

theorem up?_cons (levels : Nat) (r : Rdn) (rs : List Rdn) : up? (levels + 1) ⟨r :: rs⟩ = up? levels ⟨rs⟩ := rfl

/-- To walk up is to take parts off the front. -/
theorem up?_eq_some_iff {c : Name} : ∀ {levels : Nat} {a : Name},
    a.up? levels = some c ↔ ∃ front : Name, front.size = levels ∧ a = front.append c
  | 0, a => by
    constructor
    · intro h
      exact ⟨root, rfl, by rw [root_append, Option.some.inj h]⟩
    · rintro ⟨⟨front⟩, hsize, rfl⟩
      obtain rfl : front = [] := List.length_eq_zero_iff.1 hsize
      rfl
  | levels + 1, ⟨[]⟩ => by
    constructor
    · intro h
      cases h
    · rintro ⟨front, hsize, happend⟩
      have hsizes := congrArg size happend
      rw [size_append, hsize] at hsizes
      cases (Nat.eq_zero_of_add_eq_zero hsizes.symm).1
  | levels + 1, ⟨r :: rs⟩ => by
    rw [up?_cons, up?_eq_some_iff]
    constructor
    · rintro ⟨front, hsize, happend⟩
      exact ⟨⟨r :: front.rdns⟩, congrArg (· + 1) hsize, congrArg (fun a : Name => Name.mk (r :: a.rdns)) happend⟩
    · rintro ⟨⟨front⟩, hsize, happend⟩
      cases front with
      | nil => cases hsize
      | cons q front =>
        obtain ⟨rfl, hrest⟩ := List.cons.inj (Name.mk.inj happend)
        exact ⟨⟨front⟩, Nat.succ.inj hsize, congrArg Name.mk hrest⟩

theorem key_up? : ∀ (levels : Nat) (a : Name),
    (a.up? levels).map key = if levels ≤ a.key.length then some (a.key.drop levels) else none
  | 0, a => by simp [up?]
  | levels + 1, ⟨[]⟩ => rfl
  | levels + 1, ⟨r :: rs⟩ => by
    have hkey : key ⟨r :: rs⟩ = r.key :: key ⟨rs⟩ := rfl
    rw [up?_cons, key_up? levels, hkey, List.length_cons, List.drop_succ_cons]
    simp only [Nat.add_le_add_iff_right]

/-! ## Stripping a suffix -/

theorem stripSuffix?_eq_some_iff {a b r : Name} : a.stripSuffix? b = some r ↔
    a.endsWith b = true ∧ r.rdns <+: a.rdns ∧ (r.append b).same a = true := by
  unfold stripSuffix?
  constructor
  · intro h
    split at h
    · rename_i hends
      obtain rfl : Name.mk (a.rdns.take (a.size - b.size)) = r := Option.some.inj h
      refine ⟨hends, List.take_prefix _ _, ?_⟩
      have hjoin := List.suffix_iff_eq_append.1 (endsWith_iff_key.1 hends)
      rw [length_key, length_key] at hjoin
      rw [same_iff_key, key_append, ← hjoin]
      exact congrArg (· ++ b.key) List.map_take
    · cases h
  · rintro ⟨hends, hprefix, hsame⟩
    -- Between leading parts and the suffix there is nothing left, so the leading parts are all that is in front of it.
    have hsize := size_eq_of_same hsame
    rw [size_append] at hsize
    have hfront : a.rdns.take (a.size - b.size) = r.rdns := by
      rw [List.prefix_iff_eq_take.1 hprefix]
      congr 1
      show a.size - b.size = r.size
      omega
    rw [if_pos hends, hfront]

theorem key_stripSuffix? (a b : Name) :
    (a.stripSuffix? b).map key =
      if b.key <:+ a.key then some (a.key.take (a.key.length - b.key.length)) else none := by
  unfold stripSuffix?
  simp only [endsWith_iff_key]
  split
  · rw [length_key, length_key]
    exact congrArg some List.map_take
  · rfl

/-! ## All of it -/

theorem endsWith_iff_append {a b : Name} : a.endsWith b = true ↔ ∃ r : Name, (r.append b).same a = true := by
  constructor
  · intro h
    obtain ⟨front, back, rfl, hback⟩ := endsWith_iff_exists.1 h
    exact ⟨front, same_append_of_cut hback⟩
  · rintro ⟨r, hr⟩
    exact endsWith_of_same_append hr

theorem below_iff_append {a b : Name} :
    a.below b = true ↔ ∃ r : Name, r.isRoot = false ∧ (r.append b).same a = true := by
  constructor
  · intro h
    obtain ⟨front, back, hroot, rfl, hback⟩ := below_iff_exists.1 h
    exact ⟨front, hroot, same_append_of_cut hback⟩
  · rintro ⟨r, hroot, hr⟩
    have hsize := size_eq_of_same hr
    rw [size_append] at hsize
    have hpos := isRoot_eq_false_iff.1 hroot
    exact below_iff.2 ⟨by omega, endsWith_of_same_append hr⟩

theorem endsWith_iff_up? {a b : Name} :
    a.endsWith b = true ↔ ∃ levels c, a.up? levels = some c ∧ b.same c = true := by
  rw [endsWith_iff_exists]
  constructor
  · rintro ⟨front, back, happend, hback⟩
    exact ⟨front.size, back, up?_eq_some_iff.2 ⟨front, rfl, happend⟩, hback⟩
  · rintro ⟨levels, c, hup, hc⟩
    obtain ⟨front, -, happend⟩ := up?_eq_some_iff.1 hup
    exact ⟨front, c, happend, hc⟩

theorem below_iff_up? {a b : Name} :
    a.below b = true ↔ ∃ levels c, 1 ≤ levels ∧ a.up? levels = some c ∧ b.same c = true := by
  rw [below_iff_exists]
  constructor
  · rintro ⟨front, back, hroot, happend, hback⟩
    exact ⟨front.size, back, isRoot_eq_false_iff.1 hroot, up?_eq_some_iff.2 ⟨front, rfl, happend⟩, hback⟩
  · rintro ⟨levels, c, hpos, hup, hc⟩
    obtain ⟨front, rfl, happend⟩ := up?_eq_some_iff.1 hup
    exact ⟨front, c, isRoot_eq_false_iff.2 hpos, happend, hc⟩

theorem stripSuffix?_append (a b : Name) : (a.append b).stripSuffix? b = some a :=
  stripSuffix?_eq_some_iff.2
    ⟨endsWith_of_same_append (same_refl _), List.prefix_append a.rdns b.rdns, same_refl _⟩

theorem endsWith_trans {a b c : Name} (hab : a.endsWith b = true) (hbc : b.endsWith c = true) :
    a.endsWith c = true :=
  endsWith_iff_key.2 ((endsWith_iff_key.1 hbc).trans (endsWith_iff_key.1 hab))

theorem same_of_endsWith {a b : Name} (hab : a.endsWith b = true) (hba : b.endsWith a = true) : a.same b = true := by
  have hab := endsWith_iff_key.1 hab
  have hba := endsWith_iff_key.1 hba
  exact same_iff_key.2 (hba.eq_of_length (Nat.le_antisymm hba.length_le hab.length_le))

/-- **Names under names are one order, in whatever spelling.**

A name ends with another exactly if it is some name put under it up to case, and exactly if the other is found walking
up from it; it is below the other if at least one part was put under it, or one step was made.  Stripping the other
gives the leading parts which, put under it, are the name again.  The order is reflexive, transitive and antisymmetric
up to case, being below is irreflexive and transitive, and all operations give the same for the same names. -/
theorem hierarchy_laws :
    (∀ a b : Name,
      (a.endsWith b = true ↔ ∃ r : Name, (r.append b).same a = true) ∧
      (a.endsWith b = true ↔ ∃ levels c, a.up? levels = some c ∧ b.same c = true) ∧
      (a.below b = true ↔ ∃ r : Name, r.isRoot = false ∧ (r.append b).same a = true) ∧
      (a.below b = true ↔ ∃ levels c, 1 ≤ levels ∧ a.up? levels = some c ∧ b.same c = true) ∧
      (∀ r : Name, a.stripSuffix? b = some r ↔
        a.endsWith b = true ∧ r.rdns <+: a.rdns ∧ (r.append b).same a = true) ∧
      (a.append b).stripSuffix? b = some a) ∧
    (∀ a b c : Name,
      a.endsWith a = true ∧
      (a.endsWith b = true → b.endsWith c = true → a.endsWith c = true) ∧
      (a.endsWith b = true → b.endsWith a = true → a.same b = true) ∧
      a.below a = false ∧
      (a.below b = true → b.below c = true → a.below c = true)) ∧
    (∀ a a' b b' : Name, a.same a' = true → b.same b' = true →
      a.endsWith b = a'.endsWith b' ∧
      a.below b = a'.below b' ∧
      (a.append b).same (a'.append b') = true ∧
      SameIfAny (a.stripSuffix? b) (a'.stripSuffix? b') ∧
      SameIfAny a.parent? a'.parent? ∧
      ∀ levels, SameIfAny (a.up? levels) (a'.up? levels)) := by
  refine ⟨fun a b => ?_, fun a b c => ?_, fun a a' b b' ha hb => ?_⟩
  · exact ⟨endsWith_iff_append, endsWith_iff_up?, below_iff_append, below_iff_up?, fun r => stripSuffix?_eq_some_iff,
      stripSuffix?_append a b⟩
  · refine ⟨endsWith_iff_key.2 List.suffix_rfl, endsWith_trans, same_of_endsWith, ?_, fun hab hbc => ?_⟩
    · rw [← Bool.not_eq_true, below_iff]
      exact fun h => Nat.lt_irrefl _ h.1
    · obtain ⟨hltab, hab⟩ := below_iff.1 hab
      obtain ⟨hltbc, hbc⟩ := below_iff.1 hbc
      exact below_iff.2 ⟨Nat.lt_trans hltbc hltab, endsWith_trans hab hbc⟩
  · have hkeya := same_iff_key.1 ha
    have hkeyb := same_iff_key.1 hb
    have hends : a.endsWith b = a'.endsWith b' := by
      rw [Bool.eq_iff_iff, endsWith_iff_key, endsWith_iff_key, hkeya, hkeyb]
    have hup (levels : Nat) : SameIfAny (a.up? levels) (a'.up? levels) := by
      rw [sameIfAny_iff_key, key_up?, key_up?, hkeya]
    have hone (x : Name) : x.up? 1 = x.parent? := Option.bind_fun_some _
    refine ⟨hends, ?_, ?_, ?_, ?_, hup⟩
    · rw [below, below, hends, size_eq_of_same ha, size_eq_of_same hb]
    · rw [same_iff_key, key_append, key_append, hkeya, hkeyb]
    · rw [sameIfAny_iff_key, key_stripSuffix?, key_stripSuffix?, hkeya, hkeyb]
    · rw [← hone a, ← hone a']
      exact hup 1

/-- A person below an organization, each name in two spellings. -/
theorem hierarchy_laws_person :
    let person : Name := ⟨[⟨"cn", "ΟΔΟΣ"⟩, ⟨"ou", "people"⟩, ⟨"dc", "x"⟩]⟩
    let person' : Name := ⟨[⟨"CN", "Οδος"⟩, ⟨"ou", "PEOPLE"⟩, ⟨"DC", "X"⟩]⟩
    let people : Name := ⟨[⟨"OU", "People"⟩, ⟨"DC", "x"⟩]⟩
    let base : Name := ⟨[⟨"dc", "X"⟩]⟩
    person.same person' = true ∧ person.below people = true ∧ people.below base = true ∧
      person.below base = true ∧ person'.endsWith base = true ∧
      SameIfAny (person.stripSuffix? base) (person'.stripSuffix? base) ∧
      ∃ levels c, 1 ≤ levels ∧ person'.up? levels = some c ∧ base.same c = true := by
  intro person person' people base
  obtain ⟨hcut, horder, hrespect⟩ := hierarchy_laws
  have hsame : person.same person' = true := by decide +kernel
  have hpeople : person.below people = true := by decide +kernel
  have hbase : people.below base = true := by decide +kernel
  have hbelow : person.below base = true := (horder person people base).2.2.2.2 hpeople hbase
  obtain ⟨hends, hbelow', -, hstrip, -, -⟩ := hrespect person person' base base hsame (same_refl base)
  have hperson' : person'.below base = true := hbelow'.symm.trans hbelow
  exact ⟨hsame, hpeople, hbase, hbelow, hends.symm.trans (below_iff.1 hbelow).2, hstrip,
    (hcut person' base).2.2.2.1.1 hperson'⟩

end Name
end DirectoryAccess
