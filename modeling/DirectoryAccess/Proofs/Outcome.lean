/-!
# Outcomes of steps in a row

A computation that may fail gives a result exactly when each of its steps does, the later ones on what the earlier ones
gave.  The same goes for values that may be missing.
-/
namespace DirectoryAccess

variable {ε α β : Type}

theorem bind_eq_ok_iff {x : Except ε α} {f : α → Except ε β} {b : β} :
    (x >>= f) = .ok b ↔ ∃ a, x = .ok a ∧ f a = .ok b := by
  cases x with
  | error e =>
    constructor
    · intro h
      cases h
    · rintro ⟨a, ha, -⟩
      cases ha
  | ok a =>
    constructor
    · intro h
      exact ⟨a, rfl, h⟩
    · rintro ⟨a', ha, h⟩
      obtain rfl : a = a' := Except.ok.inj ha
      exact h

theorem map_eq_ok_iff {x : Except ε α} {f : α → β} {b : β} : x.map f = .ok b ↔ ∃ a, x = .ok a ∧ f a = b := by
  cases x <;> simp [Except.map]

theorem mapError_eq_ok_iff {ε' : Type} {x : Except ε α} {g : ε → ε'} {a : α} :
    x.mapError g = .ok a ↔ x = .ok a := by
  cases x with
  | error e =>
    constructor
    · intro h
      cases h
    · intro h
      cases h
  | ok b =>
    constructor
    · intro h
      obtain rfl : b = a := Except.ok.inj h
      rfl
    · intro h
      obtain rfl : b = a := Except.ok.inj h
      rfl

theorem mapError_eq_error_iff {ε' : Type} {x : Except ε α} {g : ε → ε'} {e' : ε'} :
    x.mapError g = .error e' ↔ ∃ e, x = .error e ∧ g e = e' := by
  cases x with
  | error e =>
    constructor
    · intro h
      exact ⟨e, rfl, Except.error.inj h⟩
    · rintro ⟨_, he, rfl⟩
      obtain rfl := Except.error.inj he
      rfl
  | ok a =>
    constructor
    · intro h
      cases h
    · rintro ⟨_, he, -⟩
      cases he

/-- The results of a step for each member, one for one. -/
theorem mapM_eq_ok_cons {f : α → Except ε β} {a : α} {as : List α} {bs : List β} (h : (a :: as).mapM f = .ok bs) :
    ∃ b bs', bs = b :: bs' ∧ f a = .ok b ∧ as.mapM f = .ok bs' := by
  rw [List.mapM_cons] at h
  obtain ⟨b, hb, h⟩ := bind_eq_ok_iff.1 h
  obtain ⟨bs', hbs, h⟩ := bind_eq_ok_iff.1 h
  exact ⟨b, bs', (Except.ok.inj h).symm, hb, hbs⟩

/-- A last member has its step after all others. -/
theorem mapM_concat (f : α → Except ε β) (as : List α) (a : α) :
    (as ++ [a]).mapM f = (do
      let bs ← as.mapM f
      let b ← f a
      return bs ++ [b]) := by
  rw [List.mapM_append, List.mapM_cons, List.mapM_nil]
  cases as.mapM f with
  | error e => rfl
  | ok bs => cases f a <;> rfl

/-! ## Values that may be missing -/

theorem mapM_eq_none_iff {f : α → Option β} {as : List α} : as.mapM f = none ↔ ∃ a ∈ as, f a = none := by
  induction as with
  | nil => simp
  | cons a as ih =>
    rw [List.mapM_cons]
    cases ha : f a with
    | none => simp [ha]
    | some b =>
      have htail : (∃ x ∈ a :: as, f x = none) ↔ ∃ x ∈ as, f x = none := by simp [ha]
      rw [htail, ← ih]
      cases as.mapM f <;> simp

/-- What is read back from each member is read back from all of them. -/
theorem mapM_eq_some_iff {f : α → Option β} (g : β → α) (hfg : ∀ a b, f a = some b ↔ a = g b) :
    ∀ {as : List α} {bs : List β}, as.mapM f = some bs ↔ as = bs.map g
  | [], bs => by cases bs <;> simp
  | a :: as, bs => by
    simp only [List.mapM_cons, Option.bind_eq_bind, Option.pure_def, Option.bind_eq_some_iff, hfg, mapM_eq_some_iff g hfg,
      Option.some.injEq]
    constructor
    · rintro ⟨b, rfl, bs, rfl, rfl⟩
      rfl
    · intro h
      obtain ⟨b, bs, rfl, hb, hbs⟩ := List.map_eq_cons_iff.1 h.symm
      exact ⟨b, hb.symm, bs, hbs.symm, rfl⟩

/-- What is made of members and can be traced back to them is made of those of which something is made. -/
theorem map_filterMap_eq_filter {f : α → Option β} {g : β → α} (hfg : ∀ a b, f a = some b → g b = a) (as : List α) :
    (as.filterMap f).map g = as.filter (fun a => (f a).isSome) := by
  induction as with
  | nil => rfl
  | cons a as ih =>
    cases ha : f a with
    | none => rw [List.filterMap_cons_none ha, List.filter_cons_of_neg (by simp [ha]), ih]
    | some b => rw [List.filterMap_cons_some ha, List.filter_cons_of_pos (by simp [ha]), List.map_cons, hfg a b ha, ih]

end DirectoryAccess
