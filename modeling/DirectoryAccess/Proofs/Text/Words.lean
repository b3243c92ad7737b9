import DirectoryAccess.Text.Case
/-!
# Capital sigmas in their words

The lower-case form of a capital sigma depends on what stands around it: at the end of a word it is another letter than
elsewhere.  Where a text is cut, a word may end that did not end there, and the rest of a word begins as if it were one.
So the form of a text need not be that of its pieces put together.

It is, however the text is cut, exactly if every capital sigma begins its word (`lowerChars_append_iff`).  Such a sigma
has its usual form whatever follows.  Any other does not survive all cuts: if it ends its word, the piece that begins with
it has the usual form in its place, and otherwise the piece that ends with it has the final one.
-/
namespace DirectoryAccess.Text

/-- A word goes on after the character, where `inWord` says that there is one before it. -/
def goesOn (inWord : Bool) (c : Char) : Bool := if caseIgnorable.has c then inWord else cased.has c

/-- A word goes on after the text. -/
def goesOnAfter (inWord : Bool) (cs : List Char) : Bool := cs.foldl goesOn inWord

/-- No capital sigma stands after a letter of its word. -/
def SigmasBegin (inWord : Bool) : List Char → Prop
  | [] => True
  | c :: cs => (c = 'Σ' → inWord = false) ∧ SigmasBegin (goesOn inWord c) cs

instance decidableSigmasBegin : ∀ (inWord : Bool) (cs : List Char), Decidable (SigmasBegin inWord cs)
  | _, [] => .isTrue trivial
  | inWord, c :: cs =>
    have := decidableSigmasBegin (goesOn inWord c) cs
    inferInstanceAs (Decidable ((c = 'Σ' → inWord = false) ∧ SigmasBegin (goesOn inWord c) cs))

/-! ## One character -/

/-- The form of a character between what is before it and the rest. -/
def formOf (inWord : Bool) (c : Char) (rest : List Char) : List Char :=
  if c = 'Σ' then [if inWord && endsWord rest then 'ς' else 'σ'] else if c = 'İ' then ['i', '\u0307'] else [lowerChar c]

theorem lowerFrom_cons (inWord : Bool) (c : Char) (cs : List Char) :
    lowerFrom inWord (c :: cs) = formOf inWord c cs ++ lowerFrom (goesOn inWord c) cs := rfl

theorem lowerChars_singleton (c : Char) : lowerChars [c] = formOf false c [] := by
  rw [lowerChars, lowerFrom_cons, lowerFrom, List.append_nil]

theorem length_formOf (inWord : Bool) (c : Char) (rest : List Char) :
    (formOf inWord c rest).length = (lowerChars [c]).length := by
  rw [lowerChars_singleton]
  unfold formOf
  split
  · rfl
  · rfl

/-- Only a capital sigma after a letter looks at the rest. -/
theorem formOf_eq {inWord : Bool} {c : Char} (h : c = 'Σ' → inWord = false) (rest : List Char) :
    formOf inWord c rest = lowerChars [c] := by
  rw [lowerChars_singleton]
  unfold formOf
  split
  · rename_i hc
    rw [h hc]
    rfl
  · rfl

theorem goesOn_sigma (inWord : Bool) : goesOn inWord 'Σ' = true := by
  have hignorable : caseIgnorable.has 'Σ' = false := by decide +kernel
  have hcased : cased.has 'Σ' = true := by decide +kernel
  rw [goesOn, hignorable, if_neg Bool.false_ne_true, hcased]

/-! ## Texts -/

theorem length_lowerFrom : ∀ (inWord : Bool) (cs : List Char),
    (lowerFrom inWord cs).length = (cs.flatMap (fun c => lowerChars [c])).length
  | _, [] => rfl
  | inWord, c :: cs => by
    rw [lowerFrom_cons, List.length_append, length_formOf, length_lowerFrom, List.flatMap_cons, List.length_append]

theorem length_lowerChars_append (as bs : List Char) :
    (lowerChars (as ++ bs)).length = (lowerChars as).length + (lowerChars bs).length := by
  have hlength (cs : List Char) := length_lowerFrom false cs
  rw [lowerChars, lowerChars, lowerChars, hlength, hlength, hlength, List.flatMap_append, List.length_append]

/-- The rest of a text has its own form, but for the word that goes on into it. -/
theorem lowerFrom_append (bs : List Char) : ∀ (inWord : Bool) (as : List Char),
    ∃ form, lowerFrom inWord (as ++ bs) = form ++ lowerFrom (goesOnAfter inWord as) bs ∧
      form.length = (lowerFrom inWord as).length
  | inWord, [] => ⟨[], rfl, rfl⟩
  | inWord, c :: as => by
    obtain ⟨form, hform, hlength⟩ := lowerFrom_append bs (goesOn inWord c) as
    refine ⟨formOf inWord c (as ++ bs) ++ form, ?_, ?_⟩
    · rw [List.cons_append, lowerFrom_cons, hform, List.append_assoc]
      rfl
    · rw [lowerFrom_cons, List.length_append, List.length_append, length_formOf, length_formOf, hlength]

/-! ## Sigmas that begin their words -/

theorem sigmasBegin_append {bs : List Char} : ∀ {inWord : Bool} {as : List Char}, SigmasBegin inWord (as ++ bs) ↔
    SigmasBegin inWord as ∧ SigmasBegin (goesOnAfter inWord as) bs
  | _, [] => (and_iff_right trivial).symm
  | inWord, c :: as => by
    rw [List.cons_append, SigmasBegin, SigmasBegin, sigmasBegin_append, and_assoc]
    rfl

/-- A sigma that begins its word begins it all the more where the text before is cut off. -/
theorem SigmasBegin.of_cut : ∀ {inWord : Bool} {cs : List Char}, SigmasBegin inWord cs → SigmasBegin false cs
  | _, [], _ => trivial
  | inWord, c :: cs, ⟨_, hcs⟩ => by
    refine ⟨fun _ => rfl, ?_⟩
    unfold goesOn at hcs ⊢
    by_cases hignorable : caseIgnorable.has c = true
    · rw [if_pos hignorable] at hcs ⊢
      exact hcs.of_cut
    · rw [if_neg hignorable] at hcs ⊢
      exact hcs

theorem SigmasBegin.lowerFrom_eq : ∀ {inWord : Bool} {cs : List Char}, SigmasBegin inWord cs →
    lowerFrom inWord cs = cs.flatMap (fun c => lowerChars [c])
  | _, [], _ => rfl
  | inWord, c :: cs, ⟨hc, hcs⟩ => by
    rw [lowerFrom_cons, formOf_eq hc, hcs.lowerFrom_eq, List.flatMap_cons]

theorem SigmasBegin.lowerChars_append {as bs : List Char} (h : SigmasBegin false (as ++ bs)) :
    lowerChars (as ++ bs) = lowerChars as ++ lowerChars bs := by
  obtain ⟨has, hbs⟩ := sigmasBegin_append.1 h
  rw [lowerChars, lowerChars, lowerChars, h.lowerFrom_eq, has.lowerFrom_eq, hbs.of_cut.lowerFrom_eq,
    List.flatMap_append]

theorem sigmasBegin_iff : ∀ {inWord : Bool} {cs : List Char}, SigmasBegin inWord cs ↔
    ∀ front back, cs = front ++ 'Σ' :: back → goesOnAfter inWord front = false
  | inWord, [] => by
    refine iff_of_true trivial (fun front back h => ?_)
    cases front <;> cases h
  | inWord, c :: cs => by
    rw [SigmasBegin, sigmasBegin_iff]
    constructor
    · rintro ⟨hc, hcs⟩ front back h
      cases front with
      | nil => exact hc (List.cons.inj h).1
      | cons d front =>
        obtain ⟨rfl, htail⟩ := List.cons.inj h
        exact hcs front back htail
    · intro h
      refine ⟨fun hc => h [] cs (by rw [hc]; rfl), fun front back hcs => ?_⟩
      exact h (c :: front) back (by rw [hcs]; rfl)

/-- A sigma after a letter of its word loses its form to a cut before it or after it. -/
theorem exists_cut_of_goesOnAfter {front : List Char} (h : goesOnAfter false front = true) (back : List Char) :
    ∃ as bs, front ++ 'Σ' :: back = as ++ bs ∧
      lowerChars (front ++ 'Σ' :: back) ≠ lowerChars as ++ lowerChars bs := by
  have hsigma (inWord : Bool) (rest : List Char) : lowerFrom inWord ('Σ' :: rest) =
      (if inWord && endsWord rest then 'ς' else 'σ') :: lowerFrom true rest := by
    rw [lowerFrom_cons, goesOn_sigma]
    rfl
  obtain ⟨form, hform, hlength⟩ := lowerFrom_append ('Σ' :: back) false front
  rw [h, hsigma, Bool.true_and] at hform
  cases hends : endsWord back with
  | true =>
    -- Cut before it: it is final in the text, and begins a word in the piece.
    refine ⟨front, 'Σ' :: back, rfl, fun heq => ?_⟩
    rw [lowerChars, lowerChars, lowerChars, hform, hsigma, hends] at heq
    have hmark : 'ς' = 'σ' := (List.cons.inj (List.append_inj heq hlength).2).1
    exact absurd hmark (by decide)
  | false =>
    -- Cut after it: it is final in the piece only.
    obtain ⟨form', hform', hlength'⟩ := lowerFrom_append ['Σ'] false front
    rw [h, hsigma] at hform'
    refine ⟨front ++ ['Σ'], back, by rw [List.append_assoc]; rfl, fun heq => ?_⟩
    rw [lowerChars, lowerChars, hform, hform', hends, List.append_assoc] at heq
    have hmark : 'σ' = 'ς' := (List.cons.inj (List.append_inj heq (hlength.trans hlength'.symm)).2).1
    exact absurd hmark (by decide)

/-- **A text is put in lower case piece by piece exactly if its capital sigmas begin their words.** -/
theorem lowerChars_append_iff {cs : List Char} : SigmasBegin false cs ↔
    ∀ as bs, cs = as ++ bs → lowerChars cs = lowerChars as ++ lowerChars bs := by
  constructor
  · rintro h as bs rfl
    exact h.lowerChars_append
  · intro h
    rw [sigmasBegin_iff]
    rintro front back rfl
    rw [← Bool.not_eq_true]
    intro hword
    obtain ⟨as, bs, hcut, hne⟩ := exists_cut_of_goesOnAfter hword back
    exact hne (h as bs hcut)

end DirectoryAccess.Text
