import DirectoryAccess.Proofs.Text.Words
import DirectoryAccess.Text.Numeral
import Mathlib.Data.List.Basic
/-!
# Texts blind to the case of ASCII letters

Names are compared with their ASCII capitals made small (`fold`), and values with every letter in lower case or as
numbers.  The second tells no two texts apart that the first does not: the lower-case form of a text and the number that
is read from it are those of its fold (`lower_fold`, `readInt64Trimmed_fold`).

No step that looks at a character sees the case of an ASCII letter, and there are few enough of these to look at each
(`toLower_blind`).  A capital sigma looks at what stands around it, but only for whether that has case.
-/
namespace DirectoryAccess.Text

/-! ## One character -/

/-- What does not see the case of ASCII letters sees the same in a character and in its small form. -/
theorem toLower_blind {α : Type} {P : Char → α}
    (h : ∀ n, n < 26 → P (Char.ofNat (65 + n)).toLower = P (Char.ofNat (65 + n))) (c : Char) : P c.toLower = P c := by
  by_cases hcapital : 65 ≤ c.toNat ∧ c.toNat ≤ 90
  · have hc := h (c.toNat - 65) (by omega)
    rwa [Nat.add_sub_cancel' hcapital.1, Char.ofNat_toNat] at hc
  · have hself : c.toLower = c := by
      unfold Char.toLower
      rw [dif_neg]
      rintro ⟨hlow, hhigh⟩
      exact hcapital ⟨UInt32.le_iff_toNat_le.1 hlow, UInt32.le_iff_toNat_le.1 hhigh⟩
    rw [hself]

theorem lowerChar_toLower (c : Char) : lowerChar c.toLower = lowerChar c := toLower_blind (by decide +kernel) c

theorem cased_toLower (c : Char) : cased.has c.toLower = cased.has c := toLower_blind (by decide +kernel) c

theorem caseIgnorable_toLower (c : Char) : caseIgnorable.has c.toLower = caseIgnorable.has c :=
  toLower_blind (by decide +kernel) c

theorem isBlank_toLower (c : Char) : isBlank c.toLower = isBlank c := toLower_blind (by decide +kernel) c

theorem isDigit_toLower (c : Char) : c.toLower.isDigit = c.isDigit := toLower_blind (by decide) c

theorem toLower_toLower (c : Char) : c.toLower.toLower = c.toLower := toLower_blind (by decide) c

/-- Of a character that is no letter of ASCII there is no other case. -/
theorem toLower_eq_iff {d : Char}
    (h : ∀ n, n < 26 → ((Char.ofNat (65 + n)).toLower = d ↔ Char.ofNat (65 + n) = d)) (c : Char) :
    c.toLower = d ↔ c = d := by
  have hblind := @toLower_blind Prop (· = d) (fun n hn => propext (h n hn)) c
  exact hblind.to_iff

/-! ## Lower case -/

theorem fold_fold (s : String) : fold (fold s) = fold s := by
  rw [fold, toList_fold, foldChars, foldChars, List.map_map, fold, foldChars]
  exact congrArg (fun f => String.ofList (s.toList.map f)) (funext toLower_toLower)

theorem dropWhile_foldChars {p : Char → Bool} (hp : ∀ c, p c.toLower = p c) (cs : List Char) :
    (foldChars cs).dropWhile p = foldChars (cs.dropWhile p) := by
  rw [foldChars, List.dropWhile_map, foldChars]
  have hblind : p ∘ Char.toLower = p := funext hp
  rw [hblind]

theorem endsWord_foldChars (cs : List Char) : endsWord (foldChars cs) = endsWord cs := by
  unfold endsWord
  rw [dropWhile_foldChars caseIgnorable_toLower]
  cases cs.dropWhile caseIgnorable.has with
  | nil => rfl
  | cons c rest => exact congrArg (!·) (cased_toLower c)

theorem goesOn_toLower (inWord : Bool) (c : Char) : goesOn inWord c.toLower = goesOn inWord c := by
  rw [goesOn, caseIgnorable_toLower, cased_toLower, goesOn]

theorem formOf_toLower (inWord : Bool) (c : Char) (rest : List Char) :
    formOf inWord c.toLower (foldChars rest) = formOf inWord c rest := by
  have hsigma : c.toLower = 'Σ' ↔ c = 'Σ' := toLower_eq_iff (by decide) c
  have hdotted : c.toLower = 'İ' ↔ c = 'İ' := toLower_eq_iff (by decide) c
  simp only [formOf, hsigma, hdotted, endsWord_foldChars, lowerChar_toLower]

theorem lowerFrom_foldChars : ∀ (inWord : Bool) (cs : List Char), lowerFrom inWord (foldChars cs) = lowerFrom inWord cs
  | _, [] => rfl
  | inWord, c :: cs => by
    have hcons : foldChars (c :: cs) = c.toLower :: foldChars cs := rfl
    rw [hcons, lowerFrom_cons, lowerFrom_cons, formOf_toLower, goesOn_toLower, lowerFrom_foldChars]

theorem lowerChars_foldChars (cs : List Char) : lowerChars (foldChars cs) = lowerChars cs := lowerFrom_foldChars false cs

/-- **A text and its fold have one lower-case form.** -/
theorem lower_fold (s : String) : lower (fold s) = lower s := by
  rw [lower, toList_fold, lowerChars_foldChars, lower]

/-! ## Numbers -/

theorem trimChars_foldChars (cs : List Char) : trimChars (foldChars cs) = foldChars (trimChars cs) := by
  have hreverse (ds : List Char) : (foldChars ds).reverse = foldChars ds.reverse := List.map_reverse.symm
  rw [trimChars, dropWhile_foldChars isBlank_toLower, hreverse, dropWhile_foldChars isBlank_toLower, hreverse, trimChars]

/-- A digit has no other case. -/
theorem foldChars_of_digits {cs : List Char} (h : cs.all Char.isDigit = true) : foldChars cs = cs := by
  refine (List.map_congr_left (fun c hc => ?_)).trans (List.map_id cs)
  have hdigit : 48 ≤ c.toNat ∧ c.toNat ≤ 57 := Char.isDigit_iff_toNat.1 (List.all_eq_true.1 h c hc)
  unfold Char.toLower
  rw [dif_neg]
  · rfl
  · rintro ⟨hle, -⟩
    have : 65 ≤ c.toNat := UInt32.le_iff_toNat_le.1 hle
    omega

theorem readDigits_foldChars (cs : List Char) : readDigits (foldChars cs) = readDigits cs := by
  have hall : (foldChars cs).all Char.isDigit = cs.all Char.isDigit := by
    rw [foldChars, List.all_map]
    exact congrArg cs.all (funext isDigit_toLower)
  unfold readDigits
  rw [hall]
  cases hdigits : cs.all Char.isDigit with
  | true => rw [foldChars_of_digits hdigits]
  | false => simp

theorem readInteger_of_unsigned {c : Char} (hminus : c ≠ '-') (hplus : c ≠ '+') (cs : List Char) :
    readInteger (c :: cs) = (readDigits (c :: cs)).map Int.ofNat := by
  unfold readInteger
  split
  · rename_i h
    exact absurd (List.cons.inj h).1 hminus
  · rename_i h
    exact absurd (List.cons.inj h).1 hplus
  · rfl

theorem readInteger_foldChars (cs : List Char) : readInteger (foldChars cs) = readInteger cs := by
  cases cs with
  | nil => rfl
  | cons c cs =>
    have hcons : foldChars (c :: cs) = c.toLower :: foldChars cs := rfl
    have hminus : c.toLower = '-' ↔ c = '-' := toLower_eq_iff (by decide) c
    have hplus : c.toLower = '+' ↔ c = '+' := toLower_eq_iff (by decide) c
    by_cases hc : c = '-'
    · rw [hcons, hminus.2 hc, hc, readInteger, readDigits_foldChars, readInteger]
    by_cases hc' : c = '+'
    · rw [hcons, hplus.2 hc', hc', readInteger, readDigits_foldChars, readInteger]
    · rw [hcons, readInteger_of_unsigned (mt hminus.1 hc) (mt hplus.1 hc'), ← hcons, readDigits_foldChars,
        readInteger_of_unsigned hc hc']

theorem readInt64Trimmed_fold (s : String) : readInt64Trimmed (fold s) = readInt64Trimmed s := by
  rw [readInt64Trimmed, toList_fold, trimChars_foldChars, readInt64, readInteger_foldChars, readInt64Trimmed, readInt64]

end DirectoryAccess.Text
