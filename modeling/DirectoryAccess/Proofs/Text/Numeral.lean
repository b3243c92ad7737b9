import DirectoryAccess.Proofs.Text.Blank
import DirectoryAccess.Text.Numeral
/-!
# Numerals are read back

Every 64-bit integer is read back from its decimal numeral (`readInt64Trimmed_decimal`).  A numeral is digits of ASCII
behind a minus sign or nothing, so there is no blank to trim and no other sign to be seen, and what it says fits.
-/
namespace DirectoryAccess.Text

theorem isDigit_of_mem_toDigits {n : Nat} {c : Char} (h : c ∈ Nat.toDigits 10 n) : c.isDigit = true :=
  Nat.isDigit_of_mem_toDigits (by omega) (by omega) h

theorem readDigits_toDigits (n : Nat) : readDigits (Nat.toDigits 10 n) = some n := by
  have hall : (Nat.toDigits 10 n).all Char.isDigit = true :=
    List.all_eq_true.2 (fun _ h => isDigit_of_mem_toDigits h)
  have hne : (Nat.toDigits 10 n).isEmpty = false := List.isEmpty_eq_false_iff.2 Nat.toDigits_ne_nil
  rw [readDigits, hall, hne, Nat.ofDigitChars_ten_toDigits]
  rfl

/-- The digits of a number, behind a minus sign where it is negative. -/
theorem toList_toString (n : Int) :
    (toString n).toList = (if n < 0 then ['-'] else []) ++ Nat.toDigits 10 n.natAbs := by
  have hdigits (m : Nat) : (toString m).toList = Nat.toDigits 10 m := by
    rw [Nat.toString_eq_ofList_toDigits, String.toList_ofList]
  cases n with
  | ofNat m =>
    have hpos : ¬ Int.ofNat m < 0 := Int.not_lt.2 (Int.natCast_nonneg m)
    rw [if_neg hpos]
    exact hdigits m
  | negSucc m =>
    rw [if_pos (Int.negSucc_lt_zero m)]
    show ("-" ++ toString (m + 1)).toList = _
    rw [String.toList_append, hdigits]
    rfl

theorem readInteger_toString (n : Int) : readInteger (toString n).toList = some n := by
  rw [toList_toString]
  by_cases hneg : n < 0
  · rw [if_pos hneg, List.singleton_append, readInteger, readDigits_toDigits]
    have hn : -(n.natAbs : Int) = n := by omega
    exact congrArg some hn
  · rw [if_neg hneg, List.nil_append]
    have hdigits := readDigits_toDigits n.natAbs
    have hmem (c : Char) (h : c ∈ Nat.toDigits 10 n.natAbs) : c ≠ '-' ∧ c ≠ '+' := by
      have := isDigit_of_mem_toDigits h
      constructor
      · rintro rfl
        exact absurd this (by decide)
      · rintro rfl
        exact absurd this (by decide)
    cases hcs : Nat.toDigits 10 n.natAbs with
    | nil => exact absurd hcs Nat.toDigits_ne_nil
    | cons c cs =>
      rw [hcs] at hdigits hmem
      obtain ⟨hminus, hplus⟩ := hmem c List.mem_cons_self
      rw [readInteger, hdigits]
      · have hn : (n.natAbs : Int) = n := by omega
        exact congrArg some hn
      · exact fun ds h => hminus (List.cons.inj h).1
      · exact fun ds h => hplus (List.cons.inj h).1

theorem fit64_toInt (n : Int64) : fit64 n.toInt = some n := by
  have hbounds : Int64.minValue.toInt ≤ n.toInt ∧ n.toInt ≤ Int64.maxValue.toInt :=
    ⟨Int64.le_iff_toInt_le.1 (Int64.minValue_le n), Int64.le_iff_toInt_le.1 (Int64.le_maxValue n)⟩
  rw [fit64, if_pos hbounds, Int64.ofInt_toInt]

theorem not_isBlank_of_isDigit {c : Char} (h : c.isDigit = true) : isBlank c = false := by
  have hbounds : 48 ≤ c.toNat ∧ c.toNat ≤ 57 := by
    simp only [Char.isDigit, ge_iff_le, Bool.and_eq_true, decide_eq_true_eq, UInt32.le_iff_toNat_le] at h
    exact h
  have hnone : ∀ r ∈ blanks, ¬ (r.1 ≤ c.toNat ∧ c.toNat ≤ r.2) := by
    simp only [blanks, List.mem_cons, List.not_mem_nil, or_false]
    grind
  rw [isBlank, Bool.eq_false_iff]
  intro hblank
  obtain ⟨r, hr, hc⟩ := (Ranges.has_iff _ _).1 hblank
  exact hnone r hr hc

theorem trimChars_decimal (n : Int64) : trimChars (decimal n).toList = (decimal n).toList := by
  have hblank : ∀ c ∈ (decimal n).toList, isBlank c = false := by
    intro c hc
    rw [decimal, toList_toString] at hc
    rcases List.mem_append.1 hc with hsign | hdigit
    · split at hsign
      · rw [List.mem_singleton.1 hsign]
        decide
      · cases hsign
    · exact not_isBlank_of_isDigit (isDigit_of_mem_toDigits hdigit)
  rw [trimChars_eq_self_iff]
  exact ⟨fun c hc => hblank c (List.mem_of_mem_head? hc), fun c hc => hblank c (List.mem_of_mem_getLast? hc)⟩

/-- **A 64-bit integer is read back from its numeral.** -/
theorem readInt64Trimmed_decimal (n : Int64) : readInt64Trimmed (decimal n) = some n := by
  rw [readInt64Trimmed, trimChars_decimal, readInt64, decimal, readInteger_toString, Option.bind_some, fit64_toInt]

end DirectoryAccess.Text
