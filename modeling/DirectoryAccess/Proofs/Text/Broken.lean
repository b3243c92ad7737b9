import DirectoryAccess.Proofs.Text.Octets
import DirectoryAccess.Proofs.Text.Words
/-!
# Octets with broken sequences

Octets that are no text can still be read as one, with the replacement character for each broken sequence
(`decodeLossy`).  The reading does not tell what was broken.  Where it holds the character at all, other octets are read
alike (`exists_not_whole_of_replacement`), since a replacement character could stand for a broken sequence as well.

Putting a text in lower case neither makes nor removes replacement characters (`replacement_mem_lowerChars_iff`), so case
changes nothing about this.
-/
namespace DirectoryAccess.Text

/-- The octets are those of a text. -/
def Whole (bs : List UInt8) : Prop := ∃ s, bs = octets s

theorem decode?_eq_none_iff {bs : List UInt8} : decode? bs = none ↔ ¬ Whole bs := by
  rw [Option.eq_none_iff_forall_ne_some]
  simp only [Whole, not_exists, ne_eq, decode?_eq_some_iff]

instance (bs : List UInt8) : Decidable (Whole bs) :=
  decidable_of_iff ((decode? bs).isSome = true) (by
    rw [Option.isSome_iff_exists]
    simp only [Whole, decode?_eq_some_iff])

/-! ## Reading -/

theorem decodeLossyChars_octetsOf_append (cs : List Char) (bs : List UInt8) :
    decodeLossyChars (octetsOf cs ++ bs) = cs ++ decodeLossyChars bs := by
  rw [decodeLossyChars, units_octetsOf_append, List.map_append, List.map_map, decodeLossyChars]
  exact congrArg (· ++ _) (List.map_id cs)

theorem decodeLossyChars_octetsOf (cs : List Char) : decodeLossyChars (octetsOf cs) = cs := by
  have happend := decodeLossyChars_octetsOf_append cs []
  rw [List.append_nil] at happend
  exact happend.trans (List.append_nil cs)

/-- An octet that begins no character is read as a broken sequence of its own. -/
theorem decodeLossyChars_cons_ff (bs : List UInt8) :
    decodeLossyChars (0xFF :: bs) = replacement :: decodeLossyChars bs := rfl

theorem decodeLossy_octets (s : String) : decodeLossy (octets s) = s := by
  rw [decodeLossy, octets, decodeLossyChars_octetsOf, String.ofList_toList]

/-- Where something is broken, a replacement character is read. -/
theorem replacement_mem_of_not_whole {bs : List UInt8} (h : ¬ Whole bs) : replacement ∈ decodeLossyChars bs := by
  have hbroken : (Utf8.units bs).mapM id = none := by
    have hnone := decode?_eq_none_iff.2 h
    rwa [decode?, Option.map_eq_none_iff] at hnone
  obtain ⟨u, hu, hnone⟩ := mapM_eq_none_iff.1 hbroken
  obtain rfl : u = none := hnone
  exact List.mem_map.2 ⟨none, hu, rfl⟩

/-- Other octets that are no text read alike, unless the octets are a text without replacement characters. -/
theorem exists_not_whole_of_replacement {bs : List UInt8} (h : replacement ∈ decodeLossyChars bs) :
    ∃ bs', bs' ≠ bs ∧ ¬ (Whole bs ∧ Whole bs') ∧ decodeLossy bs' = decodeLossy bs := by
  by_cases hbs : Whole bs
  · -- One of its replacement characters is broken up.
    obtain ⟨s, rfl⟩ := hbs
    rw [octets, decodeLossyChars_octetsOf] at h
    obtain ⟨front, back, hs⟩ := List.append_of_mem h
    have hff : 0xFF ∈ octetsOf front ++ 0xFF :: octetsOf back := by simp
    have hbroken : ¬ Whole (octetsOf front ++ 0xFF :: octetsOf back) := by
      rintro ⟨t, ht⟩
      rw [ht] at hff
      exact ne_of_mem_octets _ hff rfl
    refine ⟨_, fun heq => hbroken ⟨s, heq⟩, fun hwhole => hbroken hwhole.2, ?_⟩
    rw [decodeLossy, decodeLossyChars_octetsOf_append, decodeLossyChars_cons_ff, decodeLossyChars_octetsOf, ← hs,
      String.ofList_toList, decodeLossy_octets]
  · -- What is read is a text, so its octets are others.
    refine ⟨octets (decodeLossy bs), fun heq => hbs ⟨_, heq.symm⟩, fun hwhole => hbs hwhole.1, ?_⟩
    rw [decodeLossy_octets]

/-! ## Lower case -/

/-- A code point is that of the character, or of none. -/
theorem toNat_ofNat_or (n : Nat) : (Char.ofNat n).toNat = n ∨ (Char.ofNat n).toNat = 0 := by
  by_cases h : n.isValidChar
  · left
    rw [Char.ofNat, dif_pos h]
    rfl
  · right
    rw [Char.ofNat, dif_neg h]
    rfl

/-- No other character has the replacement character as its form. -/
theorem lowerChar_eq_replacement_iff {c : Char} : lowerChar c = replacement ↔ c = replacement := by
  constructor
  · unfold lowerChar
    intro h
    split at h
    · rename_i hascii
      have hletters : ∀ n, n < 0x80 → (Char.ofNat n).toLower ≠ replacement := by decide
      have hc := hletters c.toNat hascii
      rw [Char.ofNat_toNat] at hc
      exact absurd h hc
    split at h
    · rename_i r hrun
      have himages : ∀ r ∈ lowerRuns,
          replacement.toNat < r.image ∨ r.image + (r.last - r.first) < replacement.toNat := by decide +kernel
      have himage := himages r (List.mem_of_find?_eq_some hrun)
      have hrange : r.first ≤ c.toNat ∧ c.toNat ≤ r.last := by
        have hholds := List.find?_some hrun
        simp only [CaseRun.holds, Bool.and_eq_true, decide_eq_true_eq] at hholds
        exact hholds.1
      have hform : replacement.toNat = 0xFFFD := rfl
      have hcode := toNat_ofNat_or (r.image + (c.toNat - r.first))
      rw [h] at hcode
      omega
    · exact h
  · rintro rfl
    decide +kernel

theorem replacement_mem_formOf_iff {inWord : Bool} {c : Char} {rest : List Char} :
    replacement ∈ formOf inWord c rest ↔ c = replacement := by
  unfold formOf
  split
  · rename_i hc
    subst hc
    refine iff_of_false ?_ (by decide)
    split <;> decide
  split
  · rename_i hc
    subst hc
    exact iff_of_false (by decide) (by decide)
  · rw [List.mem_singleton, eq_comm, lowerChar_eq_replacement_iff]

theorem replacement_mem_lowerFrom_iff : ∀ {inWord : Bool} {cs : List Char},
    replacement ∈ lowerFrom inWord cs ↔ replacement ∈ cs
  | _, [] => Iff.rfl
  | inWord, c :: cs => by
    rw [lowerFrom_cons, List.mem_append, replacement_mem_formOf_iff, replacement_mem_lowerFrom_iff, List.mem_cons,
      eq_comm]

theorem replacement_mem_lowerChars_iff {cs : List Char} : replacement ∈ lowerChars cs ↔ replacement ∈ cs :=
  replacement_mem_lowerFrom_iff

end DirectoryAccess.Text
