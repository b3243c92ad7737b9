import DirectoryAccess.Proofs.Predicate.Meaning
import DirectoryAccess.Proofs.Text.Broken
/-!
# Asking for octets

A filter asserts a text, and so asking for octets asks for the text that they are read as.  Values that are octets are
read in the same way, and the two are compared in lower case.

Octets that are a text are told from all that are not, unless the text holds a replacement character.  Others are not:
some value of other octets is read alike and is selected (`selects_equal_binary_iff`), although it is not what a
directory was sent.
-/
namespace DirectoryAccess
namespace Predicate

variable {ε : Type} {s : Schema ε} {property attr : String}

theorem compile_equal_binary (h : s.attrOf property = .ok attr) (bs : List UInt8) :
    (Predicate.compare .equal property (.binary bs)).compile s = .ok (.equals attr (Text.decodeLossy bs)) := by
  rw [compile, toFilter, h]
  rfl

theorem selects_equals_of_binary {as : Attributes} {bs : List UInt8} (h : as.find? attr = some (.binary bs))
    (text : String) :
    (Filter.equals attr text).selects as = true ↔ Text.lower (Text.decodeLossy bs) = Text.lower text := by
  have htexts : as.textsOf attr = [Text.decodeLossy bs] := by
    rw [Attributes.textsOf, h]
    rfl
  simp [Filter.equals, Filter.selects, htexts, Test.accepts]

/-- What is read with a replacement character is not equal to a text without one, whatever the case. -/
theorem lower_ne_lower {bs bs' : List UInt8} (h : Text.replacement ∉ Text.decodeLossyChars bs)
    (h' : Text.replacement ∈ Text.decodeLossyChars bs') :
    Text.lower (Text.decodeLossy bs') ≠ Text.lower (Text.decodeLossy bs) := by
  intro heq
  have hchars := congrArg String.toList heq
  simp only [Text.toList_lower, Text.decodeLossy, String.toList_ofList] at hchars
  rw [← Text.replacement_mem_lowerChars_iff] at h h'
  exact h (hchars ▸ h')

/-- **Equality with octets is equality of the texts that are read, up to case.**  So octets are told from all others that
are not a text as they are exactly if they are a text without replacement characters. -/
theorem selects_equal_binary_iff (h : s.attrOf property = .ok attr) (bs : List UInt8) :
    ∃ f, (Predicate.compare .equal property (.binary bs)).compile s = .ok f ∧
      (∀ as bs', as.find? attr = some (.binary bs') →
        (f.selects as = true ↔ Text.lower (Text.decodeLossy bs') = Text.lower (Text.decodeLossy bs))) ∧
      ((∀ as bs', as.find? attr = some (.binary bs') → bs' ≠ bs → ¬ (Text.Whole bs ∧ Text.Whole bs') →
          f.selects as = false) ↔
        Text.Whole bs ∧ Text.replacement ∉ Text.decodeLossyChars bs) := by
  have hselects (as : Attributes) (bs' : List UInt8) (hvalue : as.find? attr = some (.binary bs')) :=
    selects_equals_of_binary hvalue (Text.decodeLossy bs)
  refine ⟨_, compile_equal_binary h bs, hselects, ?_, ?_⟩
  · intro hapart
    have hplain : Text.replacement ∉ Text.decodeLossyChars bs := by
      intro hmem
      obtain ⟨bs', hne, hnot, hread⟩ := Text.exists_not_whole_of_replacement hmem
      have hvalue : Attributes.find? ⟨[(attr, .binary bs')]⟩ attr = some (.binary bs') := by
        simp [Attributes.find?, Text.sameName_refl]
      have hselected := (hselects _ bs' hvalue).2 (by rw [hread])
      rw [hapart _ bs' hvalue hne hnot] at hselected
      cases hselected
    refine ⟨?_, hplain⟩
    by_contra hbroken
    exact hplain (Text.replacement_mem_of_not_whole hbroken)
  · rintro ⟨hwhole, hplain⟩ as bs' hvalue - hnot
    have hbroken : ¬ Text.Whole bs' := fun hwhole' => hnot ⟨hwhole, hwhole'⟩
    rw [← Bool.not_eq_true, hselects as bs' hvalue]
    exact lower_ne_lower hplain (Text.replacement_mem_of_not_whole hbroken)

/-- An address that is asked for as octets is told from octets that are no text; two octets that begin no character are
not told from each other. -/
theorem selects_equal_binary_address : persons.attrOf "address" = .ok "mail" ∧
    (Filter.equals "mail" "é").selects ⟨[("mail", .binary [0xE9])]⟩ = false ∧
    ¬ ∀ as bs, as.find? "mail" = some (.binary bs) → bs ≠ [0xFE] → ¬ (Text.Whole [0xFE] ∧ Text.Whole bs) →
      (Filter.equals "mail" "\uFFFD").selects as = false := by
  have hmail : persons.attrOf "address" = .ok "mail" := rfl
  obtain ⟨f, hf, -, hwhole⟩ := selects_equal_binary_iff hmail [0xC3, 0xA9]
  obtain ⟨g, hg, -, hbroken⟩ := selects_equal_binary_iff hmail [0xFE]
  obtain rfl : Filter.equals "mail" "é" = f := Except.ok.inj hf
  obtain rfl : Filter.equals "mail" "\uFFFD" = g := Except.ok.inj hg
  refine ⟨hmail, hwhole.2 (by decide) _ [0xE9] rfl (by decide) (by decide), fun hapart => ?_⟩
  exact absurd (hbroken.1 hapart).1 (by decide)

/-- Octets that are not those of the value, and no text either, select it. -/
theorem not_selects_equal_binary :
    ¬ ∀ (s : Schema Unit) (property attr : String) (bs bs' : List UInt8) (f : Filter) (as : Attributes),
      s.attrOf property = .ok attr → bs ≠ bs' → ¬ (Text.Whole bs ∧ Text.Whole bs') →
      (Predicate.compare .equal property (.binary bs)).compile s = .ok f → as.find? attr = some (.binary bs') →
      f.selects as = false := by
  intro h
  have hnot := h persons "address" "mail" [0xFF] [0xFE] (.equals "mail" "\uFFFD") ⟨[("mail", .binary [0xFE])]⟩ rfl
    (by decide) (by decide) rfl rfl
  have hselected : (Filter.equals "mail" "\uFFFD").selects ⟨[("mail", .binary [0xFE])]⟩ = true := by decide +kernel
  exact Bool.false_ne_true (hnot.symm.trans hselected)

end Predicate
end DirectoryAccess
