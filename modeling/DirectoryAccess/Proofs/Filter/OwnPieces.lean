import DirectoryAccess.Proofs.Filter.Pieces
import DirectoryAccess.Proofs.Text.Words
/-!
# Values and their own pieces

A value that is cut in three should be found by each of its pieces: it starts with the first, contains the second, ends
with the third, and has all of them in this order.  The last of these says the most.  The forms of the pieces are
together as long as that of the value, so no gap is left between them, and the condition holds exactly if the form of the
value is made of the three (`substringAccepts_own_iff`); then so do the others (`FoundBy.of_form`).

Capital sigmas may keep it from being so.  A value is found by its own pieces however it is cut exactly if each of its
capital sigmas begins a word (`found_by_own_pieces_iff`).
-/
namespace DirectoryAccess
namespace Filter

/-- The attribute has a value that starts with `p`, one that contains `m`, one that ends with `s`, and one that has the
three in this order. -/
structure FoundBy (as : Attributes) (attr p m s : String) : Prop where
  starts : (Filter.test .startsWith attr p).selects as = true
  contains : (Filter.test .contains attr m).selects as = true
  ends : (Filter.test .endsWith attr s).selects as = true
  pieces : (Filter.substring attr (some p) [m] (some s)).selects as = true

/-- The form of the text is made of those of the three. -/
def FormOf (x p m s : String) : Prop :=
  Text.lowerChars x.toList = Text.lowerChars p.toList ++ (Text.lowerChars m.toList ++ Text.lowerChars s.toList)

theorem substringAccepts_of_form {x p m s : String} (h : FormOf x p m s) :
    substringAccepts (some p) [m] (some s) x = true :=
  (piecesIn_iff _ _ _ _).2 ⟨_, h, [], _, _, rfl, rfl, [], _, [], (List.append_nil _).symm, rfl, rfl⟩

/-- Between the forms of its own pieces there is no room for a gap. -/
theorem form_of_substringAccepts {p m s : String}
    (h : substringAccepts (some p) [m] (some s) (p ++ m ++ s) = true) : FormOf (p ++ m ++ s) p m s := by
  have hlength : (Text.lowerChars (p ++ m ++ s).toList).length =
      (Text.lowerChars p.toList).length + (Text.lowerChars m.toList).length + (Text.lowerChars s.toList).length := by
    rw [String.toList_append, String.toList_append, Text.length_lowerChars_append, Text.length_lowerChars_append]
  obtain ⟨rest, hx, run, part, rest', rfl, rfl, run', part', rest'', rfl, rfl, rfl⟩ := (piecesIn_iff _ _ _ _).1 h
  rw [hx] at hlength
  simp only [List.length_append, List.length_nil, Option.map_some, Option.getD_some] at hlength
  have hrun : run = [] := List.length_eq_zero_iff.1 (by omega)
  have hrun' : run' = [] := List.length_eq_zero_iff.1 (by omega)
  rw [FormOf, hx, hrun, hrun', List.append_nil]
  rfl

theorem FoundBy.of_form {as : Attributes} {attr x p m s : String} (hx : x ∈ as.textsOf attr) (h : FormOf x p m s) :
    FoundBy as attr p m s where
  starts := by
    rw [selects, List.any_eq_true]
    refine ⟨x, hx, List.isPrefixOf_iff_prefix.2 ?_⟩
    rw [h]
    exact List.prefix_append _ _
  contains := by
    rw [selects, List.any_eq_true]
    exact ⟨x, hx, Text.occurs_iff.2 ⟨_, _, h⟩⟩
  ends := by
    rw [selects, List.any_eq_true]
    refine ⟨x, hx, List.isSuffixOf_iff_suffix.2 ?_⟩
    rw [h, ← List.append_assoc]
    exact List.suffix_append _ _
  pieces := by
    rw [selects, List.any_eq_true]
    exact ⟨x, hx, substringAccepts_of_form h⟩

theorem textsOf_text (attr x : String) : Attributes.textsOf ⟨[(attr, .text x)]⟩ attr = [x] := by
  simp [Attributes.textsOf, Attributes.find?, Text.sameName_refl, Value.texts]

theorem foundBy_iff_form (p m s : String) :
    (∀ (as : Attributes) (attr : String), p ++ m ++ s ∈ as.textsOf attr → FoundBy as attr p m s) ↔
      FormOf (p ++ m ++ s) p m s := by
  constructor
  · intro h
    have htexts := textsOf_text "cn" (p ++ m ++ s)
    have hpieces := (h _ "cn" (by rw [htexts]; exact List.mem_cons_self)).pieces
    rw [selects, htexts, List.any_eq_true] at hpieces
    obtain ⟨x, hx, haccepts⟩ := hpieces
    obtain rfl : x = p ++ m ++ s := List.mem_singleton.1 hx
    exact form_of_substringAccepts haccepts
  · intro h as attr hx
    exact .of_form hx h

/-- In two pieces or in three, it is the same sigmas that matter. -/
theorem forall_form_iff (x : String) :
    (∀ p m s : String, x = p ++ m ++ s → FormOf x p m s) ↔ Text.SigmasBegin false x.toList := by
  constructor
  · intro h
    refine Text.lowerChars_append_iff.2 (fun as bs hcut => ?_)
    have hx : x = String.ofList as ++ "" ++ String.ofList bs := String.toList_inj.1 (by simp [hcut])
    have hform := h _ _ _ hx
    simpa [FormOf] using hform
  · rintro h p m s rfl
    rw [String.toList_append, String.toList_append, List.append_assoc] at h
    have hrest := (Text.sigmasBegin_append.1 h).2.of_cut
    rw [FormOf, String.toList_append, String.toList_append, List.append_assoc, h.lowerChars_append,
      hrest.lowerChars_append]

/-- **When values are found by their own pieces.**

Cut in three in one way, a text is found by the pieces wherever it is a value, exactly if its lower-case form is made of
theirs.  It is found by its own pieces in whatever way it is cut exactly if no capital sigma in it stands after a letter
of its word. -/
theorem found_by_own_pieces_iff (x : String) :
    (∀ p m s : String, x = p ++ m ++ s →
      ((∀ (as : Attributes) (attr : String), x ∈ as.textsOf attr → FoundBy as attr p m s) ↔ FormOf x p m s)) ∧
    ((∀ (as : Attributes) (attr p m s : String), x ∈ as.textsOf attr → x = p ++ m ++ s → FoundBy as attr p m s) ↔
      Text.SigmasBegin false x.toList) := by
  refine ⟨?_, ?_⟩
  · rintro p m s rfl
    exact foundBy_iff_form p m s
  · rw [← forall_form_iff]
    constructor
    · rintro h p m s rfl
      exact (foundBy_iff_form p m s).1 (fun as attr hx => h as attr p m s hx rfl)
    · intro h as attr p m s hx hcut
      exact .of_form hx (h p m s hcut)

/-- Sigmas at the beginning of words, and a letter whose form is two characters. -/
theorem found_by_own_pieces_sigma :
    "ΣΑΝ İΒ" ∈ Attributes.textsOf ⟨[("CN", .list [.text "x", .text "ΣΑΝ İΒ"])]⟩ "cn" ∧
      "ΣΑΝ İΒ" = "Σ" ++ "ΑΝ İ" ++ "Β" ∧
      FoundBy ⟨[("CN", .list [.text "x", .text "ΣΑΝ İΒ"])]⟩ "cn" "Σ" "ΑΝ İ" "Β" := by
  have hx : "ΣΑΝ İΒ" ∈ Attributes.textsOf ⟨[("CN", .list [.text "x", .text "ΣΑΝ İΒ"])]⟩ "cn" := by decide +kernel
  have hcut : "ΣΑΝ İΒ" = "Σ" ++ "ΑΝ İ" ++ "Β" := by decide +kernel
  exact ⟨hx, hcut, (found_by_own_pieces_iff "ΣΑΝ İΒ").2.2 (by decide +kernel) _ _ _ _ _ hx hcut⟩

/-- A capital sigma that ends the first piece does not end the word in the value. -/
theorem not_found_by_own_pieces :
    ¬ ∀ (as : Attributes) (attr x p m s : String), x ∈ as.textsOf attr → x = p ++ m ++ s → FoundBy as attr p m s := by
  intro h
  have hfound := h ⟨[("cn", .text "ΑΣΑ")]⟩ "cn" "ΑΣΑ" "ΑΣ" "" "Α" (by decide +kernel) (by decide +kernel)
  have hnot : (Filter.test .startsWith "cn" "ΑΣ").selects ⟨[("cn", .text "ΑΣΑ")]⟩ = false := by decide +kernel
  exact Bool.false_ne_true (hnot.symm.trans hfound.starts)

end Filter
end DirectoryAccess
