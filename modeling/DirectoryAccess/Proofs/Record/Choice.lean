import DirectoryAccess.Record
/-!
# Which recipe is used

Of the recipes whose parameters are all known the first with the most parameters is `Best`.  Looking through recipes
keeps the best of those seen (`Finds`): one more recipe takes its place only if it is resolvable and has more parameters,
so of several with as many the first stays, whatever stands between them.  At the end the best of all is left, and it is
the only one; or there is none, as no recipe is resolvable.
-/
namespace DirectoryAccess
namespace RecordType

variable {ε ρ : Type} {s : Schema ε}

/-- The recipe in place `i` is resolvable, none that is has more parameters, and none in front has as many. -/
structure Best (s : Schema ε) (recipes : List (Recipe ρ)) (i : Nat) (r : Recipe ρ) : Prop where
  place : recipes[i]? = some r
  known : ∀ p ∈ r.parameters, s.knows p = true
  most : ∀ r' ∈ recipes, (∀ p ∈ r'.parameters, s.knows p = true) → r'.parameters.length ≤ r.parameters.length
  first : ∀ j r', j < i → recipes[j]? = some r' → (∀ p ∈ r'.parameters, s.knows p = true) →
    r'.parameters.length < r.parameters.length

/-- What is kept while the recipes are looked through. -/
def Finds (s : Schema ε) (recipes : List (Recipe ρ)) : Option (Nat × Recipe ρ) → Prop
  | none => ∀ r ∈ recipes, resolvable s r = false
  | some (i, r) => Best s recipes i r

theorem resolvable_iff {r : Recipe ρ} : resolvable s r = true ↔ ∀ p ∈ r.parameters, s.knows p = true := List.all_eq_true

/-- One recipe more is kept if it is the first, or has more parameters than what was kept. -/
theorem better_cases (s : Schema ε) (best : Option (Nat × Recipe ρ)) (i : Nat) (r : Recipe ρ) :
    (better s best i r = some (i, r) ∧ resolvable s r = true ∧
        ∀ b ∈ best, b.2.parameters.length < r.parameters.length) ∨
      (better s best i r = best ∧
        (resolvable s r = true → ∃ b ∈ best, r.parameters.length ≤ b.2.parameters.length)) := by
  unfold better
  cases hr : resolvable s r with
  | false => exact .inr ⟨rfl, fun h => by cases h⟩
  | true =>
    cases best with
    | none => exact .inl ⟨rfl, rfl, fun b hb => by cases hb⟩
    | some b =>
      by_cases hb : b.2.parameters.length < r.parameters.length
      · exact .inl ⟨by simp [hb], rfl, by simpa using hb⟩
      · exact .inr ⟨by simp [hb], fun _ => ⟨b, rfl, Nat.le_of_not_lt hb⟩⟩

theorem Finds.better {front : List (Recipe ρ)} {best : Option (Nat × Recipe ρ)} (h : Finds s front best)
    (r : Recipe ρ) : Finds s (front ++ [r]) (better s best front.length r) := by
  rcases better_cases s best front.length r with ⟨hbetter, hr, hmore⟩ | ⟨hbetter, hless⟩
  · rw [hbetter]
    -- Those in front are either not resolvable at all or have at most as many parameters as what was kept.
    have hfront : ∀ r' ∈ front, (∀ p ∈ r'.parameters, s.knows p = true) →
        r'.parameters.length < r.parameters.length := by
      intro r' hr' hknown
      cases best with
      | none =>
        have hnot := h r' hr'
        rw [resolvable_iff.2 hknown] at hnot
        cases hnot
      | some b => exact Nat.lt_of_le_of_lt (h.most r' hr' hknown) (hmore b rfl)
    constructor
    case place => exact List.getElem?_concat_length
    case known => exact resolvable_iff.1 hr
    case most =>
      intro r' hr' hknown
      rcases List.mem_append.1 hr' with hr' | hr'
      · exact Nat.le_of_lt (hfront r' hr' hknown)
      · obtain rfl := List.mem_singleton.1 hr'
        exact Nat.le_refl _
    case first =>
      intro j r' hj hplace hknown
      rw [List.getElem?_append_left hj] at hplace
      exact hfront r' (List.mem_of_getElem? hplace) hknown
  · rw [hbetter]
    cases best with
    | none =>
      intro r' hr'
      rcases List.mem_append.1 hr' with hr' | hr'
      · exact h r' hr'
      · rw [List.mem_singleton.1 hr', ← Bool.not_eq_true]
        intro hr
        obtain ⟨b, hb, -⟩ := hless hr
        cases hb
    | some b =>
      have hplace : b.1 < front.length := (List.getElem?_eq_some_iff.1 h.place).1
      constructor
      case place => rw [List.getElem?_append_left hplace, h.place]
      case known => exact h.known
      case most =>
        intro r' hr' hknown
        rcases List.mem_append.1 hr' with hr' | hr'
        · exact h.most r' hr' hknown
        · obtain rfl := List.mem_singleton.1 hr'
          obtain ⟨b', hb', hle⟩ := hless (resolvable_iff.2 hknown)
          obtain rfl := Option.some.inj hb'
          exact hle
      case first =>
        intro j r' hj hat
        rw [List.getElem?_append_left (Nat.lt_trans hj hplace)] at hat
        exact h.first j r' hj hat

theorem Finds.bestFrom (recipes : List (Recipe ρ)) {front : List (Recipe ρ)} {best : Option (Nat × Recipe ρ)}
    (h : Finds s front best) : Finds s (front ++ recipes) (bestFrom s best front.length recipes) := by
  induction recipes generalizing front best with
  | nil => rwa [List.append_nil]
  | cons r rs ih =>
    have hrest := ih (h.better r)
    rwa [List.append_assoc, List.length_append] at hrest

/-- What is assigned after a recipe: what can be, is known, and is not among its parameters. -/
def remainingAfter (t : RecordType ρ) (s : Schema ε) (r : Recipe ρ) : List String :=
  t.settable.filter (fun p => !r.parameters.contains p && s.knows p)

end RecordType
end DirectoryAccess
