import DirectoryAccess.Action
/-!
# Steps in turn

A batch takes a step for each member, from left to right, and ends with the first that fails.  `InTurn` says what it is
for all steps to succeed: each starts where the one before it ended.  A batch `StopsAtFirst` if it succeeds exactly then,
and otherwise fails exactly as the first step that does, in the state in which that step leaves things; nothing behind it
has been begun.  Any batch that is defined by recursion on its members does (`stopsAtFirst_of_cons`).
-/
namespace DirectoryAccess

variable {σ α β γ : Type}

namespace Action

/-- Two actions in a row have a result when the first has one and the second has one on that. -/
theorem exec_bind_eq_ok_iff {a : Action σ α} {f : α → Action σ β} {s s'' : σ} {y : β} :
    (a >>= f).exec s = (.ok y, s'') ↔ ∃ x s', a.exec s = (.ok x, s') ∧ (f x).exec s' = (.ok y, s'') := by
  rw [exec_bind]
  rcases a.exec s with ⟨fault | x, s'⟩
  · constructor
    · intro h
      cases h
    · rintro ⟨x, s', ha, -⟩
      cases ha
  · constructor
    · intro h
      exact ⟨x, s', rfl, h⟩
    · rintro ⟨x, s', ha, h⟩
      cases ha
      exact h

/-- Two actions in a row fail when the first does, or when it has a result and the second fails on that. -/
theorem exec_bind_eq_error_iff {a : Action σ α} {f : α → Action σ β} {s s'' : σ} {fault : Fault} :
    (a >>= f).exec s = (.error fault, s'') ↔
      a.exec s = (.error fault, s'') ∨ ∃ x s', a.exec s = (.ok x, s') ∧ (f x).exec s' = (.error fault, s'') := by
  rw [exec_bind]
  rcases a.exec s with ⟨fault' | x, s'⟩
  · constructor
    · intro h
      cases h
      exact .inl rfl
    · rintro (h | ⟨x, s', ha, -⟩)
      · cases h
        rfl
      · cases ha
  · constructor
    · intro h
      exact .inr ⟨x, s', rfl, h⟩
    · rintro (h | ⟨x, s', ha, h⟩)
      · cases h
      · cases ha
        exact h

end Action

/-- The steps for all members succeed one after another, with these results, and lead from one state to the other. -/
inductive InTurn (step : α → Action σ β) : σ → List α → List β → σ → Prop
  | done (s : σ) : InTurn step s [] [] s
  | next {s s' s'' : σ} {a : α} {b : β} {as : List α} {bs : List β} :
      (step a).exec s = (.ok b, s') → InTurn step s' as bs s'' → InTurn step s (a :: as) (b :: bs) s''

theorem inTurn_cons_iff {step : α → Action σ β} {s s'' : σ} {a : α} {as : List α} {cs : List β} :
    InTurn step s (a :: as) cs s'' ↔
      ∃ b bs s', cs = b :: bs ∧ (step a).exec s = (.ok b, s') ∧ InTurn step s' as bs s'' := by
  constructor
  · intro h
    cases h with
    | next ha has => exact ⟨_, _, _, rfl, ha, has⟩
  · rintro ⟨b, bs, s', rfl, ha, has⟩
    exact .next ha has

/-- The batch succeeds exactly if all steps do, with what their results come to.  It fails exactly as the first step that
does, and leaves the state as that step left it. -/
structure StopsAtFirst (step : α → Action σ β) (result : List β → γ) (batch : List α → Action σ γ) : Prop where
  ok_iff : ∀ {as : List α} {s s' : σ} {c : γ},
    (batch as).exec s = (.ok c, s') ↔ ∃ bs, InTurn step s as bs s' ∧ c = result bs
  error_iff : ∀ {as : List α} {s s'' : σ} {fault : Fault},
    (batch as).exec s = (.error fault, s'') ↔
      ∃ front a back bs s', as = front ++ a :: back ∧ InTurn step s front bs s' ∧
        (step a).exec s' = (.error fault, s'')

section

variable {step : α → Action σ β} {result : List β → γ} {batch : List α → Action σ γ}

/-- A batch that takes one step, then goes on with the other members, and puts the two results together. -/
theorem stopsAtFirst_of_cons (put : β → γ → γ) (hresult : ∀ b bs, result (b :: bs) = put b (result bs))
    (hnil : batch [] = pure (result []))
    (hcons : ∀ a as, batch (a :: as) = do
      let b ← step a
      let c ← batch as
      return put b c) : StopsAtFirst step result batch where
  ok_iff := by
    intro as
    induction as with
    | nil =>
      intro s s' c
      rw [hnil, Action.exec_pure]
      constructor
      · intro h
        cases h
        exact ⟨[], .done s, rfl⟩
      · rintro ⟨bs, ⟨⟩, rfl⟩
        rfl
    | cons a as ih =>
      intro s s'' c
      simp only [hcons, Action.exec_bind_eq_ok_iff, ih, Action.exec_pure]
      constructor
      · rintro ⟨b, s', ha, _, _, ⟨bs, hbs, rfl⟩, h⟩
        cases h
        exact ⟨b :: bs, .next ha hbs, (hresult b bs).symm⟩
      · rintro ⟨cs, hcs, rfl⟩
        obtain ⟨b, bs, s', rfl, ha, hbs⟩ := inTurn_cons_iff.1 hcs
        exact ⟨b, s', ha, result bs, s'', ⟨bs, hbs, rfl⟩, by rw [hresult]⟩
  error_iff := by
    intro as
    induction as with
    | nil =>
      intro s s'' fault
      rw [hnil, Action.exec_pure]
      constructor
      · intro h
        cases h
      · rintro ⟨front, a, back, bs, s', h, -, -⟩
        cases front <;> cases h
    | cons a as ih =>
      intro s s'' fault
      simp only [hcons, Action.exec_bind_eq_error_iff, ih, Action.exec_pure]
      constructor
      · rintro (ha | ⟨b, s', ha, ⟨front, x, back, bs, t, rfl, hfront, hx⟩ | ⟨_, _, -, h⟩⟩)
        · exact ⟨[], a, as, [], s, rfl, .done s, ha⟩
        · exact ⟨a :: front, x, back, b :: bs, t, rfl, .next ha hfront, hx⟩
        · cases h
      · rintro ⟨front, x, back, bs, t, has, hfront, hx⟩
        cases hfront with
        | done =>
          obtain ⟨rfl, rfl⟩ := List.cons.inj has
          exact .inl hx
        | next ha hrest =>
          obtain ⟨rfl, rfl⟩ := List.cons.inj has
          exact .inr ⟨_, _, ha, .inl ⟨_, x, back, _, t, rfl, hrest, hx⟩⟩

/-- A batch without a result of its own. -/
theorem stopsAtFirst_of_seq {batch : List α → Action σ Unit} (hnil : batch [] = pure ())
    (hcons : ∀ a as, batch (a :: as) = do
      let _ ← step a
      batch as) : StopsAtFirst step (fun _ => ()) batch := by
  refine stopsAtFirst_of_cons (fun _ _ => ()) (fun _ _ => rfl) hnil (fun a as => ?_)
  exact (hcons a as).trans (congrArg _ (funext (fun _ => (bind_pure (batch as)).symm)))

end

end DirectoryAccess
