import DirectoryAccess.Name.Reader
import DirectoryAccess.Name.Written
import DirectoryAccess.Proofs.Text.Blank
import DirectoryAccess.Proofs.Text.Octets
/-!
# Values of a name, written and read

Each character of a value is written as one token (`Token.ofChar`), and reading gives back those tokens
(`tokens_escapeValueChars`) and from them the value (`valueOf?_valueTokens`): a plain space never stands at either end,
so no token is dropped as padding.

At the end of a text the blanks that are written as themselves get lost.  What is left is again the written form of a
value, the one that `settledFrom` gives (`rdropWhile_escapeValueFrom`); it is the whole value exactly when the value ends
in a plain space or in no blank (`settledFrom_eq_self_iff`).
-/
namespace DirectoryAccess
namespace Name

/-! ## Tokens -/

/-- The token that a character of a value is written as. -/
def Token.ofChar (isFirst isLast : Bool) (c : Char) : Token :=
  if isNameSpecial c then .escaped c
  else if c.toNat = 0 then .octet 0
  else if c = ' ' && (isFirst || isLast) then .octet 0x20
  else if c = '#' && isFirst then .octet 0x23
  else .literal c

/-- The tokens of the rest of a value. -/
def valueTokens (isFirst : Bool) : List Char → List Token
  | [] => []
  | c :: cs => Token.ofChar isFirst cs.isEmpty c :: valueTokens false cs

theorem isNameSpecial_iff {c : Char} : isNameSpecial c = true ↔ c ∈ [',', '+', '"', '\\', '<', '>', ';', '='] := by
  simp [isNameSpecial, or_assoc]

theorem hexValue?_of_isNameSpecial {c : Char} (h : isNameSpecial c = true) : Text.hexValue? c = none := by
  simp only [isNameSpecial_iff, List.mem_cons, List.not_mem_nil, or_false] at h
  rcases h with rfl | rfl | rfl | rfl | rfl | rfl | rfl | rfl <;> decide

theorem tokens_escapeValueChar (isFirst isLast : Bool) (c : Char) (rest : List Char) :
    tokens (escapeValueChar isFirst isLast c ++ rest) =
      (tokens rest).map (Token.ofChar isFirst isLast c :: ·) := by
  unfold escapeValueChar Token.ofChar
  split
  · rename_i h
    simp [tokens, hexValue?_of_isNameSpecial h]
  rename_i h
  have hplus : c ≠ '+' := fun e => h (by rw [e]; decide)
  have hescape : c ≠ '\\' := fun e => h (by rw [e]; decide)
  split
  · simp [tokens, Text.hexValue?]
  split
  · simp [tokens, Text.hexValue?]
  split
  · simp [tokens, Text.hexValue?]
  · rw [List.singleton_append, tokens.eq_def]
    simp only [if_neg hplus, if_neg hescape]

theorem tokens_escapeValueFrom : ∀ (cs : List Char) (isFirst : Bool),
    tokens (escapeValueFrom isFirst cs) = .ok (valueTokens isFirst cs)
  | [], _ => rfl
  | c :: cs, isFirst => by
    rw [escapeValueFrom, tokens_escapeValueChar, tokens_escapeValueFrom cs false]
    rfl

theorem tokens_escapeValueChars (cs : List Char) : tokens (escapeValueChars cs) = .ok (valueTokens true cs) :=
  tokens_escapeValueFrom cs true

/-! ## From the tokens to the value -/

theorem Token.octets_ofChar (isFirst isLast : Bool) (c : Char) :
    (Token.ofChar isFirst isLast c).octets = String.utf8EncodeChar c := by
  unfold Token.ofChar
  split
  · rfl
  split
  · rename_i h
    rw [show c = '\x00' from Char.toNat_inj.1 h]
    rfl
  split
  · rename_i h
    simp only [Bool.and_eq_true, decide_eq_true_eq] at h
    rw [h.1]
    rfl
  split
  · rename_i h
    simp only [Bool.and_eq_true, decide_eq_true_eq] at h
    rw [h.1]
    rfl
  · rfl

theorem flatMap_octets_valueTokens : ∀ (cs : List Char) (isFirst : Bool),
    (valueTokens isFirst cs).flatMap Token.octets = Text.octetsOf cs
  | [], _ => rfl
  | c :: cs, isFirst => by
    rw [valueTokens, List.flatMap_cons, Token.octets_ofChar, flatMap_octets_valueTokens cs false]
    rfl

/-- At an end of a value, no token is a plain space. -/
theorem Token.isPad_ofChar {isFirst isLast : Bool} (h : isFirst = true ∨ isLast = true) (c : Char) :
    (Token.ofChar isFirst isLast c).isPad = false := by
  have hor : (isFirst || isLast) = true := by simpa using h
  unfold Token.ofChar
  split
  · rfl
  split
  · rfl
  split
  · rfl
  rename_i hs
  split
  · rfl
  · simpa [hor, Token.isPad] using hs

theorem getLast?_valueTokens : ∀ (cs : List Char) (isFirst : Bool), ∀ t ∈ (valueTokens isFirst cs).getLast?,
    t.isPad = false
  | [], _, _, ht => by cases ht
  | [c], isFirst, t, ht => by
    simp only [valueTokens, List.getLast?_singleton, Option.mem_def, Option.some.injEq] at ht
    rw [← ht]
    exact Token.isPad_ofChar (.inr rfl) c
  | c :: d :: cs, isFirst, t, ht => by
    rw [valueTokens, valueTokens, List.getLast?_cons_cons, ← valueTokens] at ht
    exact getLast?_valueTokens (d :: cs) false t ht

theorem trimTokens_valueTokens (cs : List Char) : trimTokens (valueTokens true cs) = valueTokens true cs := by
  have hhead : (valueTokens true cs).dropWhile Token.isPad = valueTokens true cs := by
    rw [Text.dropWhile_eq_self_iff_head?]
    cases cs with
    | nil => simp [valueTokens]
    | cons c cs =>
      intro t ht
      simp only [valueTokens, List.head?_cons, Option.mem_def, Option.some.injEq] at ht
      rw [← ht]
      exact Token.isPad_ofChar (.inl rfl) c
  have hlast := (Text.rdropWhile_eq_self_iff_getLast? Token.isPad _).2 (getLast?_valueTokens cs true)
  rw [trimTokens, hhead]
  exact hlast

/-- **The tokens of a value stand for the value.** -/
theorem valueOf?_valueTokens (s : String) : valueOf? (valueTokens true s.toList) = some s := by
  rw [valueOf?, trimTokens_valueTokens, flatMap_octets_valueTokens, Text.decode?_eq_some_iff]
  rfl

/-! ## Blanks at the end -/

/-- A blank that is written as itself. -/
def isBare (isFirst isLast : Bool) (c : Char) : Bool := Text.isBlank c && !(c = ' ' && (isFirst || isLast))

/-- What is left of the rest of a value when the blanks at its end that are written as themselves are gone. -/
def settledFrom (isFirst : Bool) : List Char → List Char
  | [] => []
  | c :: cs =>
    match settledFrom false cs with
    | [] => if isBare isFirst cs.isEmpty c then [] else [c]
    | d :: ds => c :: d :: ds

theorem not_isBlank_of_isNameSpecial {c : Char} (h : isNameSpecial c = true) : Text.isBlank c = false := by
  simp only [isNameSpecial_iff, List.mem_cons, List.not_mem_nil, or_false] at h
  rcases h with rfl | rfl | rfl | rfl | rfl | rfl | rfl | rfl <;> decide

theorem escapeValueChar_of_isBare {isFirst isLast : Bool} {c : Char} (h : isBare isFirst isLast c = true) :
    escapeValueChar isFirst isLast c = [c] := by
  simp only [isBare, Bool.and_eq_true, Bool.not_eq_true'] at h
  obtain ⟨hb, hs⟩ := h
  unfold escapeValueChar
  rw [if_neg, if_neg, if_neg, if_neg]
  · intro hc
    simp only [Bool.and_eq_true, decide_eq_true_eq] at hc
    rw [hc.1] at hb
    exact absurd hb (by decide)
  · simp [hs]
  · intro hc
    rw [show c = '\x00' from Char.toNat_inj.1 hc] at hb
    exact absurd hb (by decide)
  · intro hc
    rw [not_isBlank_of_isNameSpecial hc] at hb
    cases hb

theorem rdropWhile_escapeValueChar {isFirst isLast : Bool} {c : Char} (h : isBare isFirst isLast c = false) :
    (escapeValueChar isFirst isLast c).rdropWhile Text.isBlank = escapeValueChar isFirst isLast c := by
  have hdigits (a b : Char) (hb : Text.isBlank b = false) : ∀ d ∈ ['\\', a, b].getLast?, Text.isBlank d = false := by
    simp [hb]
  rw [Text.rdropWhile_eq_self_iff_getLast?]
  unfold escapeValueChar
  split
  · rename_i hc
    simpa using not_isBlank_of_isNameSpecial hc
  split
  · exact hdigits '0' '0' (by decide)
  split
  · exact hdigits '2' '0' (by decide)
  rename_i hs
  split
  · exact hdigits '2' '3' (by decide)
  · intro d hd
    rw [List.getLast?_singleton, Option.mem_def, Option.some.injEq] at hd
    rw [← hd]
    simpa [isBare, hs] using h

theorem escapeValueChar_ne_nil (isFirst isLast : Bool) (c : Char) : escapeValueChar isFirst isLast c ≠ [] := by
  unfold escapeValueChar
  repeat' split
  all_goals simp

/-- A character that is not lost at the end of a text is written there as if no other had followed it. -/
theorem escapeValueChar_isLast {isFirst isLast : Bool} {c : Char} (h : isBare isFirst isLast c = false) :
    escapeValueChar isFirst isLast c = escapeValueChar isFirst true c := by
  by_cases hc : c = ' '
  · subst hc
    have : (isFirst || isLast) = true := by
      cases hor : (isFirst || isLast) with
      | true => rfl
      | false =>
        rw [isBare, hor] at h
        exact absurd h (by decide)
    simp [escapeValueChar, this]
  · simp [escapeValueChar, hc]

/-- **What trimming leaves of a written value is a written value.** -/
theorem rdropWhile_escapeValueFrom : ∀ (cs : List Char) (isFirst : Bool),
    (escapeValueFrom isFirst cs).rdropWhile Text.isBlank = escapeValueFrom isFirst (settledFrom isFirst cs)
  | [], _ => rfl
  | c :: cs, isFirst => by
    rw [escapeValueFrom, Text.rdropWhile_append, rdropWhile_escapeValueFrom cs false, settledFrom]
    cases hs : settledFrom false cs with
    | nil =>
      rw [if_pos (show escapeValueFrom false [] = [] from rfl)]
      cases hb : isBare isFirst cs.isEmpty c with
      | true =>
        simp only [isBare, Bool.and_eq_true] at hb
        rw [escapeValueChar_of_isBare (by simpa [isBare] using hb), List.rdropWhile_singleton, if_pos hb.1]
        rfl
      | false =>
        rw [rdropWhile_escapeValueChar hb, escapeValueChar_isLast hb]
        simp [escapeValueFrom]
    | cons d ds =>
      have hne : cs.isEmpty = false := by
        cases cs with
        | nil => cases hs
        | cons _ _ => rfl
      rw [if_neg, hne]
      · rfl
      · rw [escapeValueFrom]
        exact fun h => escapeValueChar_ne_nil _ _ _ (List.append_eq_nil_iff.1 h).1

theorem settledFrom_eq_self_iff : ∀ (cs : List Char) (isFirst : Bool),
    settledFrom isFirst cs = cs ↔ ∀ c ∈ cs.getLast?, Text.isBlank c = true → c = ' '
  | [], _ => by simp [settledFrom]
  | [c], isFirst => by
    simp only [settledFrom, isBare, List.isEmpty_nil, Bool.or_true, Bool.and_true, List.getLast?_singleton,
      Option.mem_def, Option.some.injEq, forall_eq']
    by_cases hc : c = ' ' <;> simp [hc]
  | c :: d :: cs, isFirst => by
    rw [List.getLast?_cons_cons, ← settledFrom_eq_self_iff (d :: cs) false, settledFrom]
    cases hs : settledFrom false (d :: cs) with
    | nil =>
      simp only [List.isEmpty_cons]
      split <;> simp
    | cons e es => simp

end Name
end DirectoryAccess
