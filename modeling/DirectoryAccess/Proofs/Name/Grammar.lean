import DirectoryAccess.Proofs.Name.RoundTrip
/-!
# The grammar of names

What the text of a name looks like, and which name it denotes, without reading it from left to right.

A name is a row of parts with commas between them, a part is a type, an equals sign and a value, and a value is a row of
tokens (`Token.Spells`).  No token is a bare comma, so a part is one piece of the text (`DenotesPart.closed`), and a
piece has one row of tokens, the one that is read (`tokens_eq_ok_iff`).  What is left of these when the plain spaces at
both ends are gone is said by `Stripped`, which leaves no choice either (`stripped_iff`).

`parse_denotes` puts it together: a text is read exactly if the grammar has a name for it without the blanks around it,
as that name, and everything else is an invalid argument.
-/
namespace DirectoryAccess
namespace Name

/-! ## Tokens and parts -/

/-- The ways to write a token. -/
inductive Token.Spells : Token → List Char → Prop where
  | literal {c : Char} (h : c ∉ ['\\', ',', '+']) : Spells (.literal c) [c]
  | octet {a b : Char} {high low : Nat} (ha : Text.hexValue? a = some high) (hb : Text.hexValue? b = some low) :
      Spells (.octet (UInt8.ofNat (high * 16 + low))) ['\\', a, b]
  | escaped {c : Char} (h : Text.hexValue? c = none) : Spells (.escaped c) ['\\', c]

/-- Tokens one after another. -/
inductive SpellsAll : List Token → List Char → Prop where
  | nil : SpellsAll [] []
  | cons {t : Token} {ts : List Token} {cs ds : List Char} (ht : t.Spells cs) (hts : SpellsAll ts ds) :
      SpellsAll (t :: ts) (cs ++ ds)

/-- `core` is what is left of tokens without the plain spaces at both ends. -/
def Stripped (ts core : List Token) : Prop :=
  ∃ front back, ts = front ++ core ++ back ∧ (∀ t ∈ front, t = .literal ' ') ∧ (∀ t ∈ back, t = .literal ' ') ∧
    core.head? ≠ some (.literal ' ') ∧ core.getLast? ≠ some (.literal ' ')

/-- A type, an equals sign and a value.  The type is not blank and has no character that means something in a name; the
value is the text that the octets of its tokens are. -/
inductive DenotesPart : List Char → Rdn → Prop where
  | intro {type rest : List Char} {ts core : List Token} {value : String}
      (htype : ∀ c ∈ type, c ∉ typeMarks) (hblank : ∃ c ∈ type, Text.isBlank c = false)
      (hspells : SpellsAll ts rest) (hcore : Stripped ts core)
      (hvalue : core.flatMap Token.octets = Text.octets value) :
      DenotesPart (type ++ '=' :: rest) ⟨String.ofList (Text.trimChars type), value⟩

inductive DenotesParts : List Char → List Rdn → Prop where
  | one {cs : List Char} {r : Rdn} (h : DenotesPart cs r) : DenotesParts cs [r]
  | more {cs ds : List Char} {r : Rdn} {rs : List Rdn} (h : DenotesPart cs r) (hs : DenotesParts ds rs) :
      DenotesParts (cs ++ ',' :: ds) (r :: rs)

/-- The name that a text without blanks around it stands for. -/
inductive Denotes : List Char → Name → Prop where
  | root : Denotes [] root
  | parts {cs : List Char} {rs : List Rdn} (h : DenotesParts cs rs) : Denotes cs ⟨rs⟩

/-! ## Pieces that are not split -/

theorem hexValue?_of_mark {c : Char} (h : c = ',' ∨ c = '\\') : Text.hexValue? c = none := by
  rcases h with rfl | rfl <;> decide

theorem closed_of_hexValue? {c : Char} {n : Nat} (h : Text.hexValue? c = some n) : Closed [c] := by
  have hmark : ¬ (c = ',' ∨ c = '\\') := fun hc => by
    rw [hexValue?_of_mark hc] at h
    cases h
  exact closed_singleton (fun hc => hmark (.inl hc)) (fun hc => hmark (.inr hc))

theorem Token.Spells.closed {t : Token} {cs : List Char} (h : t.Spells cs) : Closed cs := by
  cases h with
  | literal hc =>
    simp only [List.mem_cons, List.not_mem_nil, or_false, not_or] at hc
    exact closed_singleton hc.2.1 hc.1
  | octet ha hb => exact (closed_escaped _).append (closed_of_hexValue? hb)
  | escaped => exact closed_escaped _

theorem SpellsAll.closed {ts : List Token} {cs : List Char} (h : SpellsAll ts cs) : Closed cs := by
  induction h with
  | nil => exact closed_nil
  | cons ht _ ih => exact ht.closed.append ih

theorem DenotesPart.closed {cs : List Char} {r : Rdn} (h : DenotesPart cs r) : Closed cs := by
  obtain ⟨htype, -, hspells, -, -⟩ := h
  have := (closed_type htype).append hspells.closed
  rwa [List.append_assoc, List.singleton_append] at this

/-- What follows the start of a piece is itself not split. -/
theorem pieces_of_append {front rest : List Char} (hfront : Closed front) (h : pieces (front ++ rest) = [front ++ rest]) :
    pieces rest = [rest] := by
  rw [hfront] at h
  cases hrest : pieces rest with
  | nil => exact absurd hrest (pieces_ne_nil rest)
  | cons p ps =>
    rw [hrest, glue] at h
    obtain ⟨hp, hps⟩ := List.cons.inj h
    rw [List.append_cancel_left hp, hps]

/-- A piece of a text is not split again, and the pieces with commas between them are the text. -/
theorem pieces_spec (cs : List Char) : (∀ p ∈ pieces cs, pieces p = [p]) ∧ [','].intercalate (pieces cs) = cs := by
  have hglue (front rest : List Char) (hfront : Closed front)
      (ih : (∀ p ∈ pieces rest, pieces p = [p]) ∧ [','].intercalate (pieces rest) = rest) :
      (∀ p ∈ glue front (pieces rest), pieces p = [p]) ∧
        [','].intercalate (glue front (pieces rest)) = front ++ rest := by
    obtain ⟨hunsplit, hjoin⟩ := ih
    cases hrest : pieces rest with
    | nil => exact absurd hrest (pieces_ne_nil rest)
    | cons p ps =>
      rw [hrest] at hunsplit hjoin
      refine ⟨fun q hq => ?_, ?_⟩
      · rcases List.mem_cons.1 hq with rfl | hq
        · rw [hfront, hunsplit p List.mem_cons_self, glue]
        · exact hunsplit q (List.mem_cons_of_mem _ hq)
      · rw [← hjoin, glue]
        cases ps with
        | nil => simp
        | cons p' ps => simp [List.intercalate_cons_cons]
  fun_induction pieces cs with
  | case1 => simp [pieces]
  | case2 cs ih =>
    obtain ⟨hunsplit, hjoin⟩ := ih
    refine ⟨fun p hp => ?_, ?_⟩
    · rcases List.mem_cons.1 hp with rfl | hp
      · rfl
      · exact hunsplit p hp
    · conv => rhs; rw [← hjoin]
      cases hrest : pieces cs with
      | nil => exact absurd hrest (pieces_ne_nil cs)
      | cons p ps => simp [List.intercalate_cons_cons]
  | case3 c cs ih => exact hglue ['\\', c] cs (closed_escaped c) ih
  | case4 c cs hcomma hescape ih =>
    by_cases hc : c = '\\'
    · -- A backslash here is the last character.
      cases cs with
      | nil =>
        subst hc
        simp [pieces, glue]
      | cons d ds => exact absurd rfl (hescape d ds hc)
    · exact hglue [c] cs (closed_singleton hcomma hc) ih

/-! ## Values -/

theorem Token.Spells.tokens_append {t : Token} {cs : List Char} (h : t.Spells cs) (rest : List Char) :
    tokens (cs ++ rest) = (tokens rest).map (t :: ·) := by
  cases h with
  | literal hc =>
    simp only [List.mem_cons, List.not_mem_nil, or_false, not_or] at hc
    rw [List.singleton_append, tokens.eq_def]
    simp [hc]
  | octet ha hb => simp [tokens, ha, hb]
  | escaped hc => simp [tokens, hc]

theorem SpellsAll.tokens_eq {ts : List Token} {cs : List Char} (h : SpellsAll ts cs) : tokens cs = .ok ts := by
  induction h with
  | nil => rfl
  | cons ht _ ih =>
    rw [ht.tokens_append, ih]
    rfl

theorem spellsAll_of_tokens (cs : List Char) {ts : List Token} (hpiece : pieces cs = [cs]) (h : tokens cs = .ok ts) :
    SpellsAll ts cs := by
  have hcons {t : Token} {front rest : List Char} {ts : List Token} (ht : t.Spells front)
      (ih : ∀ {ts : List Token}, pieces rest = [rest] → tokens rest = .ok ts → SpellsAll ts rest)
      (hpiece : pieces (front ++ rest) = [front ++ rest]) (h : (tokens rest).map (t :: ·) = .ok ts) :
      SpellsAll ts (front ++ rest) := by
    obtain ⟨ts', hts', rfl⟩ := map_eq_ok_iff.1 h
    exact .cons ht (ih (pieces_of_append ht.closed hpiece) hts')
  fun_induction tokens cs generalizing ts with
  | case1 =>
    cases h
    exact .nil
  | case2 => cases h
  | case3 => cases h
  | case4 c cs hc _ ih => exact hcons (.escaped hc) ih hpiece h
  | case5 => cases h
  | case6 => cases h
  | case7 a high ha b cs low hb _ ih => exact hcons (.octet ha hb) ih hpiece h
  | case8 c cs hplus hescape ih =>
    have hcomma : c ≠ ',' := by
      rintro rfl
      rw [pieces] at hpiece
      cases hpiece
    exact hcons (.literal (by simp [hplus, hescape, hcomma])) ih hpiece h

/-- A piece of a text has one row of tokens at most, the one that is read. -/
theorem tokens_eq_ok_iff {cs : List Char} (hpiece : pieces cs = [cs]) {ts : List Token} :
    tokens cs = .ok ts ↔ SpellsAll ts cs :=
  ⟨spellsAll_of_tokens cs hpiece, SpellsAll.tokens_eq⟩

theorem isPad_iff {t : Token} : t.isPad = true ↔ t = .literal ' ' := by
  cases t <;> simp [Token.isPad]

/-- Nothing else than what is read is left without the plain spaces at both ends. -/
theorem stripped_iff {ts core : List Token} : Stripped ts core ↔ trimTokens ts = core := by
  have hends (o : Option Token) : (∀ t ∈ o, t.isPad = false) ↔ o ≠ some (.literal ' ') := by
    cases o <;> simp [← isPad_iff]
  rw [show trimTokens ts = (ts.dropWhile Token.isPad).rdropWhile Token.isPad from rfl,
    Text.rdropWhile_dropWhile_eq_iff]
  simp only [Stripped, hends, isPad_iff]

theorem valueOf?_eq_some_iff {ts : List Token} {value : String} :
    valueOf? ts = some value ↔ ∃ core, Stripped ts core ∧ core.flatMap Token.octets = Text.octets value := by
  rw [valueOf?, Text.decode?_eq_some_iff]
  constructor
  · exact fun h => ⟨trimTokens ts, stripped_iff.2 rfl, h⟩
  · rintro ⟨core, hcore, h⟩
    rw [stripped_iff.1 hcore, h]

/-! ## Parts -/

theorem isEmpty_trimChars_eq_false_iff {type : List Char} :
    (Text.trimChars type).isEmpty = false ↔ ∃ c ∈ type, Text.isBlank c = false := by
  rw [List.isEmpty_eq_false_iff, ne_eq, Text.trimChars_eq_nil_iff]
  simp

/-- **A piece is read as the part that it denotes.** -/
theorem readRdn_eq_ok_iff_denotesPart {cs : List Char} (hpiece : pieces cs = [cs]) {r : Rdn} :
    readRdn cs = .ok r ↔ DenotesPart cs r := by
  rw [readRdn_eq_ok_iff]
  constructor
  · rintro ⟨type, rest, ts, value, htype, hempty, hts, hvalue, rfl⟩
    obtain ⟨hmarks, rfl⟩ := of_readType cs htype
    have hrest : pieces rest = [rest] :=
      pieces_of_append (closed_type hmarks) (by simpa using hpiece)
    obtain ⟨core, hcore, hoctets⟩ := valueOf?_eq_some_iff.1 hvalue
    exact .intro hmarks (isEmpty_trimChars_eq_false_iff.1 hempty) ((tokens_eq_ok_iff hrest).1 hts) hcore hoctets
  · rintro ⟨htype, hblank, hspells, hcore, hvalue⟩
    exact ⟨_, _, _, _, readType_append _ _ htype, isEmpty_trimChars_eq_false_iff.2 hblank, hspells.tokens_eq,
      valueOf?_eq_some_iff.2 ⟨_, hcore, hvalue⟩, rfl⟩

/-! ## Whole names -/

theorem DenotesParts.mapM_pieces {cs : List Char} {rs : List Rdn} (h : DenotesParts cs rs) :
    (pieces cs).mapM readRdn = .ok rs := by
  induction h with
  | one h =>
    have hpiece := pieces_of_closed h.closed
    rw [hpiece, List.mapM_cons, (readRdn_eq_ok_iff_denotesPart hpiece).2 h]
    rfl
  | more h _ ih =>
    have hpiece := pieces_of_closed h.closed
    rw [pieces_append_comma h.closed, List.mapM_cons, (readRdn_eq_ok_iff_denotesPart hpiece).2 h, ih]
    rfl

theorem denotesParts_of_mapM : ∀ (ps : List (List Char)) {rs : List Rdn}, ps ≠ [] → (∀ p ∈ ps, pieces p = [p]) →
    ps.mapM readRdn = .ok rs → DenotesParts ([','].intercalate ps) rs
  | [], _, hne, _, _ => absurd rfl hne
  | [p], rs, _, hpieces, h => by
    obtain ⟨r, rs', rfl, hr, hrs⟩ := mapM_eq_ok_cons h
    cases hrs
    rw [List.intercalate_singleton]
    exact .one ((readRdn_eq_ok_iff_denotesPart (hpieces p List.mem_cons_self)).1 hr)
  | p :: p' :: ps, rs, _, hpieces, h => by
    obtain ⟨r, rs', rfl, hr, hrs⟩ := mapM_eq_ok_cons h
    have hrest := denotesParts_of_mapM (p' :: ps) (by simp) (fun q hq => hpieces q (List.mem_cons_of_mem _ hq)) hrs
    rw [List.intercalate_cons_cons, List.append_assoc, List.singleton_append]
    exact .more ((readRdn_eq_ok_iff_denotesPart (hpieces p List.mem_cons_self)).1 hr) hrest

theorem mapM_pieces_eq_ok_iff {cs : List Char} {rs : List Rdn} :
    (pieces cs).mapM readRdn = .ok rs ↔ DenotesParts cs rs := by
  refine ⟨fun h => ?_, DenotesParts.mapM_pieces⟩
  obtain ⟨hunsplit, hjoin⟩ := pieces_spec cs
  have := denotesParts_of_mapM (pieces cs) (pieces_ne_nil cs) hunsplit h
  rwa [hjoin] at this

theorem read_eq_ok_iff_denotes {s : String} {n : Name} : read s = .ok n ↔ Denotes (Text.trimChars s.toList) n := by
  unfold read
  split
  · rename_i htrim
    rw [htrim]
    constructor
    · intro h
      cases h
      exact .root
    · intro h
      cases h with
      | root => rfl
      | parts h => exact absurd h.mapM_pieces (by simp [pieces, readRdn, readType, bind, Except.bind])
  · rename_i c cs htrim
    rw [htrim, map_eq_ok_iff]
    constructor
    · rintro ⟨rs, hrs, rfl⟩
      exact .parts (mapM_pieces_eq_ok_iff.1 hrs)
    · intro h
      cases h with
      | parts h => exact ⟨_, h.mapM_pieces, rfl⟩

theorem parse_eq_error {s : String} {fault : Fault} (h : parse s = .error fault) :
    ∃ cause, fault = .invalidArgument (.name s cause) := by
  unfold parse at h
  cases hread : read s with
  | ok n => rw [hread] at h; cases h
  | error cause =>
    rw [hread] at h
    exact ⟨cause, (Except.error.inj h).symm⟩

/-- **A text is read as the name that it denotes without the blanks around it**, and is an invalid argument if it
denotes none. -/
theorem parse_denotes (s : String) :
    (∀ n, parse s = .ok n ↔ Denotes (Text.trimChars s.toList) n) ∧
      ((¬ ∃ n, Denotes (Text.trimChars s.toList) n) ↔ ∃ cause, parse s = .error (.invalidArgument (.name s cause))) := by
  have hok (n : Name) : parse s = .ok n ↔ Denotes (Text.trimChars s.toList) n :=
    parse_eq_ok_iff.trans read_eq_ok_iff_denotes
  refine ⟨hok, ?_⟩
  constructor
  · intro hnone
    cases hparse : parse s with
    | ok n => exact absurd ⟨n, (hok n).1 hparse⟩ hnone
    | error fault =>
      obtain ⟨cause, rfl⟩ := parse_eq_error hparse
      exact ⟨cause, rfl⟩
  · rintro ⟨cause, hparse⟩ ⟨n, hn⟩
    rw [(hok n).2 hn] at hparse
    cases hparse

end Name
end DirectoryAccess
