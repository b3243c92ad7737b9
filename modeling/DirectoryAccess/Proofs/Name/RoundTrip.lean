import DirectoryAccess.Fault
import DirectoryAccess.Form.Entry
import DirectoryAccess.Proofs.Name.Value
import DirectoryAccess.Proofs.Outcome
/-!
# Reading the text of a name

Which names are read back from their own text, and as what.

A written part is closed: no comma in it separates, and its last character escapes nothing that follows
(`Closed`).  So the pieces of a written name are its written parts, and each is read as the part it is written from if
its type is plain (`PlainType`), as the type of every part that was read is.

The blanks around the whole text are dropped before that.  In front there are none, since a plain type starts with none;
at the end they are those of the last value.  So the text of a name with plain types is read as `Name.settled`, which
differs from the name in the last value only and exactly when that value ends in a blank other than the plain space.
-/
namespace DirectoryAccess

/-- The characters that mean something in a written name where a type stands. -/
def typeMarks : List Char := ['=', ',', '+', '\\']

/-- A type that is read as it is written. -/
def PlainType (type : String) : Prop := type ≠ "" ∧ Text.trim type = type ∧ ∀ c ∈ type.toList, c ∉ typeMarks

instance (type : String) : Decidable (PlainType type) :=
  decidable_of_iff (type ≠ "" ∧ Text.trim type = type ∧ type.toList.all (· ∉ typeMarks) = true) (by simp [PlainType])

theorem not_mem_typeMarks {c : Char} : c ∉ typeMarks ↔ c ≠ '=' ∧ c ≠ ',' ∧ c ≠ '+' ∧ c ≠ '\\' := by
  simp [typeMarks]

namespace PlainType

variable {type : String}

theorem toList_ne_nil (h : PlainType type) : type.toList ≠ [] := fun he => h.1 (String.toList_eq_nil_iff.1 he)

theorem trimChars_toList (h : PlainType type) : Text.trimChars type.toList = type.toList := by
  rw [← Text.toList_trim, h.2.1]

end PlainType

namespace Name

/-! ## Pieces -/

/-- Text that stays in one piece whatever follows it. -/
def Closed (cs : List Char) : Prop := ∀ rest, pieces (cs ++ rest) = glue cs (pieces rest)

theorem glue_ne_nil (front : List Char) (ps : List (List Char)) : glue front ps ≠ [] := by
  cases ps <;> simp [glue]

theorem glue_append (as bs : List Char) (ps : List (List Char)) : glue as (glue bs ps) = glue (as ++ bs) ps := by
  cases ps <;> simp [glue]

theorem pieces_ne_nil (cs : List Char) : pieces cs ≠ [] := by
  unfold pieces
  split
  · simp
  · simp
  · exact glue_ne_nil _ _
  · exact glue_ne_nil _ _

theorem closed_nil : Closed [] := fun rest => by
  cases h : pieces rest with
  | nil => exact absurd h (pieces_ne_nil rest)
  | cons p ps => simp [glue, h]

theorem Closed.append {as bs : List Char} (ha : Closed as) (hb : Closed bs) : Closed (as ++ bs) := fun rest => by
  rw [List.append_assoc, ha, hb, glue_append]

theorem closed_singleton {c : Char} (hcomma : c ≠ ',') (hescape : c ≠ '\\') : Closed [c] := fun rest => by
  rw [List.singleton_append, pieces]
  · exact hcomma
  · intro d ds h
    exact absurd h hescape

theorem closed_escaped (c : Char) : Closed ['\\', c] := fun rest => by
  simp [pieces]

theorem closed_of_forall : ∀ cs : List Char, (∀ c ∈ cs, c ≠ ',' ∧ c ≠ '\\') → Closed cs
  | [], _ => closed_nil
  | c :: cs, h =>
    have hc := h c List.mem_cons_self
    (closed_singleton hc.1 hc.2).append (closed_of_forall cs (fun d hd => h d (List.mem_cons_of_mem _ hd)))

theorem closed_escapeValueChar (isFirst isLast : Bool) (c : Char) : Closed (escapeValueChar isFirst isLast c) := by
  unfold escapeValueChar
  split
  · exact closed_escaped c
  rename_i h
  split
  · exact (closed_escaped '0').append (closed_singleton (by decide) (by decide))
  split
  · exact (closed_escaped '2').append (closed_singleton (by decide) (by decide))
  split
  · exact (closed_escaped '2').append (closed_singleton (by decide) (by decide))
  · exact closed_singleton (fun e => h (by rw [e]; decide)) (fun e => h (by rw [e]; decide))

theorem closed_escapeValueFrom : ∀ (cs : List Char) (isFirst : Bool), Closed (escapeValueFrom isFirst cs)
  | [], _ => closed_nil
  | c :: cs, isFirst => (closed_escapeValueChar isFirst cs.isEmpty c).append (closed_escapeValueFrom cs false)

theorem closed_type {type : List Char} (h : ∀ c ∈ type, c ∉ typeMarks) : Closed (type ++ ['=']) := by
  have htype : Closed type := closed_of_forall _ (fun c hc => by
    obtain ⟨-, hcomma, -, hescape⟩ := not_mem_typeMarks.1 (h c hc)
    exact ⟨hcomma, hescape⟩)
  exact htype.append (closed_singleton (by decide) (by decide))

theorem closed_rdn {r : Rdn} (h : ∀ c ∈ r.type.toList, c ∉ typeMarks) : Closed r.chars := by
  have := (closed_type h).append (closed_escapeValueFrom r.value.toList true)
  rwa [List.append_assoc, List.singleton_append] at this

theorem pieces_of_closed {p : List Char} (h : Closed p) : pieces p = [p] := by
  have := h []
  simpa [pieces, glue] using this

theorem pieces_append_comma {p : List Char} (h : Closed p) (rest : List Char) :
    pieces (p ++ ',' :: rest) = p :: pieces rest := by
  rw [h, pieces]
  simp [glue]

theorem chars_cons_cons (r r' : Rdn) (rs : List Rdn) : chars ⟨r :: r' :: rs⟩ = r.chars ++ ',' :: chars ⟨r' :: rs⟩ := by
  rw [chars, List.map_cons, List.map_cons, List.intercalate_cons_cons, List.append_assoc, List.singleton_append]
  rfl

theorem pieces_chars : ∀ (r : Rdn) (rs : List Rdn), (∀ r' ∈ r :: rs, Closed r'.chars) →
    pieces (chars ⟨r :: rs⟩) = (r :: rs).map Rdn.chars
  | r, [], h => by
    have hr := pieces_of_closed (h r List.mem_cons_self)
    simpa [chars, List.intercalate] using hr
  | r, r' :: rs, h => by
    rw [chars_cons_cons, pieces_append_comma (h r List.mem_cons_self),
      pieces_chars r' rs (fun q hq => h q (List.mem_cons_of_mem _ hq))]
    rfl

/-! ## Parts -/

theorem readType_append : ∀ (type rest : List Char), (∀ c ∈ type, c ∉ typeMarks) →
    readType (type ++ '=' :: rest) = .ok (type, rest)
  | [], rest, _ => by simp [readType]
  | c :: type, rest, h => by
    have hc := not_mem_typeMarks.1 (h c List.mem_cons_self)
    rw [List.cons_append, readType, readType_append type rest (fun d hd => h d (List.mem_cons_of_mem _ hd))]
    simp [hc, Except.map]

theorem of_readType : ∀ (cs : List Char) {type rest : List Char}, readType cs = .ok (type, rest) →
    (∀ c ∈ type, c ∉ typeMarks) ∧ cs = type ++ '=' :: rest
  | [], _, _, h => by cases h
  | c :: cs, type, rest, h => by
    rw [readType] at h
    split at h
    · rename_i heq
      cases h
      simp [heq]
    rename_i heq
    split at h
    · cases h
    rename_i hmark
    obtain ⟨⟨type', rest'⟩, hr, hp⟩ := map_eq_ok_iff.1 h
    cases hp
    obtain ⟨hmem, rfl⟩ := of_readType cs hr
    refine ⟨fun d hd => ?_, rfl⟩
    rcases List.mem_cons.1 hd with rfl | hd
    · simpa [typeMarks, heq, or_assoc] using hmark
    · exact hmem d hd

/-- A part is read where its type, its tokens and its value are. -/
theorem readRdn_eq_ok_iff {cs : List Char} {r : Rdn} :
    readRdn cs = .ok r ↔ ∃ type rest ts value, readType cs = .ok (type, rest) ∧
      (Text.trimChars type).isEmpty = false ∧ tokens rest = .ok ts ∧ valueOf? ts = some value ∧
        r = ⟨String.ofList (Text.trimChars type), value⟩ := by
  constructor
  · intro h
    obtain ⟨⟨type, rest⟩, htype, h⟩ := bind_eq_ok_iff.1 h
    simp only at h
    split at h
    · cases h
    rename_i hempty
    obtain ⟨ts, hts, h⟩ := bind_eq_ok_iff.1 h
    split at h
    · rename_i value hvalue
      exact ⟨type, rest, ts, value, htype, by simpa using hempty, hts, hvalue, (Except.ok.inj h).symm⟩
    · cases h
  · rintro ⟨type, rest, ts, value, htype, hempty, hts, hvalue, rfl⟩
    simp only [readRdn, htype, hts, bind, Except.bind, hempty, hvalue, Bool.false_eq_true, if_false]
    rfl

theorem readRdn_chars {r : Rdn} (h : PlainType r.type) : readRdn r.chars = .ok r := by
  have hempty : r.type.toList.isEmpty = false := List.isEmpty_eq_false_iff.2 h.toList_ne_nil
  refine readRdn_eq_ok_iff.2 ⟨_, _, _, r.value, readType_append _ _ h.2.2, ?_, tokens_escapeValueChars _,
    valueOf?_valueTokens _, ?_⟩
  · rw [h.trimChars_toList, hempty]
  · rw [h.trimChars_toList, String.ofList_toList]

theorem plainType_of_readRdn {cs : List Char} {r : Rdn} (h : readRdn cs = .ok r) : PlainType r.type := by
  obtain ⟨type, rest, ts, value, htype, hempty, -, -, rfl⟩ := readRdn_eq_ok_iff.1 h
  refine ⟨?_, ?_, ?_⟩
  · intro he
    rw [String.ofList_eq_empty_iff] at he
    rw [he] at hempty
    cases hempty
  · rw [← String.toList_inj, Text.toList_trim, String.toList_ofList, Text.trimChars_trimChars]
  · intro c hc
    rw [String.toList_ofList] at hc
    exact (of_readType cs htype).1 c (Text.mem_of_mem_trimChars hc)

/-! ## Whole names -/

theorem mapM_readRdn : ∀ rs : List Rdn, (∀ r ∈ rs, PlainType r.type) → (rs.map Rdn.chars).mapM readRdn = .ok rs
  | [], _ => rfl
  | r :: rs, h => by
    rw [List.map_cons, List.mapM_cons, readRdn_chars (h r List.mem_cons_self),
      mapM_readRdn rs (fun q hq => h q (List.mem_cons_of_mem _ hq))]
    rfl

theorem plainType_of_mapM_readRdn : ∀ (ps : List (List Char)) {rs : List Rdn}, ps.mapM readRdn = .ok rs →
    ∀ r ∈ rs, PlainType r.type
  | [], rs, h => by cases h; simp
  | p :: ps, rs, h => by
    obtain ⟨r, rs', rfl, hr, hrs⟩ := mapM_eq_ok_cons h
    intro q hq
    rcases List.mem_cons.1 hq with rfl | hq
    · exact plainType_of_readRdn hr
    · exact plainType_of_mapM_readRdn ps hrs q hq

/-- Every part of a name that was read has a plain type. -/
theorem plainType_of_read {s : String} {n : Name} (h : read s = .ok n) : ∀ r ∈ n.rdns, PlainType r.type := by
  unfold read at h
  split at h
  · cases h
    simp [root]
  · obtain ⟨rs, hrs, rfl⟩ := map_eq_ok_iff.1 h
    exact plainType_of_mapM_readRdn _ hrs

/-! ## What a name is read back as -/

/-- The parts with what is left of the last value when the blanks at the end of the text are gone. -/
def settledRdns : List Rdn → List Rdn
  | [] => []
  | [r] => [⟨r.type, String.ofList (settledFrom true r.value.toList)⟩]
  | r :: r' :: rs => r :: settledRdns (r' :: rs)

/-- The name that the text of a name is read as. -/
def settled (n : Name) : Name := ⟨settledRdns n.rdns⟩

/-- The last value ends in no blank but a plain space. -/
def EndsPlainly (n : Name) : Prop :=
  ∀ r ∈ n.rdns.getLast?, ∀ c ∈ r.value.toList.getLast?, Text.isBlank c = true → c = ' '

theorem settledRdns_eq_self_iff : ∀ rs : List Rdn, settledRdns rs = rs ↔ EndsPlainly ⟨rs⟩
  | [] => by simp [settledRdns, EndsPlainly]
  | [r] => by
    have hr : String.ofList (settledFrom true r.value.toList) = r.value ↔
        settledFrom true r.value.toList = r.value.toList := by
      rw [← String.toList_inj, String.toList_ofList]
    have hlast := settledFrom_eq_self_iff r.value.toList true
    simp only [Option.mem_def] at hlast
    simp only [settledRdns, EndsPlainly, List.getLast?_singleton, Option.mem_def, Option.some.injEq, forall_eq',
      List.cons.injEq, and_true]
    rw [← hlast, ← hr]
    constructor
    · exact fun h => congrArg Rdn.value h
    · exact fun h => by rw [h]
  | r :: r' :: rs => by
    have ih := settledRdns_eq_self_iff (r' :: rs)
    simp only [EndsPlainly] at ih
    simp only [settledRdns, EndsPlainly, List.cons.injEq, true_and, List.getLast?_cons_cons, ih]

theorem settled_eq_self_iff (n : Name) : n.settled = n ↔ n.EndsPlainly := by
  rw [show n.EndsPlainly ↔ settledRdns n.rdns = n.rdns from (settledRdns_eq_self_iff n.rdns).symm]
  cases n
  simp [settled]

theorem plainType_settledRdns : ∀ rs : List Rdn, (∀ r ∈ rs, PlainType r.type) → ∀ r ∈ settledRdns rs, PlainType r.type
  | [], _ => by simp [settledRdns]
  | [r], h => by simpa [settledRdns] using h r List.mem_cons_self
  | r :: r' :: rs, h => by
    have ih := plainType_settledRdns (r' :: rs) (fun q hq => h q (List.mem_cons_of_mem _ hq))
    intro q hq
    rcases List.mem_cons.1 hq with rfl | hq
    · exact h q List.mem_cons_self
    · exact ih q hq

theorem rdropWhile_chars : ∀ rs : List Rdn, (chars ⟨rs⟩).rdropWhile Text.isBlank = chars ⟨settledRdns rs⟩
  | [] => rfl
  | [r] => by
    simp only [chars, settledRdns, List.map_cons, List.map_nil, List.intercalate_singleton, Rdn.chars,
      escapeValueChars, String.toList_ofList]
    rw [Text.rdropWhile_append_cons _ _ _ (by decide), rdropWhile_escapeValueFrom]
  | r :: r' :: rs => by
    rw [chars_cons_cons, Text.rdropWhile_append_cons _ _ _ (by decide), rdropWhile_chars (r' :: rs), settledRdns]
    cases rs <;> rw [settledRdns, chars_cons_cons]

theorem chars_cons (r : Rdn) (rs : List Rdn) : ∃ rest, chars ⟨r :: rs⟩ = r.type.toList ++ '=' :: rest := by
  cases rs with
  | nil =>
    rw [chars, List.map_singleton, List.intercalate_singleton, Rdn.chars]
    exact ⟨_, rfl⟩
  | cons r' rs =>
    rw [chars_cons_cons, Rdn.chars, List.append_assoc]
    exact ⟨_, rfl⟩

theorem dropWhile_chars {r : Rdn} (rs : List Rdn) (h : PlainType r.type) :
    (chars ⟨r :: rs⟩).dropWhile Text.isBlank = chars ⟨r :: rs⟩ := by
  obtain ⟨rest, hrest⟩ := chars_cons r rs
  rw [hrest, Text.dropWhile_eq_self_iff_head?]
  intro c hc
  refine (Text.trimChars_eq_self_iff.1 h.trimChars_toList).1 c ?_
  cases ht : r.type.toList with
  | nil => exact absurd ht h.toList_ne_nil
  | cons d ds => rwa [ht] at hc

/-- **The text of a name with plain types is read as the settled name.** -/
theorem read_text {n : Name} (h : ∀ r ∈ n.rdns, PlainType r.type) : read n.text = .ok n.settled := by
  obtain ⟨rs⟩ := n
  cases rs with
  | nil => rfl
  | cons r rs =>
    have htrim : Text.trimChars (text ⟨r :: rs⟩).toList = chars ⟨settledRdns (r :: rs)⟩ := by
      rw [text, String.toList_ofList, Text.trimChars_eq, dropWhile_chars rs (h r List.mem_cons_self),
        rdropWhile_chars]
    have hplain := plainType_settledRdns (r :: rs) h
    cases hs : settledRdns (r :: rs) with
    | nil => cases rs <;> cases hs
    | cons r₁ rs₁ =>
      rw [hs] at htrim hplain
      obtain ⟨rest, hrest⟩ := chars_cons r₁ rs₁
      cases hc : chars ⟨r₁ :: rs₁⟩ with
      | nil =>
        rw [hc] at hrest
        exact absurd hrest.symm (by simp)
      | cons c cs =>
        rw [read, htrim, hc]
        simp only
        rw [← hc, pieces_chars r₁ rs₁ (fun q hq => closed_rdn (hplain q hq).2.2), mapM_readRdn _ hplain, settled, hs]
        rfl

/-! ## Round trips -/

theorem parse_eq_ok_iff {s : String} {n : Name} : parse s = .ok n ↔ read s = .ok n := mapError_eq_ok_iff

/-- **A name that was read loses at most blanks at the end of its last value** when its text is read again, as text and
from its stored form, and it loses none exactly when that value ends in no blank but a plain space. -/
theorem parse_text_of_parse {s : String} {n : Name} (h : parse s = .ok n) :
    parse n.text = .ok n.settled ∧ ofDocument? n.toDocument = some n.settled ∧ (n.settled = n ↔ n.EndsPlainly) := by
  have hread := read_text (plainType_of_read (parse_eq_ok_iff.1 h))
  refine ⟨parse_eq_ok_iff.2 hread, ?_, settled_eq_self_iff n⟩
  simp only [ofDocument?, toDocument, Document.text?, Option.bind_some, hread]
  rfl

theorem parse_text_of_parse_padded :
    parse " cn = a\\,b\\20 , o=\\41cme\\C2\\A0 " = .ok ⟨[⟨"cn", "a,b "⟩, ⟨"o", "Acme\u00A0"⟩]⟩ ∧
      parse (text ⟨[⟨"cn", "a,b "⟩, ⟨"o", "Acme\u00A0"⟩]⟩) = .ok (settled ⟨[⟨"cn", "a,b "⟩, ⟨"o", "Acme\u00A0"⟩]⟩) := by
  have h : parse " cn = a\\,b\\20 , o=\\41cme\\C2\\A0 " = .ok ⟨[⟨"cn", "a,b "⟩, ⟨"o", "Acme\u00A0"⟩]⟩ := by decide +kernel
  exact ⟨h, (parse_text_of_parse h).1⟩

/-- A no-break space at the end of a name, read from its octets, does not come back. -/
theorem parse_text_no_break_space :
    parse "a=b\\C2\\A0" = .ok ⟨[⟨"a", "b\u00A0"⟩]⟩ ∧ parse (text ⟨[⟨"a", "b\u00A0"⟩]⟩) = .ok ⟨[⟨"a", "b"⟩]⟩ ∧
      parse (text ⟨[⟨"a", "b\u00A0"⟩]⟩) ≠ .ok ⟨[⟨"a", "b\u00A0"⟩]⟩ := by
  decide +kernel

/-- **The parts of a name come back from its text** exactly when their types are plain and the last value ends in no
blank but a plain space. -/
theorem parse_text_eq_self_iff (rs : List Rdn) :
    parse (text ⟨rs⟩) = .ok ⟨rs⟩ ↔ (∀ r ∈ rs, PlainType r.type) ∧ EndsPlainly ⟨rs⟩ := by
  constructor
  · intro h
    have hplain := plainType_of_read (parse_eq_ok_iff.1 h)
    refine ⟨hplain, ?_⟩
    rw [parse_eq_ok_iff, read_text hplain, Except.ok.injEq, settled_eq_self_iff] at h
    exact h
  · rintro ⟨hplain, hend⟩
    rw [parse_eq_ok_iff, read_text hplain, (settled_eq_self_iff _).2 hend]

end Name
end DirectoryAccess
