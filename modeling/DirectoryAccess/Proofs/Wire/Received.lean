import DirectoryAccess.Proofs.Name.RoundTrip
import DirectoryAccess.Proofs.Text.Numeral
import DirectoryAccess.Proofs.Wire.Changes
import Mathlib.Data.List.Sort
/-!
# What was sent is received

An entry is sent as rows and received as values again.  In between a server may put the attributes, and the rows of each,
in any order, and reading its response may do so too (`Rearranged`); an attribute is taken for octets only if a row of
it is no text (`FoundEntry.Presents`).  Kinds of values, lists in lists and attributes without a row get lost on the
way.  The rows do not: under every name the same set of them is there (`received_of_sent`).

One row that is a text is received as this text, so what is written in it, a numeral or a truth value, can be read.
-/
namespace DirectoryAccess

/-! ## Sets of rows -/

theorem octetsBefore_iff : ∀ {as bs : Octets}, Text.octetsBefore as bs = true ↔ as < bs
  | [], [] => by simp [Text.octetsBefore]
  | [], _ :: _ => by simp [Text.octetsBefore]
  | _ :: _, [] => by simp [Text.octetsBefore]
  | a :: as, b :: bs => by
    simp only [Text.octetsBefore, Bool.or_eq_true, decide_eq_true_eq, Bool.and_eq_true, beq_iff_eq,
      List.cons_lt_cons_iff, octetsBefore_iff]

theorem pairwise_insertRow (row : Octets) : ∀ {rows : List Octets}, rows.Pairwise (· < ·) →
    (insertRow row rows).Pairwise (· < ·)
  | [], _ => List.pairwise_singleton _ _
  | r :: rs, h => by
    obtain ⟨hr, hrs⟩ := List.pairwise_cons.1 h
    unfold insertRow
    by_cases heq : row = r
    · rw [if_pos heq]
      exact h
    by_cases hbefore : Text.octetsBefore row r = true
    · rw [if_neg heq, if_pos hbefore]
      have hlt := octetsBefore_iff.1 hbefore
      refine List.pairwise_cons.2 ⟨fun x hx => ?_, h⟩
      rcases List.mem_cons.1 hx with rfl | hx
      · exact hlt
      · exact List.lt_trans hlt (hr x hx)
    · rw [if_neg heq, if_neg hbefore]
      have hle : r ≤ row := List.not_lt.1 (fun hlt => hbefore (octetsBefore_iff.2 hlt))
      have hlt : r < row := by
        by_contra hge
        exact heq (List.le_antisymm (List.not_lt.1 hge) hle)
      refine List.pairwise_cons.2 ⟨fun x hx => ?_, pairwise_insertRow row hrs⟩
      rcases mem_insertRow.1 hx with rfl | hx
      · exact hlt
      · exact hr x hx

theorem pairwise_rowSet : ∀ rows : List Octets, (rowSet rows).Pairwise (· < ·)
  | [] => List.Pairwise.nil
  | r :: rs => pairwise_insertRow r (pairwise_rowSet rs)

/-- The same rows make the same set. -/
theorem rowSet_congr {as bs : List Octets} (h : ∀ row, row ∈ as ↔ row ∈ bs) : rowSet as = rowSet bs :=
  (pairwise_rowSet as).eq_of_mem_iff (pairwise_rowSet bs) (fun row => by rw [mem_rowSet, mem_rowSet, h])

/-! ## In any order -/

/-- The same attributes with the same rows, in whatever order. -/
structure Rearranged (sent back : List (String × List Octets)) : Prop where
  names : (back.map Prod.fst).Perm (sent.map Prod.fst)
  rows : ∀ p ∈ back, ∃ q ∈ sent, q.1 = p.1 ∧ q.2.Perm p.2

theorem Rearranged.trans {as bs cs : List (String × List Octets)} (h : Rearranged as bs) (h' : Rearranged bs cs) :
    Rearranged as cs where
  names := h'.names.trans h.names
  rows := fun p hp => by
    obtain ⟨q, hq, hqp, hrows⟩ := h'.rows p hp
    obtain ⟨o, ho, hoq, hrows'⟩ := h.rows q hq
    exact ⟨o, ho, hoq.trans hqp, hrows'.trans hrows⟩

/-! ## Values of rows -/

theorem Value.eq_nil_of_ofMany {α : Type} {write : α → Value} {as : List α} (h : ofMany write as = none) : as = [] := by
  match as with
  | [] => rfl
  | [_] => cases h
  | _ :: _ :: _ => cases h

/-- A value that is made of rows has these rows, and there are some. -/
theorem Value.of_ofMany {α : Type} {write : α → Value} (row : α → Octets)
    (hwrite : ∀ a, (write a).octetRows = [row a]) {as : List α} {v : Value} (h : ofMany write as = some v) :
    as ≠ [] ∧ v.octetRows = as.map row := by
  have hflat : ∀ as : List α, (as.map write).flatMap octetRows = as.map row := by
    intro as
    induction as with
    | nil => rfl
    | cons a as ih => rw [List.map_cons, List.flatMap_cons, ih, hwrite, List.map_cons, List.singleton_append]
  match as with
  | [] => cases h
  | [a] =>
    obtain rfl := Option.some.inj h
    exact ⟨by simp, hwrite a⟩
  | a :: b :: as =>
    obtain rfl := Option.some.inj h
    exact ⟨by simp, (octetRows_list _).trans (hflat _)⟩

namespace FoundEntry

/-- All attributes as rows of octets. -/
def rows (f : FoundEntry) : List (String × List Octets) :=
  f.texts.map (fun p => (p.1, p.2.map Text.octets)) ++ f.binaries

/-- What reading a response makes of an entry, in whatever order: an attribute is taken for octets only if it has to. -/
structure Presents (f : FoundEntry) (raw : RawEntry) : Prop where
  name : f.name = raw.name
  rows : Rearranged raw.attributes f.rows
  binary : ∀ p ∈ f.binaries, ∃ row ∈ p.2, Text.decode? row = none

theorem map_filterMap_pairOf? {α : Type} (write : α → Value) (row : α → Octets)
    (hwrite : ∀ a, (write a).octetRows = [row a]) (found : List (String × List α)) :
    (found.filterMap (pairOf? write)).map (fun p => (p.1, p.2.octetRows)) =
      (found.map (fun p => (p.1, p.2.map row))).filter (fun p => !p.2.isEmpty) := by
  induction found with
  | nil => rfl
  | cons p found ih =>
    rw [List.map_cons]
    cases hv : Value.ofMany write p.2 with
    | none =>
      have hnone : pairOf? write p = none := by rw [pairOf?, hv]; rfl
      rw [List.filterMap_cons_none hnone, List.filter_cons_of_neg (by simp [Value.eq_nil_of_ofMany hv])]
      exact ih
    | some v =>
      have hsome : pairOf? write p = some (p.1, v) := by rw [pairOf?, hv]; rfl
      obtain ⟨hne, hrows⟩ := Value.of_ofMany row hwrite hv
      rw [List.filterMap_cons_some hsome, List.filter_cons_of_pos (by simp [hne]), List.map_cons, hrows, ih]

/-- The values that are received have the rows that were found. -/
theorem map_pairs (f : FoundEntry) :
    f.pairs.map (fun p => (p.1, p.2.octetRows)) = f.rows.filter (fun p => !p.2.isEmpty) := by
  rw [pairs, rows, List.map_append, List.filter_append, map_filterMap_pairOf? .text Text.octets (fun _ => rfl),
    map_filterMap_pairOf? .binary id (fun _ => rfl)]
  simp

/-- One row that is a text is received as this text. -/
theorem eq_text_of_mem_pairs {f : FoundEntry} (hbinary : ∀ p ∈ f.binaries, ∃ row ∈ p.2, Text.decode? row = none)
    {k s : String} {v : Value} (hv : (k, v) ∈ f.pairs) (hrow : v.octetRows = [Text.octets s]) : v = .text s := by
  have hmade {α : Type} {write : α → Value} {found : List (String × List α)}
      (h : (k, v) ∈ found.filterMap (pairOf? write)) : ∃ p ∈ found, Value.ofMany write p.2 = some v := by
    obtain ⟨p, hp, h⟩ := List.mem_filterMap.1 h
    obtain ⟨w, hw, heq⟩ := Option.map_eq_some_iff.1 h
    exact ⟨p, hp, by rw [hw, (Prod.mk.inj heq).2]⟩
  rcases List.mem_append.1 hv with hv | hv
  · obtain ⟨p, -, hp⟩ := hmade hv
    have hrows := (Value.of_ofMany Text.octets (fun _ => rfl) hp).2
    rw [hrow] at hrows
    obtain ⟨t, ht, hts⟩ := List.map_eq_singleton_iff.1 hrows.symm
    rw [ht, Text.octets_inj hts] at hp
    exact (Option.some.inj hp).symm
  · obtain ⟨p, hmem, hp⟩ := hmade hv
    have hrows := (Value.of_ofMany id (fun _ => rfl) hp).2
    rw [hrow, List.map_id] at hrows
    -- The one row is a text, so the attribute is not among the octets.
    obtain ⟨row, hrowmem, hnone⟩ := hbinary p hmem
    rw [← hrows] at hrowmem
    rw [List.mem_singleton.1 hrowmem, Text.decode?_eq_some_iff.2 rfl] at hnone
    cases hnone

end FoundEntry

namespace RawEntry

theorem textsOf?_eq_some_iff {p : String × List Octets} {q : String × List String} :
    textsOf? p = some q ↔ p = (q.1, q.2.map Text.octets) := by
  rw [textsOf?, Option.map_eq_some_iff]
  simp only [mapM_eq_some_iff Text.octets (fun _ _ => Text.decode?_eq_some_iff)]
  constructor
  · rintro ⟨texts, hrows, rfl⟩
    exact Prod.ext rfl hrows
  · rintro rfl
    exact ⟨q.2, rfl, rfl⟩

theorem map_texts_found (raw : RawEntry) : raw.found.texts.map (fun p => (p.1, p.2.map Text.octets)) =
    raw.attributes.filter (fun p => (textsOf? p).isSome) :=
  map_filterMap_eq_filter (fun _ _ hp => (textsOf?_eq_some_iff.1 hp).symm) raw.attributes

theorem rows_found (raw : RawEntry) : raw.found.rows.Perm raw.attributes := by
  have hnone : (fun p => (textsOf? p).isNone) = fun p => !(textsOf? p).isSome := by
    funext p
    cases textsOf? p <;> rfl
  rw [FoundEntry.rows, map_texts_found]
  show (_ ++ raw.attributes.filter (fun p => (textsOf? p).isNone)).Perm _
  rw [hnone]
  exact List.filter_append_perm _ _

theorem presents_found (raw : RawEntry) : raw.found.Presents raw where
  name := rfl
  rows :=
    { names := raw.rows_found.map _
      rows := fun p hp => ⟨p, raw.rows_found.mem_iff.1 hp, rfl, List.Perm.refl _⟩ }
  binary := fun p hp => by
    have hnone := (List.mem_filter.1 hp).2
    rw [Option.isNone_iff_eq_none, textsOf?, Option.map_eq_none_iff] at hnone
    exact mapM_eq_none_iff.1 hnone

end RawEntry

/-! ## What is sent -/

namespace Attributes

variable {as : Attributes}

theorem additionOf?_eq_some_iff {name : String} {p : String × List Octets} :
    as.additionOf? name = some p ↔ p = (name, as.wireOf name) ∧ p.2 ≠ [] := by
  unfold additionOf?
  cases hrows : as.wireOf name with
  | nil =>
    constructor
    · intro h
      cases h
    · rintro ⟨rfl, hne⟩
      exact absurd rfl hne
  | cons row rows =>
    rw [Option.some.injEq, eq_comm]
    exact ⟨fun h => ⟨h, by simp [h]⟩, And.left⟩

theorem of_mem_additions {p : String × List Octets} (h : p ∈ as.additions) : p.2 = as.wireOf p.1 ∧ p.2 ≠ [] := by
  rw [additions_eq] at h
  obtain ⟨name, -, hp⟩ := List.mem_filterMap.1 h
  obtain ⟨rfl, hne⟩ := additionOf?_eq_some_iff.1 hp
  exact ⟨rfl, hne⟩

/-- Every attribute that has a row is sent. -/
theorem names_additions (as : Attributes) :
    (as.additions.map Prod.fst).Perm (as.names.filter (fun name => decide (as.wireOf name ≠ []))) := by
  have hkept : as.additions.map Prod.fst = as.sortedNames.filter (fun name => decide (as.wireOf name ≠ [])) := by
    rw [additions_eq, map_filterMap_eq_filter (fun name p hp => by rw [(additionOf?_eq_some_iff.1 hp).1])]
    refine List.filter_congr (fun name _ => ?_)
    unfold additionOf?
    cases as.wireOf name <;> simp
  rw [hkept]
  exact as.sortedNames_perm.filter _

end Attributes

/-! ## What is received -/

section
variable {as : Attributes} {f : FoundEntry}

theorem map_pairs_of_rearranged (h : Rearranged as.additions f.rows) :
    f.pairs.map (fun p => (p.1, p.2.octetRows)) = f.rows := by
  rw [f.map_pairs, List.filter_eq_self]
  intro p hp
  obtain ⟨q, hq, -, hrows⟩ := h.rows p hp
  have hne := (Attributes.of_mem_additions hq).2
  cases hp2 : p.2 with
  | nil =>
    rw [hp2] at hrows
    exact absurd hrows.eq_nil hne
  | cons row rows => rfl

theorem names_pairs (h : Rearranged as.additions f.rows) :
    (f.pairs.map Prod.fst).Perm (as.names.filter (fun name => decide (as.wireOf name ≠ []))) := by
  have hnames : f.pairs.map Prod.fst = f.rows.map Prod.fst := by
    rw [← map_pairs_of_rearranged h, List.map_map]
    rfl
  rw [hnames]
  exact h.names.trans as.names_additions

/-- Received attributes have the rows that were sent for them. -/
theorem perm_of_mem_pairs (h : Rearranged as.additions f.rows) {k : String} {v : Value} (hv : (k, v) ∈ f.pairs) :
    (as.wireOf k).Perm v.octetRows := by
  have hrow : (k, v.octetRows) ∈ f.rows := by
    rw [← map_pairs_of_rearranged h]
    exact List.mem_map_of_mem hv
  obtain ⟨q, hq, rfl, hrows⟩ := h.rows _ hrow
  rwa [(Attributes.of_mem_additions hq).1] at hrows

theorem ofPairs_of_rearranged (has : as.Distinct) (h : Rearranged as.additions f.rows) :
    (Attributes.ofPairs f.pairs).pairs = f.pairs ∧ (Attributes.ofPairs f.pairs).Distinct := by
  have hdistinct : Attributes.Distinct ⟨f.pairs⟩ := by
    rw [Attributes.distinct_iff_names]
    exact (Attributes.pairwise_not_sameName_perm (names_pairs h)).2 ((Attributes.distinct_iff_names.1 has).filter _)
  rw [Attributes.ofPairs_pairs hdistinct]
  exact ⟨rfl, hdistinct⟩

theorem exists_pair_of_find? (has : as.Distinct) (h : Rearranged as.additions f.rows) {name : String} {v : Value}
    (hv : (Attributes.ofPairs f.pairs).find? name = some v) :
    ∃ k, (k, v) ∈ f.pairs ∧ Text.sameName k name = true ∧ (as.wireOf name).Perm v.octetRows := by
  obtain ⟨hpairs, hdistinct⟩ := ofPairs_of_rearranged has h
  obtain ⟨k, hk, hsame⟩ := hdistinct.find?_eq_some_iff.1 hv
  rw [hpairs] at hk
  rw [← as.wireOf_congr hsame]
  exact ⟨k, hk, hsame, perm_of_mem_pairs h hk⟩

/-- What has a row is received. -/
theorem has_of_wireOf_ne_nil (has : as.Distinct) (h : Rearranged as.additions f.rows) {name : String}
    (hrows : as.wireOf name ≠ []) : (Attributes.ofPairs f.pairs).has name = true := by
  have hname : as.has name = true := by
    by_contra hnot
    exact hrows (Attributes.wireOf_of_not_has (Bool.eq_false_iff.2 hnot))
  obtain ⟨p, hp, hsame⟩ := (as.has_iff name).1 hname
  have hkept : p.1 ∈ as.names.filter (fun name => decide (as.wireOf name ≠ [])) := by
    rw [List.mem_filter, decide_eq_true_eq, as.wireOf_congr hsame]
    exact ⟨List.mem_map_of_mem hp, hrows⟩
  obtain ⟨q, hq, hqp⟩ := List.mem_map.1 ((names_pairs h).mem_iff.2 hkept)
  rw [Attributes.has_iff, (ofPairs_of_rearranged has h).1]
  exact ⟨q, hq, by rw [hqp, hsame]⟩

/-- **Under every name the rows that were sent are received.** -/
theorem wireOf_ofPairs (has : as.Distinct) (h : Rearranged as.additions f.rows) (name : String) :
    (Attributes.ofPairs f.pairs).wireOf name = as.wireOf name := by
  have hset : rowSet (as.wireOf name) = as.wireOf name := by
    unfold Attributes.wireOf
    cases as.find? name with
    | none => rfl
    | some v => exact rowSet_congr (fun _ => mem_rowSet)
  cases hv : (Attributes.ofPairs f.pairs).find? name with
  | some v =>
    obtain ⟨-, -, -, hrows⟩ := exists_pair_of_find? has h hv
    rw [Attributes.wireOf, hv, ← hset]
    exact rowSet_congr (fun _ => hrows.symm.mem_iff)
  | none =>
    have hnot : (Attributes.ofPairs f.pairs).has name = false := (Attributes.find?_eq_none_iff _ _).1 hv
    rw [Attributes.wireOf_of_not_has hnot]
    by_contra hrows
    rw [has_of_wireOf_ne_nil has h (Ne.symm hrows)] at hnot
    cases hnot

theorem find?_ofPairs_of_text (has : as.Distinct) (h : Rearranged as.additions f.rows)
    (hbinary : ∀ p ∈ f.binaries, ∃ row ∈ p.2, Text.decode? row = none) {name s : String}
    (hrow : as.wireOf name = [Text.octets s]) : (Attributes.ofPairs f.pairs).find? name = some (.text s) := by
  have hhas := has_of_wireOf_ne_nil has h (by rw [hrow]; simp)
  rw [← Attributes.find?_isSome] at hhas
  obtain ⟨v, hv⟩ := Option.isSome_iff_exists.1 hhas
  obtain ⟨k, hk, -, hrows⟩ := exists_pair_of_find? has h hv
  rw [hrow, List.singleton_perm] at hrows
  rw [hv, FoundEntry.eq_text_of_mem_pairs hbinary hk hrows.symm]

end

/-! ## There and back -/

theorem boolean?_booleanText (b : Bool) : (Value.text (Value.booleanText b)).boolean? = some b := by
  cases b <;> decide

/-- **What was sent is received**: the attributes that have a row, each with the set of rows that it had, and where one
row is the numeral of an integer or the word for a truth value, it can be read as that. -/
theorem received_of_sent {construct : RawEntry → FoundEntry}
    (hconstruct : ∀ raw : RawEntry, (raw.attributes.map Prod.fst).Nodup → (construct raw).Presents raw)
    {sent : Entry} (hsent : sent.attributes.Distinct) {n : Name} (hname : Name.parse sent.name.text = .ok n)
    {raw : RawEntry} (hraw : raw.name = sent.name.text)
    (hback : Rearranged sent.attributes.additions raw.attributes) :
    ∃ received, (construct raw).entry = .ok received ∧ received.name = n ∧ received.attributes.Distinct ∧
      received.attributes.names.Perm
        (sent.attributes.names.filter (fun name => decide (sent.attributes.wireOf name ≠ []))) ∧
      (∀ name, received.attributes.wireOf name = sent.attributes.wireOf name) ∧
      (∀ name i, sent.attributes.find? name = some (.integer i) →
        (received.attributes.find? name).bind Value.integer? = some i) ∧
      ∀ name b, sent.attributes.find? name = some (.boolean b) →
        (received.attributes.find? name).bind Value.boolean? = some b := by
  have hnodup : (raw.attributes.map Prod.fst).Nodup := by
    have hnames := (hback.names.trans sent.attributes.names_additions).nodup_iff
    refine hnames.2 (List.Nodup.filter _ ((Attributes.distinct_iff_names.1 hsent).imp (fun {a b} hab => ?_)))
    rintro rfl
    rw [Text.sameName_refl] at hab
    cases hab
  have hpresents := hconstruct raw hnodup
  have h : Rearranged sent.attributes.additions (construct raw).rows := hback.trans hpresents.rows
  obtain ⟨hpairs, hdistinct⟩ := ofPairs_of_rearranged hsent h
  have hread : Name.read (construct raw).name = .ok n := by
    rw [hpresents.name, hraw]
    exact Name.parse_eq_ok_iff.1 hname
  have htext {name s : String} (hrow : sent.attributes.wireOf name = [Text.octets s]) :=
    find?_ofPairs_of_text hsent h hpresents.binary hrow
  refine ⟨⟨n, .ofPairs (construct raw).pairs⟩, ?_, rfl, hdistinct, ?_, wireOf_ofPairs hsent h, ?_, ?_⟩
  · rw [FoundEntry.entry, hread]
  · rw [Attributes.names, hpairs]
    exact names_pairs h
  · intro name i hi
    have hrow : sent.attributes.wireOf name = [Text.octets (Text.decimal i)] := by
      rw [Attributes.wireOf, hi]
      rfl
    rw [htext hrow]
    exact Text.readInt64Trimmed_decimal i
  · intro name b hb
    have hrow : sent.attributes.wireOf name = [Text.octets (Value.booleanText b)] := by
      rw [Attributes.wireOf, hb]
      rfl
    rw [htext hrow]
    exact boolean?_booleanText b

/-- The entry as it was sent, with everything in it the other way round. -/
def mirrored (e : Entry) : RawEntry :=
  ⟨e.name.text, (e.attributes.additions.map (fun p => (p.1, p.2.reverse))).reverse⟩

theorem rearranged_mirrored (e : Entry) : Rearranged e.attributes.additions (mirrored e).attributes where
  names := by
    rw [mirrored, List.map_reverse, List.map_map]
    exact List.reverse_perm _
  rows := fun p hp => by
    obtain ⟨q, hq, rfl⟩ := List.mem_map.1 (List.mem_reverse.1 hp)
    exact ⟨q, hq, rfl, (List.reverse_perm _).symm⟩

/-- Lists in lists with a row twice, a picture beside a text, octets that are a text, and nothing at all. -/
def furnished : Entry :=
  ⟨⟨[⟨"cn", "a, b"⟩]⟩, ⟨[("Mail", .list [.text "y", .list [.text "x", .text "y"]]),
    ("photo", .list [.text "t", .binary [255]]), ("label", .binary [104, 105]), ("uid", .integer (-7)),
    ("active", .boolean false), ("note", .null), ("none", .list [.list []])]⟩⟩

theorem received_of_sent_mirrored : furnished.attributes.Distinct ∧
    Name.parse furnished.name.text = .ok furnished.name ∧
    ∃ received, (mirrored furnished).entry = .ok received ∧ received.name = furnished.name ∧
      received.attributes.wireOf "mail" = [[120], [121]] ∧ received.attributes.wireOf "PHOTO" = [[116], [255]] ∧
      received.attributes.wireOf "none" = [] ∧
      (received.attributes.find? "UID").bind Value.integer? = some (-7) ∧
      (received.attributes.find? "active").bind Value.boolean? = some false := by
  have hdistinct : furnished.attributes.Distinct := by decide
  have hname : Name.parse furnished.name.text = .ok furnished.name := by decide +kernel
  obtain ⟨received, hreceived, hsame, -, -, hrows, hintegers, hbooleans⟩ :=
    received_of_sent (fun raw _ => raw.presents_found) hdistinct hname rfl (rearranged_mirrored furnished)
  refine ⟨hdistinct, hname, received, hreceived, hsame, (hrows _).trans ?_, (hrows _).trans ?_, (hrows _).trans ?_,
    hintegers _ _ rfl, hbooleans _ _ rfl⟩
  · decide +kernel
  · decide +kernel
  · decide +kernel

end DirectoryAccess
