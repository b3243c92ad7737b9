import DirectoryAccess.Name.Hashing
import DirectoryAccess.Proofs.Name.RoundTrip
import DirectoryAccess.Proofs.Text.Pieces
import Mathlib.Data.List.Forall2
/-!
# When names are the same

Names can be told apart in four ways: part by part up to case, by their keys, by the normalized text and by what a
hasher is given.  All agree on names whose types have no character that means something in a written name
(`Unmarked`), as the types of every name that was read have none.

The normalized text and the hash are made from the key, so what is left is that nothing gets lost in them.  A text of
unmarked types splits into its parts again and a value is read back from its escaped form (`chars_inj`); the octet
`0xFF` ends a text and occurs in none (`mixed_inj`).
-/
namespace DirectoryAccess

/-! ## Written parts -/

theorem escapeValueChars_inj {s t : String} (h : escapeValueChars s.toList = escapeValueChars t.toList) : s = t := by
  have htokens : Name.valueTokens true s.toList = Name.valueTokens true t.toList := by
    have := Name.tokens_escapeValueChars s.toList
    rw [h, Name.tokens_escapeValueChars] at this
    exact (Except.ok.inj this).symm
  have hvalue := Name.valueOf?_valueTokens s
  rw [htokens, Name.valueOf?_valueTokens] at hvalue
  exact (Option.some.inj hvalue).symm

namespace Rdn

/-- The type has no character that means something in a written name. -/
def Unmarked (r : Rdn) : Prop := ∀ c ∈ r.type.toList, c ∉ typeMarks

theorem chars_inj {r q : Rdn} (hr : r.Unmarked) (hq : q.Unmarked) (h : r.chars = q.chars) : r = q := by
  have hmark : '=' ∈ typeMarks := by decide
  obtain ⟨htype, -, hvalue⟩ := Text.append_cons_inj (· ∉ typeMarks) _ _ hr hq (by simpa) (by simpa) h
  have hsame : r.type = q.type ∧ r.value = q.value := ⟨String.toList_inj.1 htype, escapeValueChars_inj hvalue⟩
  cases r
  cases q
  simpa using hsame

end Rdn

namespace Name

def Unmarked (n : Name) : Prop := ∀ r ∈ n.rdns, r.Unmarked

theorem unmarked_of_parse {s : String} {n : Name} (h : parse s = .ok n) : n.Unmarked :=
  fun r hr => (plainType_of_read (parse_eq_ok_iff.1 h) r hr).2.2

theorem map_chars_inj : ∀ {rs qs : List Rdn}, (∀ r ∈ rs, r.Unmarked) → (∀ q ∈ qs, q.Unmarked) →
    rs.map Rdn.chars = qs.map Rdn.chars → rs = qs
  | [], [], _, _, _ => rfl
  | [], _ :: _, _, _, h => by cases h
  | _ :: _, [], _, _, h => by cases h
  | r :: rs, q :: qs, hr, hq, h => by
    obtain ⟨hhead, htail⟩ := List.cons.inj h
    rw [Rdn.chars_inj (hr r List.mem_cons_self) (hq q List.mem_cons_self) hhead,
      map_chars_inj (fun x hx => hr x (List.mem_cons_of_mem _ hx)) (fun x hx => hq x (List.mem_cons_of_mem _ hx)) htail]

/-- **Names with unmarked types have texts of their own.** -/
theorem chars_inj {a b : Name} (ha : a.Unmarked) (hb : b.Unmarked) (h : a.chars = b.chars) : a = b := by
  have hpart {r : Rdn} {rs : List Rdn} (hroot : chars ⟨[]⟩ = chars ⟨r :: rs⟩) : False := by
    obtain ⟨rest, hrest⟩ := chars_cons r rs
    rw [hrest] at hroot
    simp [chars] at hroot
  obtain ⟨rs⟩ := a
  obtain ⟨qs⟩ := b
  cases rs with
  | nil =>
    cases qs with
    | nil => rfl
    | cons q qs => exact (hpart h).elim
  | cons r rs =>
    cases qs with
    | nil => exact (hpart h.symm).elim
    | cons q qs =>
      have hpieces := pieces_chars r rs (fun x hx => closed_rdn (ha x hx))
      rw [h, pieces_chars q qs (fun x hx => closed_rdn (hb x hx))] at hpieces
      exact congrArg Name.mk (map_chars_inj ha hb hpieces.symm)

/-! ## The normalized text -/

theorem toLower_eq_or_letter (c : Char) : c.toLower = c ∨ 97 ≤ c.toLower.toNat ∧ c.toLower.toNat ≤ 122 := by
  unfold Char.toLower
  split
  · rename_i h
    right
    have hlow : 65 ≤ c.toNat := UInt32.le_iff_toNat_le.1 h.1
    have hhigh : c.toNat ≤ 90 := UInt32.le_iff_toNat_le.1 h.2
    have hval : (c.val + ('a'.val - 'A'.val)).toNat = c.toNat + 32 := by
      rw [UInt32.toNat_add]
      show (c.toNat + 32) % 2 ^ 32 = c.toNat + 32
      omega
    show 97 ≤ (c.val + ('a'.val - 'A'.val)).toNat ∧ (c.val + ('a'.val - 'A'.val)).toNat ≤ 122
    omega
  · exact .inl rfl

theorem toLower_not_mem_typeMarks {c : Char} (h : c ∉ typeMarks) : c.toLower ∉ typeMarks := by
  rcases toLower_eq_or_letter c with heq | hletter
  · rwa [heq]
  · intro hmem
    have hmark : ∀ m ∈ typeMarks, ¬ (97 ≤ m.toNat ∧ m.toNat ≤ 122) := by simp [typeMarks]
    exact hmark _ hmem hletter

/-- The name that is written as the normalized text. -/
def ofKey (key : List (String × String)) : Name := ⟨key.map (fun p => ⟨p.1, p.2⟩)⟩

theorem normalized_eq (n : Name) : n.normalized = text (ofKey n.key) := by
  simp only [normalized, ofKey, key, List.map_map]
  rfl

theorem Unmarked.ofKey {n : Name} (h : n.Unmarked) : (ofKey n.key).Unmarked := by
  intro r hr
  simp only [Name.ofKey, key, List.map_map, List.mem_map] at hr
  obtain ⟨q, hq, rfl⟩ := hr
  intro c hc
  simp only [Function.comp_apply, Rdn.key, Text.toList_fold, Text.foldChars, List.mem_map] at hc
  obtain ⟨d, hd, rfl⟩ := hc
  exact toLower_not_mem_typeMarks (h q hq d hd)

theorem ofKey_inj {k l : List (String × String)} (h : ofKey k = ofKey l) : k = l := by
  have hinj : Function.Injective (fun p : String × String => (⟨p.1, p.2⟩ : Rdn)) := by
    rintro ⟨a, b⟩ ⟨c, d⟩ h
    obtain ⟨rfl, rfl⟩ := Rdn.mk.inj h
    rfl
  exact List.map_injective_iff.2 hinj (Name.mk.inj h)

theorem normalized_eq_iff_key {a b : Name} (ha : a.Unmarked) (hb : b.Unmarked) :
    a.normalized = b.normalized ↔ a.key = b.key := by
  rw [normalized_eq, normalized_eq]
  constructor
  · intro h
    exact ofKey_inj (chars_inj ha.ofKey hb.ofKey (String.ofList_inj.1 h))
  · intro h
    rw [h]

/-! ## What a hasher is given -/

/-- The items for a key. -/
def keyItems (key : List (String × String)) : List HashItem :=
  key.flatMap (fun p => Text.hashItems p.1 ++ Text.hashItems p.2)

theorem hashItems_eq (n : Name) : n.hashItems = .size n.key.length :: keyItems n.key := by
  rw [hashItems, keyItems, key, List.flatMap_map, List.length_map]
  rfl

theorem mixed_keyItems_cons (p : String × String) (key : List (String × String)) :
    (keyItems (p :: key)).flatMap HashItem.mixed =
      Text.octets p.1 ++ 0xFF :: (Text.octets p.2 ++ 0xFF :: (keyItems key).flatMap HashItem.mixed) := by
  simp [keyItems, Text.hashItems, HashItem.mixed]

theorem mixed_inj : ∀ {k l : List (String × String)},
    (keyItems k).flatMap HashItem.mixed = (keyItems l).flatMap HashItem.mixed → k = l
  | [], [], _ => rfl
  | [], q :: l, h => by
    rw [mixed_keyItems_cons] at h
    simp [keyItems] at h
  | p :: k, [], h => by
    rw [mixed_keyItems_cons] at h
    simp [keyItems] at h
  | p :: k, q :: l, h => by
    rw [mixed_keyItems_cons, mixed_keyItems_cons] at h
    have hend {s t : String} {bs cs : List UInt8} (h : Text.octets s ++ 0xFF :: bs = Text.octets t ++ 0xFF :: cs) :
        s = t ∧ bs = cs := by
      obtain ⟨hst, -, hbs⟩ := Text.append_cons_inj (· ≠ 0xFF) _ _ Text.ne_of_mem_octets Text.ne_of_mem_octets
        (by simp) (by simp) h
      exact ⟨Text.octets_inj hst, hbs⟩
    obtain ⟨htype, h⟩ := hend h
    obtain ⟨hvalue, h⟩ := hend h
    rw [Prod.ext htype hvalue, mixed_inj h]

theorem hashOctets_eq (n : Name) :
    n.hashOctets = (HashItem.size n.key.length).mixed ++ (keyItems n.key).flatMap HashItem.mixed := by
  rw [hashOctets, hashItems_eq, List.flatMap_cons]

theorem key_eq_of_hashOctets_eq {a b : Name} (h : a.hashOctets = b.hashOctets) : a.key = b.key := by
  rw [hashOctets_eq, hashOctets_eq] at h
  exact mixed_inj (List.append_inj_right h (by simp [HashItem.mixed]))

/-! ## All of it -/

theorem key_eq_iff_forall₂ {a b : Name} :
    a.key = b.key ↔ List.Forall₂
      (fun r q => Text.sameName r.type q.type = true ∧ Text.lower r.value = Text.lower q.value) a.rdns b.rdns := by
  rw [← List.forall₂_eq_eq_eq, key, key, List.forall₂_map_left_iff, List.forall₂_map_right_iff]
  simp only [Rdn.key, Prod.mk.injEq, Text.sameName_iff]

/-- **Equality, the normalized text and the hash tell the same names apart**: those with another number of parts, or
with types or values in some place that differ by more than case. -/
theorem same_agrees :
    (∀ s n, parse s = .ok n → n.Unmarked) ∧
      ∀ a b : Name, a.Unmarked → b.Unmarked →
        (a.same b = true ↔ a.normalized = b.normalized) ∧ (a.same b = true ↔ a.hashItems = b.hashItems) ∧
        (a.same b = true ↔ a.hashOctets = b.hashOctets) ∧
        (a.same b = true ↔ List.Forall₂
          (fun r q => Text.sameName r.type q.type = true ∧ Text.lower r.value = Text.lower q.value) a.rdns b.rdns) := by
  refine ⟨fun s n => unmarked_of_parse, fun a b ha hb => ?_⟩
  have hitems : a.key = b.key → a.hashItems = b.hashItems := fun h => by rw [hashItems_eq, hashItems_eq, h]
  have hoctets : a.hashItems = b.hashItems → a.hashOctets = b.hashOctets := fun h => by rw [hashOctets, hashOctets, h]
  rw [same_iff_key]
  refine ⟨(normalized_eq_iff_key ha hb).symm, ?_, ?_, key_eq_iff_forall₂⟩
  · exact ⟨hitems, fun h => key_eq_of_hashOctets_eq (hoctets h)⟩
  · exact ⟨fun h => hoctets (hitems h), key_eq_of_hashOctets_eq⟩

theorem same_agrees_other_case :
    parse "CN=ΟΔΟΣ\\, x,O=b" = .ok ⟨[⟨"CN", "ΟΔΟΣ, x"⟩, ⟨"O", "b"⟩]⟩ ∧
      parse "cn = οδος\\2C X , o=B" = .ok ⟨[⟨"cn", "οδος, X"⟩, ⟨"o", "B"⟩]⟩ ∧
      hashOctets ⟨[⟨"CN", "ΟΔΟΣ, x"⟩, ⟨"O", "b"⟩]⟩ = hashOctets ⟨[⟨"cn", "οδος, X"⟩, ⟨"o", "B"⟩]⟩ ∧
      normalized ⟨[⟨"CN", "ΟΔΟΣ, x"⟩, ⟨"O", "b"⟩]⟩ = normalized ⟨[⟨"cn", "οδος, X"⟩, ⟨"o", "B"⟩]⟩ := by
  have ha : parse "CN=ΟΔΟΣ\\, x,O=b" = .ok ⟨[⟨"CN", "ΟΔΟΣ, x"⟩, ⟨"O", "b"⟩]⟩ := by decide +kernel
  have hb : parse "cn = οδος\\2C X , o=B" = .ok ⟨[⟨"cn", "οδος, X"⟩, ⟨"o", "B"⟩]⟩ := by decide +kernel
  obtain ⟨hunmarked, hagrees⟩ := same_agrees
  obtain ⟨hnormalized, -, hoctets, -⟩ := hagrees _ _ (hunmarked _ _ ha) (hunmarked _ _ hb)
  have hsame : same ⟨[⟨"CN", "ΟΔΟΣ, x"⟩, ⟨"O", "b"⟩]⟩ ⟨[⟨"cn", "οδος, X"⟩, ⟨"o", "B"⟩]⟩ = true := by decide +kernel
  exact ⟨ha, hb, hoctets.1 hsame, hnormalized.1 hsame⟩

end Name
end DirectoryAccess
