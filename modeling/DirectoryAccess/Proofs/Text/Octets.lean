import DirectoryAccess.Proofs.Outcome
import DirectoryAccess.Text.Octets
/-!
# Octets and texts stand for each other

A character is read back from its octets whatever follows them (`Utf8.unitsFrom_encodeChar`), and octets that read as a
character are the ones it is written in (`Utf8.exists_encodeChar`).  So octets are the octets of a text exactly when they
read as that text without a broken sequence (`decode?_eq_some_iff`).

Both directions go through the four lengths of a character.  The state between two octets of one keeps the bits read so
far; `Utf8.unitsFrom_more` and `Utf8.unitsFrom_last` add six of them.
-/
namespace DirectoryAccess.Text
namespace Utf8

/-! ## One character -/

theorem toNat_ofNat {n : Nat} (h : n < 256) : (UInt8.ofNat n).toNat = n := by
  simp [Nat.mod_eq_of_lt h]

theorem ofNat_eq (b : UInt8) {n : Nat} (h : n = b.toNat) : UInt8.ofNat n = b := by
  rw [h, UInt8.ofNat_toNat]

theorem unitsFrom_start (b : UInt8) (bs : List UInt8) :
    unitsFrom none (b :: bs) = (start b.toNat).1 ++ unitsFrom (start b.toNat).2 bs := rfl

/-- The last octet of a character. -/
theorem unitsFrom_last {low high bits : Nat} {b : UInt8} (h : low ≤ b.toNat ∧ b.toNat ≤ high) (bs : List UInt8) :
    unitsFrom (some ⟨1, low, high, bits⟩) (b :: bs) =
      some (Char.ofNat (bits * 64 + (b.toNat - 0x80))) :: unitsFrom none bs := by
  simp only [unitsFrom, step, if_pos h, Nat.le_refl, if_true, List.singleton_append]

/-- An octet of a character that is not its last. -/
theorem unitsFrom_more {missing low high bits : Nat} {b : UInt8} (h : low ≤ b.toNat ∧ b.toNat ≤ high)
    (bs : List UInt8) :
    unitsFrom (some ⟨missing + 2, low, high, bits⟩) (b :: bs) =
      unitsFrom (some ⟨missing + 1, 0x80, 0xBF, bits * 64 + (b.toNat - 0x80)⟩) bs := by
  simp only [unitsFrom, step, if_pos h]
  rw [if_neg (by omega)]
  rfl

/-- Octets that do not go on with the character begun leave a broken sequence. -/
theorem unitsFrom_pending {p : Partial} {bs : List UInt8} {c : Char} {us : List (Option Char)}
    (h : unitsFrom (some p) bs = some c :: us) :
    ∃ b rest, bs = b :: rest ∧ p.low ≤ b.toNat ∧ b.toNat ≤ p.high := by
  cases bs with
  | nil => simp [unitsFrom] at h
  | cons b rest =>
    by_cases hb : p.low ≤ b.toNat ∧ b.toNat ≤ p.high
    · exact ⟨b, rest, rfl, hb⟩
    · simp [unitsFrom, step, hb] at h

theorem unitsFrom_pending_ne_nil : ∀ (bs : List UInt8) (p : Partial), unitsFrom (some p) bs ≠ []
  | [], _ => by simp [unitsFrom]
  | b :: bs, p => by
    simp only [unitsFrom, step]
    split
    · split
      · simp
      · exact unitsFrom_pending_ne_nil bs _
    · simp

theorem unitsFrom_start_ne_nil (b : UInt8) (bs : List UInt8) : unitsFrom none (b :: bs) ≠ [] := by
  rw [unitsFrom_start, start]
  split
  · simp
  split
  · simp
  split
  · exact unitsFrom_pending_ne_nil bs _
  split
  · exact unitsFrom_pending_ne_nil bs _
  split
  · exact unitsFrom_pending_ne_nil bs _
  · simp

/-- **The octets of a character read as it**, whatever follows them. -/
theorem unitsFrom_encodeChar (c : Char) (bs : List UInt8) :
    unitsFrom none (String.utf8EncodeChar c ++ bs) = some c :: unitsFrom none bs := by
  have hv : c.toNat < 0xD800 ∨ (0xDFFF < c.toNat ∧ c.toNat < 0x110000) := c.valid
  have hc : Char.ofNat c.toNat = c := Char.ofNat_toNat c
  simp only [String.utf8EncodeChar]
  rw [show c.val.toNat = c.toNat from rfl]
  generalize c.toNat = v at hv hc
  have tail (n : Nat) : (UInt8.ofNat (n % 0x40 + 0x80)).toNat = n % 64 + 128 := toNat_ofNat (by omega)
  split
  · rw [List.singleton_append, unitsFrom_start, toNat_ofNat (by omega), start, if_pos (by omega)]
    simp [hc]
  split
  · simp only [List.cons_append, List.nil_append]
    rw [unitsFrom_start, toNat_ofNat (by omega), start, if_neg (by omega), if_neg (by omega), if_pos (by omega)]
    simp only [List.nil_append]
    rw [unitsFrom_last (by rw [tail]; omega), tail,
      show (v / 64 % 32 + 192 - 192) * 64 + (v % 64 + 128 - 128) = v by omega, hc]
  split
  · simp only [List.cons_append, List.nil_append]
    rw [unitsFrom_start, toNat_ofNat (by omega), start, if_neg (by omega), if_neg (by omega), if_neg (by omega),
      if_pos (by omega)]
    simp only [List.nil_append]
    rw [unitsFrom_more (by rw [tail]; constructor <;> split <;> omega), unitsFrom_last (by rw [tail]; omega), tail,
      tail, show ((v / 4096 % 16 + 224 - 224) * 64 + (v / 64 % 64 + 128 - 128)) * 64 + (v % 64 + 128 - 128) = v by
        omega, hc]
  · simp only [List.cons_append, List.nil_append]
    rw [unitsFrom_start, toNat_ofNat (by omega), start, if_neg (by omega), if_neg (by omega), if_neg (by omega),
      if_neg (by omega), if_pos (by omega)]
    simp only [List.nil_append]
    rw [unitsFrom_more (by rw [tail]; constructor <;> split <;> omega), unitsFrom_more (by rw [tail]; omega),
      unitsFrom_last (by rw [tail]; omega), tail, tail, tail,
      show (((v / 262144 % 8 + 240 - 240) * 64 + (v / 4096 % 64 + 128 - 128)) * 64 + (v / 64 % 64 + 128 - 128)) * 64
        + (v % 64 + 128 - 128) = v by omega, hc]

theorem encodeChar_ofNat {n : Nat} (h : n < 0xD800 ∨ (0xDFFF < n ∧ n < 0x110000)) :
    String.utf8EncodeChar (Char.ofNat n) =
      if n ≤ 0x7f then [UInt8.ofNat n]
      else if n ≤ 0x7ff then [UInt8.ofNat (n / 64 % 32 + 192), UInt8.ofNat (n % 64 + 128)]
      else if n ≤ 0xffff then
        [UInt8.ofNat (n / 4096 % 16 + 224), UInt8.ofNat (n / 64 % 64 + 128), UInt8.ofNat (n % 64 + 128)]
      else
        [UInt8.ofNat (n / 262144 % 8 + 240), UInt8.ofNat (n / 4096 % 64 + 128), UInt8.ofNat (n / 64 % 64 + 128),
          UInt8.ofNat (n % 64 + 128)] := by
  have hn : (Char.ofNat n).val.toNat = n := by
    rw [Char.ofNat, dif_pos h]
    rfl
  simp only [String.utf8EncodeChar, hn]

/-- **Octets that begin with a character begin with its octets.** -/
theorem exists_encodeChar {b : UInt8} {bs : List UInt8} {c : Char} {us : List (Option Char)}
    (h : unitsFrom none (b :: bs) = some c :: us) :
    ∃ rest, b :: bs = String.utf8EncodeChar c ++ rest ∧ unitsFrom none rest = us := by
  rw [unitsFrom_start, start] at h
  split at h
  · simp only [List.singleton_append, List.cons.injEq, Option.some.injEq] at h
    obtain ⟨rfl, rfl⟩ := h
    refine ⟨bs, ?_, rfl⟩
    rw [encodeChar_ofNat (by omega), if_pos (by omega), ofNat_eq b rfl]
    rfl
  split at h
  · simp at h
  split at h
  · simp only [List.nil_append] at h
    obtain ⟨b₁, bs, rfl, h₁⟩ := unitsFrom_pending h
    rw [unitsFrom_last h₁] at h
    simp only [List.cons.injEq, Option.some.injEq] at h h₁
    obtain ⟨rfl, rfl⟩ := h
    refine ⟨bs, ?_, rfl⟩
    rw [encodeChar_ofNat (by omega), if_neg (by omega), if_pos (by omega), ofNat_eq b (by omega), ofNat_eq b₁ (by omega)]
    rfl
  split at h
  · simp only [List.nil_append] at h
    obtain ⟨b₁, bs, rfl, h₁⟩ := unitsFrom_pending h
    rw [unitsFrom_more h₁] at h
    obtain ⟨b₂, bs, rfl, h₂⟩ := unitsFrom_pending h
    rw [unitsFrom_last h₂] at h
    simp only [List.cons.injEq, Option.some.injEq] at h h₁ h₂
    obtain ⟨rfl, rfl⟩ := h
    refine ⟨bs, ?_, rfl⟩
    -- the bounds of the second octet keep the bits out of the shorter forms and of the surrogates
    have hlow : 0x80 ≤ b₁.toNat ∧ (b.toNat = 0xE0 → 0xA0 ≤ b₁.toNat) := by
      split at h₁ <;> omega
    have hhigh : b₁.toNat ≤ 0xBF ∧ (b.toNat = 0xED → b₁.toNat ≤ 0x9F) := by
      split at h₁ <;> split at h₁ <;> omega
    clear h₁
    rw [encodeChar_ofNat (by omega), if_neg (by omega), if_neg (by omega), if_pos (by omega), ofNat_eq b (by omega),
      ofNat_eq b₁ (by omega), ofNat_eq b₂ (by omega)]
    rfl
  split at h
  · simp only [List.nil_append] at h
    obtain ⟨b₁, bs, rfl, h₁⟩ := unitsFrom_pending h
    rw [unitsFrom_more h₁] at h
    obtain ⟨b₂, bs, rfl, h₂⟩ := unitsFrom_pending h
    rw [unitsFrom_more h₂] at h
    obtain ⟨b₃, bs, rfl, h₃⟩ := unitsFrom_pending h
    rw [unitsFrom_last h₃] at h
    simp only [List.cons.injEq, Option.some.injEq] at h h₁ h₂ h₃
    obtain ⟨rfl, rfl⟩ := h
    refine ⟨bs, ?_, rfl⟩
    have hlow : 0x80 ≤ b₁.toNat ∧ (b.toNat = 0xF0 → 0x90 ≤ b₁.toNat) := by
      split at h₁ <;> omega
    have hhigh : b₁.toNat ≤ 0xBF ∧ (b.toNat = 0xF4 → b₁.toNat ≤ 0x8F) := by
      split at h₁ <;> split at h₁ <;> omega
    clear h₁
    rw [encodeChar_ofNat (by omega), if_neg (by omega), if_neg (by omega), if_neg (by omega), ofNat_eq b (by omega),
      ofNat_eq b₁ (by omega), ofNat_eq b₂ (by omega), ofNat_eq b₃ (by omega)]
    rfl
  · simp at h

end Utf8

/-! ## Whole texts -/

theorem units_octetsOf_append (cs : List Char) (bs : List UInt8) :
    Utf8.units (octetsOf cs ++ bs) = cs.map some ++ Utf8.units bs := by
  induction cs with
  | nil => rfl
  | cons c cs ih =>
    rw [octetsOf, List.flatMap_cons, List.append_assoc, Utf8.units, Utf8.unitsFrom_encodeChar]
    exact congrArg (some c :: ·) ih

theorem units_octetsOf (cs : List Char) : Utf8.units (octetsOf cs) = cs.map some := by
  have happend := units_octetsOf_append cs []
  rw [List.append_nil] at happend
  exact happend.trans (List.append_nil _)

theorem eq_octetsOf_of_units : ∀ (cs : List Char) (bs : List UInt8), Utf8.units bs = cs.map some → bs = octetsOf cs
  | [], [], _ => rfl
  | _ :: _, [], h => by cases h
  | [], b :: bs, h => absurd h (Utf8.unitsFrom_start_ne_nil b bs)
  | c :: cs, b :: bs, h => by
    obtain ⟨rest, hb, hr⟩ := Utf8.exists_encodeChar h
    rw [hb, eq_octetsOf_of_units cs rest hr]
    rfl

/-- **Octets without a broken sequence are those of the text they read as**, and of no other. -/
theorem decodeChars?_eq_some_iff {bs : List UInt8} {cs : List Char} : decodeChars? bs = some cs ↔ bs = octetsOf cs := by
  refine (mapM_eq_some_iff some (fun _ _ => Iff.rfl)).trans ?_
  exact ⟨eq_octetsOf_of_units cs bs, fun h => by rw [h, units_octetsOf]⟩

theorem decode?_eq_some_iff {bs : List UInt8} {s : String} : decode? bs = some s ↔ bs = octets s := by
  rw [decode?, Option.map_eq_some_iff]
  constructor
  · rintro ⟨cs, h, rfl⟩
    rw [decodeChars?_eq_some_iff.1 h, octets, String.toList_ofList]
  · intro h
    exact ⟨s.toList, decodeChars?_eq_some_iff.2 h, String.ofList_toList⟩

theorem octets_inj {s t : String} (h : octets s = octets t) : s = t := by
  have hs : decode? (octets s) = some s := decode?_eq_some_iff.2 rfl
  rw [h, decode?_eq_some_iff.2 rfl] at hs
  exact (Option.some.inj hs).symm

/-- An octet with all bits set is in no text. -/
theorem ne_of_mem_octets {s : String} : ∀ b ∈ octets s, b ≠ 0xFF := by
  intro b hb
  obtain ⟨c, -, hb⟩ := List.mem_flatMap.1 hb
  have hlt (n : Nat) (hn : n < 0xFF) : UInt8.ofNat n ≠ 0xFF := by
    intro h
    have := congrArg UInt8.toNat h
    rw [Utf8.toNat_ofNat (by omega)] at this
    simp at this
    omega
  simp only [String.utf8EncodeChar] at hb
  split at hb
  · obtain rfl := List.mem_singleton.1 hb
    exact hlt _ (by omega)
  split at hb
  · simp only [List.mem_cons, List.not_mem_nil, or_false] at hb
    rcases hb with rfl | rfl
    all_goals exact hlt _ (by omega)
  split at hb
  · simp only [List.mem_cons, List.not_mem_nil, or_false] at hb
    rcases hb with rfl | rfl | rfl
    all_goals exact hlt _ (by omega)
  · simp only [List.mem_cons, List.not_mem_nil, or_false] at hb
    rcases hb with rfl | rfl | rfl | rfl
    all_goals exact hlt _ (by omega)

end DirectoryAccess.Text
