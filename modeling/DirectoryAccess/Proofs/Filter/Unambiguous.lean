import DirectoryAccess.Proofs.Filter.Core
import DirectoryAccess.Proofs.Text.Pieces
import DirectoryAccess.Text.Hexadecimal
/-!
# One reading of a written filter

A value is read back from its escaped form (`unescape_escapeFilterChars`), so no two values are written alike, and of
the characters that a written filter is made of only the backslash is left in an escaped value.  So an attribute reaches
up to the relation, a piece up to an asterisk, a condition up to its closing parenthesis; and a written tree, whatever
follows it, is the written form of that tree only (`Core.chars_append_inj`), by induction on the tree.

Two filters with plain attributes are therefore written alike exactly when their trees are one.
-/
namespace DirectoryAccess

/-! ## Escaped values -/

/-- The text that an escaped text stands for. -/
def unescapeFilterChars : List Char → List Char
  | [] => []
  | '\\' :: a :: b :: cs =>
    Char.ofNat ((Text.hexValue? a).getD 0 * 16 + (Text.hexValue? b).getD 0) :: unescapeFilterChars cs
  | c :: cs => c :: unescapeFilterChars cs

theorem unescape_escapeFilterChar (c : Char) (cs : List Char) :
    unescapeFilterChars (escapeFilterChar c ++ cs) = c :: unescapeFilterChars cs := by
  unfold escapeFilterChar
  split
  · rename_i h
    rw [h]
    rfl
  rename_i hescape
  split
  · rename_i h
    rw [h]
    rfl
  split
  · rename_i h
    rw [h]
    rfl
  split
  · rename_i h
    rw [h]
    rfl
  split
  · rename_i h
    rw [show c = '\x00' from Char.toNat_inj.1 h]
    rfl
  · rw [List.singleton_append, unescapeFilterChars]
    intro a b ds h _
    exact hescape h

/-- **A value is read back from its escaped form.** -/
theorem unescape_escapeFilterChars : ∀ cs : List Char, unescapeFilterChars (escapeFilterChars cs) = cs
  | [] => rfl
  | c :: cs => by
    have ih := unescape_escapeFilterChars cs
    rw [escapeFilterChars] at ih ⊢
    rw [List.flatMap_cons, unescape_escapeFilterChar, ih]

theorem escapeFilterChars_inj {as bs : List Char} (h : escapeFilterChars as = escapeFilterChars bs) : as = bs := by
  rw [← unescape_escapeFilterChars as, h, unescape_escapeFilterChars]

/-- The text with every `old` in it replaced. -/
def replaceChar (old : Char) (new cs : List Char) : List Char := cs.flatMap (fun c => if c = old then new else [c])

/-- Escaping is five replacements, that of the backslash first: the others bring in backslashes that stay. -/
theorem escapeFilterChars_eq_replaceChar (cs : List Char) :
    escapeFilterChars cs =
      replaceChar '\x00' ['\\', '0', '0'] (replaceChar ')' ['\\', '2', '9'] (replaceChar '(' ['\\', '2', '8']
        (replaceChar '*' ['\\', '2', 'a'] (replaceChar '\\' ['\\', '5', 'c'] cs)))) := by
  simp only [replaceChar, List.flatMap_assoc, escapeFilterChars]
  congr 1
  funext c
  unfold escapeFilterChar
  split
  · rfl
  rename_i hescape
  split
  · rename_i h
    rw [h]
    rfl
  split
  · rename_i h
    rw [h]
    rfl
  split
  · rename_i h
    rw [h]
    rfl
  rename_i hstar hopen hclose
  split
  · rename_i h
    rw [show c = '\x00' from Char.toNat_inj.1 h]
    rfl
  · rename_i hnull
    have hzero : c ≠ '\x00' := fun h => hnull (by rw [h]; rfl)
    simp [hstar, hopen, hclose, hzero]

theorem not_mem_escapeFilterChar {m : Char} (hm : m ∈ ['(', ')', '*']) (c : Char) : m ∉ escapeFilterChar c := by
  have hescape (a b : Char) (ha : a ∉ ['(', ')', '*']) (hb : b ∉ ['(', ')', '*']) : m ∉ ['\\', a, b] := by
    intro h
    simp only [List.mem_cons, List.not_mem_nil, or_false] at h
    rcases h with rfl | rfl | rfl
    · exact absurd hm (by decide)
    · exact ha hm
    · exact hb hm
  unfold escapeFilterChar
  split
  · exact hescape '5' 'c' (by decide) (by decide)
  split
  · exact hescape '2' 'a' (by decide) (by decide)
  rename_i hstar
  split
  · exact hescape '2' '8' (by decide) (by decide)
  rename_i hopen
  split
  · exact hescape '2' '9' (by decide) (by decide)
  rename_i hclose
  split
  · exact hescape '0' '0' (by decide) (by decide)
  · intro h
    rw [List.mem_singleton] at h
    subst h
    simp [hstar, hopen, hclose] at hm

theorem not_mem_escapeFilterChars {m : Char} (hm : m ∈ ['(', ')', '*']) (cs : List Char) : m ∉ escapeFilterChars cs := by
  intro h
  obtain ⟨c, _, hc⟩ := List.mem_flatMap.1 h
  exact not_mem_escapeFilterChar hm c hc

/-! ## Up to a mark -/

namespace Core

theorem bodyChars_inj : ∀ {ps qs : List String}, ps ≠ [] → qs ≠ [] → bodyChars ps = bodyChars qs → ps = qs
  | [], _, hp, _, _ => absurd rfl hp
  | _ :: _, [], _, hq, _ => absurd rfl hq
  | [p], [q], _, _, h => by
    rw [bodyChars_singleton, bodyChars_singleton] at h
    rw [String.toList_inj.1 (escapeFilterChars_inj h)]
  | [p], q :: q' :: qs, _, _, h => by
    rw [bodyChars_singleton, bodyChars_cons _ (by simp)] at h
    exact absurd (h ▸ List.mem_append_right _ List.mem_cons_self) (not_mem_escapeFilterChars (m := '*') (by simp) _)
  | p :: p' :: ps, [q], _, _, h => by
    rw [bodyChars_singleton, bodyChars_cons _ (by simp)] at h
    exact absurd (h ▸ List.mem_append_right _ List.mem_cons_self) (not_mem_escapeFilterChars (m := '*') (by simp) _)
  | p :: p' :: ps, q :: q' :: qs, _, _, h => by
    rw [bodyChars_cons p (by simp), bodyChars_cons q (by simp)] at h
    have hstar (s : String) : ∀ c ∈ escapeFilterChars s.toList, c ≠ '*' := fun c hc he =>
      not_mem_escapeFilterChars (m := c) (by simp [he]) _ hc
    obtain ⟨hfirst, -, hrest⟩ := Text.append_cons_inj (· ≠ '*') _ _ (hstar p) (hstar q) (by simp) (by simp) h
    rw [String.toList_inj.1 (escapeFilterChars_inj hfirst), bodyChars_inj (by simp) (by simp) hrest]

theorem not_mem_bodyChars : ∀ ps : List String, ')' ∉ bodyChars ps
  | [] => by simp [bodyChars]
  | [p] => by
    rw [bodyChars_singleton]
    exact not_mem_escapeFilterChars (by simp) _
  | p :: q :: ps => by
    rw [bodyChars_cons p (by simp), List.mem_append, List.mem_cons]
    rintro (h | h | h)
    · exact not_mem_escapeFilterChars (by simp) _ h
    · cases h
    · exact not_mem_bodyChars (q :: ps) h

/-! ## Conditions -/

theorem sign_append_inj {sign sign' : Sign} {r s : List Char} (h : sign.chars ++ r = sign'.chars ++ s) :
    sign = sign' ∧ r = s := by
  cases sign <;> cases sign' <;> simp_all [Sign.chars]

theorem sign_chars (sign : Sign) : ∃ c cs, sign.chars = c :: cs ∧ c ∈ filterMarks := by
  cases sign
  · exact ⟨'=', [], rfl, by decide⟩
  · exact ⟨'>', ['='], rfl, by decide⟩
  · exact ⟨'<', ['='], rfl, by decide⟩

theorem relation_append_inj {attr attr' : String} {sign sign' : Sign} {ps qs : List String} {r s : List Char}
    (ha : PlainAttribute attr) (ha' : PlainAttribute attr')
    (h : Filter.relation attr sign.chars (bodyChars ps) ++ r = Filter.relation attr' sign'.chars (bodyChars qs) ++ s) :
    attr = attr' ∧ sign = sign' ∧ bodyChars ps = bodyChars qs ∧ r = s := by
  simp only [Filter.relation, Filter.wrap, List.cons_append, List.append_assoc, List.cons.injEq, true_and] at h
  obtain ⟨c, cs, hc, hmark⟩ := sign_chars sign
  obtain ⟨d, ds, hd, hmark'⟩ := sign_chars sign'
  have hattr : attr.toList = attr'.toList ∧ c = d ∧ cs ++ (bodyChars ps ++ ')' :: r) = ds ++ (bodyChars qs ++ ')' :: s) := by
    rw [hc, hd] at h
    exact Text.append_cons_inj (· ∉ filterMarks) _ _ ha.2 ha'.2 (by simpa using hmark) (by simpa using hmark') h
  obtain ⟨hsame, rfl, hrest⟩ := hattr
  have hsign : sign.chars ++ (bodyChars ps ++ ')' :: r) = sign'.chars ++ (bodyChars qs ++ ')' :: s) := by
    rw [hc, hd, List.cons_append, List.cons_append, hrest]
  obtain ⟨rfl, hbody⟩ := sign_append_inj hsign
  have hclose (ps : List String) : ∀ c ∈ bodyChars ps, c ≠ ')' := fun c hc he => not_mem_bodyChars ps (he ▸ hc)
  obtain ⟨hb, -, hr⟩ := Text.append_cons_inj (· ≠ ')') _ _ (hclose ps) (hclose qs) (by simp) (by simp) hbody
  exact ⟨String.toList_inj.1 hsame, rfl, hb, hr⟩

/-- No condition begins as a combination does. -/
theorem relation_append_ne {attr : String} (ha : PlainAttribute attr) {m : Char} (hm : m ∈ filterMarks)
    (sign value r cs : List Char) : Filter.relation attr sign value ++ r ≠ '(' :: m :: cs := by
  intro h
  simp only [Filter.relation, Filter.wrap, List.cons_append, List.append_assoc, List.cons.injEq, true_and] at h
  cases hattr : attr.toList with
  | nil => exact ha.1 (String.toList_eq_nil_iff.1 hattr)
  | cons c ds =>
    rw [hattr] at h
    obtain ⟨rfl, -⟩ := List.cons.inj h
    exact ha.2 c (by rw [hattr]; exact List.mem_cons_self) hm

/-! ## Trees -/

theorem wrap_append (m : Char) (cs r : List Char) : Filter.wrap (m :: cs) ++ r = '(' :: m :: (cs ++ ')' :: r) := by
  simp [Filter.wrap]

theorem chars_eq_cons (c : Core) : ∃ cs, c.chars = '(' :: cs := by
  cases c <;> exact ⟨_, rfl⟩

mutual

/-- **A written tree determines the tree and where it ends.** -/
theorem chars_append_inj : ∀ (c d : Core) {r s : List Char}, c.Sound → d.Sound → c.chars ++ r = d.chars ++ s →
    c = d ∧ r = s
  | .item attr sign ps, .item attr' sign' qs, _, _, hc, hd, h => by
    obtain ⟨rfl, rfl, hbody, hr⟩ := relation_append_inj hc.1 hd.1 h
    rw [bodyChars_inj hc.2 hd.2 hbody]
    exact ⟨rfl, hr⟩
  | .all cs, .all ds, _, _, hc, hd, h => by
    simp only [chars, wrap_append, List.cons.injEq, true_and] at h
    obtain ⟨rfl, hr⟩ := charsOfAll_append_inj cs ds hc hd h
    exact ⟨rfl, hr⟩
  | .any cs, .any ds, _, _, hc, hd, h => by
    simp only [chars, wrap_append, List.cons.injEq, true_and] at h
    obtain ⟨rfl, hr⟩ := charsOfAll_append_inj cs ds hc hd h
    exact ⟨rfl, hr⟩
  | .not c, .not d, _, _, hc, hd, h => by
    simp only [chars, wrap_append, List.cons.injEq, true_and] at h
    obtain ⟨rfl, hr⟩ := chars_append_inj c d hc hd h
    exact ⟨rfl, (List.cons.inj hr).2⟩
  | .item .., .all ds, _, _, hc, _, h => by
    rw [chars, chars, wrap_append] at h
    exact absurd h (relation_append_ne hc.1 (by decide) _ _ _ _)
  | .item .., .any ds, _, _, hc, _, h => by
    rw [chars, chars, wrap_append] at h
    exact absurd h (relation_append_ne hc.1 (by decide) _ _ _ _)
  | .item .., .not d, _, _, hc, _, h => by
    rw [chars, chars, wrap_append] at h
    exact absurd h (relation_append_ne hc.1 (by decide) _ _ _ _)
  | .all cs, .item .., _, _, _, hd, h => by
    rw [chars, chars, wrap_append] at h
    exact absurd h.symm (relation_append_ne hd.1 (by decide) _ _ _ _)
  | .any cs, .item .., _, _, _, hd, h => by
    rw [chars, chars, wrap_append] at h
    exact absurd h.symm (relation_append_ne hd.1 (by decide) _ _ _ _)
  | .not c, .item .., _, _, _, hd, h => by
    rw [chars, chars, wrap_append] at h
    exact absurd h.symm (relation_append_ne hd.1 (by decide) _ _ _ _)
  | .all _, .any _, _, _, _, _, h | .all _, .not _, _, _, _, _, h | .any _, .all _, _, _, _, _, h
  | .any _, .not _, _, _, _, _, h | .not _, .all _, _, _, _, _, h | .not _, .any _, _, _, _, _, h => by
    simp [chars, wrap_append] at h

theorem charsOfAll_append_inj : ∀ (cs ds : List Core) {r s : List Char}, SoundAll cs → SoundAll ds →
    charsOfAll cs ++ ')' :: r = charsOfAll ds ++ ')' :: s → cs = ds ∧ r = s
  | [], [], _, _, _, _, h => ⟨rfl, (List.cons.inj h).2⟩
  | [], d :: ds, _, _, _, _, h => by
    obtain ⟨_, hd⟩ := chars_eq_cons d
    simp [charsOfAll, hd] at h
  | c :: cs, [], _, _, _, _, h => by
    obtain ⟨_, hc⟩ := chars_eq_cons c
    simp [charsOfAll, hc] at h
  | c :: cs, d :: ds, r, s, hc, hd, h => by
    simp only [charsOfAll, List.append_assoc] at h
    obtain ⟨rfl, hrest⟩ := chars_append_inj c d hc.1 hd.1 h
    obtain ⟨rfl, hr⟩ := charsOfAll_append_inj cs ds hc.2 hd.2 hrest
    exact ⟨rfl, hr⟩

end

end Core

namespace Filter

theorem core_eq_of_text_eq {f g : Filter} (hf : ∀ a ∈ f.attributes, PlainAttribute a)
    (hg : ∀ a ∈ g.attributes, PlainAttribute a) (h : f.text = g.text) : f.core = g.core := by
  have hchars : f.core.chars ++ [] = g.core.chars ++ [] := by
    rw [chars_core, chars_core, String.ofList_injective h]
  exact (Core.chars_append_inj f.core g.core (sound_core f hf) (sound_core g hg) hchars).1

theorem text_eq_of_core_eq {f g : Filter} (h : f.core = g.core) : f.text = g.text := by
  rw [text, text, ← chars_core, ← chars_core, h]

/-- **Filters are written alike exactly when their trees are one**, whatever characters their values hold. -/
theorem text_eq_iff_core_eq {f g : Filter} (hf : ∀ a ∈ f.attributes, PlainAttribute a)
    (hg : ∀ a ∈ g.attributes, PlainAttribute a) : f.text = g.text ↔ f.core = g.core :=
  ⟨core_eq_of_text_eq hf hg, text_eq_of_core_eq⟩

theorem text_eq_iff_core_eq_strict :
    (∀ a ∈ (test .above "uid" "*)(").attributes, PlainAttribute a) ∧
      (∀ a ∈ (all [test .atLeast "uid" "*)(", not (equals "uid" "*)(")]).attributes, PlainAttribute a) ∧
      ((test .above "uid" "*)(").text = (all [test .atLeast "uid" "*)(", not (equals "uid" "*)(")]).text ↔
        (test .above "uid" "*)(").core = (all [test .atLeast "uid" "*)(", not (equals "uid" "*)(")]).core) :=
  ⟨by decide, by decide, text_eq_iff_core_eq (by decide) (by decide)⟩

end Filter
end DirectoryAccess
