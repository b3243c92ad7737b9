import DirectoryAccess.Text.CaseTable
/-!
# Letter case

Two ways to set case aside.  Names of attributes and of object classes are compared by their ASCII letters only
(`fold`, `sameName`); values are compared by the lower-case form of every letter (`lower`).

`lower` works letter by letter with two exceptions.  Capital I with a dot above becomes two characters, and a capital
sigma becomes a final sigma exactly at the end of a word: some letter stands before it and none after it, looking past
the characters that do not end a word.  So the form of a text is not the concatenation of the forms of its pieces.
-/
namespace DirectoryAccess.Text

/-! ## Names -/

def foldChars (cs : List Char) : List Char := cs.map Char.toLower

/-- The text with its ASCII capitals made small and nothing else changed. -/
def fold (s : String) : String := String.ofList (foldChars s.toList)

def sameName (a b : String) : Bool := fold a == fold b

@[simp] theorem toList_fold (s : String) : (fold s).toList = foldChars s.toList := by simp [fold]

theorem sameName_iff {a b : String} : sameName a b = true ↔ fold a = fold b := by simp [sameName]

theorem sameName_refl (a : String) : sameName a a = true := by simp [sameName]

theorem sameName_symm {a b : String} (h : sameName a b = true) : sameName b a = true :=
  sameName_iff.2 (sameName_iff.1 h).symm

theorem sameName_trans {a b c : String} (h : sameName a b = true) (h' : sameName b c = true) : sameName a c = true :=
  sameName_iff.2 ((sameName_iff.1 h).trans (sameName_iff.1 h'))

/-! ## Values -/

def CaseRun.holds (r : CaseRun) (n : Nat) : Bool :=
  decide (r.first ≤ n) && decide (n ≤ r.last) && (n - r.first) % r.step == 0

/-- The lower-case form of a character whose form is one character. -/
def lowerChar (c : Char) : Char :=
  if c.toNat < 0x80 then c.toLower
  else
    match lowerRuns.find? (·.holds c.toNat) with
    | some r => Char.ofNat (r.image + (c.toNat - r.first))
    | none => c

/-- No letter with case follows, looking past the characters that do not end a word. -/
def endsWord (rest : List Char) : Bool :=
  match rest.dropWhile caseIgnorable.has with
  | [] => true
  | c :: _ => !cased.has c

/-- The lower-case form of `cs` where `inWord` says that the text before it ends in a letter with case, again looking
past the characters that do not end a word. -/
def lowerFrom (inWord : Bool) : List Char → List Char
  | [] => []
  | c :: cs =>
    (if c = 'Σ' then [if inWord && endsWord cs then 'ς' else 'σ']
     else if c = 'İ' then ['i', '\u0307']
     else [lowerChar c])
      ++ lowerFrom (if caseIgnorable.has c then inWord else cased.has c) cs

def lowerChars (cs : List Char) : List Char := lowerFrom false cs

def lower (s : String) : String := String.ofList (lowerChars s.toList)

@[simp] theorem toList_lower (s : String) : (lower s).toList = lowerChars s.toList := by simp [lower]

@[simp] theorem lowerChars_nil : lowerChars [] = [] := rfl

end DirectoryAccess.Text
