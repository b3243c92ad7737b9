import DirectoryAccess.Form.Value
import DirectoryAccess.Proofs.Outcome
import DirectoryAccess.Proofs.Text.Numeral
/-!
# What the stored form of a value is read back as

The stored form does not say what kind of value it is.  Null, texts, integers and truth values are told apart by their
nodes, but octets and lists are both lists there, and octets are tried first.  So a list of which every member is written
like an octet comes back as octets (`settled`), at any depth, and the empty list is one of them.

All else comes back as it was: the values that do are those in which every list has a member that is not an integer from
0 to 255 (`ofDocument?_toDocument_iff`).
-/
namespace DirectoryAccess.Value

/-- The octet that a value is written like. -/
def octet? : Value → Option UInt8
  | .integer n => if 0 ≤ n.toInt ∧ n.toInt < 256 then some (UInt8.ofNat n.toInt.toNat) else none
  | .null => none
  | .text _ => none
  | .boolean _ => none
  | .binary _ => none
  | .list _ => none

mutual

/-- The value with every list of octets in it made octets. -/
def settled : Value → Value
  | .list vs =>
    match vs.mapM octet? with
    | some bs => .binary bs
    | none => .list (settledAll vs)
  | .null => .null
  | .text s => .text s
  | .integer n => .integer n
  | .boolean b => .boolean b
  | .binary bs => .binary bs

def settledAll : List Value → List Value
  | [] => []
  | v :: vs => settled v :: settledAll vs

end

mutual

/-- The members of every list in a value, its own if it is one. -/
def lists : Value → List (List Value)
  | .list vs => vs :: listsOfAll vs
  | .null => []
  | .text _ => []
  | .integer _ => []
  | .boolean _ => []
  | .binary _ => []

def listsOfAll : List Value → List (List Value)
  | [] => []
  | v :: vs => lists v ++ listsOfAll vs

end

/-! ## Octets -/

theorem octet?_eq_none_iff {v : Value} :
    v.octet? = none ↔ ∀ n, v = .integer n → n.toInt < 0 ∨ 255 < n.toInt := by
  cases v with
  | integer n =>
    simp only [octet?, Value.integer.injEq, forall_eq']
    split <;> simp <;> omega
  | null => simp [octet?]
  | text s => simp [octet?]
  | boolean b => simp [octet?]
  | binary bs => simp [octet?]
  | list vs => simp [octet?]

theorem natBelow?_toDocument (v : Value) : (v.toDocument.natBelow? 256).map UInt8.ofNat = v.octet? := by
  cases v with
  | integer n =>
    show (if 0 ≤ n.toInt ∧ n.toInt < 256 then some n.toInt.toNat else none).map UInt8.ofNat = _
    rw [octet?]
    by_cases hn : 0 ≤ n.toInt ∧ n.toInt < 256
    · rw [if_pos hn, if_pos hn, Option.map_some]
    · rw [if_neg hn, if_neg hn, Option.map_none]
  | null => rfl
  | text s => rfl
  | boolean b => rfl
  | binary bs => rfl
  | list vs => rfl

theorem octetsOf?_toDocuments (vs : List Value) : octetsOf? (toDocuments vs) = vs.mapM octet? := by
  unfold octetsOf?
  induction vs with
  | nil => rfl
  | cons v vs ih => rw [toDocuments, List.mapM_cons, List.mapM_cons, natBelow?_toDocument, ih]

theorem octetsOf?_octets (bs : List UInt8) : octetsOf? (bs.map (fun b => .nat b.toNat)) = some bs := by
  unfold octetsOf?
  induction bs with
  | nil => rfl
  | cons b bs ih =>
    have hb : ((Document.nat b.toNat).natBelow? 256).map UInt8.ofNat = some b := by
      have hfits : 0 ≤ (b.toNat : Int) ∧ (b.toNat : Int) < (256 : Nat) := by
        have hlt : b.toNat < 256 := b.toNat_lt
        omega
      rw [Document.nat, Document.natBelow?, Document.integer?, Option.bind_some, if_pos hfits, Option.map_some,
        Int.toNat_natCast, UInt8.ofNat_toNat]
    rw [List.map_cons, List.mapM_cons, hb, ih]
    rfl

/-! ## Reading back -/

mutual

theorem ofDocument?_toDocument : ∀ v : Value, ofDocument? v.toDocument = some v.settled
  | .null => rfl
  | .text _ => rfl
  | .integer n => by rw [toDocument, ofDocument?, Text.fit64_toInt]; rfl
  | .boolean _ => rfl
  | .binary bs => by rw [toDocument, ofDocument?, octetsOf?_octets]; rfl
  | .list vs => by
    rw [toDocument, ofDocument?, octetsOf?_toDocuments, settled]
    cases vs.mapM octet? with
    | some bs => rfl
    | none =>
      dsimp only
      rw [ofDocuments?_toDocuments vs]
      rfl

theorem ofDocuments?_toDocuments : ∀ vs : List Value, ofDocuments? (toDocuments vs) = some (settledAll vs)
  | [] => rfl
  | v :: vs => by
    rw [toDocuments, ofDocuments?, ofDocument?_toDocument v, ofDocuments?_toDocuments vs]
    rfl

end

/-! ## What comes back as it was -/

mutual

theorem settled_eq_self_iff : ∀ v : Value, v.settled = v ↔ ∀ vs ∈ v.lists, ∃ w ∈ vs, w.octet? = none
  | .null => by simp [settled, lists]
  | .text _ => by simp [settled, lists]
  | .integer _ => by simp [settled, lists]
  | .boolean _ => by simp [settled, lists]
  | .binary _ => by simp [settled, lists]
  | .list vs => by
    rw [settled, lists, List.forall_mem_cons, ← settledAll_eq_self_iff vs, ← mapM_eq_none_iff]
    cases vs.mapM octet? <;> simp

theorem settledAll_eq_self_iff : ∀ vs : List Value,
    settledAll vs = vs ↔ ∀ ws ∈ listsOfAll vs, ∃ w ∈ ws, w.octet? = none
  | [] => by simp [settledAll, listsOfAll]
  | v :: vs => by
    rw [settledAll, listsOfAll, List.forall_mem_append, List.cons_eq_cons, settled_eq_self_iff v,
      settledAll_eq_self_iff vs]

end

/-- **A value is read back as it was exactly if no list in it is one of octets**, and what is read is `settled`. -/
theorem ofDocument?_toDocument_iff (v : Value) :
    ofDocument? v.toDocument = some v.settled ∧
      (ofDocument? v.toDocument = some v ↔
        ∀ vs ∈ v.lists, ∃ w ∈ vs, ∀ n, w = .integer n → n.toInt < 0 ∨ 255 < n.toInt) := by
  have hread := ofDocument?_toDocument v
  refine ⟨hread, ?_⟩
  rw [hread, Option.some.injEq, settled_eq_self_iff]
  simp only [octet?_eq_none_iff]

/-- Two small integers in a list come back as octets, and none at all do too. -/
theorem not_ofDocument?_toDocument :
    ofDocument? (Value.list [.integer 1, .integer 2]).toDocument = some (.binary [1, 2]) ∧
      ofDocument? (Value.list []).toDocument = some (.binary []) ∧
      ¬ ∀ v : Value, ofDocument? v.toDocument = some v := by
  refine ⟨rfl, rfl, fun h => ?_⟩
  have hempty := h (.list [])
  cases hempty

end DirectoryAccess.Value
