import DirectoryAccess.Description.Selection
import DirectoryAccess.Form.Fault
import DirectoryAccess.Form.Listing
import DirectoryAccess.Form.Predicate
import DirectoryAccess.Form.Settings
/-!
# Summaries

Documents that show a value together with what can be asked of it.
-/
namespace DirectoryAccess

open Document

def integerDocument (n : Int64) : Document := .integer n.toInt

def Name.summary (n : Name) : Document :=
  .object
    [("string", n.text), ("normalized", n.normalized), ("rdns", .list (n.rdns.map (fun r => .texts [r.type, r.value]))),
      ("len", n.size), ("is_root", n.isRoot), ("is_empty", n.isRoot), ("rdn", ofOption .text (n.rdn?.map Rdn.text)),
      ("parent", ofOption Name.toDocument n.parent?)]

/-- How two names stand to each other. -/
def Name.comparison (a b : Name) : Document :=
  .object
    [("equal", a.same b), ("same_hash", a.key == b.key), ("rdn_equal", a.rdn?.map Rdn.key == b.rdn?.map Rdn.key),
      ("a_ends_with_b", a.endsWith b), ("b_ends_with_a", b.endsWith a), ("a_below_b", a.below b),
      ("b_below_a", b.below a), ("a_strip_b", ofOption Name.toDocument (a.stripSuffix? b)),
      ("b_strip_a", ofOption Name.toDocument (b.stripSuffix? a)), ("a_append_b", (a.append b).toDocument),
      ("same_normalized", a.normalized == b.normalized)]

def Value.summary (v : Value) : Document :=
  .object
    [("value", v.toTagged), ("is_null", v.isNull), ("is_multi_valued", v.isList),
      ("as_string", Document.ofOption .text v.text?), ("as_strings", .texts v.plainTexts),
      ("as_integer", Document.ofOption integerDocument v.integer?),
      ("as_boolean", Document.ofOption .boolean v.boolean?),
      ("as_array", Document.ofOption (fun vs => .list (vs.map Value.toTagged)) v.items?),
      ("to_strings", .texts v.texts), ("json", v.toDocument)]

def Entry.summary (e : Entry) (classes : List String) : Document :=
  .object
    [("entry", e.toTagged), ("object_classes", .texts e.classes),
      ("has", .object (classes.map (fun c => (c, .boolean (e.hasClass c))))), ("json", e.toDocument)]

def Scope.summary (s : Scope) : Document :=
  .object
    [("scope", s.word), ("display", s.word), ("json", s.toDocument), ("is_default", decide (s = ({} : Query).scope)),
      ("index", Scope.all.idxOf s)]

def Filter.summary (f : Filter) : Document := .object [("ldap", f.text), ("json", f.toDocument)]

def Query.summary (q : Query) : Document :=
  .object [("json", q.toDocument), ("restricts", q.narrowed), ("filter", q.filter.text)]

def Sorting.summary (s : Sorting) : Document := .object [("json", s.toDocument), ("sorted", s.isSorted)]

def Page.summary (p : Page) : Document :=
  .object [("json", p.toDocument), ("offset", p.offset), ("sorted", p.isSorted)]

def Timeouts.summary (t : Timeouts) : Document :=
  .object
    [("json", t.toDocument), ("connection_secs", t.connect.toNat), ("read_secs", t.read.toNat),
      ("validate", Fault.checked t.check), ("is_default", decide (t = {}))]

def Encryption.summary (e : Encryption) : Document :=
  .object
    [("json", e.toDocument), ("is_default", decide (e = {})), ("is_enabled", decide (e = { enabled := true }))]

def Placement.summary (p : Placement) : Document :=
  .object [("json", p.toDocument), ("validate", Fault.checked p.check), ("redacted", p.toDocument)]

def Server.summary (s : Server) : Document :=
  .object
    [("json", s.toDocument), ("url", s.url), ("validate", Fault.checked s.check),
      ("redacted", s.redacted.toDocument), ("debug", s.describe.text)]

def Role.word : Role → String
  | .id => "id"
  | .naming => "naming"
  | .plain => "attribute"
  | .transient => "transient"

def Property.summary (p : Property) : Document :=
  .object
    [("name", p.name), ("attribute", p.attr), ("kind", p.role.word), ("is_id", p.isId), ("is_mapped", p.isStored)]

/-- What a schema says of these names. -/
def Schema.summary {ε : Type} (s : Schema ε) (names : List String) : Document :=
  .object
    [("translator", s.describeTranslator.text), ("naming", ofOption Property.summary s.naming?),
      ("names", .object (names.map (fun n => (n, .object
        [("descriptor", ofOption Property.summary (s.property? n)), ("attribute_of", ofOption .text (s.attrOf? n))]))))]

/-- What the view gives under these names. -/
def View.summary (v : View) (names : List String) : Document :=
  .object (names.map (fun name => (name, .object
    [("value", ofOption Value.toTagged (v.get name)), ("string", ofOption .text (v.text? name)),
      ("strings", .texts (v.texts name)), ("integer", ofOption integerDocument (v.integer? name)),
      ("bool", ofOption .boolean (v.boolean? name))])))

/-- What a selection on entities of a schema fetches, and how. -/
def Selection.summary {ε ρ : Type} (q : Selection ε ρ) (s : Schema ε) : Document :=
  .object
    [("attributes", .texts (q.attributes s)), ("projection", .texts q.named), ("sorted", q.isSorted),
      ("predicate", q.predicate.toDocument)]

end DirectoryAccess
