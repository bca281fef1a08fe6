import TripletFacts.Settings.Validate
import TripletFacts.Triplet.Basic
import TripletFacts.Unicode.Case

/-!
# Building triplets

A triplet is built from a draft under settings. Every field is validated, prefix and name become
capital letters, an empty name or comment counts as absent, and no text may contain the marks that
would end it too early in the notation. Values and items of formulas may point at facts only
through references. A triplet that has been built changes by edits, which obey the same rules.

## Main definitions

* `ItemDraft`, `ValueDraft`, `Draft`: what formulas, values and triplets are built from.
* `Formula.build`, `Draft.build`: the formula and the triplet of a draft.
* `Edit`, `Triplet.edit`: changes of a triplet.

## Main results

* `Triplet.key_edit`: an edit does not change the key.
-/

namespace TripletFacts

/-! ### Formulas -/

/-- What an item of a formula is built from. -/
inductive ItemDraft where
  | text (s : String)
  | number (n : Number)
  | bool (b : Bool)
  | triplet (t : Triplet)
  | formula (f : Formula)

/-- The item of a draft: a triplet has to be a reference, a float has to be finite. -/
def ItemDraft.build : ItemDraft → Except FactError Item
  | text s => .ok (.text s)
  | number (.int i) => .ok (.number (.int i))
  | number (.float x) =>
    if x.isFinite then .ok (.number (.float x)) else .error (.infiniteItem x)
  | bool b => .ok (.bool b)
  | triplet t =>
    if t.isReference then .ok (.reference t.toReference)
    else .error (.valuedItem (String.ofList t.text))
  | formula f => .ok (.formula f.items f.settings)

/-- A formula of some items; the first item that is not allowed is reported. -/
def Formula.build (items : List ItemDraft) (s : Settings) : Except FactError Formula :=
  match items.mapM ItemDraft.build with
  | .ok items => .ok ⟨items, s⟩
  | .error e => .error e

/-! ### Values and comments -/

/-- What a value is built from. -/
inductive ValueDraft where
  | literal (v : Value)
  | triplet (t : Triplet)
  | formula (f : Formula)

/-- The draft from which a value is built again. -/
def FactValue.draft : FactValue → ValueDraft
  | literal v => .literal v
  | reference r => .triplet r.toTriplet
  | formula f => .formula f

/-- A literal as a candidate for a field. -/
def Value.candidate : Value → Candidate
  | bool _ => .bool
  | int _ => .int
  | float x => .float x
  | str s => .str s

/-- What is held against the rules of the field. -/
def ValueDraft.candidate : ValueDraft → Candidate
  | literal v => v.candidate
  | triplet _ => .triplet
  | formula _ => .expression

/-- Whether a text contains another one. -/
def occursIn (part : List Char) : List Char → Bool
  | [] => part.isEmpty
  | c :: cs => part.isPrefixOf (c :: cs) || occursIn part cs

/-- The marks that end a text in quotes. -/
def Settings.valueClosers (s : Settings) : List String :=
  [s.valueQuote ++ s.endMark, s.valueQuote ++ s.commentQuote]

/-- The marks that end a comment. -/
def Settings.commentClosers (s : Settings) : List String := [s.commentQuote ++ s.endMark]

/-- A text must not contain any of the marks that would end it. -/
def checkOpen (field : Field) (text : String) (closers : List String) : Except FactError Unit :=
  if closers.any fun c => occursIn c.toList text.toList then .error (.badFormat field text)
  else .ok ()

/-- The value of a draft. -/
def ValueDraft.build (s : Settings) (d : ValueDraft) : Except FactError FactValue :=
  match s.validate .value d.candidate with
  | .error e => .error e
  | .ok () =>
    match d with
    | literal (.str text) =>
      (checkOpen .value text s.valueClosers).map fun _ => .literal (.str text)
    | literal v => .ok (.literal v)
    | triplet t =>
      if t.isReference then .ok (.reference t.toReference)
      else .error (.valuedTarget (String.ofList t.text))
    | formula f => .ok (.formula f)

/-- The value of a draft, if there is one. -/
def ValueDraft.buildOptional (s : Settings) :
    Option ValueDraft → Except FactError (Option FactValue)
  | some d => (d.build s).map some
  | none => .ok none

/-- A comment; an empty one counts as absent. -/
def Settings.buildComment (s : Settings) : Option String → Except FactError (Option String)
  | none => .ok none
  | some c =>
    if c = "" then .ok none
    else
      match s.validate .comment (.str c) with
      | .error e => .error e
      | .ok () => (checkOpen .comment c s.commentClosers).map fun _ => some c

/-! ### Triplets -/

/-- What a triplet is built from. -/
structure Draft where
  pfx : String
  name : Option String := none
  value : Option ValueDraft := none
  comment : Option String := none
  bid : Bool := false
  special : Bool := false

/-- A prefix in capital letters. -/
def Settings.buildPfx (s : Settings) (pfx : String) : Except FactError String :=
  (s.validate .pfx (.str pfx)).map fun _ => Unicode.upper pfx

/-- A name in capital letters. -/
def Settings.buildName (s : Settings) (name : String) : Except FactError String :=
  (s.validate .name (.str name)).map fun _ => Unicode.upper name

/-- A name that may be absent; an empty one counts as absent. -/
def Settings.buildOptionalName (s : Settings) : Option String → Except FactError (Option String)
  | none => .ok none
  | some name => if name = "" then .ok none else (s.buildName name).map some

/-- The triplet of a draft; of several faults the first one is reported, in the order prefix, name,
value, comment. -/
def Draft.build (d : Draft) (s : Settings) : Except FactError Triplet := do
  let pfx ← s.buildPfx d.pfx
  let name ← s.buildOptionalName d.name
  let value ← ValueDraft.buildOptional s d.value
  let comment ← s.buildComment d.comment
  return {
    pfx := pfx, name := name, comment := comment, bid := d.bid, special := d.special,
    settings := s, value := value }

/-! ### Edits -/

/-- A change of a triplet. -/
inductive Edit where
  | value (v : Option ValueDraft)
  | comment (c : Option String)
  | bid (b : Bool)
  | special (b : Bool)

/-- A triplet after a change, which obeys the settings of the triplet. -/
def Triplet.edit (t : Triplet) : Edit → Except FactError Triplet
  | .value v => (ValueDraft.buildOptional t.settings v).map fun v => { t with value := v }
  | .comment c => (t.settings.buildComment c).map fun c => { t with comment := c }
  | .bid b => .ok { t with bid := b }
  | .special b => .ok { t with special := b }

/-- An edit does not change the key. -/
theorem Triplet.key_edit {t u : Triplet} {e : Edit} (h : t.edit e = .ok u) : u.key = t.key := by
  cases e with
  | value v =>
    cases hv : ValueDraft.buildOptional t.settings v <;> simp [edit, hv, Except.map] at h
    subst h
    rfl
  | comment c =>
    cases hc : t.settings.buildComment c <;> simp [edit, hc, Except.map] at h
    subst h
    rfl
  | bid b | special b =>
    simp only [edit, Except.ok.injEq] at h
    subst h
    rfl

end TripletFacts
