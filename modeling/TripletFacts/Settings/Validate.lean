import TripletFacts.Error
import TripletFacts.Regex.Accept
import TripletFacts.Regex.Reader

/-!
# Validation of fields

Before a prefix, a name, a value or a comment becomes part of a triplet it is held against the
rules of its field: first its kind, then whether a float is finite, and of a text its length and
its pattern.

## Main definitions

* `Candidate`: what may become the content of a field.
* `fullMatch`: whether a text matches a pattern from its beginning to its end.
* `Settings.validate`: the first rule of a field that is broken, if there is one.

## Main results

* `FieldRules.validate_eq_ok_iff`: what passes, in terms of the four rules.
-/

namespace TripletFacts

/-- What may become the content of a field. Where nothing depends on the content, only its kind is
kept. -/
inductive Candidate where
  | str (s : String)
  | int
  | float (x : Float)
  | bool
  | triplet
  | expression

/-- The kind of a candidate. -/
def Candidate.kind : Candidate → Kind
  | str _ => .str
  | int => .int
  | float _ => .float
  | bool => .bool
  | triplet => .triplet
  | expression => .expression

/-- The expression that matches a whole text if the text of a pattern does. -/
def wholePattern? (pattern : String) : Option Regex :=
  Regex.ofText? ("^(?:".toList ++ pattern.toList ++ ")$".toList)

/-- Whether a text matches a pattern from its beginning to its end. -/
def fullMatch (pattern text : String) : Except FactError Bool :=
  match wholePattern? pattern with
  | some r => .ok (r.accepts text.toList)
  | none => .error (.badPattern pattern)

namespace FieldRules

/-- The length of a text is within the bounds. -/
def HasLength (r : FieldRules) (s : String) : Prop :=
  r.min.toNat ≤ s.length ∧ s.length ≤ r.max.toNat

instance (r : FieldRules) (s : String) : Decidable (r.HasLength s) :=
  inferInstanceAs (Decidable (_ ∧ _))

/-- The rules about the length and the pattern of a text. -/
def validateText (r : FieldRules) (field : Field) (s : String) : Except FactError Unit :=
  if r.HasLength s then
    match r.pattern with
    | none => .ok ()
    | some p =>
      match fullMatch p s with
      | .ok true => .ok ()
      | .ok false => .error (.badFormat field s)
      | .error e => .error e
  else .error (.badLength field r.min.toNat r.max.toNat s.length)

/-- The first of the rules that a candidate breaks, if there is one. -/
def validate (r : FieldRules) (field : Field) (c : Candidate) : Except FactError Unit :=
  if r.accepts c.kind then
    match c with
    | .str s => r.validateText field s
    | .float x => if x.isFinite then .ok () else .error (.notFinite field x)
    | _ => .ok ()
  else .error (.wrongKind field r.kinds c.kind)

/-- A candidate passes if its kind is accepted, a float is finite, and a text has an allowed length
and matches the pattern. -/
theorem validate_eq_ok_iff {r : FieldRules} {field : Field} {c : Candidate} :
    r.validate field c = .ok () ↔
      c.kind ∈ r.kinds ∧ (∀ x, c = .float x → x.isFinite = true) ∧
        ∀ s, c = .str s →
          r.HasLength s ∧ ∀ p, r.pattern = some p → fullMatch p s = .ok true := by
  unfold validate accepts
  split
  · rename_i hk
    have hk : c.kind ∈ r.kinds := by simpa using hk
    cases c with
    | str s =>
      simp only [hk, validateText, true_and, Candidate.str.injEq, forall_eq', reduceCtorEq,
        false_implies, implies_true]
      split
      · rename_i hl
        simp only [hl, true_and]
        cases r.pattern with
        | none => simp
        | some p =>
          simp only [Option.some.injEq, forall_eq']
          rcases fullMatch p s with e | b
          · simp
          · cases b <;> simp
      · rename_i hl
        simp [hl]
    | float x => by_cases hx : x.isFinite <;> simp [hk, hx]
    | int | bool | triplet | expression => simp [hk]
  · rename_i hk
    have hk : c.kind ∉ r.kinds := by simpa using hk
    simp [hk]

end FieldRules

namespace Settings

/-- Holds a candidate against the rules of a field. -/
def validate (s : Settings) (field : Field) (c : Candidate) : Except FactError Unit :=
  (s.rules field).validate field c

/-- Like `Settings.validate`; what is absent breaks no rule. -/
def validateOptional (s : Settings) (field : Field) : Option Candidate → Except FactError Unit
  | some c => s.validate field c
  | none => .ok ()

end Settings

end TripletFacts
