import TripletFacts.Proofs.Expr.Extremes
import TripletFacts.Proofs.Expr.Integers

/-!
# Arguments of functions

Every function is made for arguments of certain numbers and kinds. Given these, a call has a value
or fails because of the values that it was given, and given others it fails with an error about
their number or their kinds. There is one exception. Texts are joined by the operator `+`, which
adds numbers as well, and the function that joins two texts does the same.

## Main definitions

* `IsValueOrRefused`, `IsTypeError`: the two kinds of results.
* `KeepsTo`: a result that tells by its kind whether a condition holds.
* `Function.Accepts`: the arguments that a function is made for.
* `CallKeeps`: a call whose result tells whether the function is made for its arguments.

## Main results

* `Function.numericArgument_cases`: functions of one number.
* `Function.keepsTo_apply`, `Function.isValueOrRefused_strcat`: all functions but the one that joins
  texts, and this one.
* `callKeeps_iff`: which calls keep to the arguments.
-/

namespace TripletFacts

/-! ### Kinds of results -/

/-- A value, or an error about the values that were given. -/
def IsValueOrRefused (result : Except EvalError Value) : Prop :=
  (∃ v, result = .ok v) ∨ ∃ e, result = .error e ∧ e.category = .value

/-- An error about the number or the kinds of what was given. -/
def IsTypeError (result : Except EvalError Value) : Prop :=
  ∃ e, result = .error e ∧ e.category = .type

/-- A result is a value or an error about values if a condition holds, and an error about kinds
otherwise. -/
structure KeepsTo (result : Except EvalError Value) (condition : Prop) : Prop where
  isValueOrRefused_iff : IsValueOrRefused result ↔ condition
  isTypeError_iff : IsTypeError result ↔ ¬condition

section

variable {result : Except EvalError Value} {condition : Prop}

theorem isValueOrRefused_ok (v : Value) : IsValueOrRefused (.ok v) := .inl ⟨v, rfl⟩

theorem IsTypeError.not_isValueOrRefused (h : IsTypeError result) : ¬IsValueOrRefused result := by
  obtain ⟨e, rfl, he⟩ := h
  rintro (⟨v, hv⟩ | ⟨e', heq, he'⟩)
  · cases hv
  · obtain rfl := Except.error.inj heq
    rw [he] at he'
    cases he'

theorem KeepsTo.of_accepted (hresult : IsValueOrRefused result) (h : condition) :
    KeepsTo result condition :=
  ⟨iff_of_true hresult h, iff_of_false (fun htype => htype.not_isValueOrRefused hresult)
    (not_not.2 h)⟩

theorem KeepsTo.of_refused (hresult : IsTypeError result) (h : ¬condition) :
    KeepsTo result condition :=
  ⟨iff_of_false hresult.not_isValueOrRefused h, iff_of_true hresult h⟩

theorem KeepsTo.cases (h : KeepsTo result condition) :
    IsValueOrRefused result ∨ IsTypeError result :=
  (em condition).imp h.isValueOrRefused_iff.2 h.isTypeError_iff.2

/-- That a function is not known is said of no function that is. -/
theorem ne_unknownFunction (h : IsValueOrRefused result ∨ IsTypeError result) (name : String) :
    result ≠ .error (.unknownFunction name) := by
  rintro rfl
  obtain (⟨v, hv⟩ | ⟨e, heq, he⟩) | ⟨e, heq, he⟩ := h
  · cases hv
  · cases heq
    cases he
  · cases heq
    cases he

end

theorem Arithmetic.IsFloatOrRefused.isValueOrRefused {result : Except EvalError Value}
    (h : IsFloatOrRefused result) : IsValueOrRefused result :=
  h.imp_left fun ⟨x, hx⟩ => ⟨.float x, hx⟩

/-! ### Functions -/

/-- A text, as opposed to a number or a truth value. -/
def Value.IsText (v : Value) : Prop := ∃ s, v = .str s

namespace Function

/-- The arguments that a function is made for: one number or truth value, two texts to be joined,
or at least two values to choose from, all of them texts or none. -/
def Accepts (f : Function) (args : List Value) : Prop :=
  match f with
  | strcat => ∃ s t, args = [.str s, .str t]
  | min | max =>
    2 ≤ args.length ∧ ((∀ v ∈ args, v.IsText) ∨ ∀ v ∈ args, ¬v.IsText)
  | _ => ∃ v, args = [v] ∧ ¬v.IsText

variable {f : Function} {args : List Value}

/-- The argument of a function of one number is found exactly if there is one argument and it is no
text. -/
theorem numericArgument_cases (f : Function) (args : List Value) :
    (∃ n, f.numericArgument args = .ok n ∧ ∃ v, args = [v] ∧ ¬v.IsText) ∨
      (∃ e, f.numericArgument args = .error e ∧ e.category = .type) ∧
        ¬∃ v, args = [v] ∧ ¬v.IsText := by
  unfold numericArgument
  split
  · next v =>
    cases hv : v.operand? with
    | some n =>
      refine .inl ⟨n, rfl, v, rfl, fun htext => ?_⟩
      cases hv.symm.trans (Value.operand?_eq_none_iff.2 htext)
    | none =>
      refine .inr ⟨⟨_, rfl, rfl⟩, ?_⟩
      rintro ⟨w, hw, htext⟩
      obtain rfl : v = w := List.singleton_inj.1 hw
      exact htext (Value.operand?_eq_none_iff.1 hv)
  · next hargs =>
    refine .inr ⟨⟨_, rfl, rfl⟩, ?_⟩
    rintro ⟨v, rfl, -⟩
    exact hargs v rfl

theorem keepsTo_applyElementary (f : Function) (g : Float → Float) (args : List Value) :
    KeepsTo (f.applyElementary g args) (∃ v, args = [v] ∧ ¬v.IsText) := by
  unfold applyElementary
  obtain ⟨n, hn, hargs⟩ | ⟨⟨e, he, htype⟩, hargs⟩ := f.numericArgument_cases args
  · rw [hn]
    refine .of_accepted ?_ hargs
    dsimp only
    split
    · exact .inr ⟨_, rfl, rfl⟩
    · exact isValueOrRefused_ok _
  · rw [he]
    exact .of_refused ⟨e, rfl, htype⟩ hargs

theorem keepsTo_applyAbs (args : List Value) :
    KeepsTo (applyAbs args) (∃ v, args = [v] ∧ ¬v.IsText) := by
  unfold applyAbs
  obtain ⟨n, hn, hargs⟩ | ⟨⟨e, he, htype⟩, hargs⟩ := abs.numericArgument_cases args
  · rw [hn]
    refine .of_accepted ?_ hargs
    cases n with
    | float x => exact isValueOrRefused_ok _
    | int i =>
      dsimp only
      split <;> exact isValueOrRefused_ok _
  · rw [he]
    exact .of_refused ⟨e, rfl, htype⟩ hargs

/-- The search for an extreme value fails only where two values cannot be compared. -/
theorem isTypeError_firstExtreme {beats : Comparison} {best : Value} {vs : List Value}
    (h : ¬∃ v, firstExtreme beats best vs = .ok v) : IsTypeError (firstExtreme beats best vs) := by
  induction vs generalizing best with
  | nil => exact absurd ⟨best, rfl⟩ h
  | cons v vs ih =>
    rw [firstExtreme] at h ⊢
    cases happly : beats.apply v best with
    | error e =>
      refine ⟨e, rfl, ?_⟩
      unfold Comparison.apply at happly
      split at happly
      · cases happly
      · cases happly
      · split at happly <;> cases happly
        rfl
    | ok b =>
      rw [happly] at h
      cases b <;> exact ih h

theorem keepsTo_applyExtreme (f : Function) {beats : Comparison} (hbeats : beats.IsStrict)
    (args : List Value) : KeepsTo (f.applyExtreme beats args)
      (2 ≤ args.length ∧ ((∀ v ∈ args, v.IsText) ∨ ∀ v ∈ args, ¬v.IsText)) := by
  unfold applyExtreme
  split
  · next first second vs =>
    have hfound : (∃ v, firstExtreme beats first (second :: vs) = .ok v) ↔ _ :=
      (exists_firstExtreme_iff hbeats).trans Value.forall_isAlike_iff
    by_cases hkinds : (∀ v ∈ first :: second :: vs, v.IsText) ∨
        ∀ v ∈ first :: second :: vs, ¬v.IsText
    · exact .of_accepted (.inl (hfound.2 hkinds)) ⟨by simp, hkinds⟩
    · exact .of_refused (isTypeError_firstExtreme (mt hfound.1 hkinds)) fun h => hkinds h.2
  · next hargs =>
    refine .of_refused ⟨_, rfl, rfl⟩ fun h => ?_
    match args, h.1 with
    | first :: second :: vs, _ => exact hargs first second vs rfl

/-- All functions but the one that joins texts keep to the arguments that they are made for. -/
theorem keepsTo_apply (hf : f ≠ strcat) (args : List Value) :
    KeepsTo (f.apply args) (f.Accepts args) := by
  cases f with
  | strcat => exact absurd rfl hf
  | abs => exact keepsTo_applyAbs args
  | min => exact keepsTo_applyExtreme min (.inl rfl) args
  | max => exact keepsTo_applyExtreme max (.inr rfl) args
  | sin | cos | tan | acos | atan | sinh | cosh | tanh | sqrt | exp | ln | log =>
    exact keepsTo_applyElementary _ _ args

/-- The function that joins texts also adds two numbers. -/
theorem isValueOrRefused_strcat {v w : Value} (hv : ¬v.IsText) (hw : ¬w.IsText) :
    IsValueOrRefused (strcat.apply [v, w]) := by
  have hoperand {u : Value} (hu : ¬u.IsText) : ∃ n, u.operand? = some n :=
    Option.ne_none_iff_exists'.1 (mt Value.operand?_eq_none_iff.1 hu)
  obtain ⟨m, hm⟩ := hoperand hv
  obtain ⟨n, hn⟩ := hoperand hw
  change IsValueOrRefused (Arithmetic.add.apply v w)
  unfold Arithmetic.apply
  split
  · exact isValueOrRefused_ok _
  · rw [hm, hn]
    split
    · have hadd (r : Int64) : ¬(Arithmetic.add = .mod ∧ r = 0) := fun h => nomatch h.1
      obtain ⟨i, -, hi⟩ | ⟨-, hfloat⟩ := Arithmetic.onInts_cases (hadd _)
      · exact .inl ⟨_, hi⟩
      · exact hfloat.isValueOrRefused
    · exact (Arithmetic.isFloatOrRefused_onFloats _ _ _).isValueOrRefused
    · next hnone => exact absurd rfl (hnone _ _ rfl)

/-- The function that joins texts refuses a text and something else. -/
theorem isTypeError_strcat {v w : Value} (h : ¬(v.IsText ↔ w.IsText)) :
    IsTypeError (strcat.apply [v, w]) := by
  by_cases hv : v.IsText
  · obtain ⟨s, rfl⟩ := hv
    cases w with
    | str t => exact absurd (iff_of_true ⟨s, rfl⟩ ⟨t, rfl⟩) h
    | bool b | int i | float x => exact ⟨_, rfl, rfl⟩
  · have hw : w.IsText := by
      by_contra hw
      exact h (iff_of_false hv hw)
    obtain ⟨t, rfl⟩ := hw
    cases v with
    | str s => exact absurd ⟨s, rfl⟩ hv
    | bool b | int i | float x => exact ⟨_, rfl, rfl⟩

/-- The function that joins texts keeps to two texts, unless it is given two numbers. -/
theorem keepsTo_strcat_iff {args : List Value} :
    KeepsTo (strcat.apply args) (strcat.Accepts args) ↔
      ¬∃ v w, args = [v, w] ∧ ¬v.IsText ∧ ¬w.IsText := by
  constructor
  · rintro h ⟨v, w, rfl, hv, hw⟩
    obtain ⟨s, t, heq⟩ := h.isValueOrRefused_iff.1 (isValueOrRefused_strcat hv hw)
    exact hv ⟨s, (List.cons.inj heq).1⟩
  · intro hnumbers
    match args with
    | [v, w] =>
      by_cases hkinds : v.IsText ↔ w.IsText
      · have hv : v.IsText := by
          by_contra hv
          exact hnumbers ⟨v, w, rfl, hv, mt hkinds.2 hv⟩
        obtain ⟨s, rfl⟩ := hv
        obtain ⟨t, rfl⟩ := hkinds.1 ⟨s, rfl⟩
        exact .of_accepted (isValueOrRefused_ok _) ⟨s, t, rfl⟩
      · refine .of_refused (isTypeError_strcat hkinds) ?_
        rintro ⟨s, t, heq⟩
        obtain ⟨rfl, hrest⟩ := List.cons.inj heq
        obtain rfl := List.singleton_inj.1 hrest
        exact hkinds (iff_of_true ⟨s, rfl⟩ ⟨t, rfl⟩)
    | [] | [v] | v :: w :: u :: vs =>
      refine .of_refused ⟨_, rfl, rfl⟩ ?_
      rintro ⟨s, t, heq⟩
      cases heq

/-- Every function gives a value, an error about values or an error about kinds. -/
theorem apply_cases (f : Function) (args : List Value) :
    IsValueOrRefused (f.apply args) ∨ IsTypeError (f.apply args) := by
  by_cases hf : f = strcat
  · subst hf
    by_cases hnumbers : ∃ v w, args = [v, w] ∧ ¬v.IsText ∧ ¬w.IsText
    · obtain ⟨v, w, rfl, hv, hw⟩ := hnumbers
      exact .inl (isValueOrRefused_strcat hv hw)
    · exact (keepsTo_strcat_iff.2 hnumbers).cases
  · exact (keepsTo_apply hf args).cases

end Function

/-! ### Calls -/

/-- A call by name whose result tells by its kind whether the function is made for its arguments. -/
def CallKeeps (name : String) (args : List Value) : Prop :=
  ∀ f, Function.ofName? name = some f → KeepsTo (callFunction name args) (f.Accepts args)

theorem callKeeps_name_iff (f : Function) {args : List Value} :
    CallKeeps f.name args ↔ KeepsTo (f.apply args) (f.Accepts args) := by
  simp [CallKeeps, Function.ofName?_name, callFunction_name]

/-- Only a function that is not allowed is not known. -/
theorem callFunction_unknown_iff {name : String} {args : List Value} :
    (∃ n, callFunction name args = .error (.unknownFunction n)) ↔
      isAllowedFunction name = false := by
  unfold isAllowedFunction
  cases hname : Function.ofName? name with
  | none => exact iff_of_true ⟨name, by rw [callFunction, hname]⟩ rfl
  | some f =>
    obtain rfl := name_of_ofName? hname
    refine iff_of_false ?_ (fun h => by cases h)
    rintro ⟨n, hn⟩
    rw [callFunction_name] at hn
    exact ne_unknownFunction (f.apply_cases args) n hn

/-- **Which calls keep to the arguments.** A function is not known exactly if it is not allowed. Of
an allowed one a call has a value, or an error about the values, exactly if the function is made for
the arguments, and an error about their kinds otherwise, unless numbers are joined like texts. -/
theorem callKeeps_iff (name : String) (args : List Value) :
    ((∃ n, callFunction name args = .error (.unknownFunction n)) ↔
        isAllowedFunction name = false) ∧
      (CallKeeps name args ↔
        ¬(name = "strcat" ∧ ∃ v w, args = [v, w] ∧ ¬v.IsText ∧ ¬w.IsText)) ∧
      ∀ s t, callFunction "strcat" [.str s, .str t] = .ok (.str (s ++ t)) := by
  refine ⟨callFunction_unknown_iff, ?_, fun s t => callFunction_name .strcat _⟩
  by_cases hname : name = "strcat"
  · subst hname
    refine (callKeeps_name_iff .strcat).trans (Function.keepsTo_strcat_iff.trans ?_)
    exact not_congr (and_iff_right rfl).symm
  · refine iff_of_true (fun f hf => ?_) fun h => hname h.1
    obtain rfl := name_of_ofName? hf
    rw [callFunction_name]
    refine Function.keepsTo_apply ?_ args
    rintro rfl
    exact hname rfl

/-- Numbers are joined like texts, and the result is their sum. -/
theorem not_callKeeps_strcat : ¬CallKeeps "strcat" [.int 1, .int 2] ∧
    callFunction "strcat" [.int 1, .int 2] = .ok (.int 3) := by
  have hsum : callFunction "strcat" [.int 1, .int 2] = .ok (.int 3) := by decide
  refine ⟨fun h => ?_, hsum⟩
  have haccepts : Function.strcat.Accepts [.int 1, .int 2] :=
    (h .strcat (by decide)).isValueOrRefused_iff.1 (hsum ▸ isValueOrRefused_ok _)
  obtain ⟨s, t, heq⟩ := haccepts
  cases heq

end TripletFacts
