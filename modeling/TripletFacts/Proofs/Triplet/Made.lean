import TripletFacts.Proofs.Number.Bits
import TripletFacts.Proofs.Outcome
import TripletFacts.Proofs.Triplet.Built

/-!
# Triplets that can be made

Triplets come from drafts and from edits, and drafts are made of literals, of triplets and of
formulas that were made before, each under settings of its own. Whatever the settings are, no float
that is not finite gets into a triplet, and so every triplet that can be made is equal to itself.

## Main definitions

* `Triplet.Made`, `Formula.Made`: what can be made by building and editing.
* `ValueDraft.Made`, `ItemDraft.Made`: drafts whose parts can be made.
* `Edit.Made`: edits whose parts can be made.

## Main results

* `Formula.Made.equal_self`, `Triplet.Made.equal_self`: what can be made is equal to itself.
* `Formula.Made.isFinite`, `Triplet.Made.isFinite`: the floats in it are finite.
-/

namespace TripletFacts

/-! ### Making -/

mutual

/-- A triplet that was built, under any settings, or that was edited. -/
inductive Triplet.Made : Triplet → Prop
  | build {d : Draft} {s : Settings} {t : Triplet} (hvalue : ∀ v ∈ d.value, ValueDraft.Made v)
      (h : d.build s = .ok t) : Triplet.Made t
  | edit {t u : Triplet} {e : Edit} (ht : Triplet.Made t)
      (hvalue : ∀ v, e = .value (some v) → ValueDraft.Made v) (h : t.edit e = .ok u) :
      Triplet.Made u

/-- A literal, or a triplet or a formula that can be made. -/
inductive ValueDraft.Made : ValueDraft → Prop
  | literal (v : Value) : ValueDraft.Made (.literal v)
  | triplet {t : Triplet} (h : Triplet.Made t) : ValueDraft.Made (.triplet t)
  | formula {f : Formula} (h : Formula.Made f) : ValueDraft.Made (.formula f)

/-- A formula that was built. -/
inductive Formula.Made : Formula → Prop
  | build {items : List ItemDraft} {s : Settings} {f : Formula}
      (hitems : ∀ i ∈ items, ItemDraft.Made i) (h : Formula.build items s = .ok f) : Formula.Made f

/-- A text, a number or a truth value, or a triplet or a formula that can be made. -/
inductive ItemDraft.Made : ItemDraft → Prop
  | text (s : String) : ItemDraft.Made (.text s)
  | number (n : Number) : ItemDraft.Made (.number n)
  | bool (b : Bool) : ItemDraft.Made (.bool b)
  | triplet {t : Triplet} (h : Triplet.Made t) : ItemDraft.Made (.triplet t)
  | formula {f : Formula} (h : Formula.Made f) : ItemDraft.Made (.formula f)

end

/-- An edit that sets no value, or one whose parts can be made. -/
def Edit.Made (e : Edit) : Prop := ∀ v, e = .value (some v) → v.Made

/-! ### Formulas -/

/-- Lists of items that are equal to themselves are. -/
theorem Item.allEqual_self {items : List Item} (h : ∀ i ∈ items, i.equal i = true) :
    allEqual items items = true := by
  induction items with
  | nil => rfl
  | cons i items ih =>
    obtain ⟨hi, hitems⟩ := List.forall_mem_cons.1 h
    rw [allEqual, hi, ih hitems]
    rfl

theorem Formula.build_eq_ok_iff {items : List ItemDraft} {s : Settings} {f : Formula} :
    Formula.build items s = .ok f ↔
      ∃ built, items.mapM ItemDraft.build = .ok built ∧ f = ⟨built, s⟩ := by
  unfold build
  cases items.mapM ItemDraft.build with
  | error e => simp
  | ok built => simp [eq_comm]

mutual

/-- A formula that can be made is equal to itself. -/
theorem Formula.Made.equal_self {f : Formula} : f.Made → f.equal f = true
  | .build hitems h => by
    obtain ⟨built, hbuilt, rfl⟩ := Formula.build_eq_ok_iff.1 h
    refine Item.allEqual_self fun i hi => ?_
    obtain ⟨d, hd, hbuild⟩ := exists_mem_of_mapM_eq_ok hbuilt hi
    exact (hitems d hd).equal_self hbuild

/-- The item of a draft that can be made is equal to itself. -/
theorem ItemDraft.Made.equal_self {d : ItemDraft} {i : Item} :
    d.Made → d.build = .ok i → i.equal i = true
  | .text s, h => by
    obtain rfl := Except.ok.inj h
    rw [Item.equal, beq_self_eq_true]
  | .number (.int n), h => by
    obtain rfl := Except.ok.inj h
    rw [Item.equal, beq_self_eq_true]
  | .number (.float x), h => by
    rw [ItemDraft.build] at h
    split at h
    · rename_i hx
      obtain rfl := Except.ok.inj h
      rw [Item.equal, Binary64.beq_self_of_isFinite hx]
    · cases h
  | .bool b, h => by
    obtain rfl := Except.ok.inj h
    rw [Item.equal, beq_self_eq_true]
  | .triplet _, h => by
    rw [ItemDraft.build] at h
    split at h
    · obtain rfl := Except.ok.inj h
      rw [Item.equal, beq_self_eq_true]
    · cases h
  | .formula hf, h => by
    obtain rfl := Except.ok.inj h
    rw [Item.equal]
    exact hf.equal_self

end

/-! ### Values and triplets -/

/-- The value of a draft that can be made is equal to itself. -/
theorem ValueDraft.Made.equal_self {d : ValueDraft} (hd : d.Made) {s : Settings} {v : FactValue}
    (h : d.build s = .ok v) : v.equal v = true := by
  obtain ⟨hvalid, -, -, rfl⟩ := ValueDraft.build_eq_ok_iff.1 h
  cases hd with
  | literal l =>
    cases l with
    | str text => exact beq_self_eq_true text
    | int i => exact beq_self_eq_true i
    | bool b => exact beq_self_eq_true b
    | float x =>
      have hx : x.isFinite = true := (FieldRules.validate_eq_ok_iff.1 hvalid).2.1 x rfl
      exact Binary64.beq_self_of_isFinite hx
  | triplet _ => exact beq_self_eq_true _
  | formula hf => exact hf.equal_self

theorem ValueDraft.optionEqual_self {d : Option ValueDraft} (hd : ∀ v ∈ d, v.Made) {s : Settings}
    {v : Option FactValue} (h : ValueDraft.buildOptional s d = .ok v) :
    FactValue.optionEqual v v = true := by
  cases v with
  | none => rfl
  | some w =>
    obtain ⟨d', hd', hbuild⟩ := ValueDraft.exists_of_buildOptional h
    exact (hd d' hd').equal_self hbuild

/-- A triplet is equal to itself if its value is. -/
theorem Triplet.equal_self_iff {t : Triplet} :
    t.equal t = true ↔ FactValue.optionEqual t.value t.value = true := by
  rw [Triplet.equal, beq_self_eq_true, Bool.true_and]

/-- An edit keeps a triplet equal to itself. -/
theorem Triplet.equal_self_of_edit {t u : Triplet} {e : Edit} (ht : t.equal t = true) (he : e.Made)
    (h : t.edit e = .ok u) : u.equal u = true := by
  rw [equal_self_iff] at ht ⊢
  cases e with
  | value d =>
    obtain ⟨v, hv, rfl⟩ := map_eq_ok_iff.1 h
    exact ValueDraft.optionEqual_self (fun w hw => he w (congrArg Edit.value hw)) hv
  | comment c =>
    obtain ⟨c', -, rfl⟩ := map_eq_ok_iff.1 h
    exact ht
  | bid b | special b =>
    obtain rfl := Except.ok.inj h
    exact ht

/-- A triplet that can be made is equal to itself. -/
theorem Triplet.Made.equal_self {t : Triplet} : t.Made → t.equal t = true
  | .build hvalue h => by
    obtain ⟨pfx, name, value, comment, -, -, hv, -, rfl⟩ := Draft.build_eq_ok_iff.1 h
    exact Triplet.equal_self_iff.2 (ValueDraft.optionEqual_self hvalue hv)
  | .edit ht hvalue h => Triplet.equal_self_of_edit ht.equal_self hvalue h

/-! ### Floats -/

/-- A float that is the value of a built draft is finite. -/
theorem ValueDraft.isFinite_of_buildOptional {s : Settings} {d : Option ValueDraft} {x : Float}
    (h : ValueDraft.buildOptional s d = .ok (some (.literal (.float x)))) : x.isFinite = true := by
  obtain ⟨d', -, hbuild⟩ := exists_of_buildOptional h
  obtain ⟨hvalid, -, -, hdenoted⟩ := build_eq_ok_iff.1 hbuild
  cases d' with
  | literal v =>
    obtain rfl : v = .float x := FactValue.literal.inj hdenoted
    exact (FieldRules.validate_eq_ok_iff.1 hvalid).2.1 x rfl
  | triplet t => cases hdenoted
  | formula f => cases hdenoted

/-- A float that a triplet states is finite. -/
theorem Triplet.Made.isFinite {t : Triplet} {x : Float} :
    t.Made → t.value = some (.literal (.float x)) → x.isFinite = true
  | .build _ h, hx => by
    obtain ⟨pfx, name, value, comment, -, -, hv, -, rfl⟩ := Draft.build_eq_ok_iff.1 h
    obtain rfl : value = some (.literal (.float x)) := hx
    exact ValueDraft.isFinite_of_buildOptional hv
  | @Made.edit u _ e hu _ h, hx => by
    cases e with
    | value d =>
      obtain ⟨v, hv, rfl⟩ := map_eq_ok_iff.1 h
      obtain rfl : v = some (.literal (.float x)) := hx
      exact ValueDraft.isFinite_of_buildOptional hv
    | comment c =>
      obtain ⟨c', -, rfl⟩ := map_eq_ok_iff.1 h
      exact hu.isFinite hx
    | bid b | special b =>
      obtain rfl := Except.ok.inj h
      exact hu.isFinite hx

/-- A float that is an item of a formula is finite. -/
theorem Formula.Made.isFinite {f : Formula} {x : Float} (hf : f.Made)
    (hx : .number (.float x) ∈ f.items) : x.isFinite = true := by
  cases hf with
  | build hitems h =>
    obtain ⟨built, hbuilt, rfl⟩ := Formula.build_eq_ok_iff.1 h
    obtain ⟨d, -, hbuild⟩ := exists_mem_of_mapM_eq_ok hbuilt hx
    unfold ItemDraft.build at hbuild
    split at hbuild
    · cases hbuild
    · cases hbuild
    · split at hbuild
      · next hfinite =>
        cases hbuild
        exact hfinite
      · cases hbuild
    · cases hbuild
    · split at hbuild <;> cases hbuild
    · cases hbuild

end TripletFacts
