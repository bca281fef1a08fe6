import TripletFacts.Proofs.Triplet.Built

/-!
# Setters

A setter changes a part of a triplet in place. What is to be set is checked under the settings of
the triplet before anything is changed, and nothing in a setter puts the triplet back as it was, so
that a change made before a check would be seen after a failure. Setters can be called in any order,
some of them without success.

The triplets that are reached in this way from one that was built are those that are built under the
same settings from the same prefix and the same name.

## Main definitions

* `Setter`, `Edit.setter`: operations on a triplet that may fail, and the setter of an edit.
* `Triplet.set`, `Triplet.setAll`: a call of a setter, and several calls one after the other.
* `Triplet.Sound`: what no value and no comment of a triplet is.

## Main results

* `Triplet.set_eq`: a setter does what the edit says, and nothing if it fails.
* `Triplet.sound_of_build`: a triplet that was built is sound.
* `Triplet.reached_iff_build`: which triplets setters reach.
-/

namespace TripletFacts

/-! ### Calls -/

/-- An operation on a triplet in place. What was changed before a failure stays changed. -/
abbrev Setter := ExceptT FactError (StateM Triplet) Unit

/-- A check of something new under the settings of the triplet. -/
def checked {α : Type} (f : Settings → Except FactError α) :
    ExceptT FactError (StateM Triplet) α :=
  ExceptT.mk fun t => pure (f t.settings, t)

/-- The setter of an edit. -/
def Edit.setter : Edit → Setter
  | .value d => do
    let v ← checked fun s => ValueDraft.buildOptional s d
    modify fun t => { t with value := v }
  | .comment c => do
    let c ← checked fun s => s.buildComment c
    modify fun t => { t with comment := c }
  | .bid b => modify fun t => { t with bid := b }
  | .special b => modify fun t => { t with special := b }

namespace Triplet

variable {t u : Triplet} {s : Settings} {d : Draft}

/-- A call of a setter: its answer, and the triplet that it leaves. -/
def set (t : Triplet) (e : Edit) : Except FactError Unit × Triplet := (ExceptT.run e.setter).run t

/-- The triplet after several calls, whether they fail or not. -/
def setAll (t : Triplet) (es : List Edit) : Triplet := es.foldl (fun t e => (t.set e).2) t

@[simp] theorem setAll_nil (t : Triplet) : t.setAll [] = t := rfl

theorem setAll_cons (t : Triplet) (e : Edit) (es : List Edit) :
    t.setAll (e :: es) = (t.set e).2.setAll es := rfl

/-- A check that fails leaves the triplet as it was. -/
theorem run_checked_bind {α : Type} (f : Settings → Except FactError α) (g : α → Setter) :
    (ExceptT.run (checked f >>= g)).run t =
      match f t.settings with
      | .ok x => (ExceptT.run (g x)).run t
      | .error e => (.error e, t) := by
  change (ExceptT.bindCont g (f t.settings) : StateM Triplet _) t = _
  cases f t.settings <;> rfl

/-- A setter leaves the edited triplet, or the triplet as it was if it fails. -/
theorem set_eq (t : Triplet) (e : Edit) : t.set e =
    match t.edit e with
    | .ok u => (Except.ok (), u)
    | .error err => (Except.error err, t) := by
  cases e with
  | value d =>
    rw [set, Edit.setter, run_checked_bind, edit]
    cases ValueDraft.buildOptional t.settings d <;> rfl
  | comment c =>
    rw [set, Edit.setter, run_checked_bind, edit]
    cases t.settings.buildComment c <;> rfl
  | bid b | special b => rfl

theorem set_of_edit_eq_ok {e : Edit} (h : t.edit e = .ok u) : t.set e = (.ok (), u) := by
  rw [set_eq, h]

theorem set_of_edit_eq_error {e : Edit} {err : FactError} (h : t.edit e = .error err) :
    t.set e = (.error err, t) := by
  rw [set_eq, h]

/-- A setter that fails leaves the triplet as it was. -/
theorem eq_of_set_eq_error {e : Edit} {err : FactError} (h : t.set e = (.error err, u)) :
    u = t := by
  cases hedit : t.edit e with
  | ok t' => cases (set_of_edit_eq_ok hedit).symm.trans h
  | error err' => exact (Prod.mk.inj ((set_of_edit_eq_error hedit).symm.trans h)).2.symm

end Triplet

/-! ### Parts that are built again -/

theorem ValueDraft.buildOptional_map_draft {s : Settings} {value : Option FactValue} :
    ValueDraft.buildOptional s (value.map FactValue.draft) = .ok value ↔
      ∀ v ∈ value, v.draft.build s = .ok v := by
  cases value with
  | none => simp [buildOptional]
  | some v => simp [buildOptional, map_eq_ok_iff]

/-- A draft with another content in one place. -/
def Draft.edit (d : Draft) : Edit → Draft
  | .value v => { d with value := v }
  | .comment c => { d with comment := c }
  | .bid b => { d with bid := b }
  | .special b => { d with special := b }

/-- A draft with the prefix and the name of another one, and with everything else taken from a
triplet. -/
def Draft.withPartsOf (d : Draft) (t : Triplet) : Draft where
  pfx := d.pfx
  name := d.name
  value := t.value.map FactValue.draft
  comment := t.comment
  bid := t.bid
  special := t.special

/-- Two drafts of one prefix and one name. -/
def Draft.SameHead (d d' : Draft) : Prop := d'.pfx = d.pfx ∧ d'.name = d.name

namespace Draft

variable {t u : Triplet} {s : Settings} {d d' : Draft}

theorem SameHead.edit (h : d.SameHead d') (e : Edit) : d.SameHead (d'.edit e) := by
  cases e <;> exact h

/-- A triplet is edited as its draft is: editing and building follow the same rules, and report the
same faults. -/
theorem build_edit (h : d.build s = .ok t) (e : Edit) : (d.edit e).build s = t.edit e := by
  obtain ⟨pfx, name, value, comment, hpfx, hname, hvalue, hcomment, rfl⟩ := build_eq_ok_iff.1 h
  cases e with
  | value v =>
    simp only [build, edit, hpfx, hname, hcomment, Triplet.edit]
    cases ValueDraft.buildOptional s v <;> rfl
  | comment c =>
    simp only [build, edit, hpfx, hname, hvalue, Triplet.edit]
    cases s.buildComment c <;> rfl
  | bid b | special b =>
    simp only [build, edit, hpfx, hname, hvalue, hcomment, Triplet.edit]
    rfl

/-- A triplet that was built is built again from its parts. -/
theorem build_withPartsOf (h : d'.build s = .ok t) (hhead : d.SameHead d') :
    (d.withPartsOf t).build s = .ok t := by
  obtain ⟨pfx, name, value, comment, hpfx, hname, hvalue, hcomment, rfl⟩ := build_eq_ok_iff.1 h
  exact build_eq_ok_iff.2 ⟨pfx, name, value, comment, hhead.1 ▸ hpfx, hhead.2 ▸ hname,
    ValueDraft.buildOptional_of_buildOptional hvalue,
    Settings.buildComment_of_buildComment hcomment, rfl⟩

/-- What a setter leaves is built from a draft with the same prefix and the same name. -/
theorem exists_build_set (h : d'.build s = .ok t) (hhead : d.SameHead d') (e : Edit) :
    ∃ d'', d.SameHead d'' ∧ d''.build s = .ok (t.set e).2 := by
  cases hedit : t.edit e with
  | error err => exact ⟨d', hhead, by rw [Triplet.set_of_edit_eq_error hedit, h]⟩
  | ok u =>
    refine ⟨d'.edit e, hhead.edit e, ?_⟩
    rw [build_edit h, Triplet.set_of_edit_eq_ok hedit, hedit]

/-- So is what several setters leave. -/
theorem exists_build_setAll (h : d'.build s = .ok t) (hhead : d.SameHead d') (es : List Edit) :
    ∃ d'', d.SameHead d'' ∧ d''.build s = .ok (t.setAll es) := by
  induction es generalizing t d' with
  | nil => exact ⟨d', hhead, h⟩
  | cons e es ih =>
    obtain ⟨d'', hhead'', h''⟩ := exists_build_set h hhead e
    exact ih h'' hhead''

/-- Drafts of one prefix and one name are built to triplets of one prefix and one name, with the
settings under which they were built. -/
theorem SameHead.eq_of_build (hhead : d.SameHead d') (h : d.build s = .ok t)
    (h' : d'.build s = .ok u) : u.pfx = t.pfx ∧ u.name = t.name ∧ u.settings = s := by
  obtain ⟨pfx, name, value, comment, hpfx, hname, -, -, rfl⟩ := build_eq_ok_iff.1 h
  obtain ⟨pfx', name', value', comment', hpfx', hname', -, -, rfl⟩ := build_eq_ok_iff.1 h'
  rw [hhead.1, hpfx] at hpfx'
  rw [hhead.2, hname] at hname'
  exact ⟨(Except.ok.inj hpfx').symm, (Except.ok.inj hname').symm, rfl⟩

/-- The setters that lead to the triplet of a draft. -/
def edits (d : Draft) : List Edit :=
  [.value d.value, .comment d.comment, .bid d.bid, .special d.special]

/-- From one draft of a prefix and a name the setters lead to any other one. -/
theorem setAll_edits (h : d.build s = .ok t) (h' : d'.build s = .ok u) (hhead : d.SameHead d') :
    t.setAll d'.edits = u := by
  obtain ⟨hpfx, hname, -⟩ := hhead.eq_of_build h h'
  obtain ⟨_, _, _, _, -, -, -, -, rfl⟩ := build_eq_ok_iff.1 h
  obtain ⟨_, _, value, comment, -, -, hvalue, hcomment, rfl⟩ := build_eq_ok_iff.1 h'
  obtain rfl := hpfx
  obtain rfl := hname
  have hsetValue (t : Triplet) (ht : t.settings = s) :
      (t.set (.value d'.value)).2 = { t with value := value } := by
    rw [Triplet.set_eq, Triplet.edit, ht, hvalue]
    rfl
  have hsetComment (t : Triplet) (ht : t.settings = s) :
      (t.set (.comment d'.comment)).2 = { t with comment := comment } := by
    rw [Triplet.set_eq, Triplet.edit, ht, hcomment]
    rfl
  rw [edits, Triplet.setAll_cons, hsetValue _ rfl, Triplet.setAll_cons, hsetComment _ rfl]
  rfl

end Draft

/-! ### What no triplet has -/

/-- A text contains another one if there is a stretch of it. -/
theorem occursIn_iff {part cs : List Char} : occursIn part cs = true ↔ part <:+: cs := by
  induction cs with
  | nil => simp [occursIn, List.infix_nil]
  | cons c cs ih =>
    rw [occursIn, Bool.or_eq_true, List.isPrefixOf_iff_prefix, ih, List.infix_cons_iff]

/-- A text that passes has none of the marks that would end it. -/
theorem checkOpen_eq_ok_iff {field : Field} {text : String} {closers : List String} {u : Unit} :
    checkOpen field text closers = .ok u ↔ ∀ c ∈ closers, ¬c.toList <:+: text.toList := by
  simp only [← occursIn_iff, Bool.not_eq_true]
  rw [checkOpen]
  cases hany : closers.any fun c => occursIn c.toList text.toList with
  | true =>
    obtain ⟨c, hc, hoccurs⟩ := List.any_eq_true.1 hany
    refine ⟨nofun, fun hnone => ?_⟩
    rw [hnone c hc] at hoccurs
    cases hoccurs
  | false => exact ⟨fun _ c hc => Bool.eq_false_iff.2 (List.any_eq_false.1 hany c hc), fun _ => rfl⟩

namespace Triplet

variable {t u : Triplet} {s : Settings} {d d' : Draft}

/-- What no value and no comment of a triplet is. -/
structure Sound (t : Triplet) : Prop where
  /-- A triplet that is a value has no value. -/
  target : ∀ u, t.value.map FactValue.draft = some (.triplet u) → u.isReference = true
  finite : ∀ x, t.value = some (.literal (.float x)) → x.isFinite = true
  /-- A text has none of the marks that would end it. -/
  text : ∀ v, t.value = some (.literal (.str v)) →
    ∀ c ∈ t.settings.valueClosers, ¬c.toList <:+: v.toList
  comment : ∀ c, t.comment = some c →
    c ≠ "" ∧ ∀ m ∈ t.settings.commentClosers, ¬m.toList <:+: c.toList

/-- A triplet that was built is sound. -/
theorem sound_of_build (h : d.build s = .ok t) : t.Sound := by
  obtain ⟨pfx, name, value, comment, -, -, hvalue, hcomment, rfl⟩ := Draft.build_eq_ok_iff.1 h
  have hparts : ∀ v ∈ value, v.draft.build s = .ok v :=
    ValueDraft.buildOptional_map_draft.1 (ValueDraft.buildOptional_of_buildOptional hvalue)
  refine ⟨fun u hu => ?_, ?_, ?_, ?_⟩
  · obtain ⟨v, hv, hdraft⟩ := Option.map_eq_some_iff.1 hu
    exact (ValueDraft.build_eq_ok_iff.1 (hparts v hv)).2.2.1 u hdraft
  · rintro x rfl
    have hvalid := (ValueDraft.build_eq_ok_iff.1 (hparts _ rfl)).1
    exact (FieldRules.validate_eq_ok_iff.1 hvalid).2.1 x rfl
  · rintro v rfl
    exact checkOpen_eq_ok_iff.1 ((ValueDraft.build_eq_ok_iff.1 (hparts _ rfl)).2.1 v rfl)
  · rintro c rfl
    have hself := Settings.buildComment_of_buildComment hcomment
    have hne : c ≠ "" := by
      rintro rfl
      cases hself
    exact ⟨hne, checkOpen_eq_ok_iff.1 ((Settings.buildComment_eq_ok_iff hne).1 hself).2.1⟩

/-- A triplet with a value is not set as a value. -/
theorem exists_set_eq_error (t : Triplet) {v : Triplet} (hv : v.isReference = false) :
    ∃ err, t.set (.value (some (.triplet v))) = (.error err, t) := by
  cases hbuild : (ValueDraft.triplet v).build t.settings with
  | ok w =>
    have htarget := (ValueDraft.build_eq_ok_iff.1 hbuild).2.2.1 v rfl
    rw [hv] at htarget
    cases htarget
  | error err =>
    refine ⟨err, set_of_edit_eq_error ?_⟩
    rw [edit, ValueDraft.buildOptional, hbuild]
    rfl

/-- **Setters reach what is built.** From a triplet that was built the setters reach exactly the
triplets that are built under the same settings from the same prefix and the same name. Whatever
setters were called before and whether they failed or not, the prefix, the name and the settings are
as they were, a setter that fails leaves everything as it was, the triplet is built again from its
own parts, and it is sound. -/
theorem reached_iff_build (h : d.build s = .ok t) :
    (∀ u, (∃ es, t.setAll es = u) ↔ ∃ d', d.SameHead d' ∧ d'.build s = .ok u) ∧
      ∀ es u, t.setAll es = u →
        (u.pfx = t.pfx ∧ u.name = t.name ∧ u.settings = s) ∧
        (∀ e err u', u.set e = (.error err, u') → u' = u) ∧
        (d.withPartsOf u).build s = .ok u ∧ u.Sound ∧
        ∀ v : Triplet, v.isReference = false →
          ∃ err, u.set (.value (some (.triplet v))) = (.error err, u) := by
  have hhead : d.SameHead d := ⟨rfl, rfl⟩
  refine ⟨fun u => ⟨?_, ?_⟩, ?_⟩
  · rintro ⟨es, rfl⟩
    exact Draft.exists_build_setAll h hhead es
  · rintro ⟨d', hhead', hbuild⟩
    exact ⟨d'.edits, Draft.setAll_edits h hbuild hhead'⟩
  · rintro es u rfl
    obtain ⟨d', hhead', hbuild⟩ := Draft.exists_build_setAll h hhead es
    exact ⟨hhead'.eq_of_build h hbuild, fun e err u => eq_of_set_eq_error,
      Draft.build_withPartsOf hbuild hhead', sound_of_build hbuild,
      fun v => exists_set_eq_error _⟩

/-- Settings with prefixes in small letters and with another mark at the end. -/
def smallSettings : Settings :=
  { Settings.standard with
    endMark := "!"
    pfxRules := { Settings.standard.pfxRules with pattern := some "[a-z]+" } }

/-- A fact without a value, under a prefix that is built to capital letters. -/
def bareAB (comment : Option String) (bid : Bool) : Triplet where
  pfx := "AB"
  name := some "C"
  comment := comment
  bid := bid
  special := false
  settings := smallSettings
  value := none

/-- A text that would end too early is not set, nor is such a comment. The other setters have an
effect, and the triplet is built again from the prefix `ab`. -/
theorem reached_after_failures :
    let d : Draft := { pfx := "ab", name := some "C" }
    let es : List Edit := [.value (some (.literal (.str "a'!b"))), .comment (some "c"),
      .comment (some "d\"!"), .bid true]
    d.build smallSettings = .ok (bareAB none false) ∧
      (bareAB none false).setAll es = bareAB (some "c") true ∧
      (d.withPartsOf (bareAB (some "c") true)).build smallSettings = .ok (bareAB (some "c") true) ∧
      (bareAB (some "c") true).Sound := by
  intro d es
  have hbuild : d.build smallSettings = .ok (bareAB none false) :=
    Draft.build_eq_ok_iff.2 ⟨_, _, _, _, by decide +kernel, by decide +kernel, rfl, rfl, rfl⟩
  have hrun : (bareAB none false).setAll es = bareAB (some "c") true := by rfl
  obtain ⟨-, -, hagain, hsound, -⟩ := (reached_iff_build hbuild).2 es _ hrun
  exact ⟨hbuild, hrun, hagain, hsound⟩

end Triplet

end TripletFacts
