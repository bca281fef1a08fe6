import TripletFacts.Proofs.Outcome
import TripletFacts.Settings.Record

/-!
# Updates of settings

There are nine marks, and four parts of the rules of each field. An update gives some of them, by
the names under which they are written: a mark by its own name, a part of rules by the name of the
field and the name of the part inside of an object there; a list of four gives all the parts of a
field. What is given is read in the way in which it is read from all settings, what is not given
stays, and if anything cannot be read then nothing is changed.

## Main definitions

* `Json.distinct`: objects name their fields once.
* `Mark`, `RulePart`, `Setting`: the single settings, with `Setting.read?` and `Settings.get`.
* `Setting.given?`: what an object gives for a setting.
* `Settings.assemble?`: settings from readers of their marks and rules.
* `Settings.assign`, `Settings.assigned`: updates in place.

## Main results

* `Json.lookup_overlayFields`: the fields of an object under an update.
* `Settings.ofFields?_eq_some_iff`: settings are read one by one.
* `Settings.update_eq_ok_iff`: when an update can be made, and what it makes of every setting.
* `Settings.assign_laws`: updates keep what they do not give, can be repeated, and fail as a whole.
-/

namespace TripletFacts

/-! ### Objects -/

namespace Json

mutual

/-- Whether every object in a value names each of its fields once. -/
def distinct : Json → Bool
  | arr items => distinctItems items
  | obj fields => distinctFields fields
  | null | bool _ | int _ | float _ | str _ => true

/-- Whether every object in some values names each of its fields once. -/
def distinctItems : List Json → Bool
  | [] => true
  | v :: items => v.distinct && distinctItems items

/-- Whether the fields of an object, and of every object in it, are named once. -/
def distinctFields : List (String × Json) → Bool
  | [] => true
  | (key, v) :: fields => (fields.lookup key).isNone && v.distinct && distinctFields fields

end

theorem distinctFields_cons {key : String} {v : Json} {fields : Fields} :
    distinctFields ((key, v) :: fields) = true ↔
      fields.lookup key = none ∧ v.distinct = true ∧ distinctFields fields = true := by
  simp [distinctFields, and_assoc]

/-- An object inside of an object names its fields once. -/
theorem distinct_of_lookup {key : String} {v : Json} {fields : Fields}
    (h : distinctFields fields = true) (hv : fields.lookup key = some v) : v.distinct = true := by
  induction fields with
  | nil => cases hv
  | cons f fields ih =>
    obtain ⟨k, w⟩ := f
    obtain ⟨-, hw, h⟩ := distinctFields_cons.1 h
    rw [List.lookup_cons] at hv
    split at hv
    · obtain rfl := Option.some.inj hv
      exact hw
    · exact ih h hv

/-- An update does something to a field only if it names the field. -/
theorem lookup_overlayFields {patch : Fields} (h : distinctFields patch = true) (fields : Fields)
    (key : String) : (overlayFields patch fields).lookup key =
      match patch.lookup key with
      | some v => some (v.overlay (fields.lookup key))
      | none => fields.lookup key := by
  induction patch generalizing fields with
  | nil => rfl
  | cons f patch ih =>
    obtain ⟨k, v⟩ := f
    obtain ⟨hk, -, h⟩ := distinctFields_cons.1 h
    rw [overlayFields, ih h, List.lookup_cons]
    by_cases hkey : key = k
    · subst hkey
      rw [hk, beq_self_eq_true]
      exact lookup_setField_self _ _ _
    · rw [lookup_setField_of_ne hkey, beq_false_of_ne hkey]

/-- What is no object is replaced. -/
theorem overlay_of_ne_obj {old : Option Json} (h : ∀ fields, old ≠ some (obj fields)) (v : Json) :
    v.overlay old = v := by
  cases v with
  | obj patch =>
    cases old with
    | none => rfl
    | some old =>
      cases old with
      | obj fields => exact absurd rfl (h fields)
      | _ => rfl
  | _ => rfl

end Json

/-! ### Single settings -/

/-- The marks and separators of the notation. -/
inductive Mark where
  | bid | start | nameSeparator | valueSeparator | stop | valueQuote | commentQuote
  | tripletSeparator | itemSeparator
deriving DecidableEq

/-- The name under which a mark is written. -/
def Mark.key : Mark → String
  | bid => "bid"
  | start => "start"
  | nameSeparator => "prefix_name_separator"
  | valueSeparator => "name_value_separator"
  | stop => "end"
  | valueQuote => "value_quote"
  | commentQuote => "comment_quote"
  | tripletSeparator => "triplets_separator"
  | itemSeparator => "expression_items_separator"

/-- The parts of the rules of a field. -/
inductive RulePart where
  | min | max | pattern | kinds
deriving DecidableEq

namespace RulePart

/-- The name under which a part is written. -/
def key : RulePart → String
  | min => "min"
  | max => "max"
  | pattern => "pattern"
  | kinds => "types"

/-- What a part is. -/
def Value : RulePart → Type
  | min | max => UInt64
  | pattern => Option String
  | kinds => List Kind

/-- What a part is read as. -/
def read? : (part : RulePart) → Json → Option part.Value
  | min, v | max, v => v.size?
  | pattern, v => v.textOrNull?
  | kinds, v => v.listOf? Kind.ofJson?

end RulePart

/-- A part of the rules of a field. -/
def FieldRules.part (r : FieldRules) : (part : RulePart) → part.Value
  | .min => r.min
  | .max => r.max
  | .pattern => r.pattern
  | .kinds => r.kinds

/-- What a value gives for a part of rules: an object gives the parts that it names, and a list of
four gives each of them. -/
def Json.part? : Json → RulePart → Option Json
  | obj fields, part => fields.lookup part.key
  | arr [min, max, pattern, kinds], part =>
    match part with
    | .min => some min
    | .max => some max
    | .pattern => some pattern
    | .kinds => some kinds
  | _, _ => none

/-- Whether a value can give parts of rules: an object, or a list of four. -/
def Json.isRules : Json → Bool
  | obj _ => true
  | arr [_, _, _, _] => true
  | _ => false

/-- A mark of settings. -/
def Settings.mark (s : Settings) : Mark → String
  | .bid => s.bidMark
  | .start => s.startMark
  | .nameSeparator => s.nameSeparator
  | .valueSeparator => s.valueSeparator
  | .stop => s.endMark
  | .valueQuote => s.valueQuote
  | .commentQuote => s.commentQuote
  | .tripletSeparator => s.tripletSeparator
  | .itemSeparator => s.itemSeparator

/-- The single settings: the marks, and the parts of the rules of every field. -/
inductive Setting where
  | mark (m : Mark)
  | rule (field : Field) (part : RulePart)
deriving DecidableEq

namespace Setting

/-- What a setting is. -/
def Value : Setting → Type
  | mark _ => String
  | rule _ part => part.Value

/-- What a setting is read as. -/
def read? : (x : Setting) → Json → Option x.Value
  | mark _, v => v.text?
  | rule _ part, v => part.read? v

/-- What the fields of an object give for a setting. -/
def given? (fields : Json.Fields) : Setting → Option Json
  | mark m => fields.lookup m.key
  | rule field part => (fields.lookup field.label).bind (·.part? part)

end Setting

/-- A single setting of settings. -/
def Settings.get (s : Settings) : (x : Setting) → x.Value
  | .mark m => s.mark m
  | .rule field part => (s.rules field).part part

/-! ### Settings from single settings -/

/-- The rules of a field are written as an object whose parts are no objects. -/
theorem FieldRules.exists_toJson_eq (r : FieldRules) :
    ∃ parts, r.toJson = .obj parts ∧ ∀ key inner, parts.lookup key ≠ some (.obj inner) := by
  refine ⟨_, rfl, fun key inner h => ?_⟩
  obtain ⟨before, after, heq, -⟩ := List.lookup_eq_some_iff.1 h
  have hmem : (key, Json.obj inner) ∈ before ++ (key, Json.obj inner) :: after := by simp
  rw [← heq] at hmem
  cases hpattern : r.pattern <;> simp [hpattern] at hmem

theorem FieldRules.ofParts?_eq_some_iff {min max pattern kinds : Json} {r : FieldRules} :
    ofParts? min max pattern kinds = some r ↔
      min.size? = some r.min ∧ max.size? = some r.max ∧ pattern.textOrNull? = some r.pattern ∧
        kinds.listOf? Kind.ofJson? = some r.kinds := by
  obtain ⟨a, b, c, d⟩ := r
  simp only [ofParts?, bind, Option.bind_eq_some_iff, pure, Option.some.injEq, mk.injEq]
  constructor
  · rintro ⟨_, ha, _, hb, _, hc, _, hd, rfl, rfl, rfl, rfl⟩
    exact ⟨ha, hb, hc, hd⟩
  · rintro ⟨ha, hb, hc, hd⟩
    exact ⟨a, ha, b, hb, c, hc, d, hd, rfl, rfl, rfl, rfl⟩

/-- The rules of a field are read part by part. -/
theorem FieldRules.ofJson?_eq_some_iff {v : Json} {r : FieldRules} :
    ofJson? v = some r ↔ ∀ part, (v.part? part).bind part.read? = some (r.part part) := by
  have hall {P : RulePart → Prop} : (∀ part, P part) ↔ P .min ∧ P .max ∧ P .pattern ∧ P .kinds :=
    ⟨fun h => ⟨h _, h _, h _, h _⟩, fun ⟨hmin, hmax, hpattern, hkinds⟩ part => by
      cases part <;> assumption⟩
  rw [hall]
  unfold ofJson?
  split
  · exact ofParts?_eq_some_iff
  · rename_i fields
    simp only [bind, Option.bind_eq_some_iff, ofParts?_eq_some_iff]
    constructor
    · rintro ⟨_, ha, _, hb, _, hc, _, hd, hmin, hmax, hpattern, hkinds⟩
      exact ⟨⟨_, ha, hmin⟩, ⟨_, hb, hmax⟩, ⟨_, hc, hpattern⟩, ⟨_, hd, hkinds⟩⟩
    · rintro ⟨⟨_, ha, hmin⟩, ⟨_, hb, hmax⟩, ⟨_, hc, hpattern⟩, ⟨_, hd, hkinds⟩⟩
      exact ⟨_, ha, _, hb, _, hc, _, hd, hmin, hmax, hpattern, hkinds⟩
  · rename_i harr hobj
    have hpart (part : RulePart) : v.part? part = none := by
      unfold Json.part?
      split
      · exact absurd rfl (hobj _)
      · exact absurd rfl (harr _ _ _ _)
      · rfl
    simp [hpart]

/-- The rules of a field are read part by part, if they are there. -/
theorem FieldRules.bind_ofJson?_eq_some_iff {o : Option Json} {r : FieldRules} :
    o.bind ofJson? = some r ↔
      ∀ part, (o.bind (·.part? part)).bind part.read? = some (r.part part) := by
  cases o with
  | none => exact ⟨nofun, fun h => nomatch h .min⟩
  | some v => exact ofJson?_eq_some_iff

namespace Settings

variable {s s' t : Settings} {fields patch : Json.Fields}

/-- Settings from readers of their marks and of the rules of their fields. -/
def assemble? (mark : Mark → Option String) (rules : Field → Option FieldRules) :
    Option Settings := do
  return {
    bidMark := ← mark .bid
    startMark := ← mark .start
    nameSeparator := ← mark .nameSeparator
    valueSeparator := ← mark .valueSeparator
    endMark := ← mark .stop
    valueQuote := ← mark .valueQuote
    commentQuote := ← mark .commentQuote
    tripletSeparator := ← mark .tripletSeparator
    itemSeparator := ← mark .itemSeparator
    pfxRules := ← rules .pfx
    nameRules := ← rules .name
    valueRules := ← rules .value
    commentRules := ← rules .comment }

theorem ofFields?_eq_assemble? (fields : Json.Fields) :
    ofFields? fields = assemble? (fun m => (fields.lookup m.key).bind Json.text?)
      fun field => (fields.lookup field.label).bind FieldRules.ofJson? := rfl

theorem assemble?_eq_some_iff {mark : Mark → Option String} {rules : Field → Option FieldRules} :
    assemble? mark rules = some s ↔
      (∀ m, mark m = some (s.mark m)) ∧ ∀ field, rules field = some (s.rules field) := by
  constructor
  · intro h
    unfold assemble? at h
    -- one reader after the other has given what stands in the settings
    iterate 13 obtain ⟨_, _, h⟩ := Option.bind_eq_some_iff.1 h
    cases h
    constructor
    · rintro (_ | _ | _ | _ | _ | _ | _ | _ | _) <;> assumption
    · rintro (_ | _ | _ | _) <;> assumption
  · rintro ⟨hmark, hrules⟩
    obtain rfl : mark = fun m => some (s.mark m) := funext hmark
    obtain rfl : rules = fun field => some (s.rules field) := funext hrules
    rfl

/-- Settings are read one by one. -/
theorem ofFields?_eq_some_iff :
    ofFields? fields = some s ↔ ∀ x : Setting, (x.given? fields).bind x.read? = some (s.get x) := by
  rw [ofFields?_eq_assemble?, assemble?_eq_some_iff]
  simp only [FieldRules.bind_ofJson?_eq_some_iff]
  constructor
  · rintro ⟨hmark, hrules⟩ (m | ⟨field, part⟩)
    · exact hmark m
    · exact hrules field part
  · exact fun h => ⟨fun m => h (.mark m), fun field part => h (.rule field part)⟩

/-- What settings give for a single setting is read as the setting. -/
theorem bind_given?_fields (s : Settings) (x : Setting) :
    (x.given? s.fields).bind x.read? = some (s.get x) :=
  ofFields?_eq_some_iff.1 (ofFields?_fields s) x

/-! ### Updates of single settings -/

theorem lookup_fields_mark (s : Settings) (m : Mark) :
    s.fields.lookup m.key = some (.str (s.mark m)) := by
  cases m <;> rfl

theorem lookup_fields_label (s : Settings) (field : Field) :
    s.fields.lookup field.label = some (s.rules field).toJson := by
  cases field <;> rfl

/-- Settings are written with every name once. -/
theorem distinctFields_fields (s : Settings) : Json.distinctFields s.fields = true := by
  have hkinds (ks : List Kind) : Json.distinctItems (ks.map fun k => .str k.name) = true := by
    induction ks with
    | nil => rfl
    | cons k ks ih => rwa [List.map_cons, Json.distinctItems, Json.distinct, Bool.true_and]
  have hrules (r : FieldRules) : r.toJson.distinct = true := by
    cases hpattern : r.pattern <;>
      simp [FieldRules.toJson, hpattern, Json.distinct, Json.distinctFields, List.lookup_cons,
        hkinds]
  simp [fields, Json.distinctFields, Json.distinct, List.lookup_cons, hrules]

/-- What an update gives for a setting takes the place of what was there, and nothing else does. -/
theorem given?_overlayFields (hpatch : Json.distinctFields patch = true)
    (hrules : ∀ (field : Field) v, patch.lookup field.label = some v → v.isRules = true)
    (s : Settings) (x : Setting) :
    x.given? (Json.overlayFields patch s.fields) = (x.given? patch).or (x.given? s.fields) := by
  cases x with
  | mark m =>
    simp only [Setting.given?, Json.lookup_overlayFields hpatch, lookup_fields_mark]
    cases patch.lookup m.key with
    | none => rfl
    | some v => exact congrArg some (Json.overlay_of_ne_obj (by simp) v)
  | rule field part =>
    obtain ⟨rules, htoJson, hleaf⟩ := (s.rules field).exists_toJson_eq
    simp only [Setting.given?, Json.lookup_overlayFields hpatch, lookup_fields_label, htoJson]
    cases hv : patch.lookup field.label with
    | none => rfl
    | some v =>
      have hrule := hrules field v hv
      unfold Json.isRules at hrule
      split at hrule
      · -- an object gives the parts that it names
        rename_i inner
        have hinner : Json.distinctFields inner = true := Json.distinct_of_lookup hpatch hv
        refine (Json.lookup_overlayFields hinner rules part.key).trans ?_
        simp only [Option.bind_some, Json.part?]
        cases inner.lookup part.key with
        | none => rfl
        | some w => exact congrArg some (Json.overlay_of_ne_obj (hleaf part.key) w)
      · -- a list gives each of them
        cases part <;> rfl
      · cases hrule

/-- An update can be made if it gives rules as rules are written, and if what it gives for a setting
can be read. Then this is the setting, and a setting for which it gives nothing stays. -/
theorem update_eq_ok_iff (hpatch : Json.distinctFields patch = true) :
    s.update patch = .ok s' ↔
      (∀ (field : Field) v, patch.lookup field.label = some v → v.isRules = true) ∧
        ∀ x : Setting,
          ((x.given? patch).or (x.given? s.fields)).bind x.read? = some (s'.get x) := by
  have hupdate : s.update patch = .ok s' ↔
      ofFields? (Json.overlayFields patch s.fields) = some s' := by
    unfold update
    cases ofFields? (Json.overlayFields patch s.fields) <;> simp
  rw [hupdate, ofFields?_eq_some_iff]
  constructor
  · intro h
    have hrules (field : Field) (v : Json) (hv : patch.lookup field.label = some v) :
        v.isRules = true := by
      have hmin := h (.rule field .min)
      rw [Setting.given?, Json.lookup_overlayFields hpatch, hv] at hmin
      cases v with
      | obj inner => rfl
      | arr items =>
        obtain ⟨w, hw, -⟩ := Option.bind_eq_some_iff.1 hmin
        simp only [Json.overlay, Option.bind_some] at hw
        unfold Json.part? at hw
        split at hw
        · rename_i heq
          cases heq
        · rename_i heq
          rw [heq]
          rfl
        · cases hw
      | null | bool | int | float | str => cases hmin
    exact ⟨hrules, fun x => given?_overlayFields hpatch hrules s x ▸ h x⟩
  · rintro ⟨hrules, h⟩ x
    rw [given?_overlayFields hpatch hrules]
    exact h x

/-- A setting for which an update gives nothing stays. -/
theorem get_eq_of_given?_eq_none (hpatch : Json.distinctFields patch = true)
    (h : s.update patch = .ok s') {x : Setting} (hx : x.given? patch = none) :
    s'.get x = s.get x := by
  have hread := ((update_eq_ok_iff hpatch).1 h).2 x
  rw [hx, Option.none_or, bind_given?_fields] at hread
  exact (Option.some.inj hread).symm

/-- A setting for which an update gives something is what is read there. -/
theorem read?_eq_some_of_given? (hpatch : Json.distinctFields patch = true)
    (h : s.update patch = .ok s') {x : Setting} {v : Json} (hx : x.given? patch = some v) :
    x.read? v = some (s'.get x) := by
  have hread := ((update_eq_ok_iff hpatch).1 h).2 x
  rwa [hx] at hread

/-- An update that was made can be made again, and changes nothing. -/
theorem update_update (hpatch : Json.distinctFields patch = true) (h : s.update patch = .ok s') :
    s'.update patch = .ok s' := by
  refine (update_eq_ok_iff hpatch).2 ⟨((update_eq_ok_iff hpatch).1 h).1, fun x => ?_⟩
  cases hx : x.given? patch with
  | none => exact bind_given?_fields s' x
  | some v => exact read?_eq_some_of_given? hpatch h hx

/-- All settings are given by what is written of them. -/
theorem update_fields (s t : Settings) : s.update t.fields = .ok t := by
  refine (update_eq_ok_iff t.distinctFields_fields).2 ⟨fun field v hv => ?_, fun x => ?_⟩
  · rw [lookup_fields_label, Option.some.injEq] at hv
    obtain ⟨parts, htoJson, -⟩ := (t.rules field).exists_toJson_eq
    rw [← hv, htoJson]
    rfl
  · have hread := bind_given?_fields t x
    obtain ⟨v, hv, -⟩ := Option.bind_eq_some_iff.1 hread
    rwa [hv, Option.some_or, ← hv]

/-! ### Updates in place -/

/-- An update in place. What was changed before a failure stays changed. -/
def assign (patch : Json.Fields) : ExceptT FactError (StateM Settings) Unit := do
  let current := Json.overlayFields patch (← getThe Settings).fields
  match ofFields? current with
  | some s => set s
  | none => throw .badDocument

/-- What an update in place answers, and the settings that it leaves. -/
def assigned (s : Settings) (patch : Json.Fields) : Except FactError Unit × Settings :=
  (ExceptT.run (assign patch)).run s

/-- An update in place leaves the updated settings, or the settings as they were if it fails. -/
theorem assigned_eq (s : Settings) (patch : Json.Fields) : s.assigned patch =
    match s.update patch with
    | .ok s' => (.ok (), s')
    | .error e => (.error e, s) := by
  have hrun : s.assigned patch =
      StateT.run (ExceptT.run (m := StateM Settings)
        (match ofFields? (Json.overlayFields patch s.fields) with
          | some s' => set s'
          | none => throw .badDocument)) s := rfl
  rw [hrun, update]
  cases ofFields? (Json.overlayFields patch s.fields) <;> rfl

theorem assigned_eq_ok_iff : s.assigned patch = (.ok (), s') ↔ s.update patch = .ok s' := by
  rw [assigned_eq]
  cases s.update patch <;> simp

/-- An update that fails leaves the settings as they were. -/
theorem eq_of_assigned_eq_error {e : FactError} (h : s.assigned patch = (.error e, s')) :
    s' = s := by
  rw [assigned_eq] at h
  cases hupdate : s.update patch with
  | ok t =>
    rw [hupdate] at h
    cases (Prod.mk.inj h).1
  | error e' =>
    rw [hupdate] at h
    exact (Prod.mk.inj h).2.symm

/-- An update fails as a whole, or it keeps each setting that it does not give, makes each setting
that it gives what is read there, and can be repeated without a change. The settings written in full
are an update that makes them the settings. -/
theorem assign_laws (hpatch : Json.distinctFields patch = true) (s t : Settings) :
    (∀ e s', s.assigned patch = (.error e, s') → s' = s) ∧
      (∀ s', s.assigned patch = (.ok (), s') →
        (∀ x : Setting, x.given? patch = none → s'.get x = s.get x) ∧
          (∀ (x : Setting) (v : Json), x.given? patch = some v → x.read? v = some (s'.get x)) ∧
            s'.assigned patch = (.ok (), s')) ∧
        s.assigned t.fields = (.ok (), t) := by
  refine ⟨fun e s' => eq_of_assigned_eq_error, fun s' h => ?_,
    assigned_eq_ok_iff.2 (update_fields s t)⟩
  have hupdate := assigned_eq_ok_iff.1 h
  exact ⟨fun x => get_eq_of_given?_eq_none hpatch hupdate,
    fun x v => read?_eq_some_of_given? hpatch hupdate,
    assigned_eq_ok_iff.2 (update_update hpatch hupdate)⟩

/-- An update of a mark, of a part of the rules of the prefix and of all rules of the name, with a
name that no setting has. -/
def someSettings : Json.Fields := [
  ("start", .str "^"),
  ("prefix", .obj [("max", .int 40), ("note", .null)]),
  ("name", .arr [.int 2, .int 8, .null, .arr [.str "str"]]),
  ("colour", .obj [])]

theorem assign_laws_someSettings :
    ∃ s, standard.assigned someSettings = (.ok (), s) ∧
      s.get (.mark .stop) = standard.get (.mark .stop) ∧
      s.get (.rule .pfx .min) = standard.get (.rule .pfx .min) ∧
      (Setting.rule .pfx .max).read? (.int 40) = some (s.get (.rule .pfx .max)) ∧
      s.assigned someSettings = (.ok (), s) ∧
      s.assigned standard.fields = (.ok (), standard) := by
  have hlaws := assign_laws (show Json.distinctFields someSettings = true by decide)
  have hread : standard.assigned someSettings = (.ok (),
      { standard with
        startMark := "^"
        pfxRules := { standard.pfxRules with max := 40 }
        nameRules := ⟨2, 8, none, [.str]⟩ }) := rfl
  obtain ⟨hkept, hgiven, hagain⟩ := (hlaws standard standard).2.1 _ hread
  exact ⟨_, hread, hkept _ rfl, hkept _ rfl, hgiven (.rule .pfx .max) _ rfl, hagain,
    (hlaws _ standard).2.2⟩

end Settings

end TripletFacts
