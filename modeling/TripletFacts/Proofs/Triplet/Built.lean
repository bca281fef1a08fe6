import TripletFacts.Proofs.Settings.Shape

/-!
# Triplets that were built

A triplet that was built under the standard settings can be built again from its own parts: its
prefix and its name are in capital letters already, and its value and its comment are checked as
they were before.

## Main definitions

* `Triplet.Built`: the parts of a triplet obey the rules.

## Main results

* `Draft.build_eq_ok_iff`: what a draft is built to.
* `Triplet.built_of_build`: a triplet that was built obeys the rules.
* `Triplet.Built.build`: a triplet that obeys the rules is built from its parts.
-/

namespace TripletFacts

/-- A draft is built if all its parts are. -/
theorem Draft.build_eq_ok_iff {d : Draft} {s : Settings} {t : Triplet} : d.build s = .ok t ↔
    ∃ pfx name value comment, s.buildPfx d.pfx = .ok pfx ∧ s.buildOptionalName d.name = .ok name ∧
      ValueDraft.buildOptional s d.value = .ok value ∧ s.buildComment d.comment = .ok comment ∧
      t = { pfx := pfx, name := name, comment := comment, bid := d.bid, special := d.special,
            settings := s, value := value } := by
  unfold build
  constructor
  · intro h
    obtain ⟨pfx, hpfx, h⟩ := bind_eq_ok_iff.1 h
    obtain ⟨name, hname, h⟩ := bind_eq_ok_iff.1 h
    obtain ⟨value, hvalue, h⟩ := bind_eq_ok_iff.1 h
    obtain ⟨comment, hcomment, h⟩ := bind_eq_ok_iff.1 h
    exact ⟨pfx, name, value, comment, hpfx, hname, hvalue, hcomment, (Except.ok.inj h).symm⟩
  · rintro ⟨pfx, name, value, comment, hpfx, hname, hvalue, hcomment, rfl⟩
    rw [hpfx, hname, hvalue, hcomment]
    rfl

theorem Draft.settings_of_build {d : Draft} {s : Settings} {t : Triplet} (h : d.build s = .ok t) :
    t.settings = s := by
  obtain ⟨_, _, _, _, -, -, -, -, rfl⟩ := build_eq_ok_iff.1 h
  rfl

/-! ### Values -/

/-- The value that a draft stands for. -/
def ValueDraft.denoted : ValueDraft → FactValue
  | literal v => .literal v
  | triplet t => .reference t.toReference
  | formula f => .formula f

/-- A value is built if it obeys the rules, if a text does not have the marks that would end it,
and if a triplet is a reference. -/
theorem ValueDraft.build_eq_ok_iff {d : ValueDraft} {s : Settings} {v : FactValue} :
    d.build s = .ok v ↔ s.validate .value d.candidate = .ok () ∧
      (∀ text, d = .literal (.str text) → checkOpen .value text s.valueClosers = .ok ()) ∧
      (∀ t, d = .triplet t → t.isReference = true) ∧ d.denoted = v := by
  unfold build
  cases s.validate .value d.candidate with
  | error e => simp
  | ok u =>
    cases d with
    | literal l =>
      cases l with
      | str text => simp [map_const_eq_ok_iff, denoted]
      | bool b | int i | float x => simp [denoted]
    | triplet t => cases ht : t.isReference <;> simp [ht, denoted]
    | formula f => simp [denoted]

/-- A value that is built again stays what it is. -/
theorem FactValue.eq_of_build_draft {s : Settings} {v w : FactValue}
    (h : v.draft.build s = .ok w) : w = v := by
  obtain ⟨-, -, -, rfl⟩ := ValueDraft.build_eq_ok_iff.1 h
  cases v <;> rfl

/-- A pointer is built if pointers are accepted as values. -/
theorem FactValue.build_draft_reference_iff {s : Settings} (r : Reference) :
    (FactValue.reference r).draft.build s = .ok (.reference r) ↔
      s.validate .value .triplet = .ok () := by
  rw [ValueDraft.build_eq_ok_iff]
  refine ⟨And.left, fun hvalid => ⟨hvalid, by simp [draft], ?_, rfl⟩⟩
  rintro _ ⟨⟩
  rfl

/-- What a value is built to can be built again. -/
theorem FactValue.build_draft_of_build {s : Settings} {d : ValueDraft} {v : FactValue}
    (h : d.build s = .ok v) : v.draft.build s = .ok v := by
  obtain ⟨hvalid, -, -, rfl⟩ := ValueDraft.build_eq_ok_iff.1 h
  cases d with
  | literal l => exact h
  | triplet t => exact (build_draft_reference_iff t.toReference).2 hvalid
  | formula f => exact h

/-! ### Triplets -/

open Settings

/-- The parts of a triplet obey the standard rules. -/
structure Triplet.Built (t : Triplet) : Prop where
  settings : t.settings = .standard
  pfx : standard.validate .pfx (.str t.pfx) = .ok ()
  name : ∀ n ∈ t.name, n ≠ "" ∧ standard.validate .name (.str n) = .ok ()
  value : ∀ v ∈ t.value, v.draft.build standard = .ok v
  comment : standard.buildComment t.comment = .ok t.comment

theorem validate_of_buildPfx {s r : String} (h : standard.buildPfx s = .ok r) :
    r = s ∧ standard.validate .pfx (.str s) = .ok () := by
  obtain ⟨u, hvalid, -⟩ := map_eq_ok_iff.1 h
  rw [buildPfx_of_validate hvalid] at h
  exact ⟨(Except.ok.inj h).symm, hvalid⟩

theorem validate_of_buildName {s r : String} (h : standard.buildName s = .ok r) :
    r = s ∧ standard.validate .name (.str s) = .ok () := by
  obtain ⟨u, hvalid, -⟩ := map_eq_ok_iff.1 h
  rw [buildName_of_validate hvalid] at h
  exact ⟨(Except.ok.inj h).symm, hvalid⟩

theorem of_buildOptionalName {name name' : Option String}
    (h : standard.buildOptionalName name = .ok name') :
    ∀ n ∈ name', n ≠ "" ∧ standard.validate .name (.str n) = .ok () := by
  cases name with
  | none =>
    obtain rfl := Except.ok.inj h
    simp
  | some n =>
    rw [buildOptionalName] at h
    split at h
    · obtain rfl := Except.ok.inj h
      simp
    · obtain ⟨m, hbuild, rfl⟩ := map_eq_ok_iff.1 h
      obtain ⟨rfl, hvalid⟩ := validate_of_buildName hbuild
      intro k hk
      obtain rfl := Option.some.inj hk
      exact ⟨‹_›, hvalid⟩

/-- A comment that is not empty is built if it obeys the rules and does not have the marks that
would end it. -/
theorem Settings.buildComment_eq_ok_iff {s : Settings} {c : String} (hc : c ≠ "")
    {comment : Option String} : s.buildComment (some c) = .ok comment ↔
      s.validate .comment (.str c) = .ok () ∧
        checkOpen .comment c s.commentClosers = .ok () ∧ comment = some c := by
  rw [buildComment, if_neg hc]
  cases s.validate .comment (.str c) with
  | error e => simp
  | ok u =>
    dsimp only
    rw [map_const_eq_ok_iff]
    exact ⟨fun ⟨hopen, heq⟩ => ⟨rfl, hopen, heq.symm⟩, fun ⟨_, hopen, heq⟩ => ⟨hopen, heq.symm⟩⟩

/-- A comment that is built stays what it is. -/
theorem Settings.eq_of_buildComment {s : Settings} {comment : Option String} {c : String}
    (h : s.buildComment comment = .ok (some c)) : comment = some c := by
  cases comment with
  | none => cases h
  | some d =>
    by_cases hd : d = ""
    · rw [buildComment, if_pos hd] at h
      cases h
    · exact ((buildComment_eq_ok_iff hd).1 h).2.2.symm

/-- What a comment is built to can be built again. -/
theorem Settings.buildComment_of_buildComment {s : Settings} {comment comment' : Option String}
    (h : s.buildComment comment = .ok comment') : s.buildComment comment' = .ok comment' := by
  cases comment' with
  | none => rfl
  | some c => rwa [eq_of_buildComment h] at h

theorem ValueDraft.exists_of_buildOptional {s : Settings} {d : Option ValueDraft} {v : FactValue}
    (h : ValueDraft.buildOptional s d = .ok (some v)) : ∃ d' ∈ d, d'.build s = .ok v := by
  cases d with
  | none => cases h
  | some d' =>
    obtain ⟨w, hw, heq⟩ := map_eq_ok_iff.1 h
    exact ⟨d', rfl, Option.some.inj heq ▸ hw⟩

/-- A literal is built to itself. -/
theorem Draft.value_of_build {d : Draft} {s : Settings} {t : Triplet} (h : d.build s = .ok t)
    {l : Value} (hl : d.value = some (.literal l)) : t.value = some (.literal l) := by
  obtain ⟨_, _, value, _, -, -, hbuild, -, rfl⟩ := build_eq_ok_iff.1 h
  rw [hl] at hbuild
  obtain ⟨v, hv, rfl⟩ := map_eq_ok_iff.1 hbuild
  obtain ⟨-, -, -, rfl⟩ := ValueDraft.build_eq_ok_iff.1 hv
  rfl

/-- What a value that may be absent is built to can be built again. -/
theorem ValueDraft.buildOptional_of_buildOptional {s : Settings} {d : Option ValueDraft}
    {value : Option FactValue} (h : ValueDraft.buildOptional s d = .ok value) :
    ValueDraft.buildOptional s (value.map FactValue.draft) = .ok value := by
  cases value with
  | none => rfl
  | some v =>
    obtain ⟨d', -, hbuild⟩ := exists_of_buildOptional h
    simp [buildOptional, FactValue.build_draft_of_build hbuild, Except.map]

/-- The value of a triplet that was built can be built again. -/
theorem Draft.build_draft_of_build {d : Draft} {s : Settings} {t : Triplet}
    (h : d.build s = .ok t) {v : FactValue} (hv : t.value = some v) :
    v.draft.build s = .ok v := by
  obtain ⟨_, _, value, _, -, -, hvalue, -, rfl⟩ := build_eq_ok_iff.1 h
  obtain rfl : value = some v := hv
  obtain ⟨d', -, hbuild⟩ := ValueDraft.exists_of_buildOptional hvalue
  exact FactValue.build_draft_of_build hbuild

/-- The comment of a triplet that was built can be built again. -/
theorem Draft.buildComment_of_build {d : Draft} {s : Settings} {t : Triplet}
    (h : d.build s = .ok t) : s.buildComment t.comment = .ok t.comment := by
  obtain ⟨_, _, _, _, -, -, -, hcomment, rfl⟩ := build_eq_ok_iff.1 h
  exact buildComment_of_buildComment hcomment

/-- A triplet that was built under the standard settings obeys their rules. -/
theorem Triplet.built_of_build {d : Draft} {t : Triplet} (h : d.build standard = .ok t) :
    t.Built := by
  have hvalue (v : FactValue) (hv : v ∈ t.value) := Draft.build_draft_of_build h hv
  have hcomment := Draft.buildComment_of_build h
  obtain ⟨pfx, name, value, comment, hpfx, hname, -, -, rfl⟩ := Draft.build_eq_ok_iff.1 h
  obtain ⟨rfl, hvalid⟩ := validate_of_buildPfx hpfx
  exact ⟨rfl, hvalid, of_buildOptionalName hname, hvalue, hcomment⟩

/-- The name of a triplet is built to itself. -/
theorem Triplet.Built.buildOptionalName {t : Triplet} (h : t.Built) :
    standard.buildOptionalName t.name = .ok t.name := by
  cases hname : t.name with
  | none => rfl
  | some n =>
    obtain ⟨hne, hvalid⟩ := h.name n hname
    simp [Settings.buildOptionalName, hne, buildName_of_validate hvalid, Except.map]

/-- A triplet is built from parts that obey the rules. -/
theorem Triplet.Built.build {t : Triplet} (h : t.Built) (value : Option FactValue)
    (hvalue : ∀ v ∈ value, v.draft.build standard = .ok v) (bid : Bool) :
    Draft.build { pfx := t.pfx, name := t.name, value := value.map FactValue.draft,
                  comment := t.comment, bid := bid } standard =
      .ok { t with value := value, bid := bid, special := false } := by
  refine Draft.build_eq_ok_iff.2 ⟨t.pfx, t.name, value, t.comment, buildPfx_of_validate h.pfx,
    h.buildOptionalName, ?_, h.comment, ?_⟩
  · cases value with
    | none => rfl
    | some v => simp [ValueDraft.buildOptional, hvalue v rfl, Except.map]
  · rw [h.settings]

/-- From the prefix and the name of a triplet a reference to it is built. -/
theorem Triplet.Built.build_head {t : Triplet} (h : t.Built) :
    Draft.build { pfx := t.pfx, name := t.name } standard =
      .ok { t with value := none, comment := none, bid := false, special := false } :=
  have hbare : Triplet.Built { t with comment := none } :=
    ⟨h.settings, h.pfx, h.name, h.value, rfl⟩
  hbare.build none (by simp) false

end TripletFacts
