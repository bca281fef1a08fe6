import Mathlib.Data.List.Nodup
import TripletFacts.Facts.Lookup
import TripletFacts.Proofs.Triplet.Built

/-!
# Facts under their own keys

A triplet keeps its prefix and its name in capital letters, and a look-up is held against the rules
of the collection before it is put into capital letters. What is stored is found under its own
prefix and name exactly if these obey the rules as they stand. A draft obeys the rules before its
letters are changed, so that nothing follows about the triplet that is built from it: rules about
the length or the pattern of a text may take `ab` and refuse `AB`, and then the triplet of the draft
is stored and cannot be asked for under the key it is stored with. Asking for `ab` finds it.

## Main definitions

* `Settings.AcceptsKey`: the prefix and the name of a key obey the rules.
* `Facts.Fetchable`: a triplet is found, seen and taken out under its own prefix and name.

## Main results

* `Facts.lookupKey_eq_ok_iff`, `Facts.get_eq_ok_iff`: what a prefix and a name stand for.
* `Facts.fetchable_add_iff`: when a triplet that was added can be asked for.
* `Triplet.Built.acceptsKey`: under the standard settings every triplet can.
-/

namespace TripletFacts

/-- The prefix and the name of a key obey the rules, as they stand. -/
def Settings.AcceptsKey (s : Settings) (k : Key) : Prop :=
  s.validate .pfx (.str k.pfx) = .ok () ∧ ∀ n ∈ k.name, s.validate .name (.str n) = .ok ()

/-- A key in capital letters. -/
def Key.upper (k : Key) : Key := ⟨Unicode.upper k.pfx, k.name.map Unicode.upper⟩

@[simp] theorem Key.upper_upper (k : Key) : k.upper.upper = k.upper := by
  cases hname : k.name <;> simp [Key.upper, hname, Unicode.upper_upper]

/-! ### Rules and capital letters -/

theorem Settings.buildPfx_eq_ok_iff {s : Settings} {pfx r : String} : s.buildPfx pfx = .ok r ↔
    s.validate .pfx (.str pfx) = .ok () ∧ Unicode.upper pfx = r := by
  rw [buildPfx, map_const_eq_ok_iff]

theorem Settings.buildPfx_eq_error_iff {s : Settings} {pfx : String} {e : FactError} :
    s.buildPfx pfx = .error e ↔ s.validate .pfx (.str pfx) = .error e := by
  rw [buildPfx]
  cases s.validate .pfx (.str pfx) <;> simp [Except.map]

theorem Settings.buildName_eq_ok_iff {s : Settings} {name r : String} : s.buildName name = .ok r ↔
    s.validate .name (.str name) = .ok () ∧ Unicode.upper name = r := by
  rw [buildName, map_const_eq_ok_iff]

/-- The key of a triplet that was built is in capital letters. -/
theorem Draft.upper_key_of_build {d : Draft} {s : Settings} {t : Triplet} (h : d.build s = .ok t) :
    t.key.upper = t.key := by
  obtain ⟨pfx, name, value, comment, hpfx, hname, -, -, rfl⟩ := Draft.build_eq_ok_iff.1 h
  obtain ⟨-, rfl⟩ := Settings.buildPfx_eq_ok_iff.1 hpfx
  have hupper : name.map Unicode.upper = name := by
    cases hd : d.name with
    | none =>
      rw [hd] at hname
      obtain rfl := Except.ok.inj hname
      rfl
    | some n =>
      rw [hd, Settings.buildOptionalName] at hname
      split at hname
      · obtain rfl := Except.ok.inj hname
        rfl
      · obtain ⟨m, hm, rfl⟩ := map_eq_ok_iff.1 hname
        obtain ⟨-, rfl⟩ := Settings.buildName_eq_ok_iff.1 hm
        rw [Option.map_some, Unicode.upper_upper]
  simp only [Key.upper, Triplet.key, Reference.key, Unicode.upper_upper, hupper]

/-! ### Looking up -/

namespace Facts

/-- A prefix and a name that obey the rules stand for the key in capital letters. -/
theorem lookupKey_eq_ok_iff {f : Facts} {pfx : String} {name : Option String} {k : Key} :
    f.lookupKey pfx name = .ok k ↔
      f.settings.AcceptsKey ⟨pfx, name⟩ ∧ k = Key.upper ⟨pfx, name⟩ := by
  unfold lookupKey
  cases hpfx : f.settings.buildPfx pfx with
  | error e =>
    simp [Settings.AcceptsKey, Settings.buildPfx_eq_error_iff.1 hpfx]
  | ok r =>
    obtain ⟨hvalid, rfl⟩ := Settings.buildPfx_eq_ok_iff.1 hpfx
    cases name with
    | none => simp [Settings.AcceptsKey, Key.upper, hvalid, eq_comm]
    | some n =>
      simp only [map_eq_ok_iff, Settings.buildName_eq_ok_iff, Settings.AcceptsKey, Key.upper,
        Option.map_some, hvalid, true_and, Option.mem_some_iff, forall_eq']
      constructor
      · rintro ⟨m, ⟨hn, rfl⟩, rfl⟩
        exact ⟨hn, rfl⟩
      · rintro ⟨hn, rfl⟩
        exact ⟨_, ⟨hn, rfl⟩, rfl⟩

/-- The triplet with a key is the one that has it. -/
theorem find?_eq_some_iff {f : Facts} {k : Key} {t : Triplet} :
    f.find? k = some t ↔ t ∈ f.entries ∧ t.key = k := by
  constructor
  · intro h
    exact ⟨List.mem_of_find?_eq_some h, by simpa using List.find?_some h⟩
  · rintro ⟨hmem, rfl⟩
    have hsome : (f.entries.find? (·.key == t.key)).isSome = true :=
      List.find?_isSome.2 ⟨t, hmem, by simp⟩
    obtain ⟨u, hu⟩ := Option.isSome_iff_exists.1 hsome
    have hkey : u.key = t.key := by simpa using List.find?_some hu
    rw [find?, hu, List.inj_on_of_nodup_map f.nodup (List.mem_of_find?_eq_some hu) hmem hkey]

theorem fetch_eq_ok_iff {f : Facts} {k : Key} {t : Triplet} :
    f.fetch k = .ok t ↔ t ∈ f.entries ∧ t.key = k := by
  rw [← find?_eq_some_iff, fetch]
  cases f.find? k <;> simp

/-- A triplet is found under a prefix and a name if these obey the rules and are its key in
capital letters. -/
theorem get_eq_ok_iff {f : Facts} {pfx : String} {name : Option String} {t : Triplet} :
    f.get pfx name = .ok t ↔
      f.settings.AcceptsKey ⟨pfx, name⟩ ∧ t ∈ f.entries ∧ t.key = Key.upper ⟨pfx, name⟩ := by
  rw [get, bind_eq_ok_iff]
  simp only [lookupKey_eq_ok_iff, fetch_eq_ok_iff]
  constructor
  · rintro ⟨k, ⟨haccepts, rfl⟩, hmem, hkey⟩
    exact ⟨haccepts, hmem, hkey⟩
  · rintro ⟨haccepts, hmem, hkey⟩
    exact ⟨_, ⟨haccepts, rfl⟩, hmem, hkey⟩

/-- Taking the triplet with a key out leaves those before it and those behind it. -/
theorem filter_key_ne {before after : List Triplet} {t : Triplet}
    (h : ((before ++ t :: after).map Triplet.key).Nodup) :
    (before ++ t :: after).filter (·.key != t.key) = before ++ after := by
  have hother : ∀ u ∈ before ++ after, (u.key != t.key) = true := by
    intro u hu
    rw [List.map_append, List.map_cons, List.nodup_middle, ← List.map_append, List.nodup_cons] at h
    rw [bne_iff_ne]
    exact fun heq => h.1 (heq ▸ List.mem_map_of_mem hu)
  rw [List.filter_append, List.filter_cons_of_neg (by simp), ← List.filter_append,
    List.filter_eq_self.2 hother]

/-- The triplet is found under its own prefix and name, is seen to be there, and is what is taken
out under them, while everything else stays where it is. -/
structure Fetchable (f : Facts) (t : Triplet) : Prop where
  get : f.get t.pfx t.name = .ok t
  contained : f.containsKey t.pfx t.name = .ok true
  removed : ∃ before after rest, f.remove t.pfx t.name = .ok (t, rest) ∧
    f.entries = before ++ t :: after ∧ rest.entries = before ++ after ∧ rest.settings = f.settings

/-- A stored triplet with a key in capital letters can be asked for exactly if its key obeys the
rules. -/
theorem fetchable_iff {f : Facts} {t : Triplet} (hmem : t ∈ f.entries)
    (hupper : t.key.upper = t.key) : f.Fetchable t ↔ f.settings.AcceptsKey t.key := by
  constructor
  · intro h
    exact (get_eq_ok_iff.1 h.get).1
  · intro haccepts
    have hget : f.get t.pfx t.name = .ok t := get_eq_ok_iff.2 ⟨haccepts, hmem, hupper.symm⟩
    refine ⟨hget, map_eq_ok_iff.2 ⟨t.key, lookupKey_eq_ok_iff.2 ⟨haccepts, hupper.symm⟩, ?_⟩, ?_⟩
    · rw [find?_eq_some_iff.2 ⟨hmem, rfl⟩, Option.isSome_some]
    · obtain ⟨before, after, hentries⟩ := List.append_of_mem hmem
      refine ⟨before, after, _, map_eq_ok_iff.2 ⟨t, hget, rfl⟩, hentries, ?_, rfl⟩
      have hnodup := f.nodup
      rw [hentries] at hnodup
      exact (congrArg (List.filter (·.key != t.key)) hentries).trans (filter_key_ne hnodup)

theorem mem_add (f : Facts) (t : Triplet) : t ∈ (f.add t).entries :=
  List.mem_of_find?_eq_some ((f.find?_add t t.key).trans (if_pos rfl))

/-- After a triplet was added it can be asked for under its own prefix and name exactly if these
obey the rules once more, now in capital letters. -/
theorem fetchable_add_iff {d : Draft} {s : Settings} {t : Triplet} (h : d.build s = .ok t)
    {f : Facts} (hf : f.settings = s) : (f.add t).Fetchable t ↔ s.AcceptsKey t.key := by
  rw [fetchable_iff (f.mem_add t) (Draft.upper_key_of_build h), settings_add, hf]

/-! ### Rules about the case of letters -/

/-- Settings under which a prefix is a text of the given pattern. -/
def withPfxPattern (pattern : String) : Settings :=
  { Settings.standard with
    pfxRules := { Settings.standard.pfxRules with pattern := some pattern } }

/-- A reference in capital letters. -/
def referenceAB (s : Settings) : Triplet where
  pfx := "AB"
  name := some "C"
  comment := none
  bid := false
  special := false
  settings := s
  value := none

/-- What is asked for as `ab` is built to `AB`. -/
theorem build_small {pattern : String}
    (h : (withPfxPattern pattern).validate .pfx (.str "ab") = .ok ()) :
    Draft.build { pfx := "ab", name := some "C" } (withPfxPattern pattern) =
      .ok (referenceAB (withPfxPattern pattern)) := by
  have hpfx : (withPfxPattern pattern).buildPfx "ab" = .ok "AB" :=
    Settings.buildPfx_eq_ok_iff.2 ⟨h, by decide⟩
  have hname : (withPfxPattern pattern).buildOptionalName (some "C") = .ok (some "C") := by
    have hstandard : Settings.standard.buildOptionalName (some "C") = .ok (some "C") := by
      decide
    exact hstandard
  exact Draft.build_eq_ok_iff.2 ⟨_, _, _, _, hpfx, hname, rfl, rfl, rfl⟩

/-- Where both cases of a letter are accepted, what is written small is found in capital letters. -/
theorem fetchable_add_either_case :
    ((empty (withPfxPattern "[A-Za-z]+")).add
      (referenceAB (withPfxPattern "[A-Za-z]+"))).Fetchable
        (referenceAB (withPfxPattern "[A-Za-z]+")) :=
  (fetchable_add_iff (build_small (by decide)) rfl).2
    ⟨by decide, fun n hn => Option.some.inj hn ▸ by decide⟩

/-- Where only small letters are accepted, a triplet is stored and cannot be asked for under the key
it is stored with. -/
theorem not_forall_fetchable_add : ¬∀ (d : Draft) (s : Settings) (t : Triplet) (f : Facts),
    d.build s = .ok t → f.settings = s → (f.add t).Fetchable t := by
  intro h
  have hfetch := h _ _ _ (empty _) (@build_small "[a-z]+" (by decide)) rfl
  have haccepts := (get_eq_ok_iff.1 hfetch.get).1.1
  revert haccepts
  decide

end Facts

/-! ### The standard settings -/

/-- Under the standard settings the key of a triplet obeys the rules as it stands. -/
theorem Triplet.Built.acceptsKey {t : Triplet} (h : t.Built) : Settings.standard.AcceptsKey t.key :=
  ⟨h.pfx, fun n hn => (h.name n hn).2⟩

/-- Under the standard settings every triplet that was built and added can be asked for. -/
theorem Triplet.Built.fetchable_add {t : Triplet} (h : t.Built) {f : Facts}
    (hf : f.settings = .standard) : (f.add t).Fetchable t := by
  have hupper : t.key.upper = t.key := (Draft.upper_key_of_build (h.build none (by simp) false) :)
  rw [Facts.fetchable_iff (f.mem_add t) hupper, Facts.settings_add, hf]
  exact h.acceptsKey

end TripletFacts
