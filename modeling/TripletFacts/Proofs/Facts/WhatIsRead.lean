import Mathlib.Data.List.Forall2
import TripletFacts.Proofs.Facts.ReadBack

/-!
# What reading yields

A triplet that was read under the standard settings was built from its parts. Its value is a text,
a number or a pointer: a truth value is read, but no triplet is built with it, and formulas are not
read at all. So what was read can be written, and it is determined by what it states.

## Main definitions

* `Triplet.IsRead`: triplets as they are read from a text.
* `Triplet.states`: triplets that have a value or are requests.

## Main results

* `Settings.isRead_of_readTriplet`: what reading yields.
* `Triplet.IsRead.eq_of_sameAs`: triplets that were read and state the same.
* `Facts.isRead_of_read`: the triplets of a collection that was read.
* `Facts.entries_addAll_of_nodup`: adding triplets with keys of their own.
-/

namespace TripletFacts

open Settings Regex Cursor

/-! ### Pointers -/

/-- A pointer as it is read: a prefix and a name that were built, and nothing else. -/
structure Reference.IsRead (r : Reference) : Prop where
  built : ∃ d : Draft, d.build standard = .ok r.toTriplet
  name : r.name ≠ none
  comment : r.comment = none
  bid : r.bid = false
  special : r.special = false

/-- Pointers that were read and point at the same fact. -/
theorem Reference.IsRead.eq_of_key {r r' : Reference} (h : r.IsRead) (h' : r'.IsRead)
    (hkey : r'.key = r.key) : r' = r := by
  obtain ⟨d, hd⟩ := h.built
  obtain ⟨d', hd'⟩ := h'.built
  have hsettings : r.settings = .standard := (Triplet.built_of_build hd).settings
  have hsettings' : r'.settings = .standard := (Triplet.built_of_build hd').settings
  obtain ⟨pfx, name, comment, bid, special, settings⟩ := r
  obtain ⟨pfx', name', comment', bid', special', settings'⟩ := r'
  obtain rfl : comment = none := h.comment
  obtain rfl : comment' = none := h'.comment
  obtain rfl : bid = false := h.bid
  obtain rfl : bid' = false := h'.bid
  obtain rfl : special = false := h.special
  obtain rfl : special' = false := h'.special
  obtain rfl : settings = .standard := hsettings
  obtain rfl : settings' = .standard := hsettings'
  obtain rfl : pfx' = pfx := congrArg Key.pfx hkey
  obtain rfl : name' = name := congrArg Key.name hkey
  rfl

/-- The name of a reference that is found has at least one character. -/
theorem Settings.name_ne_nil_of_wholeReference? {raw pfx name : List Char}
    (h : standard.wholeReference? raw = some (pfx, name)) : name ≠ [] := by
  unfold wholeReference? at h
  split at h
  · next m hm =>
    split at h
    · obtain ⟨p, q, -, hway⟩ := exists_of_find?_eq_some hm
      obtain ⟨c₁, g₁, -, hway⟩ := leads_seq_iff.1 hway
      obtain ⟨c₂, g₂, -, hway⟩ := leads_seq_iff.1 hway
      obtain ⟨c₃, g₃, -, hway⟩ := leads_seq_iff.1 hway
      obtain ⟨g₄, hword, hcaptures⟩ := leads_group_iff.1 hway
      rw [← between_before_after c₃] at hword hcaptures
      obtain ⟨x, u, a, hafter, -, -, hstop, -⟩ := leads_plus_char_iff.1 hword
      have htext : m.groupText 2 = x :: u := by
        rw [Match.groupText, Match.group, hcaptures, List.lookup_cons_self, hafter, hstop]
        exact Span.text_between _ (x :: u) a
      cases h
      rw [htext]
      exact List.cons_ne_nil x u
    · cases h
  · cases h

theorem Settings.isRead_of_readReference? {raw : List Char} {r : Reference}
    (h : standard.readReference? raw = .ok (some r)) : r.IsRead := by
  unfold readReference? at h
  split at h
  · cases h
  · next pfx name hwhole =>
    obtain ⟨t, hbuild, heq⟩ := map_eq_ok_iff.1 h
    obtain rfl := Option.some.inj heq
    obtain ⟨pfx', name', value, comment, -, hname, hvalue, hcomment, rfl⟩ :=
      Draft.build_eq_ok_iff.1 hbuild
    obtain rfl : none = value := Except.ok.inj hvalue
    obtain rfl : none = comment := Except.ok.inj hcomment
    have hne : String.ofList name ≠ "" := by simpa using name_ne_nil_of_wholeReference? hwhole
    rw [buildOptionalName, if_neg hne] at hname
    obtain ⟨n, -, rfl⟩ := map_eq_ok_iff.1 hname
    exact ⟨⟨_, hbuild⟩, Option.some_ne_none n, rfl, rfl, rfl⟩

/-! ### Values -/

/-- Values as they are read from a text. -/
inductive FactValue.IsRead : FactValue → Prop
  | str (s : String) : IsRead (.literal (.str s))
  | int (i : Int64) : IsRead (.literal (.int i))
  | float (x : Float) : IsRead (.literal (.float x))
  | reference {r : Reference} (h : r.IsRead) : IsRead (.reference r)

/-- What was read can be written. -/
theorem FactValue.IsRead.writable {v : FactValue} (h : v.IsRead) : v.Writable := by
  cases h with
  | str s => exact .str s
  | int i => exact .int i
  | float x => exact .float x
  | reference h => exact .reference h.built h.name h.bid h.special

theorem FactValue.IsRead.eq_of_sameAs {v w : FactValue} (h : v.IsRead) (h' : w.IsRead)
    (hsame : v.SameAs w) : w = v := by
  cases hsame with
  | literal => rfl
  | reference hkey =>
    cases h with
    | reference h =>
      cases h' with
      | reference h' => rw [h.eq_of_key h' hkey]

/-- The value of a text is a literal or a pointer. -/
theorem Settings.eq_literal_or_isRead_of_readPlain {raw : List Char} {v : FactValue}
    (h : standard.readPlain raw = .ok v) :
    (∃ l, v = .literal l) ∨ ∃ r, v = .reference r ∧ r.IsRead := by
  unfold readPlain at h
  split at h
  · exact .inl ⟨_, (Except.ok.inj h).symm⟩
  · split at h
    · exact .inl ⟨_, (Except.ok.inj h).symm⟩
    · split at h
      · exact .inl ⟨_, (Except.ok.inj h).symm⟩
      · split at h
        · exact .inl ⟨_, (Except.ok.inj h).symm⟩
        · split at h
          · cases h
          · next r hr => exact .inr ⟨r, (Except.ok.inj h).symm, isRead_of_readReference? hr⟩
          · cases h

theorem Settings.exists_readPlain_of_readValue {raw : List Char} {v : FactValue} {bid : Bool}
    (h : standard.readValue raw = .ok (some v, bid)) :
    ∃ raw', standard.readPlain raw' = .ok v := by
  have hplain : ∀ (raw : List Char) (mark : Bool),
      (if raw.isEmpty then .ok (none, mark)
        else (standard.readPlain raw).map fun w => (some w, mark)) = .ok (some v, bid) →
      standard.readPlain raw = .ok v := by
    intro raw mark h
    split at h
    · cases h
    · obtain ⟨w, hw, heq⟩ := map_eq_ok_iff.1 h
      cases heq
      exact hw
  unfold readValue at h
  split at h
  exact ⟨_, hplain _ _ h⟩

/-- No triplet is built with a truth value. -/
theorem Triplet.Built.value_ne_bool {t : Triplet} (h : t.Built) (b : Bool) :
    t.value ≠ some (.literal (.bool b)) := by
  intro hb
  obtain ⟨hvalid, -, -, -⟩ := ValueDraft.build_eq_ok_iff.1 (h.value _ hb)
  have hkind : Kind.bool ∈ standard.valueRules.kinds :=
    (FieldRules.validate_eq_ok_iff.1 hvalid).1
  exact absurd hkind (by decide)

/-! ### Triplets -/

namespace Triplet

/-- Triplets as they are read from a text: they were built, and are not special. -/
structure IsRead (t : Triplet) : Prop where
  built : ∃ d : Draft, d.build standard = .ok t
  notSpecial : t.special = false
  value : ∀ v ∈ t.value, v.IsRead

/-- Whether a triplet has a value or is a request. -/
def states (t : Triplet) : Bool := t.value.isSome || t.bid

variable {t u : Triplet}

theorem IsRead.isBuilt (h : t.IsRead) : t.Built := by
  obtain ⟨d, hd⟩ := h.built
  exact built_of_build hd

/-- Triplets that were read and state the same are the same. -/
theorem IsRead.eq_of_sameAs (h : t.IsRead) (h' : u.IsRead) (hsame : t.SameAs u) : u = t := by
  have hsettings := h.isBuilt.settings
  have hsettings' := h'.isBuilt.settings
  have hvalue : u.value = t.value := by
    have hrel := hsame.value
    have hread := h.value
    have hread' := h'.value
    generalize t.value = v at hrel hread
    generalize u.value = w at hrel hread'
    cases hrel with
    | none => rfl
    | some hrel => rw [(hread _ rfl).eq_of_sameAs (hread' _ rfl) hrel]
  obtain ⟨⟨pfx, name, comment, bid, special, settings⟩, value⟩ := t
  obtain ⟨⟨pfx', name', comment', bid', special', settings'⟩, value'⟩ := u
  obtain ⟨rfl, rfl, -, rfl, rfl⟩ := hsame
  obtain rfl : special = false := h.notSpecial
  obtain rfl : special' = false := h'.notSpecial
  obtain rfl : settings = .standard := hsettings
  obtain rfl : settings' = .standard := hsettings'
  obtain rfl : value' = value := hvalue
  rfl

/-- Lists of triplets that were read, one by one the same. -/
theorem eq_of_forall₂_sameAs {ts us : List Triplet} (hts : ∀ t ∈ ts, t.IsRead)
    (hus : ∀ u ∈ us, u.IsRead) (hall : List.Forall₂ SameAs ts us) : us = ts := by
  induction hall with
  | nil => rfl
  | cons hsame _ ih =>
    obtain ⟨ht, hts⟩ := List.forall_mem_cons.1 hts
    obtain ⟨hu, hus⟩ := List.forall_mem_cons.1 hus
    rw [ht.eq_of_sameAs hu hsame, ih hts hus]

end Triplet

/-- What reading yields. -/
theorem Settings.isRead_of_readTriplet {m : Match} {t : Triplet}
    (h : standard.readTriplet m = .ok t) : t.IsRead := by
  unfold readTriplet at h
  split at h
  · cases h
  · next value bid hvalue =>
    dsimp only at h
    refine ⟨⟨_, h⟩, ?_, fun v hv => ?_⟩
    · obtain ⟨_, _, _, _, -, -, -, -, rfl⟩ := Draft.build_eq_ok_iff.1 h
      rfl
    · have hbuilt := Triplet.built_of_build h
      obtain ⟨_, _, value', _, -, -, hbuild, -, rfl⟩ := Draft.build_eq_ok_iff.1 h
      obtain rfl : value' = some v := hv
      obtain ⟨d, hd, hbuild⟩ := ValueDraft.exists_of_buildOptional hbuild
      obtain ⟨w, rfl, rfl⟩ := Option.map_eq_some_iff.1 hd
      obtain rfl := FactValue.eq_of_build_draft hbuild
      obtain ⟨raw, hraw⟩ := exists_readPlain_of_readValue hvalue
      rcases eq_literal_or_isRead_of_readPlain hraw with ⟨l, rfl⟩ | ⟨r, rfl, hr⟩
      · cases l with
        | bool b => exact absurd rfl (hbuilt.value_ne_bool b)
        | int i => exact .int i
        | float x => exact .float x
        | str s => exact .str s
      · exact .reference hr

/-! ### Collections -/

/-- A triplet with a key of its own comes last. -/
theorem putEntry_of_notMem {t : Triplet} {us : List Triplet} (h : t.key ∉ us.map Triplet.key) :
    putEntry t us = us ++ [t] := by
  induction us with
  | nil => rfl
  | cons u us ih =>
    rw [List.map_cons, List.mem_cons, not_or] at h
    rw [putEntry, if_neg (Ne.symm h.1), ih h.2, List.cons_append]

namespace Facts

theorem mem_entries_addAll {f : Facts} {ts : List Triplet} {t : Triplet}
    (h : t ∈ (f.addAll ts).entries) : t ∈ f.entries ∨ t ∈ ts := by
  induction ts generalizing f with
  | nil => exact .inl h
  | cons u ts ih =>
    rcases ih (f := f.add u) h with h | h
    · exact (mem_putEntry h).elim (fun h => .inr (h ▸ List.mem_cons_self)) .inl
    · exact .inr (List.mem_cons_of_mem u h)

/-- Triplets with keys of their own come after those that are there. -/
theorem entries_addAll_of_nodup {f : Facts} {ts : List Triplet}
    (h : ((f.entries ++ ts).map Triplet.key).Nodup) :
    (f.addAll ts).entries = f.entries ++ ts := by
  induction ts generalizing f with
  | nil => exact (List.append_nil f.entries).symm
  | cons t ts ih =>
    have hnew : t.key ∉ f.entries.map Triplet.key := by
      intro hmem
      rw [List.map_append, List.nodup_append] at h
      exact h.2.2 t.key hmem t.key (by simp) rfl
    have hentries : (f.add t).entries = f.entries ++ [t] := putEntry_of_notMem hnew
    have hnext := ih (f := f.add t) (by rwa [hentries, List.append_assoc])
    rwa [hentries, List.append_assoc] at hnext

/-- The triplets of a collection that was read are triplets as they are read, and it has the
settings with which it was read. -/
theorem isRead_of_read {text : List Char} {c : Facts} (h : Facts.read .standard text = .ok c) :
    c.settings = .standard ∧ ∀ t ∈ c.entries, t.IsRead := by
  obtain ⟨ts, hts, rfl⟩ := map_eq_ok_iff.1 h
  refine ⟨settings_addAll _ ts, fun t ht => ?_⟩
  have ht := (mem_entries_addAll ht).resolve_left List.not_mem_nil
  obtain ⟨m, -, hm⟩ := exists_mem_of_mapM_eq_ok hts ht
  exact isRead_of_readTriplet hm

end Facts

end TripletFacts
