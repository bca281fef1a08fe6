import TripletFacts.Proofs.Expr.Operand
import TripletFacts.Proofs.Facts.RoundTrip
import TripletFacts.Proofs.Facts.TripletForm

/-!
# Pointers as values

The value of a triplet may be a pointer at another fact, and every triplet without a value is
accepted as one. In the text of a value a pointer is a mark, a prefix, a point and a name: a pointer
with a name that asks for nothing and is not special is written in this form and read back. Others
are written in another form, and the text of the triplet is refused when it is read. The text of a
pointer that asks for something has the mark of an end, so that the value is read up to this mark
only.

## Main definitions

* `Reference.IsPlain`: pointers that the text of a value can name.
* `Reference.stem`: the text of a pointer as far as it is read as a value.

## Main results

* `Settings.wholeReference?_eq_none`: texts that are no pointers.
* `Facts.read_text_of_isPlain`, `Facts.read_text_of_not_isPlain`: reading triplets with pointers.
* `Facts.read_text_of_pointer`: the pointers that are read back.
-/

namespace TripletFacts

open Settings Regex Cursor

/-! ### Texts that are no pointers -/

namespace Settings

/-- The texts that the pattern of references takes. -/
theorem takes_reference : (standard.regex .reference).Takes fun u =>
    ∃ p n, Parts.IsWord p ∧ Parts.IsWord n ∧ u = '$' :: (p ++ '.' :: n) := by
  rw [regex_reference]
  refine ((takes_literal ['$']).seq ((takes_wordRegex 1).seq ((takes_literal ['.']).seq
    (takes_wordRegex 2)))).congr fun u => ?_
  constructor
  · rintro ⟨_, _, rfl, ⟨p, _, hp, ⟨_, n, rfl, hn, rfl⟩, rfl⟩, rfl⟩
    exact ⟨p, n, hp, hn, rfl⟩
  · rintro ⟨p, n, hp, hn, rfl⟩
    exact ⟨['$'], _, rfl, ⟨p, _, hp, ⟨['.'], n, rfl, hn, rfl⟩, rfl⟩, rfl⟩

/-- A text that is a reference as a whole is a mark and two words with a point between them. -/
theorem exists_of_wholeReference? {raw : List Char} {x : List Char × List Char}
    (h : standard.wholeReference? raw = some x) :
    ∃ p n, Parts.IsWord p ∧ Parts.IsWord n ∧ raw = '$' :: (p ++ '.' :: n) := by
  unfold wholeReference? at h
  split at h
  · next m hm =>
    split at h
    · next hlength =>
      obtain ⟨u, c, hu, hmatch⟩ := exists_steps_of_findFrom hm
      obtain ⟨hstart, hway⟩ := leads_of_matchAt hmatch
      obtain ⟨v, ⟨p, n, hp, hn, rfl⟩, hv⟩ := (takes_reference _ _).1 hway.matches
      have htext : m.text = '$' :: (p ++ '.' :: n) := by
        rw [← hstart] at hv
        exact hv.text
      have hraw : raw = u ++ (('$' :: (p ++ '.' :: n)) ++ m.span.stop.after) := by
        rw [← List.append_assoc]
        exact (hu.trans hv).after
      rw [htext] at hlength
      have hends : u = [] ∧ m.span.stop.after = [] := by
        have hlengths := congrArg List.length hraw
        simp only [List.length_append] at hlengths
        exact ⟨List.eq_nil_of_length_eq_zero (by omega), List.eq_nil_of_length_eq_zero (by omega)⟩
      rw [hends.1, hends.2, List.nil_append, List.append_nil] at hraw
      exact ⟨p, n, hp, hn, hraw⟩
    · cases h
  · cases h

/-- A text that does not begin with the mark, or that does not end with a word, is no reference. -/
theorem wholeReference?_eq_none {raw : List Char}
    (h : raw.head? ≠ some '$' ∨ raw.getLast?.any Unicode.isWord = false) :
    standard.wholeReference? raw = none := by
  cases hwhole : standard.wholeReference? raw with
  | none => rfl
  | some x =>
    obtain ⟨p, n, -, hn, rfl⟩ := exists_of_wholeReference? hwhole
    rcases h with hhead | hlast
    · exact absurd rfl hhead
    · obtain ⟨w, z, rfl⟩ : ∃ w z, n = w ++ [z] :=
        ⟨_, _, (List.dropLast_concat_getLast hn.1).symm⟩
      have hend : '$' :: (p ++ '.' :: (w ++ [z])) = ('$' :: (p ++ '.' :: w)) ++ [z] := by simp
      rw [hend, List.getLast?_concat, Option.any_some, hn.2 z (by simp)] at hlast
      cases hlast

/-- A text with a point that does not begin as a numeral is no number. -/
theorem readNumber?_eq_none {c : Char} {cs : List Char} (hpoint : '.' ∈ c :: cs)
    (hc : c ∉ ['.', '+', '-']) (hdigit : isDigit c = false) : readNumber? (c :: cs) = none := by
  have hint : readInt64? (c :: cs) = none := readInt64?_eq_none hpoint (by decide) (by decide)
  have hfloat : readFloat? (c :: cs) = none := by
    have hsign : splitSign (c :: cs) = (false, c :: cs) := by
      unfold splitSign
      split <;> simp_all
    have hword {w : List Char} (hw : '.' ∉ w) : (c :: cs).map asciiLower ≠ w := fun heq =>
      hw (heq ▸ List.mem_map.2 ⟨'.', hpoint, by decide⟩)
    have hdecimal : Decimal.read? (c :: cs) = none := by
      cases hread : Decimal.read? (c :: cs) with
      | none => rfl
      | some d =>
        obtain ⟨x, rest, heq, hbegins⟩ := Token.begins_of_read? hread
        obtain ⟨rfl, -⟩ := List.cons_eq_cons.1 heq
        rcases hbegins with hx | ⟨rfl, -⟩
        · rw [hdigit] at hx
          cases hx
        · simp at hc
    simp only [readFloat?, hsign]
    rw [if_neg (not_or.2 ⟨hword (by decide), hword (by decide)⟩), if_neg (hword (by decide)),
      hdecimal]
    rfl
  rw [readNumber?, hint, hfloat]
  simp

end Settings

/-! ### Plain pointers -/

namespace Reference

/-- A pointer that the text of a value can name: it has a name, asks for nothing and is not
special. -/
structure IsPlain (r : Reference) : Prop where
  name : r.name ≠ none
  bid : r.bid = false
  special : r.special = false

/-- The text of a pointer as far as it is read as a value: of a request only the marks before the
comment and the end. -/
def stem (r : Reference) : List Char := r.head ++ if r.bid then ['=', ':'] else []

section

variable {r : Reference}

/-- The text of a pointer is its stem, and perhaps a comment and the mark of the end. -/
theorem text_eq_stem (hsettings : r.settings = .standard) : r.text =
    r.stem ++ if r.bid then Parts.commentText (r.comment.map String.toList) ++ [';'] else [] := by
  unfold text stem
  cases hbid : r.bid with
  | false => simp
  | true => cases hcomment : r.comment <;>
      simp [textWith, commentText, Parts.commentText, hsettings, standard, hbid, hcomment]

/-- The stem of a pointer: perhaps the mark, then the prefix, a point, perhaps the name, and perhaps
the marks of a request. -/
theorem stem_eq (hsettings : r.settings = .standard) : r.stem =
    (if r.special then [] else ['$']) ++ (r.pfx.toList ++
      '.' :: ((r.name.getD "").toList ++ if r.bid then ['=', ':'] else [])) := by
  rw [stem, head, hsettings]
  cases r.special <;> simp [standard]

variable (h : r.toTriplet.Built)

include h

/-- A stem begins with the mark or with a capital letter and has a point. -/
theorem exists_stem_eq_cons :
    ∃ c cs, r.stem = c :: cs ∧ (if r.special then isCapital c = true else c = '$') ∧ '.' ∈ cs := by
  obtain ⟨x, u, d, hpfx, hcapitals, -⟩ := exists_capitals_of_validate_pfx h.pfx
  have hpfx : r.pfx.toList = x :: (u ++ d) := hpfx
  rw [stem_eq (r := r) h.settings, hpfx]
  cases r.special with
  | false => exact ⟨'$', _, rfl, rfl, by simp⟩
  | true => exact ⟨x, _, rfl, hcapitals x List.mem_cons_self, by simp⟩

/-- A stem is made of word characters and of marks. -/
theorem mem_stem {c : Char} (hc : c ∈ r.stem) :
    Unicode.isWord c = true ∨ c ∈ ['$', '.', '=', ':'] := by
  have hpfx : ∀ c ∈ r.pfx.toList, Unicode.isWord c = true := h.isWord_pfx.2
  have hname : ∀ c ∈ (r.name.getD "").toList, Unicode.isWord c = true := by
    cases hn : r.name with
    | none => simp
    | some n => exact (h.isWord_name hn).2
  rw [stem_eq (r := r) h.settings] at hc
  simp only [List.mem_append, List.mem_cons] at hc
  rcases hc with hc | hc | rfl | hc | hc
  · split at hc <;> simp_all
  · exact .inl (hpfx c hc)
  · exact .inr (by simp)
  · exact .inl (hname c hc)
  · split at hc
    · exact .inr (by simp_all)
    · simp at hc

/-- A pointer that is not plain begins without the mark, or does not end with a word. -/
theorem stem_of_not_isPlain (hr : ¬r.IsPlain) :
    r.stem.head? ≠ some '$' ∨ r.stem.getLast?.any Unicode.isWord = false := by
  cases hspecial : r.special with
  | true =>
    obtain ⟨c, cs, hstem, hc, -⟩ := exists_stem_eq_cons h
    rw [hspecial, if_pos rfl] at hc
    refine .inl ?_
    rw [hstem]
    rintro ⟨⟩
    exact absurd hc (by decide)
  | false =>
    refine .inr ?_
    rw [stem_eq (r := r) h.settings]
    cases hbid : r.bid with
    | true => simp [List.getLast?_append, List.getLast?_cons]; decide
    | false =>
      have hname : r.name = none := by
        by_contra hname
        exact hr ⟨hname, hbid, hspecial⟩
      simp [hname, List.getLast?_append, List.getLast?_cons]
      decide

end

end Reference

/-! ### Reading pointers -/

/-- The stem of a pointer that is not plain is refused as the text of a value. -/
theorem Settings.readPlain_stem {r : Reference} (h : r.toTriplet.Built) (hr : ¬r.IsPlain) :
    standard.readPlain r.stem = .error (.badFormat .value (String.ofList r.stem)) := by
  have hwhole := wholeReference?_eq_none (Reference.stem_of_not_isPlain h hr)
  obtain ⟨c, cs, hstem, hc, hpoint⟩ := Reference.exists_stem_eq_cons h
  have hc : c ∉ ['.', '+', '-', '\''] ∧ isDigit c = false := by
    split at hc
    · have hmarks : ['.', '+', '-', '\''].any isCapital = false := by decide
      refine ⟨fun hmem => List.any_eq_false.1 hmarks c hmem hc, ?_⟩
      cases hdigit : isDigit c with
      | false => rfl
      | true =>
        rw [of_isDigit (P := fun c => isCapital c = false) (by decide) hdigit] at hc
        cases hc
    · subst hc
      decide
  have hword {w : List Char} (hw : '.' ∉ w) : r.stem ≠ w := fun heq =>
    hw (heq ▸ hstem ▸ List.mem_cons_of_mem c hpoint)
  have hreference : standard.readReference? r.stem = .ok none := by
    rw [readReference?, hwhole]
  have hquote : r.stem.head? ≠ some '\'' := by
    rw [hstem]
    rintro ⟨⟩
    simp at hc
  have hnumber : readNumber? r.stem = none := by
    rw [hstem]
    exact readNumber?_eq_none (List.mem_cons_of_mem c hpoint)
      (fun hmem => hc.1 (by simp only [List.mem_cons] at hmem ⊢; tauto)) hc.2
  rw [readPlain_of_ne (hword (by decide)) (hword (by decide)) hquote, hnumber, hreference]

namespace Triplet

variable {t : Triplet} {r : Reference}

/-- The parts of a triplet that are found where a pointer is its value. -/
def pointerParts (t : Triplet) (r : Reference) : Parts :=
  { t.parts with
    value := r.stem, comment := if r.bid then r.comment.map String.toList else t.parts.comment }

/-- What stands behind these parts: a request brings a comment and a mark of the end of its own. -/
def behindPointer (t : Triplet) (r : Reference) : List Char :=
  if r.bid then Parts.commentText t.parts.comment ++ [';'] else []

theorem text_eq_pointerParts (hsettings : t.settings = .standard) (hspecial : t.special = false)
    (hvalue : t.value = some (.reference r)) (hr : r.settings = .standard) :
    t.text = (t.pointerParts r).text ++ t.behindPointer r := by
  have hquoted : (FactValue.reference r).quoted standard = r.text := rfl
  have hparts : t.parts = { t.parts with value := r.text } := by
    rw [parts, hvalue]
    rfl
  rw [text_eq_text_parts hsettings hspecial (.inl (by simp [hvalue])), hparts,
    Reference.text_eq_stem hr, pointerParts, behindPointer]
  cases r.bid <;> simp [Parts.text, Parts.raw]

theorem legible_pointerParts (ht : t.Built) (hr : r.toTriplet.Built) :
    (t.pointerParts r).Legible where
  pfx := ht.isWord_pfx
  name := by
    intro n hn
    obtain ⟨name, hname, rfl⟩ := Option.map_eq_some_iff.1 hn
    exact ht.isWord_name hname
  value := by
    refine .plain (fun c hc hmem => ?_) fun hmem => ?_
    · rcases Reference.mem_stem hr hc with hword | hmark
      · exact not_mem_valueMarks (by decide) hword (List.mem_append_left ['\'', ':'] hmem)
      · simp only [List.mem_cons, List.not_mem_nil, or_false] at hmark
        rcases hmark with rfl | rfl | rfl | rfl <;> simp at hmem
    · obtain ⟨c, cs, hstem, hc, -⟩ := Reference.exists_stem_eq_cons hr
      have hmem : c = '\'' ∨ c = ':' := by simpa [pointerParts, hstem] using hmem
      split at hc
      · rcases hmem with rfl | rfl <;> exact absurd hc (by decide)
      · rcases hmem with rfl | rfl <;> exact absurd hc (by decide)
  comment := by
    intro c hc
    rw [pointerParts] at hc
    dsimp only at hc
    split at hc
    · obtain ⟨comment, hcomment, rfl⟩ := Option.map_eq_some_iff.1 hc
      exact hr.occursIn_comment hcomment
    · obtain ⟨comment, hcomment, rfl⟩ := Option.map_eq_some_iff.1 hc
      exact ht.occursIn_comment hcomment

end Triplet

/-- In the text of a triplet that can be told apart this triplet is found, and nothing else. -/
theorem Parts.exists_matchesIn_text {p : Parts} (hp : p.Legible) :
    ∃ m, (standard.regex .triplet).matchesIn p.text = [m] ∧ p.KeptIn m.captures := by
  obtain ⟨m, hmatches, hkeeps⟩ := Marks.exists_matchesIn_text Marks.apart_standard (hp.before [])
  rw [← Parts.text_eq] at hmatches
  exact ⟨m, hmatches, hkeeps.pfx, hkeeps.name, hkeeps.value, hkeeps.comment⟩

section

variable {t : Triplet} {r : Reference} (ht : ∃ d : Draft, d.build standard = .ok t)
  (hspecial : t.special = false) (hvalue : t.value = some (.reference r))
  (hr : ∃ d : Draft, d.build standard = .ok r.toTriplet)

include ht hspecial hvalue hr

/-- A triplet with a plain pointer is read back. -/
theorem Facts.read_text_of_isPlain (hplain : r.IsPlain) :
    ∃ f u, Facts.read .standard t.text = .ok f ∧ f.entries = [u] ∧ t.equal u = true ∧
      t.SameAs u := by
  have hrenderable : t.Renderable := by
    refine ⟨ht, hspecial, .inl (by simp [hvalue]), fun v hv => ?_⟩
    rw [hvalue] at hv
    obtain rfl := Option.some.inj hv
    exact .reference hr hplain.name hplain.bid hplain.special
  obtain ⟨d, hd⟩ := ht
  have hbuilt := Triplet.built_of_build hd
  obtain ⟨m, hmatches, hkept⟩ :=
    Parts.exists_matchesIn_text (Triplet.legible_parts hbuilt hrenderable.writable)
  rw [← Triplet.text_eq_text_parts hbuilt.settings hspecial hrenderable.stated] at hmatches
  obtain ⟨u, hu, hsame⟩ :=
    hbuilt.exists_readTriplet hrenderable.writable hkept
  refine ⟨(Facts.empty standard).add u, u, ?_, rfl, ?_, hsame⟩
  · rw [Facts.read, hmatches, List.mapM_cons, hu]
    rfl
  · have hrel := hsame.value
    rw [hvalue] at hrel
    rw [Triplet.equal, hsame.key, hvalue, beq_self_eq_true, Bool.true_and]
    generalize u.value = w at hrel
    cases hrel with
    | some hrel =>
      cases hrel with
      | reference hkey =>
        rw [FactValue.optionEqual, FactValue.equal, hkey]
        exact beq_self_eq_true _

/-- The text of a triplet with any other pointer is refused. -/
theorem Facts.read_text_of_not_isPlain (hplain : ¬r.IsPlain) : Facts.read .standard t.text =
    .error (.badFormat .value (String.ofList r.stem)) := by
  obtain ⟨d, hd⟩ := ht
  obtain ⟨d', hd'⟩ := hr
  have hbuilt := Triplet.built_of_build hd
  have hbuilt' := Triplet.built_of_build hd'
  have hlegible := Triplet.legible_pointerParts hbuilt hbuilt'
  obtain ⟨g, hkept, hway⟩ := Parts.exists_prefers hlegible [] (t.behindPointer r)
  obtain ⟨ms, hms⟩ := exists_matchesIn_of_find?_eq_some (findFrom_of_matchAt hway.matchAt)
  rw [← Triplet.text_eq_pointerParts hbuilt.settings hspecial hvalue hbuilt'.settings] at hms
  have hraw : standard.readValue (t.pointerParts r).raw =
      .error (.badFormat .value (String.ofList r.stem)) := by
    have hvalue : (t.pointerParts r).value = r.stem := rfl
    obtain ⟨c, cs, hstem, -⟩ := Reference.exists_stem_eq_cons hbuilt'
    rw [readValue_raw hlegible.value, hvalue, readPlain_stem hbuilt' hplain,
      if_neg (by simp [hstem])]
    rfl
  have hfails (span : Span) : standard.readTriplet ⟨span, g⟩ =
      .error (.badFormat .value (String.ofList r.stem)) := by
    rw [readTriplet, Match.groupText, Match.group, hkept.value, Option.getD_some, hraw]
  rw [Facts.read, hms, List.mapM_cons, hfails]
  rfl

/-- **Plain pointers are read back, and no others.** If the value of a triplet is a pointer with a
name that asks for nothing and is not special, then reading its text yields one triplet, which is
equal to it and states the same. If the pointer has no name, asks for something or is special, then
the text is refused: the value has no format that is known. -/
theorem Facts.read_text_of_pointer :
    (r.IsPlain → ∃ f u, Facts.read .standard t.text = .ok f ∧ f.entries = [u] ∧
      t.equal u = true ∧ t.SameAs u) ∧
    (¬r.IsPlain → Facts.read .standard t.text =
      .error (.badFormat .value (String.ofList r.stem))) :=
  ⟨read_text_of_isPlain ht hspecial hvalue hr, read_text_of_not_isPlain ht hspecial hvalue hr⟩

end

/-- A pointer at a fact under the prefix `C`. -/
def pointerC (name : Option String) (bid special : Bool) : Reference where
  pfx := "C"
  name := name
  comment := none
  bid := bid
  special := special
  settings := .standard

/-- The triplet `A.B` with such a pointer as its value. -/
def pointingAB (name : Option String) (bid special : Bool) : Triplet where
  pfx := "A"
  name := some "B"
  comment := none
  bid := false
  special := false
  settings := .standard
  value := some (.reference (pointerC name bid special))

theorem exists_build_pointerC (name : Option String) (hname : name ∈ [none, some "D"])
    (bid special : Bool) : (∃ d : Draft, d.build standard = .ok (pointingAB name bid special)) ∧
      ∃ d : Draft, d.build standard = .ok (pointerC name bid special).toTriplet := by
  have hA : standard.buildPfx "A" = .ok "A" := by decide +kernel
  have hB : standard.buildOptionalName (some "B") = .ok (some "B") := by decide +kernel
  have hC : standard.buildPfx "C" = .ok "C" := by decide +kernel
  have hbuild : standard.buildOptionalName name = .ok name := by
    simp only [List.mem_cons, List.not_mem_nil, or_false] at hname
    rcases hname with rfl | rfl <;> decide +kernel
  refine ⟨⟨{ pfx := "A", name := some "B",
             value := some (.triplet (pointerC name bid special).toTriplet) }, ?_⟩,
    ⟨{ pfx := "C", name := name, bid := bid, special := special }, ?_⟩⟩
  · exact Draft.build_eq_ok_iff.2 ⟨_, _, _, _, hA, hB, rfl, rfl, rfl⟩
  · exact Draft.build_eq_ok_iff.2 ⟨_, _, _, _, hC, hbuild, rfl, rfl, rfl⟩

/-- The triplet `$A.B=$C.D;` is read back. -/
theorem Facts.read_text_of_pointer_named :
    (pointerC (some "D") false false).IsPlain ∧
      ∃ f u, Facts.read .standard (pointingAB (some "D") false false).text = .ok f ∧
        f.entries = [u] ∧ (pointingAB (some "D") false false).equal u = true ∧
        (pointingAB (some "D") false false).SameAs u := by
  have hplain : (pointerC (some "D") false false).IsPlain := ⟨by simp [pointerC], rfl, rfl⟩
  obtain ⟨ht, hr⟩ := exists_build_pointerC (some "D") (by simp) false false
  exact ⟨hplain, (read_text_of_pointer ht rfl rfl hr).1 hplain⟩

/-- Pointers without a name, special pointers and requests are accepted as values, and the texts of
the triplets are refused. -/
theorem Facts.read_text_of_pointer_refused :
    (∀ name ∈ [none, some "D"], ∀ bid special,
      (∃ d : Draft, d.build standard = .ok (pointingAB name bid special)) ∧
        ∃ d : Draft, d.build standard = .ok (pointerC name bid special).toTriplet) ∧
    (pointingAB none false false).text = "$A.B=$C.;".toList ∧
    Facts.read .standard "$A.B=$C.;".toList = .error (.badFormat .value "$C.") ∧
    (pointingAB (some "D") false true).text = "$A.B=C.D;".toList ∧
    Facts.read .standard "$A.B=C.D;".toList = .error (.badFormat .value "C.D") ∧
    (pointingAB (some "D") true false).text = "$A.B=$C.D=:;;".toList ∧
    Facts.read .standard "$A.B=$C.D=:;;".toList = .error (.badFormat .value "$C.D=:") := by
  have hrefused (name : Option String) (bid special : Bool) (hname : name ∈ [none, some "D"])
      (hr : ¬(pointerC name bid special).IsPlain) {text stem : String}
      (htext : (pointingAB name bid special).text = text.toList)
      (hstem : (pointerC name bid special).stem = stem.toList) :
      Facts.read .standard text.toList = .error (.badFormat .value stem) := by
    obtain ⟨ht, hr'⟩ := exists_build_pointerC name hname bid special
    have hread := read_text_of_not_isPlain ht rfl rfl hr' hr
    rwa [htext, hstem, String.ofList_toList] at hread
  exact ⟨exists_build_pointerC, rfl,
    hrefused none false false (by simp) (fun h => h.name rfl) rfl rfl, rfl,
    hrefused (some "D") false true (by simp) (fun h => Bool.noConfusion h.special) rfl rfl, rfl,
    hrefused (some "D") true false (by simp) (fun h => Bool.noConfusion h.bid) rfl rfl⟩

end TripletFacts
