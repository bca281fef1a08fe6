import TripletFacts.Proofs.Facts.TripletWay
import TripletFacts.Proofs.Number.Characters
import TripletFacts.Proofs.Triplet.Built

/-!
# Rendered triplets

The text of a triplet that was built under the standard settings is made of parts that can be told
apart: its prefix and its name are words, the text of its value has no marks outside of quotes, and
texts in quotes do not have the marks that would end them.

## Main definitions

* `FactValue.Writable`: values that can be written so that they can be read back.
* `Triplet.parts`: the texts of the parts of a triplet.

## Main results

* `Settings.HasMarks.textWith_eq`: the text of a triplet under any marks.
* `Triplet.text_eq_text_parts`: the text of a triplet.
* `Triplet.legible_parts`: its parts can be told apart.
-/

namespace TripletFacts

open Settings

/-! ### Values -/

/-- Values that can be written: texts, integers, floats, and pointers at facts with a name. -/
inductive FactValue.Writable : FactValue → Prop
  | str (s : String) : Writable (.literal (.str s))
  | int (i : Int64) : Writable (.literal (.int i))
  | float (x : Float) : Writable (.literal (.float x))
  | reference {r : Reference} (hbuilt : ∃ d : Draft, d.build standard = .ok r.toTriplet)
      (hname : r.name ≠ none) (hbid : r.bid = false) (hspecial : r.special = false) :
      Writable (.reference r)

/-- The marks around and behind a value, and the end of a line. -/
def valueMarks : List Char := ['\n', ';', '"', '\'', ':']

/-- A class of characters without marks. -/
theorem not_mem_valueMarks {test : Char → Bool} (htest : valueMarks.any test = false) {c : Char}
    (h : test c = true) : c ∉ valueMarks :=
  fun hc => List.any_eq_false.1 htest c hc h

/-- A text without marks is the text of a value. -/
theorem Parts.isValue_of_not_mem_valueMarks {v : List Char} (h : ∀ c ∈ v, c ∉ valueMarks) :
    Parts.IsValue v := by
  refine .plain (fun c hc hmem => h c hc (by simp_all [valueMarks])) ?_
  cases v with
  | nil => simp
  | cons d v =>
    intro hmem
    exact h d (by simp) (by simp_all [valueMarks])

theorem all_isNumeralChar_literalText {x : Float} (h : x.isFinite = true) :
    (literalText x).all isNumeralChar = true := by
  rw [literalText, Layout.write_of_isFinite _ h, List.all_append, Layout.all_writeMagnitude,
    Bool.and_true]
  split <;> decide

/-- A text that was checked does not have the marks that would end it. -/
theorem not_occursIn_of_checkOpen {field : Field} {text : String} {closers : List String}
    (h : checkOpen field text closers = .ok ()) {c : String} (hc : c ∈ closers) :
    occursIn c.toList text.toList = false := by
  unfold checkOpen at h
  split at h
  · cases h
  · rename_i hnone
    simpa using fun hocc => hnone (List.any_eq_true.2 ⟨c, hc, hocc⟩)

section

variable {s : Settings} {m : Marks}

/-- A text that is built as a value does not have the marks that would end it. -/
theorem Settings.HasMarks.occursIn_value (hs : s.HasMarks m) {v : String} {w : FactValue}
    (h : (ValueDraft.literal (.str v)).build s = .ok w) :
    occursIn [m.valueQuote, m.stop] v.toList = false ∧
      occursIn [m.valueQuote, m.commentQuote] v.toList = false := by
  obtain ⟨-, hopen, -, -⟩ := ValueDraft.build_eq_ok_iff.1 h
  have hopen := hopen v rfl
  have hstop := not_occursIn_of_checkOpen hopen (c := s.valueQuote ++ s.endMark)
    (by simp [valueClosers])
  have hcomment := not_occursIn_of_checkOpen hopen (c := s.valueQuote ++ s.commentQuote)
    (by simp [valueClosers])
  rw [String.toList_append, hs.valueQuote] at hstop hcomment
  rw [hs.stop] at hstop
  rw [hs.commentQuote] at hcomment
  exact ⟨hstop, hcomment⟩

/-- A comment that is built does not have the marks that would end it. -/
theorem Settings.HasMarks.occursIn_comment (hs : s.HasMarks m) {c : String}
    (h : s.buildComment (some c) = .ok (some c)) :
    occursIn [m.commentQuote, m.stop] c.toList = false := by
  have hne : c ≠ "" := by
    rintro rfl
    cases h
  obtain ⟨-, hopen, -⟩ := (buildComment_eq_ok_iff hne).1 h
  have hstop := not_occursIn_of_checkOpen hopen (c := s.commentQuote ++ s.endMark)
    (by simp [commentClosers])
  rwa [String.toList_append, hs.commentQuote, hs.stop] at hstop

end

/-! ### Built parts -/

namespace Triplet.Built

variable {t : Triplet}

theorem isWord_pfx (h : t.Built) : Parts.IsWord t.pfx.toList := by
  refine ⟨?_, fun c hc => ?_⟩
  · obtain ⟨x, u, d, htext, -⟩ := exists_capitals_of_validate_pfx h.pfx
    simp [htext]
  · exact (mem_of_validate_pfx h.pfx hc).elim isWord_of_isCapital isWord_of_isDecimalDigit

theorem isWord_name (h : t.Built) {n : String} (hn : t.name = some n) : Parts.IsWord n.toList := by
  obtain ⟨-, hvalid⟩ := h.name n hn
  refine ⟨?_, fun c hc => isWord_of_isCapital (mem_of_validate_name hvalid hc)⟩
  obtain ⟨x, u, htext, -⟩ := exists_capitals_of_validate_name hvalid
  simp [htext]

/-- A float that is a value is finite. -/
theorem isFinite (h : t.Built) {x : Float} (hx : t.value = some (.literal (.float x))) :
    x.isFinite = true := by
  obtain ⟨hvalid, -, -, -⟩ := ValueDraft.build_eq_ok_iff.1 (h.value _ hx)
  exact (FieldRules.validate_eq_ok_iff.1 hvalid).2.1 x rfl

/-- A text that is a value does not have the marks that would end it. -/
theorem occursIn_value (h : t.Built) {s : String} (hs : t.value = some (.literal (.str s))) :
    occursIn ['\'', ';'] s.toList = false ∧ occursIn ['\'', '"'] s.toList = false :=
  hasMarks_standard.occursIn_value (h.value _ hs)

/-- A comment does not have the marks that would end it. -/
theorem occursIn_comment (h : t.Built) {c : String} (hc : t.comment = some c) :
    occursIn ['"', ';'] c.toList = false := by
  have hbuild := h.comment
  rw [hc] at hbuild
  exact hasMarks_standard.occursIn_comment hbuild

end Triplet.Built

/-! ### Texts of values -/

/-- The text of a pointer at a fact with a name. -/
theorem Reference.text_of_name {r : Reference} (hsettings : r.settings = .standard)
    (hspecial : r.special = false) (hbid : r.bid = false) {n : String} (hn : r.name = some n) :
    r.text = '$' :: (r.pfx.toList ++ '.' :: n.toList) := by
  rw [text, hbid, if_neg Bool.false_ne_true, head, hspecial, hsettings, hn]
  simp [standard]

/-- A pointer that can be written points at a fact with a name, and its text is the key there. -/
theorem FactValue.Writable.exists_name {r : Reference} (h : (FactValue.reference r).Writable) :
    ∃ n, r.name = some n ∧ r.toTriplet.Built ∧
      (FactValue.reference r).quoted standard = '$' :: (r.pfx.toList ++ '.' :: n.toList) := by
  cases h with
  | reference hbuilt hname hbid hspecial =>
    obtain ⟨d, hd⟩ := hbuilt
    have hbuilt := Triplet.built_of_build hd
    obtain ⟨n, hn⟩ := Option.ne_none_iff_exists'.1 hname
    exact ⟨n, hn, hbuilt, Reference.text_of_name hbuilt.settings hspecial hbid hn⟩

/-- The text of a value has no marks outside of quotes. -/
theorem FactValue.isValue_quoted {t : Triplet} (h : t.Built) {v : FactValue}
    (hv : t.value = some v) (hwritable : v.Writable) : Parts.IsValue (v.quoted standard) := by
  cases hwritable with
  | str s =>
    obtain ⟨hend, hcomment⟩ := h.occursIn_value hv
    exact .quoted hend hcomment
  | int i =>
    exact Parts.isValue_of_not_mem_valueMarks fun c hc =>
      not_mem_valueMarks (by decide) (List.all_eq_true.1 (all_integerText i) c hc)
  | float x =>
    exact Parts.isValue_of_not_mem_valueMarks fun c hc =>
      not_mem_valueMarks (by decide)
        (List.all_eq_true.1 (all_isNumeralChar_literalText (h.isFinite hv)) c hc)
  | reference hbuilt hname hbid hspecial =>
    obtain ⟨n, hn, hbuilt, htext⟩ := (Writable.reference hbuilt hname hbid hspecial).exists_name
    rw [htext]
    refine Parts.isValue_of_not_mem_valueMarks fun c hc => ?_
    simp only [List.mem_cons, List.mem_append] at hc
    rcases hc with rfl | hc | rfl | hc
    · decide
    · exact not_mem_valueMarks (by decide) (hbuilt.isWord_pfx.2 c hc)
    · decide
    · exact not_mem_valueMarks (by decide) ((hbuilt.isWord_name hn).2 c hc)

/-! ### Texts of triplets -/

/-- A triplet that is not special is written with its parts. -/
theorem Settings.HasMarks.textWith_eq {s : Settings} {m : Marks} (hs : s.HasMarks m) {r : Reference}
    (hsettings : r.settings = s) (hspecial : r.special = false) (v : List Char) :
    r.textWith v = m.text
      { pfx := r.pfx.toList, name := r.name.map String.toList, bid := r.bid, value := v,
        comment := r.comment.map String.toList } := by
  subst hsettings
  rw [Reference.textWith, Reference.head, Reference.commentText, hspecial]
  cases hname : r.name <;> cases r.comment <;> cases hbid : r.bid <;>
    simp [Marks.text, Marks.raw, Marks.commentText, hs.start, hs.nameSeparator, hs.valueSeparator,
      hs.bid, hs.stop, hs.commentQuote]

namespace Triplet

/-- The texts of the parts of a triplet. -/
def parts (t : Triplet) : Parts where
  pfx := t.pfx.toList
  name := t.name.map String.toList
  bid := t.bid
  value := (t.value.map (FactValue.quoted standard)).getD []
  comment := t.comment.map String.toList

/-- The text of a triplet that is not special and that states something. -/
theorem text_eq_text_parts {t : Triplet} (hsettings : t.settings = .standard)
    (hspecial : t.special = false) (hstated : t.value ≠ none ∨ t.bid = true) :
    t.text = t.parts.text := by
  have hparts (v : List Char) :
      t.toReference.textWith v = ({ t.parts with value := v } : Parts).text := by
    rw [hasMarks_standard.textWith_eq hsettings hspecial, Parts.text_eq]
    rfl
  cases hvalue : t.value with
  | some v =>
    rw [text, hvalue]
    dsimp only
    rw [hparts, hsettings, parts, hvalue]
    rfl
  | none =>
    have hbid : t.bid = true := hstated.resolve_left (fun h => h hvalue)
    rw [text, hvalue]
    dsimp only
    rw [Reference.text, if_pos hbid, hparts, parts, hvalue]
    rfl

/-- The parts of a triplet can be told apart in its text. -/
theorem legible_parts {t : Triplet} (h : t.Built) (hvalue : ∀ v ∈ t.value, v.Writable) :
    t.parts.Legible where
  pfx := h.isWord_pfx
  name := by
    intro n hn
    obtain ⟨name, hname, rfl⟩ := Option.map_eq_some_iff.1 hn
    exact h.isWord_name hname
  value := by
    cases hv : t.value with
    | none =>
      rw [parts, hv]
      exact Parts.isValue_of_not_mem_valueMarks (by simp)
    | some v =>
      rw [parts, hv]
      exact FactValue.isValue_quoted h hv (hvalue v hv)
  comment := by
    intro c hc
    obtain ⟨comment, hcomment, rfl⟩ := Option.map_eq_some_iff.1 hc
    exact h.occursIn_comment hcomment

end Triplet

end TripletFacts
