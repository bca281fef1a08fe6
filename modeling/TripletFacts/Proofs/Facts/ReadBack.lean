import TripletFacts.Facts.Reader
import TripletFacts.Proofs.Facts.Rendering
import TripletFacts.Proofs.Number.ReadBack

/-!
# Reading rendered triplets

The text of a value says of which kind it is, and so a value that was written is read back. From the
parts of a rendered triplet the triplet is built again.

## Main definitions

* `FactValue.SameAs`, `Triplet.SameAs`: values and triplets that state the same.

## Main results

* `Settings.HasMarks.readValue_raw`: the mark of a request and the value behind it.
* `FactValue.Writable.exists_readPlain`: a value is read back from its text.
* `Settings.readTriplet_of_keeps`: what is built from the parts that are kept.
* `Triplet.Built.exists_readTriplet`: a triplet is read back from its parts.
-/

namespace TripletFacts

open Settings Regex Cursor

/-! ### What is stated -/

/-- Values of one kind that are the same; a pointer is what it points at. -/
inductive FactValue.SameAs : FactValue → FactValue → Prop
  | literal (v : Value) : SameAs (.literal v) (.literal v)
  | reference {r r' : Reference} (hkey : r'.key = r.key) : SameAs (.reference r) (.reference r')

/-- Triplets with the same prefix, name, value, comment and mark of a request. -/
structure Triplet.SameAs (t u : Triplet) : Prop where
  pfx : u.pfx = t.pfx
  name : u.name = t.name
  value : Option.Rel FactValue.SameAs t.value u.value
  comment : u.comment = t.comment
  bid : u.bid = t.bid

theorem Triplet.SameAs.value_eq {t u : Triplet} (h : t.SameAs u) {l : Value}
    (hl : t.value = some (.literal l)) : u.value = some (.literal l) := by
  have hrel := h.value
  rw [hl] at hrel
  generalize u.value = value at hrel
  cases hrel with
  | some hrel =>
    cases hrel
    rfl

theorem Triplet.SameAs.key {t u : Triplet} (h : t.SameAs u) : u.key = t.key :=
  Key.ext h.pfx h.name

/-! ### Marks of values -/

namespace Settings.HasMarks

variable {s : Settings} {m : Marks}

/-- A text in quotes is read back. -/
theorem unquote?_quotedText (h : s.HasMarks m) (v : List Char) :
    s.unquote? (m.quotedText v) = some v := by
  have hlength : 2 * [m.valueQuote].length ≤ (m.quotedText v).length := by
    simp only [Marks.quotedText, List.length_cons, List.length_append, List.length_nil]
    omega
  have hprefix : [m.valueQuote].isPrefixOf (m.quotedText v) = true :=
    List.isPrefixOf_iff_prefix.2 ⟨v ++ [m.valueQuote], rfl⟩
  have hsuffix : [m.valueQuote].isSuffixOf (m.quotedText v) = true :=
    List.isSuffixOf_iff_suffix.2 ⟨m.valueQuote :: v, rfl⟩
  have htake : (v ++ [m.valueQuote]).take
      ((m.quotedText v).length - 2 * [m.valueQuote].length) = v := by
    refine List.take_left' ?_
    simp only [Marks.quotedText, List.length_cons, List.length_append, List.length_nil]
    omega
  rw [unquote?, h.valueQuote, decide_eq_true hlength, hprefix, hsuffix]
  exact congrArg some htake

theorem unquote?_eq_none (h : s.HasMarks m) {raw : List Char}
    (hraw : raw.head? ≠ some m.valueQuote) : s.unquote? raw = none := by
  have hprefix : [m.valueQuote].isPrefixOf raw = false := by
    refine Bool.eq_false_iff.2 fun hprefix => hraw ?_
    obtain ⟨rest, rfl⟩ := List.isPrefixOf_iff_prefix.1 hprefix
    rfl
  rw [unquote?, h.valueQuote, hprefix, Bool.and_false, Bool.false_and, if_neg Bool.false_ne_true]

/-- The mark of a request is taken away from a value. -/
theorem stripBid?_cons (h : s.HasMarks m) (v : List Char) : s.stripBid? (m.bid :: v) = some v := by
  have hprefix : [m.bid].isPrefixOf (m.bid :: v) = true := List.isPrefixOf_iff_prefix.2 ⟨v, rfl⟩
  rw [stripBid?, h.bid, hprefix]
  rfl

theorem stripBid?_eq_none (h : s.HasMarks m) {v : List Char} (hv : v.head? ≠ some m.bid) :
    s.stripBid? v = none := by
  have hprefix : [m.bid].isPrefixOf v = false := by
    refine Bool.eq_false_iff.2 fun hprefix => hv ?_
    obtain ⟨rest, rfl⟩ := List.isPrefixOf_iff_prefix.1 hprefix
    rfl
  rw [stripBid?, h.bid, hprefix, Bool.and_false, if_neg Bool.false_ne_true]

/-- The mark of a request and the value behind it are read one after the other. -/
theorem readValue_raw (h : s.HasMarks m) {p : Parts} (hv : p.value.head? ≠ some m.bid) :
    s.readValue (m.raw p) = if p.value.isEmpty then .ok (none, p.bid)
      else (s.readPlain p.value).map fun v => (some v, p.bid) := by
  obtain ⟨pfx, name, bid, v, comment⟩ := p
  cases bid with
  | true => rw [readValue, show m.raw ⟨pfx, name, true, v, comment⟩ = m.bid :: v from rfl,
      h.stripBid?_cons]
  | false => rw [readValue, show m.raw ⟨pfx, name, false, v, comment⟩ = v from rfl,
      h.stripBid?_eq_none hv]

end Settings.HasMarks

/-! ### Values -/

/-- A text that is neither a truth value nor begins as a text in quotes is a number or a
reference. -/
theorem Settings.readPlain_of_ne {raw : List Char} (htrue : raw ≠ "True".toList)
    (hfalse : raw ≠ "False".toList) (hquote : raw.head? ≠ some '\'') :
    standard.readPlain raw =
      match readNumber? raw with
      | some n => .ok (.literal n.toValue)
      | none =>
        match standard.readReference? raw with
        | .error e => .error e
        | .ok (some r) => .ok (.reference r)
        | .ok none => .error (.badFormat .value (String.ofList raw)) := by
  rw [readPlain, if_neg htrue, if_neg hfalse]
  split
  · next h => rw [hasMarks_standard.unquote?_eq_none hquote] at h; cases h
  · rfl

/-- A text that begins neither as a truth value nor as a text in quotes is a number or a
reference. -/
theorem Settings.readPlain_of_head? {raw : List Char} (htrue : raw.head? ≠ some 'T')
    (hfalse : raw.head? ≠ some 'F') (hquote : raw.head? ≠ some '\'') :
    standard.readPlain raw =
      match readNumber? raw with
      | some n => .ok (.literal n.toValue)
      | none =>
        match standard.readReference? raw with
        | .error e => .error e
        | .ok (some r) => .ok (.reference r)
        | .ok none => .error (.badFormat .value (String.ofList raw)) :=
  readPlain_of_ne (fun h => htrue (by rw [h]; rfl)) (fun h => hfalse (by rw [h]; rfl)) hquote

theorem all_isFloatChar_of_all_isDigit {cs : List Char} (h : cs.all isDigit = true) :
    cs.all isFloatChar = true := by
  rw [List.all_eq_true] at h ⊢
  intro c hc
  rw [isFloatChar, h c hc, Bool.true_or]

/-- A sign may stand before the digits of an integer. -/
theorem all_isFloatChar_of_isIntegerNumeral {raw : List Char} (h : isIntegerNumeral raw = true) :
    raw.all isFloatChar = true := by
  unfold isIntegerNumeral splitSign at h
  split at h <;> rw [Bool.and_eq_true] at h
  · rw [List.all_cons, all_isFloatChar_of_all_isDigit h.2]
    rfl
  · rw [List.all_cons, all_isFloatChar_of_all_isDigit h.2]
    rfl
  · exact all_isFloatChar_of_all_isDigit h.2

theorem all_isFloatChar_of_readNumber? {raw : List Char} {n : Number}
    (hn : readNumber? raw = some n) : raw.all isFloatChar = true := by
  unfold readNumber? readInt64? at hn
  by_cases hnumeral : isIntegerNumeral raw = true
  · exact all_isFloatChar_of_isIntegerNumeral hnumeral
  · rw [if_neg hnumeral] at hn
    dsimp only at hn
    split at hn
    · assumption
    · cases hn

/-- A number is read before a truth value, a text or a reference could be. -/
theorem readPlain_of_readNumber? {raw : List Char} {n : Number} (hn : readNumber? raw = some n) :
    standard.readPlain raw = .ok (.literal n.toValue) := by
  have hhead {c : Char} (hc : isFloatChar c = false) : raw.head? ≠ some c := fun h => by
    rw [List.all_eq_true.1 (all_isFloatChar_of_readNumber? hn) c (List.mem_of_head? h)] at hc
    cases hc
  rw [readPlain_of_head? (hhead (by decide)) (hhead (by decide)) (hhead (by decide)), hn]

/-- The text of an integer is read as this integer. -/
theorem readNumber?_integerText (i : Int64) : readNumber? (integerText i) = some (.int i) := by
  rw [readNumber?, readInt64?_integerText]

/-- The text of a finite float is read as this float. -/
theorem readNumber?_literalText {x : Float} (hfinite : x.isFinite = true) :
    readNumber? (literalText x) = some (.float x) := by
  have hread : readFloat? (literalText x) = some x := readFloat?_write Layout.literal hfinite
  have hall : (literalText x).all isFloatChar = true := by
    rw [List.all_eq_true]
    intro c hc
    have hnumeral := List.all_eq_true.1 (all_isNumeralChar_literalText hfinite) c hc
    have hsubset : ['.', 'e', '+', '-'] ⊆ ['.', 'e', 'E', '+', '-'] := by simp
    simp only [isNumeralChar, isFloatChar, Bool.or_eq_true, decide_eq_true_eq] at hnumeral ⊢
    exact hnumeral.imp id fun h => hsubset (by simpa using h)
  rw [readNumber?, readInt64?_literalText hfinite]
  dsimp only
  rw [if_pos hall, hread]
  rfl

/-! ### References -/

/-- A reference is found from its beginning to its end. -/
theorem Settings.exists_find?_reference {pfx name : List Char} (hpfx : Parts.IsWord pfx)
    (hname : Parts.IsWord name) :
    ∃ m, (standard.regex .reference).find? ('$' :: (pfx ++ '.' :: name)) = some m ∧
      m.text = '$' :: (pfx ++ '.' :: name) ∧ m.group 1 = some pfx ∧ m.group 2 = some name := by
  have hpoint : Unicode.isWord '.' = false := by decide
  have hfirst := adds_between 1 ['$'] pfx ('.' :: (name ++ [])) []
  have hsecond := fun g => adds_between 2 ('.' :: (pfx.reverse ++ ['$'])) name [] g
  have hway : (standard.regex .reference).Prefers _ [] _ _ :=
    Prefers.seq (prefers_literal ['$'] [] (pfx ++ '.' :: (name ++ [])) [])
      (Prefers.seq (Parts.prefers_wordRegex hpfx 1 (a := '.' :: (name ++ [])) hpoint ['$'] [])
        (Prefers.seq (prefers_literal ['.'] _ (name ++ []) _)
          (Parts.prefers_wordRegex hname 2 rfl _ _)))
  have hfind := findFrom_of_matchAt hway.matchAt
  have hwhole : ['$'] ++ (pfx ++ '.' :: (name ++ [])) = '$' :: (pfx ++ '.' :: name) := by simp
  rw [hwhole] at hfind
  refine ⟨_, hfind, ?_, ?_, ?_⟩
  · exact List.take_of_length_le (Nat.le_refl _)
  · exact (congrArg (Option.map Span.text) ((hsecond _).same 1 (by decide))).trans (hfirst.text rfl)
  · exact (hsecond _).text rfl

theorem Settings.wholeReference?_text {pfx name : List Char} (hpfx : Parts.IsWord pfx)
    (hname : Parts.IsWord name) :
    standard.wholeReference? ('$' :: (pfx ++ '.' :: name)) = some (pfx, name) := by
  obtain ⟨m, hm, htext, hfirst, hsecond⟩ := exists_find?_reference hpfx hname
  rw [wholeReference?, hm]
  simp [htext, Match.groupText, hfirst, hsecond]

/-- The text of a pointer at a fact is read as a pointer at this fact. -/
theorem Settings.exists_readReference? {r : Reference} (hbuilt : r.toTriplet.Built)
    {n : String} (hn : r.name = some n) :
    ∃ r', standard.readReference? ('$' :: (r.pfx.toList ++ '.' :: n.toList)) = .ok (some r') ∧
      r'.key = r.key := by
  have hpfx : Parts.IsWord r.pfx.toList := hbuilt.isWord_pfx
  have hname : Parts.IsWord n.toList := hbuilt.isWord_name hn
  have hbuild : Draft.build { pfx := r.pfx, name := r.name } standard = _ := hbuilt.build_head
  rw [readReference?, wholeReference?_text hpfx hname]
  dsimp only
  rw [String.ofList_toList, String.ofList_toList, ← hn, hbuild]
  exact ⟨_, rfl, rfl⟩

/-! ### Written values -/

/-- The text of a value does not begin like the text of another kind. -/
theorem FactValue.Writable.exists_readPlain {t : Triplet} (h : t.Built) {v : FactValue}
    (hv : t.value = some v) (hwritable : v.Writable) :
    ∃ v', standard.readPlain (v.quoted standard) = .ok v' ∧ v.SameAs v' ∧
      v'.draft.build standard = .ok v' := by
  have hbuild := h.value v hv
  cases hwritable with
  | str s =>
    refine ⟨_, ?_, .literal _, hbuild⟩
    have htext : (FactValue.literal (.str s)).quoted standard = '\'' :: (s.toList ++ ['\'']) := rfl
    have hunquote : standard.unquote? ('\'' :: (s.toList ++ ['\''])) = some s.toList :=
      hasMarks_standard.unquote?_quotedText s.toList
    rw [htext, readPlain, if_neg (by simp), if_neg (by simp), hunquote]
    simp
  | int i =>
    exact ⟨_, readPlain_of_readNumber? (readNumber?_integerText i), .literal _, hbuild⟩
  | float x =>
    have hnumber := readNumber?_literalText (h.isFinite hv)
    exact ⟨_, readPlain_of_readNumber? hnumber, .literal _, hbuild⟩
  | @reference r hbuilt hname hbid hspecial =>
    obtain ⟨n, hn, hbuilt, htext⟩ := (Writable.reference hbuilt hname hbid hspecial).exists_name
    obtain ⟨r', hr', hkey⟩ := exists_readReference? hbuilt hn
    refine ⟨.reference r', ?_, .reference hkey, (FactValue.build_draft_reference_iff r').2
      ((FactValue.build_draft_reference_iff _).1 hbuild)⟩
    have hnumber : readNumber? ('$' :: (r.pfx.toList ++ '.' :: n.toList)) = none := by
      rw [readNumber?, readInt64?_eq_none (c := '$') (by simp) (by decide) (by decide)]
      rfl
    rw [htext, readPlain_of_head? (by simp) (by simp) (by simp), hnumber, hr']

theorem FactValue.Writable.quoted_ne_nil {t : Triplet} (h : t.Built) {v : FactValue}
    (hv : t.value = some v) (hwritable : v.Writable) : v.quoted standard ≠ [] := by
  cases hwritable with
  | str s => simp [quoted, standard]
  | int i =>
    have htext : (FactValue.literal (.int i)).quoted standard = integerText i := rfl
    simp [htext, integerText, Nat.toDigits_ne_nil]
  | float x =>
    obtain ⟨c, hc, -⟩ := Layout.exists_mem_writeMagnitude x
    have htext : (FactValue.literal (.float x)).quoted standard = literalText x := rfl
    rw [htext, literalText, Layout.write_of_isFinite _ (h.isFinite hv)]
    simp [List.ne_nil_of_mem hc]
  | reference hbuilt hname hbid hspecial =>
    obtain ⟨n, -, -, htext⟩ := (Writable.reference hbuilt hname hbid hspecial).exists_name
    rw [htext]
    exact List.cons_ne_nil _ _

/-! ### Triplets -/

/-- A text that may be absent is kept by its characters. -/
theorem map_ofList_map_toList (s : Option String) :
    (s.map String.toList).map String.ofList = s := by
  cases s <;> simp

/-- From the parts that are kept a triplet is built. -/
theorem Settings.readTriplet_of_keeps {s : Settings} {m : Marks} {p : Parts} {k : Match}
    (hk : m.Keeps p k.captures) {value : Option FactValue} {bid : Bool}
    (hraw : s.readValue (m.raw p) = .ok (value, bid)) :
    s.readTriplet k = Draft.build
      { pfx := String.ofList p.pfx, name := p.name.map String.ofList,
        value := value.map FactValue.draft, comment := p.comment.map String.ofList,
        bid := bid } s := by
  have hgroup₁ : k.group 1 = some p.pfx := hk.pfx
  have hgroup₂ : k.group 2 = p.name := hk.name
  have hgroup₃ : k.group 3 = some (m.raw p) := hk.value
  have hgroup₄ : k.group 4 = p.comment := hk.comment
  rw [readTriplet, Match.groupText, Match.groupText, hgroup₁, hgroup₂, hgroup₃, hgroup₄,
    Option.getD_some, Option.getD_some, hraw]

/-- The mark of a request and the value behind it are read one after the other. -/
theorem Settings.readValue_raw {p : Parts} (hv : Parts.IsValue p.value) :
    standard.readValue p.raw = if p.value.isEmpty then .ok (none, p.bid)
      else (standard.readPlain p.value).map fun v => (some v, p.bid) :=
  hasMarks_standard.readValue_raw hv.head?_ne

namespace Triplet.Built

variable {t : Triplet}

/-- The value of a triplet is read back from its text. -/
theorem exists_readValue (h : t.Built) (hvalue : ∀ v ∈ t.value, v.Writable) :
    ∃ value, standard.readValue t.parts.raw = .ok (value, t.bid) ∧
      Option.Rel FactValue.SameAs t.value value ∧
      ∀ v ∈ value, v.draft.build standard = .ok v := by
  rw [readValue_raw (legible_parts h hvalue).value]
  cases hv : t.value with
  | none =>
    refine ⟨none, ?_, .none, by simp⟩
    rw [parts, hv]
    rfl
  | some v =>
    have hwritable := hvalue v hv
    obtain ⟨v', hplain, hsame, hbuild⟩ := hwritable.exists_readPlain h hv
    refine ⟨some v', ?_, .some hsame, ?_⟩
    · have hne := hwritable.quoted_ne_nil h hv
      rw [parts, hv]
      dsimp only [Option.map_some, Option.getD_some]
      rw [if_neg (by simpa using hne), hplain]
      rfl
    · intro w hw
      obtain rfl := Option.some.inj hw
      exact hbuild

/-- A triplet is read back from its parts. -/
theorem exists_readTriplet (h : t.Built) (hvalue : ∀ v ∈ t.value, v.Writable)
    {m : Match} (hm : t.parts.KeptIn m.captures) :
    ∃ u, standard.readTriplet m = .ok u ∧ t.SameAs u := by
  obtain ⟨value, hraw, hsame, hbuild⟩ := h.exists_readValue hvalue
  have hkeeps : Marks.standard.Keeps t.parts m.captures := ⟨hm.pfx, hm.name, hm.value, hm.comment⟩
  refine ⟨{ t with value := value, bid := t.bid, special := false }, ?_, rfl, rfl, hsame, rfl, rfl⟩
  rw [readTriplet_of_keeps hkeeps hraw]
  simp only [Triplet.parts, map_ofList_map_toList, String.ofList_toList]
  exact h.build value hbuild t.bid

end Triplet.Built

end TripletFacts
