import TripletFacts.Proofs.Yaml.Blocks
import TripletFacts.Proofs.Yaml.PlainScalars
import TripletFacts.Proofs.Yaml.QuotedScalars
import TripletFacts.Proofs.Yaml.States

/-!
# Scalars behind keys are read back

The style that a text is written in tells what the text is made of, and with that how its scalar is
read. The scalar ends its line, and its last line if it is a block. Behind it the lexer stands in
front of the next line, with one more token.

## Main results

* `Yaml.styleOf_cases`: what the texts of each style are made of.
* `Yaml.Lexer.exists_steps_plain`, `Yaml.Lexer.exists_steps_quoted`,
  `Yaml.Lexer.exists_steps_literal`: scalars of each style at the end of a line.
* `Yaml.Lexer.exists_steps_value`: the written value of a key is read up to the next line.
-/

namespace TripletFacts.Yaml

/-! ### Styles -/

/-- What each style can hold. -/
theorem styleOf_cases (cs : List Char) :
    styleOf cs = .double ∨ (cs.all isPrintable = true ∧
      ((styleOf cs = .literal ∧ IsBlock cs ∧ cs ≠ []) ∨
        (styleOf cs = .plain ∧ IsPlain cs ∧ startsMarked cs = false ∧ cs ≠ []) ∨
        (styleOf cs = .single ∧ IsSingle cs))) := by
  unfold styleOf
  split
  case isTrue hline =>
    split
    case isTrue h =>
      simp only [blockSafe, Bool.and_eq_true] at h
      refine .inr ⟨h.1.1, .inl ⟨rfl, isBlock_of_isPrintable h.1.1, ?_⟩⟩
      rintro rfl
      cases hline
    case isFalse => exact .inl rfl
  case isFalse hline =>
    split
    case isTrue h =>
      simp only [Bool.and_eq_true, Bool.not_eq_true'] at h
      obtain ⟨hreserved, hsafe⟩ := h
      have hplain := isPlain_of_plainSafe hsafe
      simp only [plainSafe, singleSafe, Bool.and_eq_true, Bool.not_eq_true'] at hsafe
      refine .inr ⟨hsafe.1.1.1.1.1.1.1.1, .inr (.inl ⟨rfl, hplain, hsafe.1.2, ?_⟩)⟩
      rintro rfl
      cases hreserved
    case isFalse =>
      split
      case isTrue h =>
        have hsingle := isSingle_of_singleSafe h (by simpa using hline)
        simp only [singleSafe, Bool.and_eq_true] at h
        exact .inr ⟨h.1.1, .inr (.inr ⟨rfl, hsingle⟩)⟩
      case isFalse => exact .inl rfl

namespace Lexer

/-! ### Plain scalars -/

/-- Where no character begins anything else, a plain scalar begins. -/
theorem tokenAt_plain {s : Lexer} {c : Char} {next : List Char} (hflow : s.inFlow = false)
    (hmark : s.place.atDocumentMark = false) (hstart : startsMarked (c :: next) = false) :
    s.tokenAt c next = s.plainScalar := by
  simp only [startsMarked, Bool.or_eq_false_iff, List.contains_cons, List.contains_nil,
    Bool.and_eq_false_iff, Bool.or_false] at hstart
  obtain ⟨hne, hmarks⟩ := hstart
  have hblank : gapNext next = false → next.head?.any isBlank = false := by
    cases next with
    | nil => exact fun _ => rfl
    | cons d next => exact fun hgap => (Bool.or_eq_false_iff.1 hgap).1
  have hindicators : indicators.contains c = (c == '-' || (c == '?' || c == ':')) := by
    simp only [indicators, List.contains_cons, List.contains_nil, hne, Bool.or_false]
  have hplain : s.plainOrNone c next = s.plainScalar := by
    rw [plainOrNone, hindicators, if_pos]
    obtain ⟨hquestion, hcolon, hhyphen⟩ | hgap := hmarks
    · rw [hquestion, hcolon, hhyphen]
      rfl
    · rw [hgap, hblank hgap, hflow]
      cases c == '-' <;> cases c == '?' <;> cases c == ':' <;> rfl
  have hbranch : (c == '?' && gapNext next) = false ∧ (c == ':' && gapNext next) = false ∧
      (c == '-' && gapNext next) = false := by
    obtain ⟨hquestion, hcolon, hhyphen⟩ | hgap := hmarks
    · simp only [hquestion, hcolon, hhyphen, Bool.false_and, and_self]
    · simp only [hgap, Bool.and_false, and_self]
  simp only [tokenAt, hplain, hflow, hmark, hne, hbranch, Bool.false_and, Bool.false_or,
    Bool.false_eq_true, if_false]

theorem startsMarked_append {c : Char} {cs : List Char} (h : startsMarked (c :: cs) = false)
    (w : List Char) : startsMarked (c :: (cs ++ w)) = false := by
  rw [startsMarked, Bool.or_eq_false_iff] at h ⊢
  refine ⟨h.1, ?_⟩
  cases cs with
  | nil =>
    have hmark := h.2
    rw [gapNext, List.head?_nil, Option.all_none, Bool.and_true] at hmark
    rw [hmark, Bool.false_and]
  | cons d cs => exact h.2

section

variable {cols : List Nat} {ts : List Token} {allowed : Bool} {p : Place} {c m n : Nat}
  {cs tail : List Char}

theorem push_within (key : Option KeyMark) (t : Token) :
    ((within cols ts allowed p).withKey key).push t =
      (within cols (ts ++ [t]) allowed p).withKey key := by
  rw [push, withKey, within, withKey, within, List.push_toArray]

theorem back?_ne_streamEnd {s : Lexer} {t : Token} (h : s.tokens = (ts ++ [t]).toArray)
    (ht : t ≠ .streamEnd) : s.tokens.back? ≠ some .streamEnd := by
  have hback : s.tokens.back? = some t := by simp [h]
  rw [hback]
  exact fun h => ht (Option.some.inj h)

theorem plainScalar_eq {s s' : Lexer} {text : List Char} {broken : Bool} {q : Place}
    (hkey : s.markKey = some s') (hread : readPlain s'.inFlow (s'.indent + 1).toNat
      (s'.place.rest.length + 1) [] s'.place = some (text, broken, q)) :
    s.plainScalar =
      some { s'.push (.scalar .plain text) with place := q, keyAllowed := broken } := by
  rw [plainScalar, hkey]
  simp only [Option.bind_eq_bind, Option.bind_some, hread]
  rfl

variable (cols ts allowed) in
/-- Further in than the collection around it, no key is required. -/
theorem exists_markKey (h : indentOf cols < p.column) :
    ∃ key, (within cols ts allowed p).markKey = some ((within cols ts allowed p).withKey key) ∧
      ∀ q : Place, p.line < q.line → KeyMark.refresh q key = some none := by
  cases allowed with
  | false => exact ⟨none, rfl, fun _ _ => rfl⟩
  | true =>
    refine ⟨_, rfl, fun q hline => ?_⟩
    have hrequired : (indentOf cols == (p.column : Int)) = false := by
      rw [beq_eq_false_iff_ne]
      omega
    have hstale : KeyMark.isStale ⟨!(within cols ts true p).inFlow && indentOf cols == p.column,
        ts.toArray.size, p.index, p.line, p.column⟩ q = true := decide_eq_true (.inl hline)
    rw [hrequired, Bool.and_false] at hstale
    simp only [within, column, hrequired, Bool.and_false, KeyMark.refresh, hstale, if_true,
      Bool.false_eq_true, if_false]

variable (cols ts allowed) in
/-- The state in front of a token behind spaces. -/
theorem exists_advance_within (hrest : p.rest = spaces n ++ cs) (hcs : Begins cs)
    (hcolumn : c ≤ p.column) : ∃ q : Place, q.rest = cs ∧ q.column = p.column + n ∧
      (within (c :: cols) ts allowed p).advance = some (within (c :: cols) ts allowed q) := by
  have hcolumn' : (p.past (spaces n) cs).column = p.column + n := by
    rw [Place.past_of_isLine (isLine_spaces n)]
    simp [spaces]
  have hgap : skipGap false (p.rest.length + 1) allowed p = (allowed, p.past (spaces n) cs) :=
    skipGap_spaces hrest hcs false _ allowed
  have hin : indentOf (c :: cols) ≤ (p.past (spaces n) cs).column := by
    rw [hcolumn']
    exact Int.ofNat_le.2 (Nat.le_add_right_of_le hcolumn)
  have hadvance := advance_eq (s := within (c :: cols) ts allowed p) rfl hgap rfl
  exact ⟨p.past (spaces n) cs, rfl, hcolumn',
    hadvance.trans (congrArg some (closeBlocks_within_of_le hin ..))⟩

/-- A plain scalar up to the next line. -/
theorem exists_steps_plain (h : IsPlain cs) (hne : cs ≠ []) (hstart : startsMarked cs = false)
    (htail : Begins tail) (hm : m ≤ c) (hcolumn : c < p.column)
    (hrest : p.rest = spaces n ++ (cs ++ '\n' :: (spaces m ++ tail))) :
    ∃ s', Steps 1 (within (c :: cols) ts allowed p) s' ∧
      s'.Before (c :: cols) (ts ++ [.scalar .plain cs]) m tail := by
  obtain ⟨q, hq, hcolumn', hadvance⟩ :=
    exists_advance_within cols ts allowed hrest (h.begins hne _) (Nat.le_of_lt hcolumn)
  have hdeep : c < q.column := by omega
  obtain ⟨key, hkey, hrefresh⟩ := exists_markKey (c :: cols) ts allowed (Int.ofNat_lt.2 hdeep)
  have hmark : q.atDocumentMark = false := Place.atDocumentMark_of_column (by omega)
  have hfuel : cs.length < q.rest.length + 1 := by
    rw [hq, List.length_append]
    omega
  have hread := readPlain_line htail (Nat.lt_succ_of_le hm) h hne hfuel [] hq hmark hdeep
  obtain ⟨x, cs, rfl⟩ := List.exists_cons_of_ne_nil hne
  rw [List.cons_append] at hq
  refine ⟨(within (c :: cols) (ts ++ [.scalar .plain (x :: cs)]) true
    (q.past (x :: cs ++ '\n' :: spaces m) tail)).withKey key, .single ?_ ?_, ?_⟩
  · rw [step_of_cons hadvance hq, tokenAt_plain rfl hmark (startsMarked_append hstart _),
      plainScalar_eq hkey hread, push_within]
    rfl
  · exact back?_ne_streamEnd rfl (by simp)
  · refine before_of_rest htail rfl (Place.column_past_newLine h.isLine m tail) (hrefresh _ ?_)
    rw [Place.line_past_newLine h.isLine]
    exact Nat.lt_succ_self _

/-! ### Other scalars -/

theorem tokenAt_quote {s : Lexer} (hmark : s.place.atDocumentMark = false) (double : Bool)
    (next : List Char) :
    s.tokenAt (if double then '"' else '\'') next = s.quotedScalar double := by
  cases double <;> rw [tokenAt, hmark] <;> rfl

theorem tokenAt_literal {s : Lexer} (hmark : s.place.atDocumentMark = false)
    (hflow : s.inFlow = false) (next : List Char) : s.tokenAt '|' next = s.blockScalar false := by
  rw [tokenAt, hmark, hflow]
  rfl

theorem quotedScalar_within {double : Bool} {text : List Char} {q : Place}
    (hread : readQuoted double (p.rest.length + 1) (p.skip 1) = some (text, q)) :
    (within cols ts false p).quotedScalar double = some (within cols
      (ts ++ [.scalar (if double then .double else .single) text]) false q) := by
  have hkey : (within cols ts false p).markKey = some (within cols ts false p) := rfl
  have hread' : readQuoted double ((within cols ts false p).place.rest.length + 1)
      ((within cols ts false p).place.skip 1) = some (text, q) := hread
  rw [quotedScalar, hkey]
  simp only [Option.bind_eq_bind, Option.bind_some, hread']
  simp [push, within]

theorem blockScalar_within {text : List Char} {q : Place}
    (hread : readBlock false (some c) (p.skip 1) = some (text, q)) :
    (within (c :: cols) ts false p).blockScalar false =
      some (within (c :: cols) (ts ++ [.scalar .literal text]) true q) := by
  have hkey : (within (c :: cols) ts false p).dropKey = some (within (c :: cols) ts false p) := rfl
  have hread' : readBlock false (if 0 ≤ (within (c :: cols) ts false p).indent then
      some (within (c :: cols) ts false p).indent.toNat else none)
      ((within (c :: cols) ts false p).place.skip 1) = some (text, q) := by
    show readBlock false (if 0 ≤ (c : Int) then some (c : Int).toNat else none) (p.skip 1) = _
    rw [if_pos (Int.natCast_nonneg c), Int.toNat_natCast, hread]
  rw [blockScalar, hkey]
  simp only [Option.bind_eq_bind, Option.bind_some, hread']
  simp [push, within]

/-- A quoted scalar up to the end of its line. -/
theorem exists_steps_quoted (double : Bool) {body : List Char} (htail : Begins tail)
    (hcolumn : c < p.column) (hrest : p.rest = spaces n ++
      (if double then '"' else '\'') :: (body ++ '\n' :: (spaces m ++ tail)))
    (hread : ∀ q : Place, q.rest = body ++ '\n' :: (spaces m ++ tail) → 0 < q.column →
      readQuoted double (q.rest.length + 2) q =
        some (cs, q.past body ('\n' :: (spaces m ++ tail)))) :
    ∃ s', Steps 1 (within (c :: cols) ts false p) s' ∧
      s'.Before (c :: cols) (ts ++ [.scalar (if double then .double else .single) cs]) m tail := by
  have hbegins : ∀ w, Begins ((if double then '"' else '\'') :: w) := fun w => by
    cases double <;> rfl
  have hline : IsLine [if double then '"' else '\''] := by
    cases double <;> simp [IsLine, isBreak]
  obtain ⟨q, hq, hcolumn', hadvance⟩ :=
    exists_advance_within cols ts false hrest (hbegins _) (Nat.le_of_lt hcolumn)
  have hmark : q.atDocumentMark = false := Place.atDocumentMark_of_column (by omega)
  have hskip := Place.skip_one hq
  have hquoted := hread (q.skip 1) (by rw [hskip, Place.rest_past])
    (by rw [hskip, Place.past_of_isLine hline]; simp)
  have hfuel : (q.skip 1).rest.length + 2 = q.rest.length + 1 := by
    rw [hskip, hq, Place.rest_past, List.length_cons]
  rw [hfuel] at hquoted
  refine ⟨_, .single ?_ ?_, before_of_newLine htail
    (Place.rest_past (q.skip 1) body _) false⟩
  · rw [step_of_cons hadvance hq, tokenAt_quote hmark, quotedScalar_within hquoted]
  · exact back?_ne_streamEnd rfl (by cases double <;> simp)

/-- A block up to the next line. -/
theorem exists_steps_literal (h : IsBlock cs) (hne : cs ≠ []) (htail : Begins tail)
    (hm : m ≤ c) (hcolumn : c < p.column)
    (hrest : p.rest = spaces n ++
      (writeLiteral (c + 2) cs ++ (blockEnding cs ++ (spaces m ++ tail)))) :
    ∃ s', Steps 1 (within (c :: cols) ts false p) s' ∧
      s'.Before (c :: cols) (ts ++ [.scalar .literal cs]) m tail := by
  obtain ⟨r, hr⟩ : ∃ r, writeLiteral (c + 2) cs ++ (blockEnding cs ++ (spaces m ++ tail)) =
      '|' :: r := ⟨_, rfl⟩
  rw [hr] at hrest
  obtain ⟨q, hq, hcolumn', hadvance⟩ :=
    exists_advance_within cols ts false hrest rfl (Nat.le_of_lt hcolumn)
  have hmark : q.atDocumentMark = false := Place.atDocumentMark_of_column (by omega)
  have hskip := Place.skip_one hq
  obtain ⟨q', hq', hcolumn'', hread⟩ := readBlock_writeLiteral h hne htail
    (Nat.lt_of_le_of_lt hm (by omega)) (p := q.past ['|'] r) hr.symm
  refine ⟨_, .single ?_ ?_, before_of_rest htail hq' hcolumn''
    (show KeyMark.refresh q' none = some none from rfl)⟩
  · rw [step_of_cons hadvance hq, tokenAt_literal hmark rfl]
    exact blockScalar_within (hskip ▸ hread)
  · exact back?_ne_streamEnd rfl (by simp)

/-- The scalar of a text in its own style, up to the next line. -/
theorem exists_steps_value (v : String) (htail : Begins tail) (hm : m ≤ c)
    (hcolumn : c < p.column)
    (hrest : p.rest = spaces n ++ (writeValue (c + 2) v ++ (spaces m ++ tail))) :
    ∃ s', Steps 1 (within (c :: cols) ts false p) s' ∧
      s'.Before (c :: cols) (ts ++ [.scalar (styleOf v.toList) v.toList]) m tail := by
  rw [writeValue] at hrest
  obtain hstyle | ⟨-, ⟨hstyle, h, hne⟩ | ⟨hstyle, h, hstart, hne⟩ | ⟨hstyle, h⟩⟩ :=
    styleOf_cases v.toList
  all_goals rw [hstyle] at hrest ⊢
  · have hrest' : p.rest = spaces n ++
        '"' :: ((v.toList.flatMap doubleChar ++ ['"']) ++ '\n' :: (spaces m ++ tail)) := by
      rw [hrest, writeDouble, List.append_assoc]
      rfl
    refine exists_steps_quoted true htail hcolumn hrest' fun q hq hqcolumn => ?_
    rw [List.append_assoc] at hq
    have hlong := length_le_flatMap_doubleChar v.toList
    refine readQuoted_double ?_ hq hqcolumn
    rw [hq, List.length_append]
    omega
  · exact exists_steps_literal h hne htail hm hcolumn
      (by rw [hrest, blockEnding, List.append_assoc])
  · have hrest' : p.rest = spaces n ++ (v.toList ++ '\n' :: (spaces m ++ tail)) := by
      rw [hrest, List.append_assoc]
      rfl
    exact exists_steps_plain h hne hstart htail hm hcolumn hrest'
  · have hrest' : p.rest = spaces n ++
        '\'' :: (singleBody (c + 2) v.toList ++ '\n' :: (spaces m ++ tail)) := by
      rw [hrest, writeSingle_eq, List.append_assoc]
      rfl
    refine exists_steps_quoted false htail hcolumn hrest' fun q hq hqcolumn => ?_
    have hlong := length_le_singleBody (c + 2) v.toList
    refine readQuoted_single (by omega) h (by simp) ?_ hq hqcolumn
    rw [hq, List.length_append]
    omega

end

end Lexer

end TripletFacts.Yaml
