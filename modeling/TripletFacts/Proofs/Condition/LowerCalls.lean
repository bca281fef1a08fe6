import TripletFacts.Proofs.Condition.Connectives
import TripletFacts.Proofs.Expr.Values
import TripletFacts.Proofs.Unicode.Classes

/-!
# Names of functions in code that has tokens

Putting the names of called functions into small letters exchanges names in code that has tokens,
and nothing else. The words that are looked for are not the tokens of the code: the exponent of a
numeral may be taken for the beginning of a word, as in `1e5`. No function is named so, and the word
stays as it is.

## Main definitions

* `HasLowered`: code keeps its tokens, also where it begins with the rest of a word.

## Main results

* `map_asciiLower_lowerCalls`: only the case of letters changes.
* `Token.read?_of_map_asciiLower`: what follows a sign or a numeral matters only up to case.
* `Spells.hasLowered`: the tokens of code in which the names of functions are in small letters.
-/

namespace TripletFacts

open TripletFacts.Expr

/-! ### Words and calls -/

section

variable {c : Char} {u rest : List Char}

theorem lowerCalls_append_of_not_starts (h : ∀ x ∈ u, Token.startsName x = false)
    (rest : List Char) : lowerCalls (u ++ rest) = u ++ lowerCalls rest := by
  induction u with
  | nil => rfl
  | cons x u ih =>
    simp only [List.mem_cons, forall_eq_or_imp] at h
    have hx : ¬(Unicode.isAlphabetic x || x == '_') = true := by simpa [Token.startsName] using h.1
    rw [List.cons_append, lowerCalls, if_neg hx, ih h.2, List.cons_append]

/-- A word is looked at as a whole. -/
theorem lowerCalls_word (hc : Token.startsName c = true)
    (hu : ∀ x ∈ u, Token.continuesName x = true)
    (hrest : rest.head?.any Token.continuesName = false) :
    lowerCalls (c :: (u ++ rest)) = lowerCall (c :: u) rest ++ lowerCalls rest := by
  have htake : (u ++ rest).takeWhile continuesWord = u := takeWhile_append_of_head? hu hrest
  have hdrop : (u ++ rest).dropWhile continuesWord = rest := dropWhile_append_of_head? hu hrest
  have hstart : (Unicode.isAlphabetic c || c == '_') = true := hc
  rw [lowerCalls, if_pos hstart, htake, hdrop]

end

/-- A word stays as it is, or it is a function in other letters. -/
theorem lowerCall_eq (word rest : List Char) :
    lowerCall word rest = word ∨ lowerCall word rest = word.map asciiLower ∧
      isAllowedFunction (String.ofList (word.map asciiLower)) = true := by
  unfold lowerCall
  dsimp only
  split
  · rename_i h
    exact .inr ⟨rfl, h.2⟩
  · exact .inl rfl

theorem lowerCall_of_not_call {rest : List Char} (h : rest.head? ≠ some '(') (word : List Char) :
    lowerCall word rest = word :=
  if_neg fun hcall => h hcall.1

/-- A word is kept if it calls no function, and so is what follows it. -/
theorem lowerCalls_word_eq_self {w rest : List Char}
    (hstart : w.head?.any Token.startsName = true) (hw : ∀ x ∈ w, Token.continuesName x = true)
    (hrest : rest.head?.any Token.continuesName = false)
    (hcall : rest.head? ≠ some '(' ∨ isAllowedFunction (String.ofList (w.map asciiLower)) = false)
    (h : lowerCalls rest = rest) : lowerCalls (w ++ rest) = w ++ rest := by
  cases w with
  | nil => cases hstart
  | cons c u =>
    have hword : lowerCall (c :: u) rest = c :: u := by
      rcases lowerCall_eq (c :: u) rest with hword | ⟨-, hfunction⟩
      · exact hword
      · exact hcall.elim (fun hnot => lowerCall_of_not_call hnot _) fun hnot => by
          rw [hnot] at hfunction
          cases hfunction
    rw [List.cons_append,
      lowerCalls_word hstart (fun x hx => hw x (List.mem_cons_of_mem c hx)) hrest,
      hword, h, List.cons_append]

theorem map_asciiLower_lowerCall (word rest : List Char) :
    (lowerCall word rest).map asciiLower = word.map asciiLower := by
  rcases lowerCall_eq word rest with h | ⟨h, -⟩
  · rw [h]
  · simp [h]

/-- Only the case of letters changes. -/
theorem map_asciiLower_lowerCalls (cs : List Char) :
    (lowerCalls cs).map asciiLower = cs.map asciiLower := by
  fun_induction lowerCalls cs with
  | case1 => rfl
  | case2 c cs hc ih =>
    rw [List.map_append, map_asciiLower_lowerCall, ih, List.map_cons, List.cons_append,
      ← List.map_append, List.takeWhile_append_dropWhile, List.map_cons]
  | case3 c cs hc ih => rw [List.map_cons, List.map_cons, ih]

/-! ### Names of functions -/

/-- The name of a function has small letters only, is a name of a call, and begins with no letter
that a digit follows. -/
theorem Function.name_spec (f : Function) :
    f.name.toList.map asciiLower = f.name.toList ∧ IsCallable f.name ∧
      f.name.toList.any isDigit = false := by
  cases f <;> decide

/-- A word that is put into small letters has no name that is known. -/
theorem isUnknown_of_isAllowedFunction {word : List Char}
    (h : isAllowedFunction (String.ofList (word.map asciiLower)) = true)
    (hne : word.map asciiLower ≠ word) :
    IsUnknown (String.ofList word) ∧ IsCallable (String.ofList (word.map asciiLower)) := by
  obtain ⟨f, hf⟩ := Option.isSome_iff_exists.1 h
  have hname := name_of_ofName? hf
  have hlower : word.map asciiLower = f.name.toList := by rw [hname, String.toList_ofList]
  -- a word of the grammar in small letters names no function
  have hgrammar : ∀ name ∈ ["not", "and", "or", "True", "true", "False", "false"],
      isAllowedFunction (String.ofList (name.toList.map asciiLower)) = false := by decide
  have hword : ∀ name ∈ ["not", "and", "or", "True", "true", "False", "false"],
      String.ofList word ≠ name := by
    rintro name hmem rfl
    have hnot := hgrammar _ hmem
    rw [String.toList_ofList, h] at hnot
    cases hnot
  have hconstant : constant? (String.ofList word) = none := by
    rw [constant?, if_neg, if_neg]
    · exact not_or.2 ⟨hword _ (by simp), hword _ (by simp)⟩
    · exact not_or.2 ⟨hword _ (by simp), hword _ (by simp)⟩
  have hfunction : Function.ofName? (String.ofList word) = none := by
    rw [Option.eq_none_iff_forall_ne_some]
    intro g hg
    have hsmall := g.name_spec.1
    rw [name_of_ofName? hg, String.toList_ofList] at hsmall
    exact hne hsmall
  refine ⟨⟨⟨hword _ (by simp), hconstant⟩, hword _ (by simp), hword _ (by simp), hfunction⟩, ?_⟩
  rw [hlower, String.ofList_toList]
  exact f.name_spec.2.1

/-- No function has a digit in its name. -/
theorem lowerCall_of_isDigit {word : List Char} {d : Char} (hmem : d ∈ word)
    (hd : isDigit d = true) (rest : List Char) : lowerCall word rest = word := by
  rcases lowerCall_eq word rest with h | ⟨-, h⟩
  · exact h
  · obtain ⟨f, hf⟩ := Option.isSome_iff_exists.1 h
    have hname := name_of_ofName? hf
    have hdigit := List.any_eq_false.1 f.name_spec.2.2 (asciiLower d) (by
      rw [hname, String.toList_ofList]
      exact List.mem_map_of_mem hmem)
    rw [isDigit_asciiLower] at hdigit
    exact absurd hd hdigit

/-! ### What follows a sign or a numeral -/

theorem takeWhile_isDigit_map (cs : List Char) :
    ((cs.map asciiLower).takeWhile isDigit).length = (cs.takeWhile isDigit).length := by
  rw [List.takeWhile_map, List.length_map]
  congr 2
  funext c
  exact isDigit_asciiLower c

namespace Token

theorem fractionWidth_map (cs : List Char) :
    fractionWidth (cs.map asciiLower) = fractionWidth cs := by
  cases cs with
  | nil => rfl
  | cons c cs =>
    by_cases hc : c = '.'
    · subst hc
      exact congrArg (1 + ·) (takeWhile_isDigit_map cs)
    · have hlower : asciiLower c ≠ '.' := fun h => hc ((asciiLower_eq_iff (by decide)).1 h)
      simp [fractionWidth, hc, hlower]

theorem signWidth_map (cs : List Char) : signWidth (cs.map asciiLower) = signWidth cs := by
  cases cs with
  | nil => rfl
  | cons c cs =>
    have hplus : asciiLower c = '+' ↔ c = '+' := asciiLower_eq_iff (by decide)
    have hminus : asciiLower c = '-' ↔ c = '-' := asciiLower_eq_iff (by decide)
    simp only [List.map_cons, signWidth, hplus, hminus]

theorem exponentWidth_map (cs : List Char) :
    exponentWidth (cs.map asciiLower) = exponentWidth cs := by
  cases cs with
  | nil => rfl
  | cons c cs =>
    have hletter : (asciiLower c = 'e' ∨ asciiLower c = 'E') ↔ (c = 'e' ∨ c = 'E') :=
      of_asciiLower (P := fun c d => (d = 'e' ∨ d = 'E') ↔ (c = 'e' ∨ c = 'E'))
        (fun _ => Iff.rfl) (by decide) c
    rw [List.map_cons, exponentWidth_cons, exponentWidth_cons, signWidth_map, ← List.map_drop,
      takeWhile_isDigit_map]
    simp only [hletter]

theorem numberWidth_map (cs : List Char) : numberWidth (cs.map asciiLower) = numberWidth cs := by
  unfold numberWidth
  dsimp only
  rw [takeWhile_isDigit_map, ← List.map_drop, fractionWidth_map, ← List.map_drop,
    exponentWidth_map]

theorem any_isDigit_head?_map (cs : List Char) :
    (cs.map asciiLower).head?.any isDigit = cs.head?.any isDigit := by
  cases cs <;> simp

theorem head?_map_eq_some_iff {x : Char} (hx : startsName x = false) (cs : List Char) :
    (cs.map asciiLower).head? = some x ↔ cs.head? = some x := by
  cases cs <;> simp [asciiLower_eq_iff hx]

theorem readSymbol_of_ne {p : Nat} {c : Char} {upcoming : Option Char}
    (h : ∀ x ∈ ['*', '=', '&', '|'], upcoming ≠ some x) :
    readSymbol p c upcoming = readSymbol p c none := by
  simp only [List.mem_cons, List.not_mem_nil, or_false, forall_eq_or_imp, forall_eq] at h
  unfold readSymbol
  split <;> simp_all

/-- What a sign is does not depend on the case of letters after it. -/
theorem readSymbol_of_map (c : Char) {a b : List Char} (h : a.map asciiLower = b.map asciiLower) :
    readSymbol 0 c a.head? = readSymbol 0 c b.head? := by
  have hstart : ['*', '=', '&', '|'].any startsName = false := by decide
  have hsame : ∀ x ∈ ['*', '=', '&', '|'], a.head? = some x ↔ b.head? = some x := by
    intro x hx
    have hx := Bool.eq_false_iff.2 (List.any_eq_false.1 hstart x hx)
    rw [← head?_map_eq_some_iff hx a, h, head?_map_eq_some_iff hx]
  by_cases hmem : ∃ x ∈ ['*', '=', '&', '|'], a.head? = some x
  · obtain ⟨x, hx, ha⟩ := hmem
    rw [ha, (hsame x hx).1 ha]
  · rw [readSymbol_of_ne fun x hx ha => hmem ⟨x, hx, ha⟩,
      readSymbol_of_ne fun x hx hb => hmem ⟨x, hx, (hsame x hx).2 hb⟩]

/-- The characters of a numeral do not depend on what follows it. -/
theorem take_numberWidth {c : Char} {u rest : List Char} {t : Token} (hq : isQuote c = false)
    (hname : startsName c = false) (h : read? c (u ++ rest) = some (t, u.length))
    (hnumber : (isDigit c || (c == '.' && (u ++ rest).head?.any isDigit)) = true)
    (rest' : List Char) :
    (c :: (u ++ rest')).take (numberWidth (c :: (u ++ rest))) = c :: u := by
  generalize hn : u.length = n at h
  cases begins_of_read?_eq_some h with
  | lparen hc | rparen hc | comma hc =>
    subst hc
    simp [isDigit] at hnumber
  | str hc => simp [hq] at hc
  | number hc hx =>
    have hpos := one_le_numberWidth (hc.imp_right And.left) (u ++ rest)
    rw [show numberWidth (c :: (u ++ rest)) = u.length + 1 by omega, List.take_succ_cons,
      List.take_left]
  | ident hc => simp [hname] at hc
  | op hs =>
    have hsigns : ∀ p ∈ signs, p.1.head?.any (fun c => isDigit c || c == '.') = false := by decide
    have hother := hsigns _ (mem_signs_of_readSymbol (hn ▸ hs))
    simp only [List.head?_cons, Option.any_some, Bool.or_eq_false_iff] at hother
    simp [hother] at hnumber

/-- A sign or a numeral does not depend on the case of letters after it. -/
theorem read?_of_map_asciiLower {c : Char} {u rest rest' : List Char} {t : Token}
    (hq : isQuote c = false) (hname : startsName c = false)
    (hmap : rest.map asciiLower = rest'.map asciiLower)
    (h : read? c (u ++ rest) = some (t, u.length)) :
    read? c (u ++ rest') = some (t, u.length) := by
  have happend : (u ++ rest).map asciiLower = (u ++ rest').map asciiLower := by
    rw [List.map_append, List.map_append, hmap]
  have hwidth : numberWidth (c :: (u ++ rest')) = numberWidth (c :: (u ++ rest)) := by
    rw [← numberWidth_map, List.map_cons, ← happend, ← List.map_cons, numberWidth_map]
  have hdigit : (u ++ rest').head?.any isDigit = (u ++ rest).head?.any isDigit := by
    rw [← any_isDigit_head?_map, ← happend, any_isDigit_head?_map]
  have htake := take_numberWidth hq hname h
  rw [← h]
  unfold read? read
  rw [hdigit, hwidth, readSymbol_of_map c happend]
  split_ifs with _ _ _ hquote hnumber hstart
  · rfl
  · rfl
  · rfl
  · simp_all [isQuote]
  · dsimp only
    rw [htake hnumber rest, htake hnumber rest']
  · simp [hname] at hstart
  · rfl

/-- A name is read up to the first character that does not go on with it. -/
theorem read?_name {c : Char} {u rest : List Char} (hc : startsName c = true)
    (hu : ∀ x ∈ u, continuesName x = true) (hrest : rest.head?.any continuesName = false) :
    read? c (u ++ rest) = some (.ident (String.ofList (c :: u)), u.length) := by
  rw [read?_of_ident hc, takeWhile_append_of_head? hu hrest]

end Token

/-- The tokens of a name and of what follows it. -/
theorem tokens?_name {c : Char} {u rest : List Char} (hc : Token.startsName c = true)
    (hu : ∀ x ∈ u, Token.continuesName x = true)
    (hrest : rest.head?.any Token.continuesName = false) :
    tokens? (c :: (u ++ rest)) =
      (tokens? rest).map (.ident (String.ofList (c :: u)) :: ·) := by
  refine tokens?_token ?_ (Token.read?_name hc hu hrest)
  cases h : Unicode.isBlank c with
  | false => rfl
  | true =>
    rw [startsName_of_isBlank h] at hc
    cases hc

/-! ### Words that go on -/

/-- A text with the names of called functions in small letters, where the rest of a word stands at
its beginning. -/
def lowerCallsBehind (cs : List Char) : List Char :=
  cs.takeWhile Token.continuesName ++ lowerCalls (cs.dropWhile Token.continuesName)

theorem lowerCallsBehind_append {u rest : List Char} (hu : ∀ x ∈ u, Token.continuesName x = true)
    (hrest : rest.head?.any Token.continuesName = false) :
    lowerCallsBehind (u ++ rest) = u ++ lowerCalls rest := by
  rw [lowerCallsBehind, takeWhile_append_of_head? hu hrest, dropWhile_append_of_head? hu hrest]

/-- Where no word goes on, nothing is the rest of a word. -/
theorem lowerCallsBehind_of_head? {cs : List Char}
    (h : cs.head?.any Token.continuesName = false) : lowerCallsBehind cs = lowerCalls cs :=
  lowerCallsBehind_append (u := []) (by simp) h

theorem map_asciiLower_lowerCallsBehind (cs : List Char) :
    (lowerCallsBehind cs).map asciiLower = cs.map asciiLower := by
  rw [lowerCallsBehind, List.map_append, map_asciiLower_lowerCalls, ← List.map_append,
    List.takeWhile_append_dropWhile]

/-! ### Numerals -/

section

variable {e s : Char} {digits rest : List Char}

/-- An exponent without a sign is taken for the beginning of a word, which no function has as its
name. -/
theorem lowerCalls_unsignedExponent (he : Token.startsName e = true) (hne : digits ≠ [])
    (hdigits : ∀ d ∈ digits, isDigit d = true) :
    lowerCalls (e :: (digits ++ rest)) = e :: (digits ++ lowerCallsBehind rest) := by
  obtain ⟨d, ds, rfl⟩ := List.exists_cons_of_ne_nil hne
  have hword : ∀ c ∈ d :: ds ++ rest.takeWhile Token.continuesName,
      Token.continuesName c = true := by
    intro c hc
    rcases List.mem_append.1 hc with hc | hc
    · exact continuesName_of_isDigit (hdigits c hc)
    · exact List.all_eq_true.1 List.all_takeWhile c hc
  have hlower := lowerCalls_word he hword (any_head?_dropWhile rest)
  rw [List.append_assoc, List.takeWhile_append_dropWhile,
    lowerCall_of_isDigit (d := d) (by simp) (hdigits d (by simp))] at hlower
  rw [hlower, lowerCallsBehind]
  simp

/-- The mark of an exponent with a sign is a word of its own. -/
theorem lowerCalls_signedExponent (he : Token.startsName e = true)
    (hname : Token.continuesName s = false) (hcall : s ≠ '(')
    (hdigits : ∀ d ∈ digits, isDigit d = true) :
    lowerCalls (e :: s :: (digits ++ rest)) = e :: s :: (digits ++ lowerCalls rest) := by
  have hexponent : ∀ c ∈ s :: digits, Token.startsName c = false := by
    intro c hc
    rcases List.mem_cons.1 hc with rfl | hc
    · exact Bool.eq_false_iff.2 fun h => absurd (continuesName_of_startsName h) (by simp [hname])
    · exact startsName_of_isDigit (hdigits c hc)
  have hlower : lowerCalls (e :: ([] ++ (s :: digits ++ rest))) = _ :=
    lowerCalls_word he (by simp) (by simpa using hname)
  rw [lowerCall_of_not_call (by simpa using hcall),
    lowerCalls_append_of_not_starts hexponent] at hlower
  exact hlower

/-- A numeral stays as it is. If it ends in an exponent without a sign, what follows it may be taken
for the rest of a word, and then this stays as it is, too. -/
theorem lowerCalls_numeral {a x : List Char} (ha : ∀ c ∈ a, isDigit c = true ∨ c = '.')
    (hx : Exponent x rest) :
    lowerCalls (a ++ x ++ rest) = a ++ x ++ lowerCalls rest ∨
      rest.head?.any isDigit = false ∧
        lowerCalls (a ++ x ++ rest) = a ++ x ++ lowerCallsBehind rest := by
  have hwhole : ∀ c ∈ a, Token.startsName c = false := by
    intro c hc
    rcases ha c hc with h | rfl
    · exact startsName_of_isDigit h
    · decide
  rw [List.append_assoc, lowerCalls_append_of_not_starts hwhole, List.append_assoc,
    List.append_assoc]
  cases hx with
  | none => exact .inl rfl
  | @some e sign digits _ he hsign hne hdigits hrest =>
    have hstart : Token.startsName e = true := by rcases he with rfl | rfl <;> decide
    rcases hsign with rfl | rfl | rfl
    · exact .inr ⟨hrest, congrArg (a ++ ·) (lowerCalls_unsignedExponent hstart hne hdigits)⟩
    · exact .inl (congrArg (a ++ ·)
        (lowerCalls_signedExponent hstart (by decide) (by decide) hdigits))
    · exact .inl (congrArg (a ++ ·)
        (lowerCalls_signedExponent hstart (by decide) (by decide) hdigits))

end

/-! ### Tokens -/

/-- A token and tokens that vary. -/
theorem HasVaried.cons {c : Char} {u rest : List Char} {t : Token} {ts : List Token}
    (hc : Unicode.isBlank c = false) (ht : Token.read? c (u ++ rest) = some (t, u.length))
    (h : HasVaried rest ts) : HasVaried (c :: (u ++ rest)) (t :: ts) := by
  obtain ⟨ts', hts, hvaries⟩ := h
  exact ⟨t :: ts', by rw [tokens?_token hc ht, hts, Option.map_some], .cons (.same t) hvaries⟩

/-- A name that is put into small letters, or is not, and tokens that vary. -/
theorem HasVaried.lowerCall {c : Char} {u rest : List Char} {ts : List Token}
    (hc : Token.startsName c = true) (hu : ∀ x ∈ u, Token.continuesName x = true)
    (hrest : rest.head?.any Token.continuesName = false) (following : List Char)
    (h : HasVaried rest ts) :
    HasVaried (lowerCall (c :: u) following ++ rest)
      (.ident (String.ofList (c :: u)) :: ts) := by
  obtain ⟨ts', hts, hvaries⟩ := h
  rcases lowerCall_eq (c :: u) following with hsame | ⟨hlower, hfunction⟩
  · rw [hsame]
    exact ⟨_, by rw [List.cons_append, tokens?_name hc hu hrest, hts, Option.map_some],
      .cons (.same _) hvaries⟩
  · rw [hlower]
    have hu' : ∀ x ∈ u.map asciiLower, Token.continuesName x = true := by
      simpa using hu
    refine ⟨.ident (String.ofList ((c :: u).map asciiLower)) :: ts', ?_, .cons ?_ hvaries⟩
    · rw [List.map_cons, List.cons_append,
        tokens?_name ((startsName_asciiLower c).trans hc) hu' hrest, hts, Option.map_some]
    · by_cases hne : (c :: u).map asciiLower = c :: u
      · rw [hne]
        exact .same _
      · exact .name (isUnknown_of_isAllowedFunction hfunction hne)

/-- The first character of a text that does not begin with a name stays. -/
theorem any_continuesName_head?_lowerCalls {rest : List Char}
    (h : rest.head?.any Token.continuesName = false) :
    (lowerCalls rest).head?.any Token.continuesName = false := by
  have hmap := congrArg (fun l => l.head?.any Token.continuesName) (map_asciiLower_lowerCalls rest)
  cases rest with
  | nil => simp [lowerCalls]
  | cons c rest =>
    cases hlower : lowerCalls (c :: rest) with
    | nil => rfl
    | cons d ds => simp_all

/-- The tokens of code in which the names of called functions are in small letters, also where the
code begins with the rest of a word. -/
structure HasLowered (a : List Char) (ts : List Token) : Prop where
  whole : HasVaried (lowerCalls a) ts
  behind : a.head?.any isDigit = false → HasVaried (lowerCallsBehind a) ts

section

variable {c : Char} {u rest : List Char} {t : Token} {ts : List Token}

theorem HasLowered.of_head? {a : List Char} (h : HasVaried (lowerCalls a) ts)
    (ha : a.head?.any isDigit = false → a.head?.any Token.continuesName = false) :
    HasLowered a ts :=
  ⟨h, fun hdigit => by rwa [lowerCallsBehind_of_head? (ha hdigit)]⟩

theorem HasLowered.blank (hc : Unicode.isBlank c = true) (h : HasLowered rest ts) :
    HasLowered (c :: rest) ts := by
  obtain ⟨ts', hts, hvaries⟩ := h.whole
  have hlower : lowerCalls (c :: rest) = c :: lowerCalls rest :=
    lowerCalls_append_of_not_starts (u := [c]) (by simp [startsName_of_isBlank hc]) rest
  refine .of_head? ⟨ts', ?_, hvaries⟩ fun _ => by simp [continuesName_of_isBlank hc]
  rw [hlower, tokens?_blank hc, hts]

/-- A sign stays as it is. -/
theorem HasLowered.sign (hc : Unicode.isBlank c = false) (hq : isQuote c = false)
    (hmem : (c :: u, t) ∈ signs) (ht : Token.read? c (u ++ rest) = some (t, u.length))
    (h : HasLowered rest ts) : HasLowered (c :: (u ++ rest)) (t :: ts) := by
  have hsigns : ∀ p ∈ signs, p.1.any Token.continuesName = false := by decide
  have hgo : ∀ x ∈ c :: u, Token.continuesName x = false := fun x hx =>
    Bool.eq_false_iff.2 (List.any_eq_false.1 (hsigns _ hmem) x hx)
  have hstart : ∀ x ∈ c :: u, Token.startsName x = false := fun x hx =>
    Bool.eq_false_iff.2 fun h => absurd (continuesName_of_startsName h) (by simp [hgo x hx])
  refine .of_head? ?_ fun _ => by simp [hgo c (by simp)]
  rw [← List.cons_append, lowerCalls_append_of_not_starts hstart]
  exact .cons hc (Token.read?_of_map_asciiLower hq (hstart c (by simp))
    (map_asciiLower_lowerCalls rest).symm ht) h.whole

/-- A numeral stays as it is, and what follows it may be taken for the rest of a word. -/
theorem HasLowered.numeral {x : Number} (hc : Unicode.isBlank c = false) (hq : isQuote c = false)
    (ht : Token.read? c (u ++ rest) = some (.number x, u.length)) (h : HasLowered rest ts) :
    HasLowered (c :: (u ++ rest)) (.number x :: ts) := by
  obtain ⟨hfirst, a, e, hae, ha, he⟩ := Token.numeral_of_read? ht
  have hstart : Token.startsName c = false := by
    rcases hfirst with h | rfl
    · exact startsName_of_isDigit h
    · decide
  refine .of_head? ?_ fun hdigit => ?_
  · have hnumeral := lowerCalls_numeral ha he
    rw [← hae, List.cons_append] at hnumeral
    rcases hnumeral with hlower | ⟨hdigit, hlower⟩
    · rw [hlower]
      exact .cons hc (Token.read?_of_map_asciiLower hq hstart
        (map_asciiLower_lowerCalls rest).symm ht) h.whole
    · rw [hlower]
      exact .cons hc (Token.read?_of_map_asciiLower hq hstart
        (map_asciiLower_lowerCallsBehind rest).symm ht) (h.behind hdigit)
  · obtain rfl : c = '.' := hfirst.resolve_left (by simpa using hdigit)
    exact (by decide : Token.continuesName '.' = false)

/-- A name may be the name of a called function, or the rest of a word. -/
theorem HasLowered.name (hc : Unicode.isBlank c = false)
    (ht : Token.read? c (u ++ rest) = some (.ident (String.ofList (c :: u)), u.length))
    (h : HasLowered rest ts) :
    HasLowered (c :: (u ++ rest)) (.ident (String.ofList (c :: u)) :: ts) := by
  obtain ⟨-, hstart, hgo, hrest⟩ := Token.name_of_read? ht
  have hlower := any_continuesName_head?_lowerCalls hrest
  refine ⟨?_, fun _ => ?_⟩
  · rw [lowerCalls_word hstart hgo hrest]
    exact h.whole.lowerCall hstart hgo hlower rest
  · have hword : ∀ x ∈ c :: u, Token.continuesName x = true := by
      simpa [continuesName_of_startsName hstart] using hgo
    rw [← List.cons_append, lowerCallsBehind_append hword hrest]
    exact .cons hc (Token.read?_name hstart hgo hlower) h.whole

end

/-- Code that has tokens keeps them when the names of called functions are put into small
letters. -/
theorem Spells.hasLowered {a : List Char} {ts : List Token} (h : Spells a ts)
    (hq : quoteFree a = true) : HasLowered a ts := by
  induction h with
  | nil => exact .of_head? ⟨[], by simp [lowerCalls], .nil⟩ fun _ => rfl
  | blank hc h ih =>
    rw [quoteFree_cons] at hq
    exact (ih hq.2).blank hc
  | token hc ht h ih =>
    rw [quoteFree_cons, quoteFree_append] at hq
    have ih := ih hq.2.2
    cases Token.spelled_of_read? hq.1 ht with
    | sign hmem => exact ih.sign hc hq.1 hmem ht
    | number => exact ih.numeral hc hq.1 ht
    | ident => exact ih.name hc ht

end TripletFacts
