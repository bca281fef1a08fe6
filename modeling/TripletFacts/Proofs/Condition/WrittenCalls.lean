import TripletFacts.Proofs.Condition.Parts
import TripletFacts.Proofs.Condition.PresenceCalls
import TripletFacts.Proofs.Facts.OwnKey
import TripletFacts.Proofs.Unicode.Folding

/-!
# Calls that are written in a text

A call that asks for presence is a keyword, which may be written in any case, and a reference in
parentheses, with or without a mark. There are four expressions of calls, and each of them matches a
call of its own kind as a whole and begins nowhere in the calls of the other kinds: before the only
parenthesis that opens in a call stands its keyword and nothing else that is a keyword.

## Main definitions

* `keywords`, `IsKeyword`: the words of calls, and such a word in any case.
* `PresenceCall`: calls that obey the rules of prefixes and names.

## Main results

* `PresenceCall.exists_matchAt`: a call is matched by the expression of its kind.
* `PresenceCall.matchAt_eq_none`: the other expressions match nothing that begins in it.
* `PresenceCall.presence_eq_ok`: what stands for a call.
-/

namespace TripletFacts

open Regex Cursor

/-! ### Keywords -/

/-- The words of calls that ask whether a fact is present, or absent. -/
def keywords (present : Bool) : List String :=
  if present then ["ЕСТЬ", "PRESENT"] else ["НЕТ", "ABSENT"]

/-- One of these words in any case of its letters. -/
def IsKeyword (present : Bool) (u : List Char) : Prop :=
  ∃ word ∈ keywords present, u.map Unicode.fold = word.toList.map Unicode.fold

namespace IsKeyword

variable {present : Bool} {u : List Char}

/-- The letters of keywords are word characters, and names begin with them. -/
theorem letter (h : IsKeyword present u) {c : Char} (hc : c ∈ u) :
    Unicode.isWord c = true ∧ Token.startsName c = true := by
  obtain ⟨word, hword, hu⟩ := h
  have hall : ∀ present, ∀ word ∈ keywords present, word.toList.all (fun l =>
      (Unicode.variants l).all fun x => Unicode.isWord x && Token.startsName x) = true := by
    decide +kernel
  have hmem : Unicode.fold c ∈ word.toList.map Unicode.fold := hu ▸ List.mem_map_of_mem hc
  obtain ⟨l, hl, hfold⟩ := List.mem_map.1 hmem
  have hl := List.all_eq_true.1 (hall present word hword) l hl
  exact Bool.and_eq_true_iff.1 (List.all_eq_true.1 hl c (Unicode.mem_variants hfold.symm))

/-- No keyword ends with another one. -/
theorem of_append {present' : Bool} {v w : List Char} (h : IsKeyword present (v ++ w))
    (h' : IsKeyword present' w) : v = [] ∧ present' = present := by
  obtain ⟨word, hword, hvw⟩ := h
  obtain ⟨word', hword', hw⟩ := h'
  have hall : ∀ p q, ∀ word ∈ keywords p, ∀ word' ∈ keywords q,
      word'.toList.map Unicode.fold <:+ word.toList.map Unicode.fold →
        q = p ∧ word'.toList.length = word.toList.length := by decide
  have hsuffix : word'.toList.map Unicode.fold <:+ word.toList.map Unicode.fold :=
    ⟨v.map Unicode.fold, by rw [← hw, ← hvw, List.map_append]⟩
  obtain ⟨hp, hlength⟩ := hall _ _ word hword word' hword' hsuffix
  have hlv := congrArg List.length hvw
  have hlw := congrArg List.length hw
  simp only [List.length_map, List.length_append] at hlv hlw
  exact ⟨List.eq_nil_of_length_eq_zero (by omega), hp⟩

theorem ne_nil (h : IsKeyword present u) : u ≠ [] := by
  rintro rfl
  have hall : ∀ present, ∀ word ∈ keywords present, [] ≠ word.toList.map Unicode.fold := by
    decide
  obtain ⟨word, hword, hu⟩ := h
  exact hall present word hword hu

/-- A character that is in no word is in no keyword. -/
theorem not_mem (h : IsKeyword present u) {c : Char} (hc : Unicode.isWord c = false) : c ∉ u := by
  intro hmem
  simp [(h.letter hmem).1] at hc

end IsKeyword

/-! ### Expressions of calls -/

namespace Settings

/-- The expression of the argument of a call. -/
def argumentRegex (marked : Bool) : Regex :=
  if marked then .seq (.literal ['$']) pairRegex else pairRegex

/-- The shape of a kind of calls. -/
def callShape (present marked : Bool) : Shape :=
  if present then if marked then .present else .presentBare
  else if marked then .absent else .absentBare

/-- The expression of a kind of calls takes the keywords of this kind. -/
theorem exists_regex_callShape (present marked : Bool) : ∃ word₁ word₂,
    keywords present = [word₁, word₂] ∧ word₁.toList.map Unicode.fold ≠ [] ∧
      (word₁.toList.map Unicode.fold).head? ≠ (word₂.toList.map Unicode.fold).head? ∧
      standard.regex (callShape present marked) =
        callRegex word₁ word₂ (argumentRegex marked) := by
  cases present <;> cases marked <;>
    exact ⟨_, _, rfl, by decide, by decide, rfl⟩

section

variable {present marked : Bool} {b a u : List Char} {g : Captures}

/-- A word in any case is taken. -/
theorem prefers_foldedRegex {word : String} (hu : u.map Unicode.fold = word.toList.map Unicode.fold)
    (b a : List Char) (g : Captures) :
    (foldedRegex word).Prefers (between b (u ++ a)) g (between (u.reverse ++ b) a) g := by
  unfold foldedRegex
  generalize word.toList = cs at hu
  induction cs generalizing u b with
  | nil =>
    obtain rfl := List.map_eq_nil_iff.1 hu
    exact ⟨fun _ _ hk => hk⟩
  | cons c cs ih =>
    obtain ⟨x, u, rfl, hx, hu⟩ := List.map_eq_cons_iff.1 hu
    have hfirst := @prefers_char (fun y => Unicode.fold y == Unicode.fold c) x
      (beq_iff_eq.2 hx) b (u ++ a) g
    rw [List.reverse_cons, List.append_assoc]
    exact .seq hfirst (ih (x :: b) hu)

/-- One of two words in any case is taken if they begin differently. -/
theorem prefers_keyword {word₁ word₂ : String} (hwords : keywords present = [word₁, word₂])
    (hne : word₁.toList.map Unicode.fold ≠ [])
    (hheads : (word₁.toList.map Unicode.fold).head? ≠ (word₂.toList.map Unicode.fold).head?)
    (hu : IsKeyword present u) (b a : List Char) (g : Captures) :
    (Regex.alt (foldedRegex word₁) (foldedRegex word₂)).Prefers (between b (u ++ a)) g
      (between (u.reverse ++ b) a) g := by
  have hnil := hu.ne_nil
  obtain ⟨word, hword, hfold⟩ := hu
  rw [hwords, List.mem_cons, List.mem_singleton] at hword
  rcases hword with rfl | rfl
  · exact .altLeft (prefers_foldedRegex hfold b a g)
  · have hleft : (foldedRegex word₁).Fails (between b (u ++ a)) := by
      refine .of_not_leads fun g c' g' hleads => ?_
      obtain ⟨v, a', heq, -, hv⟩ := exists_of_leads_foldedRegex hleads
      cases v with
      | nil => exact hne hv.symm
      | cons x v =>
        cases u with
        | nil => exact hnil rfl
        | cons y u =>
          obtain ⟨rfl, -⟩ := List.cons_eq_cons.1 heq
          rw [← hv, ← hfold] at hheads
          exact hheads rfl
    have hright := prefers_foldedRegex hfold b a g
    exact ⟨fun k x hk => (run_alt_of_none (hleft.run g k)).trans (hright.run k x hk)⟩

/-- A match of a call begins with a keyword and a parenthesis, and behind blanks with the mark that
the expression asks for, or with a word character. -/
theorem exists_of_leads_callShape {c' : Cursor} {g' : Captures}
    (h : (standard.regex (callShape present marked)).Leads (between b a) g c' g') :
    ∃ u blanks d r, a = u ++ '(' :: (blanks ++ d :: r) ∧ IsKeyword present u ∧
      (∀ x ∈ blanks, Unicode.isBlank x = true) ∧
      if marked then d = '$' else Unicode.isWord d = true := by
  obtain ⟨word₁, word₂, hwords, -, -, hregex⟩ := exists_regex_callShape present marked
  rw [hregex] at h
  obtain ⟨u, blanks, a₁, g₁, c₁, rfl, hu, hblanks, hargument⟩ := exists_leads_of_leads_callRegex h
  rw [← hwords] at hu
  cases marked with
  | true =>
    obtain ⟨c₂, g₂, hmark, -⟩ := leads_seq_iff.1 hargument
    obtain ⟨a₂, rfl, -⟩ := leads_literal_iff.1 hmark
    exact ⟨u, blanks, '$', a₂, rfl, hu, hblanks, rfl⟩
  | false =>
    obtain ⟨x, w, d, r, rfl, hx, -⟩ := exists_of_leads_pairRegex hargument
    exact ⟨u, blanks, x, _, rfl, hu, hblanks, hx⟩

/-- A match of a call has characters. -/
theorem consumes_callShape (present marked : Bool) :
    (standard.regex (callShape present marked)).Consumes := by
  intro c m hm
  obtain ⟨-, hleads⟩ := leads_of_matchAt hm
  obtain ⟨word₁, word₂, -, -, -, hregex⟩ := exists_regex_callShape present marked
  rw [hregex] at hleads
  obtain ⟨c₁, g₁, hlook, h₁⟩ := leads_seq_iff.1 hleads
  obtain ⟨c₂, g₂, hword, h₂⟩ := leads_seq_iff.1 h₁
  obtain ⟨c₃, g₃, hopen, hrest⟩ := leads_seq_iff.1 h₂
  rw [← between_before_after c₂] at hopen
  obtain ⟨a₃, hafter, rfl, -⟩ := leads_literal_iff.1 hopen
  have hle₁ := hlook.matches.left_le
  have hle₂ := hword.matches.left_le
  have hle₃ := hrest.matches.left_le
  rw [c₂.left_eq, hafter] at hle₂
  simp only [between, List.length_append, List.length_singleton] at hle₂ hle₃
  omega

/-! ### Where no call begins -/

/-- A match of a call begins with word characters up to its parenthesis. -/
theorem matchAt_callShape_of_sign {w r : List Char} {x : Char} (hw : '(' ∉ w) (hx : x ≠ '(')
    (hsign : Unicode.isWord x = false) (b : List Char) :
    (standard.regex (callShape present marked)).matchAt (between b (w ++ x :: r)) = none := by
  refine (Fails.of_not_leads fun g c' g' hleads => ?_).matchAt
  obtain ⟨u, blanks, d, s, heq, hu, -⟩ := exists_of_leads_callShape hleads
  rcases List.append_eq_append_iff.1 heq with ⟨v, rfl, hv⟩ | ⟨v, rfl, hv⟩
  · cases v with
    | nil => exact hx (List.cons_eq_cons.1 hv).1
    | cons y v =>
      obtain ⟨rfl, -⟩ := List.cons_eq_cons.1 hv
      exact hu.not_mem hsign (by simp)
  · cases v with
    | nil => exact hx (List.cons_eq_cons.1 hv).1.symm
    | cons y v =>
      obtain ⟨rfl, -⟩ := List.cons_eq_cons.1 hv
      exact hw (by simp)

/-- A call begins with a word character. -/
theorem matchAt_callShape_cons {x : Char} (hsign : Unicode.isWord x = false) (r b : List Char) :
    (standard.regex (callShape present marked)).matchAt (between b (x :: r)) = none := by
  refine (Fails.of_not_leads fun g c' g' hleads => ?_).matchAt
  obtain ⟨u, blanks, d, s, heq, hu, -⟩ := exists_of_leads_callShape hleads
  cases u with
  | nil => exact hu.ne_nil rfl
  | cons y u =>
    obtain ⟨rfl, -⟩ := List.cons_eq_cons.1 heq
    exact hu.not_mem hsign List.mem_cons_self

/-- Without a parenthesis there is no call. -/
theorem matchAt_callShape_of_not_mem {w : List Char} (hw : '(' ∉ w) (b : List Char) :
    (standard.regex (callShape present marked)).matchAt (between b w) = none := by
  refine (Fails.of_not_leads fun g c' g' hleads => ?_).matchAt
  obtain ⟨u, blanks, d, s, rfl, -⟩ := exists_of_leads_callShape hleads
  exact hw (by simp)

/-- Before the first parenthesis of a match stands its keyword, and behind it the beginning of its
reference. -/
theorem exists_of_leads_parenthesis {w blanks r : List Char} {d : Char} (hw : '(' ∉ w)
    (hblanks : ∀ x ∈ blanks, Unicode.isBlank x = true) (hd : Unicode.isBlank d = false)
    {c' : Cursor} {g' : Captures} (h : (standard.regex (callShape present marked)).Leads
      (between b (w ++ '(' :: (blanks ++ d :: r))) g c' g') :
    IsKeyword present w ∧ if marked then d = '$' else Unicode.isWord d = true := by
  obtain ⟨u, blanks', d', r', heq, hu, hblanks', hd'⟩ := exists_of_leads_callShape h
  have hnot : Unicode.isBlank d' = false := by
    cases hblank : Unicode.isBlank d' with
    | false => rfl
    | true =>
      have hword := (isForeign_of_isBoundary (isBoundary_of_isBlank hblank) true).word
      split at hd'
      · exact absurd hblank (hd' ▸ by decide)
      · simp [hd'] at hword
  obtain ⟨rfl, htail⟩ := eq_of_append_cons heq hw (hu.not_mem (by decide))
  have hdrop := congrArg (List.dropWhile Unicode.isBlank) htail
  rw [dropWhile_append_of_head? hblanks (by simpa using hd),
    dropWhile_append_of_head? hblanks' (by simpa using hnot)] at hdrop
  obtain ⟨rfl, -⟩ := List.cons_eq_cons.1 hdrop
  exact ⟨hu, hd'⟩

/-- The argument of a call is taken. -/
theorem exists_prefers_argumentRegex (marked : Bool) {p n r : List Char} (hpair : IsPair p n r)
    (b : List Char) (g : Captures) : ∃ s₁ s₂ : Span, s₁.text = p ∧ s₂.text = n ∧
      (argumentRegex marked).Prefers (between b (writtenReference marked p n ++ r)) g
        (between ((writtenReference marked p n).reverse ++ b) r) ((2, s₂) :: (1, s₁) :: g) := by
  cases marked with
  | true =>
    obtain ⟨s₁, s₂, hs₁, hs₂, hprefers⟩ := exists_prefers_pairRegex hpair ('$' :: b) g
    have hargument := Prefers.seq (prefers_literal ['$'] b _ g) hprefers
    refine ⟨s₁, s₂, hs₁, hs₂, ?_⟩
    simpa [writtenReference, markText, argumentRegex] using hargument
  | false =>
    obtain ⟨s₁, s₂, hs₁, hs₂, hprefers⟩ := exists_prefers_pairRegex hpair b g
    refine ⟨s₁, s₂, hs₁, hs₂, ?_⟩
    simpa [writtenReference, markText, argumentRegex] using hprefers

end

end Settings

/-! ### Calls -/

/-- Some blanks. -/
def blanks (n : Nat) : List Char := List.replicate n ' '

theorem isBlank_of_mem_blanks {n : Nat} : ∀ x ∈ blanks n, Unicode.isBlank x = true := by
  intro x hx
  rw [List.eq_of_mem_replicate hx]
  decide

theorem not_mem_blanks {x : Char} (hx : x ≠ ' ') (n : Nat) : x ∉ blanks n :=
  fun hmem => hx (List.eq_of_mem_replicate hmem)

/-- Blanks are taken up to another character. -/
theorem prefers_blanks (n : Nat) {a : List Char} (ha : a.head?.any Unicode.isBlank = false)
    (b : List Char) (g : Captures) : (Regex.star true (.char Unicode.isBlank)).Prefers
      (between b (blanks n ++ a)) g (between ((blanks n).reverse ++ b) a) g :=
  prefers_star isBlank_of_mem_blanks ha g

theorem head?_blanks_append (n : Nat) (x : Char) (r : List Char) :
    (blanks n ++ x :: r).head? = some ' ' ∨ (blanks n ++ x :: r).head? = some x := by
  cases n with
  | zero => exact .inr rfl
  | succ n => exact .inl rfl

/-- No word goes on behind blanks that stand behind another sign. -/
theorem any_isWord_reverse_blanks (n : Nat) {x : Char} (hx : Unicode.isWord x = false)
    (b : List Char) : ((blanks n).reverse ++ x :: b).head?.any Unicode.isWord = false := by
  rw [blanks, List.reverse_replicate]
  rcases head?_blanks_append n x b with h | h
  · exact h ▸ by decide
  · exact h ▸ hx

/-- A call that asks whether a fact is present or absent, as it is written: a keyword, and in
parentheses a reference with a mark or without one, with blanks around it. -/
structure PresenceCall where
  present : Bool
  marked : Bool
  keyword : List Char
  before : Nat
  letters : List Char
  digits : List Char
  name : List Char
  after : Nat
  isKeyword : IsKeyword present keyword
  letters_ne : letters ≠ []
  name_ne : name ≠ []
  isAlpha_letters : ∀ c ∈ letters, c.isAlpha = true
  isDigit_digits : ∀ c ∈ digits, isDigit c = true
  isAlpha_name : ∀ c ∈ name, c.isAlpha = true
  pfx_length : Settings.standard.pfxRules.HasLength (String.ofList (letters ++ digits))
  name_length : Settings.standard.nameRules.HasLength (String.ofList name)

namespace PresenceCall

/-- The prefix that a call asks for. -/
def pfx (c : PresenceCall) : List Char := c.letters ++ c.digits

/-- The reference of a call. -/
def reference (c : PresenceCall) : List Char := writtenReference c.marked c.pfx c.name

/-- A call as it is written. -/
def text (c : PresenceCall) : List Char :=
  c.keyword ++ '(' :: (blanks c.before ++ (c.reference ++ (blanks c.after ++ [')'])))

/-- Whether the fact that a call asks for is in the collection that it asks: the first one if it has
a mark, and the second one otherwise. -/
def found (facts db : Facts) (c : PresenceCall) : Bool :=
  decide ((if c.marked then facts else db).containsKey (Unicode.upper (String.ofList c.pfx))
    (some (Unicode.upper (String.ofList c.name))) = .ok true)

/-- The truth value of a call. -/
def holds (facts db : Facts) (c : PresenceCall) : Bool := c.found facts db == c.present

/-! ### Letters of ASCII -/

theorem isWord_of_isAlpha {c : Char} (hc : c.isAlpha = true) : Unicode.isWord c = true :=
  of_isAlpha (P := fun c => Unicode.isWord c = true) (by decide) hc

/-- The capital letter of a letter. -/
theorem upperChar_of_isAlpha {c : Char} (hc : c.isAlpha = true) :
    Unicode.upperChar c = [c.toUpper] ∧ isCapital c.toUpper = true :=
  of_isAlpha (P := fun c => Unicode.upperChar c = [c.toUpper] ∧ isCapital c.toUpper = true)
    (by decide) hc

theorem upperChar_of_isDigit {c : Char} (hc : isDigit c = true) :
    Unicode.upperChar c = [c.toUpper] ∧ isDigit c.toUpper = true :=
  of_isDigit (P := fun c => Unicode.upperChar c = [c.toUpper] ∧ isDigit c.toUpper = true)
    (by decide) hc

/-- A text that is put into capital letters one by one. -/
theorem toList_upper_ofList {u : List Char} (hu : ∀ c ∈ u, Unicode.upperChar c = [c.toUpper]) :
    (Unicode.upper (String.ofList u)).toList = u.map Char.toUpper := by
  rw [Unicode.upper, String.toList_ofList, String.toList_ofList]
  induction u with
  | nil => rfl
  | cons c u ih =>
    simp only [List.mem_cons, forall_eq_or_imp] at hu
    rw [List.flatMap_cons, hu.1, ih hu.2, List.map_cons, List.singleton_append]

variable {facts db : Facts} {b a : List Char}

/-! ### The value of a call -/

section

variable (c : PresenceCall)

/-- What a call asks for obeys the rules. -/
theorem acceptsKey : Settings.standard.AcceptsKey ⟨Unicode.upper (String.ofList c.pfx),
    some (Unicode.upper (String.ofList c.name))⟩ := by
  have hpfx : (Unicode.upper (String.ofList c.pfx)).toList =
      c.letters.map Char.toUpper ++ c.digits.map Char.toUpper := by
    rw [toList_upper_ofList, pfx, List.map_append]
    intro x hx
    rcases List.mem_append.1 hx with hx | hx
    · exact (upperChar_of_isAlpha (c.isAlpha_letters x hx)).1
    · exact (upperChar_of_isDigit (c.isDigit_digits x hx)).1
  have hname : (Unicode.upper (String.ofList c.name)).toList = c.name.map Char.toUpper :=
    toList_upper_ofList fun x hx => (upperChar_of_isAlpha (c.isAlpha_name x hx)).1
  have hlength : ∀ {r : FieldRules} {s t : String}, r.HasLength s →
      t.toList.length = s.toList.length → r.HasLength t := by
    intro r s t hs hst
    rw [String.length_toList, String.length_toList] at hst
    unfold FieldRules.HasLength
    rwa [hst]
  constructor
  · refine validate_pfx_of_capitals hpfx (by simpa using c.letters_ne) ?_ ?_
      (hlength c.pfx_length (by simp [hpfx]))
    · intro x hx
      obtain ⟨y, hy, rfl⟩ := List.mem_map.1 hx
      exact (upperChar_of_isAlpha (c.isAlpha_letters y hy)).2
    · intro x hx
      obtain ⟨y, hy, rfl⟩ := List.mem_map.1 hx
      exact (upperChar_of_isDigit (c.isDigit_digits y hy)).2
  · intro n hn
    obtain rfl := Option.some.inj hn
    refine validate_name_of_capitals (by simpa [hname] using c.name_ne) (fun x hx => ?_)
      (hlength c.name_length (by simp [hname]))
    rw [hname] at hx
    obtain ⟨y, hy, rfl⟩ := List.mem_map.1 hx
    exact (upperChar_of_isAlpha (c.isAlpha_name y hy)).2

/-- What stands for a call is its truth value. -/
theorem presence_eq_ok (hfacts : facts.settings = .standard) (hdb : db.settings = .standard)
    {m : Match} (hpfx : m.groupText 1 = c.pfx) (hname : m.groupText 2 = c.name) :
    (if c.marked then facts else db).presence c.present m =
      .ok (Value.boolText (c.holds facts db)) := by
  have hsettings : (if c.marked then facts else db).settings = .standard := by
    split
    · exact hfacts
    · exact hdb
  unfold holds found
  generalize (if c.marked then facts else db) = f at hsettings
  have hkey := Facts.lookupKey_eq_ok_iff.2 ⟨hsettings ▸ c.acceptsKey, rfl⟩
  rw [Facts.presence, Facts.containsWritten, hpfx, hname, Facts.containsKey, hkey]
  simp [Except.map, Value.text, Value.literal]

end

/-! ### The expression of a call -/

section

variable (c : PresenceCall)

/-- The words of a call, with a sign behind them. -/
theorem isPair {r : List Char} (hr : r.head?.any Unicode.isWord = false) :
    IsPair c.pfx c.name r where
  pfx_ne := by simp [pfx, c.letters_ne]
  name_ne := c.name_ne
  pfx x hx := by
    rcases List.mem_append.1 hx with hx | hx
    · exact isWord_of_isAlpha (c.isAlpha_letters x hx)
    · exact of_isDigit (P := fun c => Unicode.isWord c = true) (by decide)
        (c.isDigit_digits x hx)
  name x hx := isWord_of_isAlpha (c.isAlpha_name x hx)
  stop := hr

/-- How a reference begins tells whether it has a mark. -/
theorem exists_reference_eq_cons : ∃ d r, c.reference = d :: r ∧ Unicode.isBlank d = false ∧
    ∀ marked, (if marked then d = '$' else Unicode.isWord d = true) → marked = c.marked := by
  obtain ⟨d, u, hd⟩ := List.exists_cons_of_ne_nil c.letters_ne
  have hword := isWord_of_isAlpha (c.isAlpha_letters d (hd ▸ List.mem_cons_self))
  unfold reference
  cases hmarked : c.marked with
  | true =>
    refine ⟨'$', _, rfl, by decide, fun marked h => ?_⟩
    cases marked with
    | true => rfl
    | false => exact absurd h (by decide)
  | false =>
    refine ⟨d, u ++ (c.digits ++ '.' :: c.name), by simp [writtenReference, markText, pfx, hd], ?_,
      fun marked h => ?_⟩
    · cases hblank : Unicode.isBlank d with
      | false => rfl
      | true =>
        have hboundary := (isForeign_of_isBoundary (isBoundary_of_isBlank hblank) true).word
        simp [hword] at hboundary
    · cases marked with
      | false => rfl
      | true =>
        obtain rfl : d = '$' := h
        exact absurd hword (by decide)

/-- A call is matched by the expression of its kind if no word goes on there. -/
theorem exists_matchAt (hb : b.head?.any Unicode.isWord = false) (a : List Char) :
    ∃ m, (Settings.standard.regex (Settings.callShape c.present c.marked)).matchAt
        (between b (c.text ++ a)) = some m ∧
      m.span.stop = between (c.text.reverse ++ b) a ∧
      m.groupText 1 = c.pfx ∧ m.groupText 2 = c.name := by
  obtain ⟨word₁, word₂, hwords, hne, hheads, hregex⟩ :=
    Settings.exists_regex_callShape c.present c.marked
  have hlook : Regex.wordBoundary false (between b (c.text ++ a)).previous
      (between b (c.text ++ a)).upcoming = true := by
    obtain ⟨x, u, hx⟩ := List.exists_cons_of_ne_nil c.isKeyword.ne_nil
    have hword := (c.isKeyword.letter (hx ▸ List.mem_cons_self)).1
    have hb : Regex.wordAt false b.head? = false := by simpa [Regex.wordAt] using hb
    have ha : Regex.wordAt false (c.text ++ a).head? = true := by
      simp [text, hx, Regex.wordAt, hword]
    change (Regex.wordAt false b.head? != Regex.wordAt false (c.text ++ a).head?) = true
    rw [hb, ha]
    rfl
  have hstop : (blanks c.after ++ ')' :: a).head?.any Unicode.isWord = false := by
    rcases head?_blanks_append c.after ')' a with h | h <;> rw [h] <;> decide
  obtain ⟨d, r, hd, hblank, -⟩ := c.exists_reference_eq_cons
  -- the parts of the expression, from left to right
  have hword := Settings.prefers_keyword hwords hne hheads c.isKeyword b
    ('(' :: (blanks c.before ++ (c.reference ++ (blanks c.after ++ ')' :: a)))) []
  have hopen := prefers_literal ['('] (c.keyword.reverse ++ b)
    (blanks c.before ++ (c.reference ++ (blanks c.after ++ ')' :: a))) []
  have hbefore := prefers_blanks c.before (a := c.reference ++ (blanks c.after ++ ')' :: a))
    (by simp [hd, hblank]) ('(' :: (c.keyword.reverse ++ b)) []
  obtain ⟨s₁, s₂, hs₁, hs₂, hargument⟩ := Settings.exists_prefers_argumentRegex c.marked
    (c.isPair hstop) ((blanks c.before).reverse ++ '(' :: (c.keyword.reverse ++ b)) []
  have hafter := prefers_blanks c.after (a := ')' :: a) (by simp; decide) (c.reference.reverse ++
    ((blanks c.before).reverse ++ '(' :: (c.keyword.reverse ++ b))) [(2, s₂), (1, s₁)]
  have hclose := prefers_literal [')'] ((blanks c.after).reverse ++ (c.reference.reverse ++
    ((blanks c.before).reverse ++ '(' :: (c.keyword.reverse ++ b)))) a [(2, s₂), (1, s₁)]
  have hmatch := (Prefers.seq (prefers_look hlook []) (.seq (by simpa [text] using hword)
    (.seq hopen (.seq hbefore (.seq hargument (.seq hafter hclose)))))).matchAt
  rw [hregex]
  exact ⟨_, hmatch, by simp [text], hs₁, hs₂⟩

/-- The characters of a reference. -/
theorem not_mem_reference {x : Char} (hx : Unicode.isWord x = false) (hsign : x ∉ ".$".toList) :
    x ∉ c.reference := by
  have hpair := c.isPair (r := []) rfl
  have hmark : x ∉ markText c.marked := by
    cases c.marked
    · exact List.not_mem_nil
    · exact fun h => hsign (List.mem_singleton.1 h ▸ by decide)
  have hpoint : x ≠ '.' := fun h => hsign (h ▸ by decide)
  have hpfx : x ∉ c.pfx := fun hmem => by simp [hpair.pfx _ hmem] at hx
  have hname : x ∉ c.name := fun hmem => by simp [hpair.name _ hmem] at hx
  simp [reference, writtenReference, hmark, hpfx, hname, hpoint]

/-- The characters between the parentheses of a call. -/
theorem not_mem_body {x : Char} (hx : Unicode.isWord x = false) (hsign : x ∉ " .$".toList) :
    x ∉ blanks c.before ++ (c.reference ++ blanks c.after) := by
  have hblanks : ∀ n, x ∉ blanks n := not_mem_blanks fun h => hsign (h ▸ by decide)
  have hreference := c.not_mem_reference hx fun h => hsign (List.mem_cons_of_mem ' ' h)
  simp [hblanks, hreference]

/-- The characters of a call. -/
theorem not_mem_text {x : Char} (hx : Unicode.isWord x = false) (hsign : x ∉ " ().$".toList) :
    x ∉ c.text := by
  have hsigns : " .$".toList ⊆ " ().$".toList := by decide
  have hbody := c.not_mem_body hx fun h => hsign (hsigns h)
  have hopen : x ≠ '(' := fun h => hsign (h ▸ by decide)
  have hclose : x ≠ ')' := fun h => hsign (h ▸ by decide)
  simp only [List.mem_append, not_or] at hbody
  simp [text, c.isKeyword.not_mem hx, hbody, hopen, hclose]

/-- Only one parenthesis opens in a call. -/
theorem not_mem_parenthesis :
    '(' ∉ blanks c.before ++ (c.reference ++ (blanks c.after ++ [')'])) := by
  have hbody := c.not_mem_body (x := '(') (by decide) (by decide)
  simpa using hbody

/-- The expression of another kind matches nothing that begins before the parenthesis. -/
theorem not_leads_keyword {present marked : Bool}
    (hkind : ¬(present = c.present ∧ marked = c.marked)) {v u : List Char} (hu : c.keyword = v ++ u)
    {g g' : Captures} {c' : Cursor} :
    ¬(Settings.standard.regex (Settings.callShape present marked)).Leads (between b (u ++ '(' ::
      (blanks c.before ++ (c.reference ++ (blanks c.after ++ ')' :: a))))) g c' g' := by
  intro hleads
  obtain ⟨d, r, hd, hblank, hmark⟩ := c.exists_reference_eq_cons
  have hnot : '(' ∉ u := fun hmem =>
    c.isKeyword.not_mem (by decide) (hu ▸ List.mem_append_right v hmem)
  rw [hd] at hleads
  obtain ⟨hkeyword, hstart⟩ :=
    Settings.exists_of_leads_parenthesis hnot isBlank_of_mem_blanks hblank hleads
  exact hkind ⟨(IsKeyword.of_append (hu ▸ c.isKeyword) hkeyword).2, hmark marked hstart⟩

/-- The expression of another kind matches nothing that begins in a call. -/
theorem matchAt_eq_none {present marked : Bool}
    (hkind : ¬(present = c.present ∧ marked = c.marked)) {v w : List Char} (hvw : c.text = v ++ w)
    (hw : w ≠ []) (b a : List Char) :
    (Settings.standard.regex (Settings.callShape present marked)).matchAt (between b (w ++ a)) =
      none := by
  have hbefore : ∀ {v u : List Char}, c.keyword = v ++ u →
      w = u ++ '(' :: (blanks c.before ++ (c.reference ++ (blanks c.after ++ [')']))) →
      (Settings.standard.regex (Settings.callShape present marked)).matchAt (between b (w ++ a)) =
        none := by
    rintro v u hu rfl
    refine (Fails.of_not_leads fun g c' g' hleads => ?_).matchAt
    exact c.not_leads_keyword hkind hu (by simpa using hleads)
  rcases List.append_eq_append_iff.1 hvw with ⟨v, -, hv⟩ | ⟨u, hu, hw⟩
  · cases v with
    | nil => exact hbefore (List.append_nil c.keyword).symm hv.symm
    | cons x v =>
      -- behind the parenthesis no other one opens
      obtain ⟨rfl, hbody⟩ := List.cons_eq_cons.1 hv
      rcases w.eq_nil_or_concat with rfl | ⟨w, y, rfl⟩
      · exact absurd rfl hw
      · have hlast := congrArg List.getLast? hbody
        obtain rfl : ')' = y := by simpa [List.getLast?_append] using hlast
        have hnot : '(' ∉ w := fun hmem => c.not_mem_parenthesis (hbody ▸ by simp [hmem])
        have hnone : (Settings.standard.regex (Settings.callShape present marked)).matchAt
            (between b (w ++ ')' :: a)) = none :=
          Settings.matchAt_callShape_of_sign hnot (by decide) (by decide) b
        simpa using hnone
  · exact hbefore hu hw

end

/-! ### Replacing calls -/

section

variable {ε : Type} {f : Match → Except ε (List Char)} (c : PresenceCall)

/-- The pass over calls of the same kind replaces a call. -/
theorem replaceAfter_self {x : List Char} (hb : b.head?.any Unicode.isWord = false)
    (hf : ∀ m : Match, m.groupText 1 = c.pfx → m.groupText 2 = c.name → f m = .ok x) :
    (Settings.standard.regex (Settings.callShape c.present c.marked)).replaceAfter f
        (between b (c.text ++ a)) =
      ((Settings.standard.regex (Settings.callShape c.present c.marked)).replaceAfter f
        (between (c.text.reverse ++ b) a)).map (x ++ ·) := by
  obtain ⟨m, hm, hstop, hpfx, hname⟩ := c.exists_matchAt hb a
  rw [replaceAfter_of_matchAt (Settings.consumes_callShape _ _) hm, hf m hpfx hname, hstop]
  rfl

/-- A pass over calls of another kind keeps a call. -/
theorem replaceAfter_other {present marked : Bool}
    (hkind : ¬(present = c.present ∧ marked = c.marked)) :
    (Settings.standard.regex (Settings.callShape present marked)).replaceAfter f
        (between b (c.text ++ a)) =
      ((Settings.standard.regex (Settings.callShape present marked)).replaceAfter f
        (between (c.text.reverse ++ b) a)).map (c.text ++ ·) :=
  replaceAfter_append (Settings.consumes_callShape _ _) fun _ _ hvw hw b =>
    c.matchAt_eq_none hkind hvw hw b a

end

end PresenceCall

end TripletFacts
