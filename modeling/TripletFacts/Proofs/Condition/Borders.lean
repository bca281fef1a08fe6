import TripletFacts.Proofs.Condition.Complete
import TripletFacts.Proofs.Condition.SignPasses
import TripletFacts.Proofs.Expr.Prefix

/-!
# Borders between tokens

A text may be cut where no token reaches from the first part into the second one. Names and numerals
go on as long as they can, so there must not be a character of a name, a digit or a point on both
sides of the cut; the sign in the exponent of a numeral and signs of two characters are the only
other places inside of a token of code. Then the tokens of the text are those of the parts, at
their positions.

## Main definitions

* `goesOn`: characters that can go on with a name or a numeral.
* `endsInMantissa`, `endsInExponent`: the beginning of an exponent at the end of a text.
* `IsBorder`: two texts between which no token reaches.
* `separates`: characters that have a border in front of them.

## Main results

* `Token.le_length_of_isBorder`: a token that begins before a border ends before it.
* `exists_tokensFrom_of_isBorder`: the tokens before a border, and those behind it.
* `IsComplete.isBorder_of_head?`: the border in front of a separator.
-/

namespace TripletFacts

/-! ### Ends of texts -/

/-- Whether a character can go on with a word, a name or a numeral. -/
def goesOn (c : Char) : Bool := Unicode.isWord c || Token.continuesName c || c == '.'

/-- Whether a text ends with a digit or a point and the letter of an exponent behind it. -/
def endsInMantissa (x : List Char) : Bool :=
  match x.reverse with
  | e :: d :: _ => (e == 'e' || e == 'E') && (isDigit d || d == '.')
  | _ => false

/-- Whether a text ends with a digit or a point and the letter and the sign of an exponent behind
it. -/
def endsInExponent (x : List Char) : Bool :=
  match x.reverse with
  | s :: x => (s == '+' || s == '-') && endsInMantissa x.reverse
  | _ => false

theorem endsInMantissa_append_pair (x : List Char) (d e : Char) :
    endsInMantissa (x ++ [d, e]) = ((e == 'e' || e == 'E') && (isDigit d || d == '.')) := by
  simp [endsInMantissa]

theorem endsInExponent_concat (x : List Char) (s : Char) :
    endsInExponent (x ++ [s]) = ((s == '+' || s == '-') && endsInMantissa x) := by
  simp [endsInExponent]

theorem exists_of_endsInMantissa {x : List Char} (h : endsInMantissa x = true) :
    ∃ y d e, x = y ++ [d, e] ∧ (e = 'e' ∨ e = 'E') ∧ (isDigit d = true ∨ d = '.') := by
  unfold endsInMantissa at h
  split at h
  · rename_i e d y hx
    refine ⟨y.reverse, d, e, ?_, by simpa using h⟩
    rw [← List.reverse_reverse x, hx]
    simp
  · cases h

theorem exists_of_endsInExponent {x : List Char} (h : endsInExponent x = true) :
    ∃ y s, x = y ++ [s] ∧ (s = '+' ∨ s = '-') ∧ endsInMantissa y = true := by
  unfold endsInExponent at h
  split at h
  · rename_i s y hx
    rw [Bool.and_eq_true] at h
    refine ⟨y.reverse, s, ?_, by simpa using h.1, h.2⟩
    rw [← List.reverse_reverse x, hx]
    simp
  · cases h

theorem endsInMantissa_append {y : List Char} (h : endsInMantissa y = true) (x : List Char) :
    endsInMantissa (x ++ y) = true := by
  obtain ⟨z, d, e, rfl, he, hd⟩ := exists_of_endsInMantissa h
  rw [← List.append_assoc, endsInMantissa_append_pair]
  simpa using ⟨he, hd⟩

theorem endsInExponent_append {y : List Char} (h : endsInExponent y = true) (x : List Char) :
    endsInExponent (x ++ y) = true := by
  obtain ⟨z, s, rfl, hs, hz⟩ := exists_of_endsInExponent h
  rw [← List.append_assoc, endsInExponent_concat, endsInMantissa_append hz]
  simpa using hs

theorem goesOn_of_isDigit {c : Char} (hc : isDigit c = true) : goesOn c = true := by
  simp [goesOn, continuesName_of_isDigit hc]

theorem goesOn_of_continuesName {c : Char} (hc : Token.continuesName c = true) :
    goesOn c = true := by
  simp [goesOn, hc]

/-- Numerals go on with a digit, a point, or the letter of an exponent. -/
theorem goesOn_of_mantissa {c : Char} (hc : isDigit c = true ∨ c = '.') : goesOn c = true := by
  rcases hc with hdigit | rfl
  · exact goesOn_of_isDigit hdigit
  · rfl

theorem goesOn_of_exponentLetter {c : Char} (hc : c = 'e' ∨ c = 'E') : goesOn c = true := by
  rcases hc with rfl | rfl <;> decide

/-! ### Borders -/

/-- Two texts between which no token reaches. -/
structure IsBorder (x y : List Char) : Prop where
  complete : IsComplete x
  word : ∀ c ∈ x.getLast?, ∀ d ∈ y.head?, goesOn c = true → goesOn d = false
  mantissa : endsInMantissa x = true → ∀ d ∈ y.head?, d ≠ '+' ∧ d ≠ '-'
  exponent : endsInExponent x = true → ∀ d ∈ y.head?, isDigit d = false
  sign : ∀ c ∈ x.getLast?, ∀ d ∈ y.head?, ∀ t, ([c, d], t) ∉ signs

section

variable {c d : Char} {x y r : List Char}

/-- Only on one side of a border there is a character that goes on. -/
theorem IsBorder.not_goesOn (h : IsBorder (x ++ [c]) r) (hr : r.head? = some d)
    (hc : goesOn c = true) : ¬goesOn d = true := by
  rw [h.word c (by simp) d hr hc]
  exact Bool.false_ne_true

theorem IsBorder.of_append (h : IsBorder (x ++ y) r) (hy : IsComplete y) : IsBorder y r := by
  have hlast : ∀ c ∈ y.getLast?, c ∈ (x ++ y).getLast? := by
    intro c hc
    rw [List.getLast?_append, Option.mem_def.1 hc]
    rfl
  exact ⟨hy, fun c hc => h.word c (hlast c hc), fun hm => h.mantissa (endsInMantissa_append hm x),
    fun he => h.exponent (endsInExponent_append he x), fun c hc => h.sign c (hlast c hc)⟩

theorem isQuote_eq_false_of_isCodeChar {c : Char} (h : isCodeChar c = true) :
    isQuote c = false := by
  cases hc : isQuote c with
  | false => rfl
  | true =>
    have hall : ['\'', '"'].any isCodeChar = false := by decide
    have hmem : c ∈ ['\'', '"'] := by simpa [isQuote] using hc
    exact absurd h (List.any_eq_false.1 hall c hmem)

/-- Behind code the text is complete. -/
theorem IsComplete.of_code_append {u x : List Char} (h : IsComplete (u ++ x))
    (hu : quoteFree u = true) : IsComplete x := by
  induction u with
  | nil => exact h
  | cons c u ih =>
    rw [quoteFree_cons] at hu
    exact ih (h.of_cons hu.1) hu.2

end

/-! ### Tokens before a border -/

/-- The letter of an exponent, and its digits, perhaps behind a sign. -/
theorem Exponent.exists_digits {e : Char} {u rest : List Char} (h : Exponent (e :: u) rest) :
    (e = 'e' ∨ e = 'E') ∧ ((∀ d ∈ u, isDigit d = true) ∨
      ∃ s digits, u = s :: digits ∧ (s = '+' ∨ s = '-') ∧ ∀ d ∈ digits, isDigit d = true) := by
  cases h with
  | some he hsign hne hdigits =>
    refine ⟨he, ?_⟩
    rcases hsign with rfl | rfl | rfl
    · exact .inl hdigits
    · exact .inr ⟨'+', _, rfl, .inl rfl, hdigits⟩
    · exact .inr ⟨'-', _, rfl, .inr rfl, hdigits⟩

namespace Token

section

variable {c d : Char} {cs r u rest : List Char} {t : Token} {n : Nat}

/-- The token of a closed literal ends with the literal. -/
theorem length_eq_of_closed {y : List Char} (hc : isQuote c = true)
    (hclosed : ∀ rest, splitLiteral c false (u ++ rest) = (u, rest))
    (hread : read? c (u ++ y) = some (t, n)) : n = u.length := by
  have hle := le_of_read?_eq_some hread
  rw [read?_quote hc, Option.map_eq_some_iff] at hread
  obtain ⟨⟨s, m⟩, hs, heq⟩ := hread
  obtain ⟨-, rfl⟩ := Prod.mk.inj heq
  have hsplit := (splitLiteral_of_readString (toOption_eq_some_iff.1 hs)).1
  rw [hclosed] at hsplit
  have hlength := congrArg List.length (Prod.mk.inj hsplit).1
  rw [List.length_take, Nat.min_eq_left hle] at hlength
  exact hlength.symm

/-- The exponent of a numeral does not reach over a border. -/
theorem not_exponent_of_isBorder {a w : List Char} {m e : Char}
    (h : IsBorder (a ++ m :: e :: w) r) (hr : r.head? = some d) (hm : isDigit m = true ∨ m = '.') :
    ¬Exponent (e :: (w ++ d :: u)) rest := by
  intro hexponent
  obtain ⟨he, hdigits⟩ := hexponent.exists_digits
  have hmantissa : endsInMantissa (a ++ [m, e]) = true := by
    rw [endsInMantissa_append_pair]
    simpa using ⟨he, hm⟩
  rcases hdigits with hdigits | ⟨s, digits, hw, hs, hdigits⟩
  · -- without a sign the border is behind the letter or a digit
    have hd : goesOn d = true := goesOn_of_isDigit (hdigits d (by simp))
    rcases List.eq_nil_or_concat w with rfl | ⟨w, z, rfl⟩
    · have h : IsBorder ((a ++ [m]) ++ [e]) r := by simpa using h
      exact h.not_goesOn hr (goesOn_of_exponentLetter he) hd
    · have h : IsBorder ((a ++ m :: e :: w) ++ [z]) r := by simpa using h
      exact h.not_goesOn hr (goesOn_of_isDigit (hdigits z (by simp))) hd
  · rcases List.append_eq_cons_iff.1 hw with ⟨rfl, hsign⟩ | ⟨w, rfl, rfl⟩
    · obtain ⟨rfl, -⟩ := List.cons_eq_cons.1 hsign
      have hnot := h.mantissa hmantissa d hr
      exact hs.elim hnot.1 hnot.2
    · have hd := hdigits d (by simp)
      rcases List.eq_nil_or_concat w with rfl | ⟨w, z, rfl⟩
      · have h : IsBorder ((a ++ [m, e]) ++ [s]) r := by simpa using h
        have hends : endsInExponent ((a ++ [m, e]) ++ [s]) = true := by
          rw [endsInExponent_concat, hmantissa]
          simpa using hs
        have hnot := h.exponent hends d hr
        rw [hd] at hnot
        cases hnot
      · have h : IsBorder ((a ++ m :: e :: s :: w) ++ [z]) r := by simpa using h
        exact h.not_goesOn hr (goesOn_of_isDigit (hdigits z (by simp))) (goesOn_of_isDigit hd)

/-- A numeral does not reach over a border. -/
theorem not_numeral_of_isBorder {x : Number} (h : IsBorder (c :: cs) r) (hr : r.head? = some d) :
    read? c ((cs ++ d :: u) ++ rest) ≠ some (.number x, (cs ++ d :: u).length) := by
  intro hread
  obtain ⟨hc, a, e, hsplit, ha, he⟩ := numeral_of_read? hread
  have hinside {y : List Char} {z : Char} (hlast : c :: cs = y ++ [z])
      (hz : isDigit z = true ∨ z = '.') (hd : goesOn d = true) : False :=
    (hlast ▸ h).not_goesOn hr (goesOn_of_mantissa hz) hd
  obtain ⟨y, z, hlast⟩ : ∃ y z, c :: cs = y ++ [z] :=
    ⟨_, _, (List.dropLast_concat_getLast (List.cons_ne_nil c cs)).symm⟩
  rw [← List.cons_append, List.append_eq_append_iff] at hsplit
  rcases hsplit with ⟨w, rfl, hw⟩ | ⟨w, hw, rfl⟩
  · -- the border is in front of the exponent
    have hz := ha z (by simp [hlast])
    rcases List.cons_eq_append_iff.1 hw with ⟨rfl, rfl⟩ | ⟨w, rfl, rfl⟩
    · exact hinside hlast hz (goesOn_of_exponentLetter he.exists_digits.1)
    · exact hinside hlast hz (goesOn_of_mantissa (ha d (by simp)))
  · cases w with
    | nil =>
      have hz := ha z (by rw [List.append_nil] at hw; simp [← hw, hlast])
      exact hinside hlast hz (goesOn_of_exponentLetter he.exists_digits.1)
    | cons e w =>
      obtain ⟨a, m, rfl⟩ : ∃ b m, a = b ++ [m] := by
        rcases List.eq_nil_or_concat a with rfl | ⟨b, m, rfl⟩
        · obtain ⟨rfl, -⟩ := List.cons_eq_cons.1 hw
          rcases he.exists_digits.1 with rfl | rfl <;> simp [isDigit] at hc
        · exact ⟨b, m, List.concat_eq_append⟩
      have h : IsBorder (a ++ m :: e :: w) r := by simpa [hw] using h
      exact not_exponent_of_isBorder h hr (ha m (by simp)) he

/-- A token that begins before a border ends before it. -/
theorem le_length_of_isBorder (h : IsBorder (c :: cs) r) (hread : read? c (cs ++ r) = some (t, n)) :
    n ≤ cs.length := by
  refine Nat.not_lt.1 fun hlt => ?_
  have hle := le_of_read?_eq_some hread
  cases r with
  | nil =>
    rw [List.append_nil] at hle
    omega
  | cons d r =>
    obtain ⟨u, rest, rfl, hlen⟩ : ∃ u rest, r = u ++ rest ∧ n = (cs ++ d :: u).length := by
      refine ⟨r.take (n - cs.length - 1), r.drop (n - cs.length - 1),
        (List.take_append_drop _ _).symm, ?_⟩
      simp only [List.length_append, List.length_cons, List.length_take] at hle ⊢
      omega
    have happend : cs ++ d :: (u ++ rest) = (cs ++ d :: u) ++ rest := by simp
    rw [happend, hlen] at hread
    cases hc : isQuote c with
    | true =>
      obtain ⟨body, y, rfl, hclosed, -⟩ := h.complete.exists_closed hc
      rw [List.append_assoc, List.append_assoc] at hread
      have hlength := length_eq_of_closed hc hclosed hread
      simp only [List.length_append, List.length_cons] at hlength
      omega
    | false =>
      cases hspelled : spelled_of_read? hc hread with
      | sign hmem =>
        have hlen := (by decide : ∀ s ∈ signs, s.1.length ≤ 2) _ hmem
        obtain ⟨rfl, rfl⟩ : cs = [] ∧ u = [] := by
          simp only [List.length_cons, List.length_append] at hlen
          exact ⟨List.eq_nil_of_length_eq_zero (by omega), List.eq_nil_of_length_eq_zero (by omega)⟩
        exact h.sign c rfl d rfl t hmem
      | number => exact not_numeral_of_isBorder h rfl hread
      | ident hstart hu =>
        obtain ⟨y, z, hlast⟩ : ∃ y z, c :: cs = y ++ [z] :=
          ⟨_, _, (List.dropLast_concat_getLast (List.cons_ne_nil c cs)).symm⟩
        have hz : Token.continuesName z = true := by
          have hmem : z ∈ c :: cs := by simp [hlast]
          rcases List.mem_cons.1 hmem with rfl | hmem
          · exact continuesName_of_startsName hstart
          · exact hu z (List.mem_append_left _ hmem)
        have hd := goesOn_of_continuesName (hu d (by simp))
        exact (hlast ▸ h).not_goesOn rfl (goesOn_of_continuesName hz) hd

/-- Behind the token at its beginning a text has the same border. -/
theorem isBorder_drop (h : IsBorder (c :: cs) r) (hread : read? c cs = some (t, n)) :
    IsBorder (cs.drop n) r := by
  have hsplit : c :: cs = (c :: cs.take n) ++ cs.drop n := by
    rw [List.cons_append, List.take_append_drop]
  have hcomplete : IsComplete (cs.drop n) := by
    cases hc : isQuote c with
    | false =>
      have hlen : n = (cs.take n).length := by
        rw [List.length_take, Nat.min_eq_left (le_of_read?_eq_some hread)]
      have hspelled : Spelled (c :: cs.take n) t := by
        have hread' : read? c (cs.take n ++ cs.drop n) = some (t, (cs.take n).length) := by
          rwa [List.take_append_drop, ← hlen]
        exact spelled_of_read? hc hread'
      have hquote : quoteFree (c :: cs.take n) = true := List.all_eq_true.2 fun x hx => by
        rw [isQuote_eq_false_of_isCodeChar (hspelled.isCodeChar x hx)]
        rfl
      exact (hsplit ▸ h.complete).of_code_append hquote
    | true =>
      obtain ⟨body, y, rfl, hclosed, hy⟩ := h.complete.exists_closed hc
      rw [length_eq_of_closed hc hclosed hread, List.drop_left]
      exact hy
  exact (hsplit ▸ h).of_append hcomplete

end

end Token

/-- The tokens before a border, and those behind it. -/
theorem exists_tokensFrom_of_isBorder {x y : List Char} (h : IsBorder x y) {p : Nat}
    {ts : List Placed} (hts : tokensFrom p (x ++ y) = .ok ts) :
    ∃ us vs, tokensFrom p x = .ok us ∧ tokensFrom (p + x.length) y = .ok vs ∧ ts = us ++ vs := by
  induction hn : x.length using Nat.strongRecOn generalizing x p ts with
  | ind k ih =>
    subst hn
    cases x with
    | nil => exact ⟨[], ts, by rw [tokensFrom], by simpa using hts, rfl⟩
    | cons c cs =>
      rw [List.cons_append, tokensFrom] at hts
      cases hc : Unicode.isBlank c with
      | true =>
        have hquote : isQuote c = false := by
          cases hq : isQuote c with
          | false => rfl
          | true => rw [isBlank_eq_false_of_isQuote hq] at hc; cases hc
        have htail : IsBorder cs y := IsBorder.of_append (x := [c]) h (h.complete.of_cons hquote)
        rw [if_pos hc] at hts
        obtain ⟨us, vs, hus, hvs, rfl⟩ := ih cs.length (by simp) htail hts rfl
        refine ⟨us, vs, by rw [tokensFrom, if_pos hc, hus], ?_, rfl⟩
        rw [List.length_cons, Nat.add_comm cs.length, ← Nat.add_assoc]
        exact hvs
      | false =>
        rw [if_neg (by simp [hc])] at hts
        split at hts
        · cases hts
        · rename_i t n hread
          have hread? : Token.read? c (cs ++ y) = some (t, n) := by
            rw [← Token.toOption_read p, hread]
            rfl
          have hle := Token.le_length_of_isBorder h hread?
          have hself := Token.read?_append_of_le hread? hle
          obtain ⟨ws, hws, rfl⟩ := map_eq_ok_iff.1 hts
          rw [List.drop_append_of_le_length hle] at hws
          obtain ⟨us, vs, hus, hvs, rfl⟩ :=
            ih (cs.drop n).length (length_drop_lt_cons n c cs) (Token.isBorder_drop h hself) hws rfl
          have hposition : p + 1 + n + (cs.drop n).length = p + (c :: cs).length := by
            rw [List.length_drop, List.length_cons]
            omega
          refine ⟨⟨t, p⟩ :: us, vs, ?_, hposition ▸ hvs, rfl⟩
          rw [tokensFrom, if_neg (by simp [hc]), Token.read_eq_ok_of_read? p hself]
          dsimp only
          rw [hus]
          rfl

/-! ### Separators -/

/-- Whether a character is no part of a word, a numeral or a sign of two characters. -/
def separates (c : Char) : Bool :=
  !goesOn c && !(['+', '-', '*', '=', '!', '<', '>', '&', '|'].contains c)

theorem separates_of_isQuote {c : Char} (hc : isQuote c = true) : separates c = true := by
  have hquote : c = '\'' ∨ c = '"' := by simpa [isQuote] using hc
  rcases hquote with rfl | rfl <;> decide

theorem goesOn_of_separates {c : Char} (hc : separates c = true) : goesOn c = false := by
  rw [separates, Bool.and_eq_true] at hc
  simpa using hc.1

/-- A sign of two characters does not end with a separator. -/
theorem not_mem_signs_of_separates {c d : Char} (h : separates d = true) (t : Token) :
    ([c, d], t) ∉ signs := by
  intro hmem
  have hall : ∀ s ∈ signs, s.1.length = 2 → (s.1.all fun x => !separates x) = true := by decide
  have hnot : separates c = false ∧ separates d = false := by simpa using hall _ hmem rfl
  rw [hnot.2] at h
  cases h

/-- In front of a separator there is a border. -/
theorem IsComplete.isBorder_of_head? {x y : List Char} (hx : IsComplete x)
    (hy : y.head?.all separates = true) : IsBorder x y := by
  have hhead {d : Char} (hd : d ∈ y.head?) : separates d = true := by
    rwa [Option.mem_def.1 hd] at hy
  refine ⟨hx, fun c _ d hd _ => goesOn_of_separates (hhead hd), fun _ d hd => ?_, fun _ d hd => ?_,
    fun c _ d hd => not_mem_signs_of_separates (hhead hd)⟩
  · constructor <;> rintro rfl <;> exact absurd (hhead hd) (by decide)
  · cases hdigit : isDigit d with
    | false => rfl
    | true =>
      have hgo := goesOn_of_separates (hhead hd)
      rw [goesOn_of_isDigit hdigit] at hgo
      cases hgo

end TripletFacts
