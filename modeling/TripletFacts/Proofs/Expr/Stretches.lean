import Mathlib.Data.List.DropRight
import Mathlib.Data.List.Forall2
import TripletFacts.Proofs.Expr.Prefix
import TripletFacts.Proofs.Expr.Spelling

/-!
# The stretches of a text

The positions of its tokens cut a text into stretches. A stretch has the characters of one token
and the blanks behind it, and the token depends on these characters only: it is the token that they
have by themselves, and it stays the same if other blanks come before the next stretch. So nothing
of a text is lost in its tokens but the blanks between them.

## Main definitions

* `stretches`: a text cut at the positions of its tokens.
* `trimEnd`: a text without the blanks at its end.
* `Joins`: texts put together with blanks between them.
* `Stretch`, `Stretch.IsRead`: a token with its characters and the blanks behind them.

## Main results

* `exists_stretches_of_tokensFrom`: a text that has tokens is made of stretches.
* `Stretch.IsRead.tokenize_source`: the characters of a token by themselves.
* `tokens?_of_joins`: the tokens of stretches with other blanks between them.
* `tokenize_lossless`: what the tokens keep of a text.
-/

namespace TripletFacts

/-! ### Cutting and joining -/

/-- The position where the next token begins, or the end of the text. -/
def nextPosition (text : List Char) : List Placed → Nat
  | [] => text.length
  | t :: _ => t.position

/-- The stretches of a text from each of its tokens up to the next one, or to the end. -/
def stretches (text : List Char) : List Placed → List (List Char)
  | [] => []
  | t :: ts => (text.take (nextPosition text ts)).drop t.position :: stretches text ts

/-- A text without the blanks at its end. -/
def trimEnd (text : List Char) : List Char := text.rdropWhile Unicode.isBlank

/-- Texts are put together in order, with at least one blank between any two neighbours. -/
inductive Joins : List (List Char) → List Char → Prop
  | none : Joins [] []
  | last (s : List Char) : Joins [s] s
  | more {s s' gap text : List Char} {ss : List (List Char)} (hne : gap ≠ [])
      (hgap : Unicode.allBlank gap = true) (h : Joins (s' :: ss) text) :
      Joins (s :: s' :: ss) (s ++ gap ++ text)

/-! ### Stretches -/

/-- A token with its characters and the blanks behind them. -/
structure Stretch where
  token : Token
  first : Char
  more : List Char
  gap : List Char

namespace Stretch

/-- The characters of the token. -/
def source (s : Stretch) : List Char := s.first :: s.more

/-- All characters. -/
def text (s : Stretch) : List Char := s.source ++ s.gap

/-- The characters are those of the token and nothing else, and blanks are behind them. -/
structure IsRead (s : Stretch) : Prop where
  first : Unicode.isBlank s.first = false
  read : Token.read? s.first s.more = some (s.token, s.more.length)
  gap : Unicode.allBlank s.gap = true

/-- The tokens of stretches, the first of which begins at the given position. -/
def place (position : Nat) : List Stretch → List Placed
  | [] => []
  | s :: ss => ⟨s.token, position⟩ :: place (position + s.text.length) ss

theorem map_token_place (position : Nat) (ss : List Stretch) :
    (place position ss).map Placed.token = ss.map token := by
  induction ss generalizing position with
  | nil => rfl
  | cons s ss ih => rw [place, List.map_cons, List.map_cons, ih]

theorem le_position_of_mem_place {position : Nat} {ss : List Stretch} {t : Placed}
    (h : t ∈ place position ss) : position ≤ t.position := by
  induction ss generalizing position with
  | nil => cases h
  | cons s ss ih =>
    rcases List.mem_cons.1 h with rfl | h
    · exact Nat.le_refl _
    · exact Nat.le_trans (Nat.le_add_right _ _) (ih h)

/-- A stretch has a character at least, so the next one begins behind its beginning. -/
theorem pairwise_place (position : Nat) (ss : List Stretch) :
    (place position ss).Pairwise fun t u => t.position < u.position := by
  induction ss generalizing position with
  | nil => exact .nil
  | cons s ss ih =>
    refine .cons (fun u hu => ?_) (ih _)
    have hpos : 0 < s.text.length := Nat.succ_pos _
    have hle := le_position_of_mem_place hu
    dsimp only
    omega

/-- The next token is the first one of the stretches that follow. -/
theorem nextPosition_place (before : List Char) (ss : List Stretch) :
    nextPosition (before ++ ss.flatMap text) (place before.length ss) = before.length := by
  cases ss with
  | nil => rw [List.flatMap_nil, List.append_nil, place, nextPosition]
  | cons s ss => rfl

/-- A text that is made of stretches is cut into them. -/
theorem stretches_place (before : List Char) (ss : List Stretch) :
    stretches (before ++ ss.flatMap text) (place before.length ss) = ss.map text := by
  induction ss generalizing before with
  | nil => rfl
  | cons s ss ih =>
    have hnext := nextPosition_place (before ++ s.text) ss
    have hrest := ih (before ++ s.text)
    rw [List.length_append, List.append_assoc, ← List.flatMap_cons] at hnext hrest
    rw [place, stretches, hnext, hrest, List.map_cons, List.flatMap_cons, ← List.append_assoc,
      ← List.length_append, List.take_left, List.drop_left]

end Stretch

/-- A text that has tokens begins with blanks, and then it is made of stretches. -/
theorem exists_stretches_of_tokensFrom {position : Nat} {text : List Char} {ts : List Placed}
    (h : tokensFrom position text = .ok ts) :
    ∃ lead ss, text = lead ++ ss.flatMap Stretch.text ∧ Unicode.allBlank lead = true ∧
      (∀ s ∈ ss, s.IsRead) ∧ ts = Stretch.place (position + lead.length) ss := by
  induction hn : text.length using Nat.strongRecOn generalizing position text ts with
  | ind n ih =>
    subst hn
    cases text with
    | nil =>
      rw [tokensFrom] at h
      cases h
      exact ⟨[], [], rfl, rfl, by simp, rfl⟩
    | cons c cs =>
      rw [tokensFrom] at h
      split at h
      · rename_i hblank
        obtain ⟨lead, ss, rfl, hlead, hss, rfl⟩ := ih cs.length (by simp) h rfl
        refine ⟨c :: lead, ss, rfl, ?_, hss, ?_⟩
        · rw [Unicode.allBlank, List.all_cons, hblank]
          exact hlead
        · rw [List.length_cons, Nat.add_comm lead.length, Nat.add_assoc]
      · rename_i hblank
        split at h
        · cases h
        rename_i t n hread
        obtain ⟨us, hus, rfl⟩ := map_eq_ok_iff.1 h
        have hread? : Token.read? c cs = some (t, n) := by
          rw [← Token.toOption_read position, hread]
          rfl
        have hle := Token.le_of_read?_eq_some hread?
        have hlen : (cs.take n).length = n := by rw [List.length_take, Nat.min_eq_left hle]
        obtain ⟨gap, ss, hrest, hgap, hss, rfl⟩ :=
          ih (cs.drop n).length (length_drop_lt_cons n c cs) hus rfl
        -- what was the beginning of the rest is the end of the new stretch
        refine ⟨[], ⟨t, c, cs.take n, gap⟩ :: ss, ?_, rfl, ?_, ?_⟩
        · rw [List.nil_append, List.flatMap_cons, Stretch.text, Stretch.source, List.append_assoc,
            ← hrest, List.cons_append, List.take_append_drop]
        · refine List.forall_mem_cons.2 ⟨⟨by simpa using hblank, ?_, hgap⟩, hss⟩
          have hself : Token.read? c (cs.take n ++ cs.drop n) = some (t, n) := by
            rwa [List.take_append_drop]
          rw [Token.read?_append_of_le hself (Nat.le_of_eq hlen.symm), hlen]
        · rw [Stretch.place, Stretch.text, Stretch.source, List.length_append, List.length_cons,
            hlen, Nat.add_assoc position 1 n, Nat.add_comm 1 n, Nat.add_assoc position (n + 1)]
          rfl

/-! ### The end of a token -/

/-- A text in quotes ends with its quote. -/
theorem Token.getLast?_of_readString {p : Nat} {quote : Char} {cs s : List Char} {n : Nat}
    (h : readString p quote cs = .ok (s, n)) : (cs.take n).getLast? = some quote := by
  fun_induction readString p quote cs generalizing s n with
  | case1 | case2 => cases h
  | case3 c cs ih =>
    obtain ⟨x, hs, heq⟩ := map_eq_ok_iff.1 h
    have hlast := ih hs
    cases heq
    rw [List.take_succ_cons, List.take_succ_cons, List.getLast?_cons, List.getLast?_cons, hlast]
    rfl
  | case4 cs =>
    cases h
    rfl
  | case5 c cs hc hc' hq ih =>
    obtain ⟨x, hs, heq⟩ := map_eq_ok_iff.1 h
    have hlast := ih hs
    cases heq
    rw [List.take_succ_cons, List.getLast?_cons, hlast]
    rfl

/-- A token of code has no blanks. -/
theorem Token.Spelled.isBlank_eq_false {u : List Char} {t : Token} (h : Spelled u t) {c : Char}
    (hc : c ∈ u) : Unicode.isBlank c = false := by
  have hname {x : Char} (hx : continuesName x = true) : Unicode.isBlank x = false := by
    cases hblank : Unicode.isBlank x with
    | false => rfl
    | true =>
      rw [continuesName_of_isBlank hblank] at hx
      cases hx
  cases h with
  | sign hmem =>
    have hall : ∀ s ∈ signs, s.1.all (fun x => !Unicode.isBlank x) = true := by decide
    simpa using List.all_eq_true.1 (hall _ hmem) c hc
  | number hu =>
    rcases hu c hc with hdigit | hmem
    · exact isBlank_of_isDigit hdigit
    · have hall : ['.', 'e', 'E', '+', '-'].all (fun x => !Unicode.isBlank x) = true := by decide
      simpa using List.all_eq_true.1 hall c hmem
  | ident hstart hu =>
    rcases List.mem_cons.1 hc with rfl | hc
    · exact hname (continuesName_of_startsName hstart)
    · exact hname (hu c hc)

namespace Stretch.IsRead

variable {s : Stretch}

/-- The last character of a token is no blank. -/
theorem isBlank_getLast (h : s.IsRead) :
    Unicode.isBlank (s.source.getLast (List.cons_ne_nil _ _)) = false := by
  cases hq : isQuote s.first with
  | true =>
    have hread := h.read
    rw [Token.read?_quote hq, Option.map_eq_some_iff] at hread
    obtain ⟨⟨u, n⟩, hu, heq⟩ := hread
    obtain ⟨-, rfl⟩ := Prod.mk.inj heq
    have hlast := Token.getLast?_of_readString (toOption_eq_some_iff.1 hu)
    rw [List.take_length] at hlast
    have hsource : s.source.getLast? = some s.first := by
      rw [source, List.getLast?_cons, hlast]
      rfl
    rw [List.getLast_of_getLast?_eq_some hsource]
    exact h.first
  | false =>
    have hread : Token.read? s.first (s.more ++ []) = some (s.token, s.more.length) := by
      rw [List.append_nil]
      exact h.read
    exact (Token.spelled_of_read? hq hread).isBlank_eq_false (List.getLast_mem _)

/-- Without the blanks at its end a stretch has just the characters of its token. -/
theorem trimEnd_text (h : s.IsRead) : trimEnd s.text = s.source := by
  have hgap := h.gap
  unfold text trimEnd
  generalize s.gap = gap at hgap
  induction gap using List.reverseRecOn with
  | nil =>
    rw [List.append_nil, List.rdropWhile_eq_self_iff]
    intro _
    simp [h.isBlank_getLast]
  | append_singleton gap c ih =>
    rw [Unicode.allBlank, List.all_append, Bool.and_eq_true] at hgap
    rw [← List.append_assoc, List.rdropWhile_concat_pos _ _ _ (by simpa using hgap.2)]
    exact ih hgap.1

/-- The characters of a token have this token by themselves. -/
theorem tokenize_source (h : s.IsRead) : tokenize s.source = .ok [⟨s.token, 0⟩] := by
  rw [tokenize, source, tokensFrom, if_neg (by simp [h.first]), Token.read_eq_ok_of_read? 0 h.read]
  dsimp only
  rw [List.drop_length, tokensFrom]
  rfl

/-- The token in front of blanks does not depend on what follows it. -/
theorem tokens?_source_append (h : s.IsRead) {gap : List Char} (hne : gap ≠ [])
    (hgap : Unicode.allBlank gap = true) (rest : List Char) :
    tokens? (s.source ++ gap ++ rest) = (tokens? rest).map (s.token :: ·) := by
  have hskip (gap : List Char) (hgap : Unicode.allBlank gap = true) :
      tokens? (gap ++ rest) = tokens? rest := by
    induction gap with
    | nil => rfl
    | cons c gap ih =>
      rw [Unicode.allBlank, List.all_cons, Bool.and_eq_true] at hgap
      rw [List.cons_append, tokens?_blank hgap.1, ih hgap.2]
  have hread : Token.read? s.first (s.more ++ (gap ++ rest)) = some (s.token, s.more.length) := by
    cases hq : isQuote s.first with
    | true =>
      have hread := h.read
      rw [Token.read?_quote hq, Option.map_eq_some_iff] at hread ⊢
      obtain ⟨⟨u, n⟩, hu, heq⟩ := hread
      obtain ⟨-, rfl⟩ := Prod.mk.inj heq
      have hself := (splitLiteral_of_readString (toOption_eq_some_iff.1 hu)).2 (gap ++ rest)
      rw [List.take_length] at hself
      exact ⟨_, toOption_eq_some_iff.2 hself, heq⟩
    | false =>
      obtain ⟨c, gap, rfl⟩ := List.exists_cons_of_ne_nil hne
      rw [Unicode.allBlank, List.all_cons, Bool.and_eq_true] at hgap
      rw [Token.read?_append (by simpa using stops_of_isBlank hgap.1) hq]
      exact h.read
  rw [source, List.append_assoc, List.cons_append, tokens?_token h.first hread, hskip gap hgap]

end Stretch.IsRead

/-- The tokens of stretches, with other blanks between them, are the same. -/
theorem tokens?_of_joins {ss : List Stretch} (hss : ∀ s ∈ ss, s.IsRead) {joined : List Char}
    (h : Joins (ss.map Stretch.source) joined) :
    tokens? joined = some (ss.map Stretch.token) := by
  induction ss generalizing joined with
  | nil =>
    cases h
    exact tokens?_nil
  | cons s ss ih =>
    rw [List.forall_mem_cons] at hss
    cases ss with
    | nil =>
      cases h
      exact tokens?_eq_some_iff.2 ⟨_, hss.1.tokenize_source, rfl⟩
    | cons s' ss =>
      cases h with
      | more hne hgap hrest =>
        rw [hss.1.tokens?_source_append hne hgap, ih hss.2 hrest]
        rfl

/-- **Tokens lose nothing but blanks.** The positions of the tokens of a text increase, and only
blanks are in front of the first one. The stretches from each position to the next one, or to the
end, are all the rest of the text. Each stretch, without the blanks at its end, has its own token
and no other by itself; and if these stretches are put together with any blanks between them, at
least one each time, then the tokens are again the same. -/
theorem tokenize_lossless {text : List Char} {ts : List Placed} (h : tokenize text = .ok ts) :
    ts.Pairwise (fun t u => t.position < u.position) ∧
      Unicode.allBlank (text.take (nextPosition text ts)) = true ∧
      text.take (nextPosition text ts) ++ (stretches text ts).flatten = text ∧
      List.Forall₂ (fun t s => tokenize (trimEnd s) = .ok [⟨t.token, 0⟩]) ts (stretches text ts) ∧
      ∀ joined, Joins ((stretches text ts).map trimEnd) joined →
        ∃ us, tokenize joined = .ok us ∧ us.map Placed.token = ts.map Placed.token := by
  obtain ⟨lead, ss, rfl, hlead, hss, rfl⟩ := exists_stretches_of_tokensFrom h
  have htrim : (ss.map Stretch.text).map trimEnd = ss.map Stretch.source := by
    rw [List.map_map]
    exact List.map_congr_left fun s hs => (hss s hs).trimEnd_text
  rw [Nat.zero_add, Stretch.nextPosition_place, Stretch.stretches_place, List.take_left, htrim]
  refine ⟨Stretch.pairwise_place _ ss, hlead, by rw [List.flatMap_def], ?_,
    fun joined hjoined => ?_⟩
  · -- along the stretches, wherever they begin
    generalize lead.length = position
    clear h htrim
    induction ss generalizing position with
    | nil => exact .nil
    | cons s ss ih =>
      rw [List.forall_mem_cons] at hss
      refine .cons ?_ (ih hss.2 _)
      rw [hss.1.trimEnd_text]
      exact hss.1.tokenize_source
  · obtain ⟨us, hus, hplain⟩ := tokens?_eq_some_iff.1 (tokens?_of_joins hss hjoined)
    exact ⟨us, hus, hplain.trans (Stretch.map_token_place _ ss).symm⟩

/-- A numeral in front of a letter that could begin an exponent, a sign of two characters, and a
text with a blank in front of its quote. -/
theorem tokenize_lossless_touching :
    tokenize " 12e<='b ' ".toList = .ok [⟨.number (.int 12), 1⟩, ⟨.ident "e", 3⟩,
        ⟨.op (.binary (.compare .le)), 4⟩, ⟨.str "b ", 6⟩] ∧
      ∃ us, tokenize "12\te  <= 'b '".toList = .ok us ∧ us.map Placed.token =
        [.number (.int 12), .ident "e", .op (.binary (.compare .le)), .str "b "] := by
  have htokens : tokenize " 12e<='b ' ".toList = .ok [⟨.number (.int 12), 1⟩, ⟨.ident "e", 3⟩,
      ⟨.op (.binary (.compare .le)), 4⟩, ⟨.str "b ", 6⟩] := by decide +kernel
  have htrim : (stretches " 12e<='b ' ".toList [⟨.number (.int 12), 1⟩, ⟨.ident "e", 3⟩,
      ⟨.op (.binary (.compare .le)), 4⟩, ⟨.str "b ", 6⟩]).map trimEnd =
        ["12".toList, "e".toList, "<=".toList, "'b '".toList] := by decide +kernel
  have hjoins : Joins ["12".toList, "e".toList, "<=".toList, "'b '".toList]
      "12\te  <= 'b '".toList :=
    .more (show ['\t'] ≠ [] by decide) (by decide) <|
      .more (show [' ', ' '] ≠ [] by decide) (by decide) <|
        .more (show [' '] ≠ [] by decide) (by decide) (.last _)
  exact ⟨htokens, (tokenize_lossless htokens).2.2.2.2 _ (htrim ▸ hjoins)⟩

end TripletFacts
