import Mathlib.Data.List.Forall2
import Mathlib.Data.List.Pairwise
import TripletFacts.Proofs.Condition.Borders

/-!
# Literals and tokens

What a literal is, is decided twice: when a condition is cut into code and literals, and when the
text of an expression is split into tokens. Both scanners see the same literals in every text that
has tokens. A literal of such a text is closed, it stands where the token of a text stands, and it
is all that this token takes; code has only tokens of other kinds, since none of them reaches over
a quote.

## Main definitions

* `PlacedSegment`, `placedSegments`: the segments of a text with their positions.
* `Placed.source`: the characters that a token takes of a text.
* `PlacedSegment.Gives`: a segment is the source of a token.

## Main results

* `forall₂_gives_of_tokensFrom`: from any position on, the literals are the sources of the tokens of
  texts.
* `literals_give_tokens`: the literals of a text, its code and its tokens.
-/

namespace TripletFacts

/-! ### Segments and their positions -/

/-- A segment and the number of characters in front of it. -/
structure PlacedSegment where
  segment : Segment
  position : Nat
deriving DecidableEq

namespace PlacedSegment

/-- The number of characters up to the end of a segment. -/
def stop (s : PlacedSegment) : Nat := s.position + s.segment.text.length

/-- Whether a segment is a literal. -/
def isLiteral (s : PlacedSegment) : Bool := !s.segment.isCode

end PlacedSegment

/-- Segments, one after the other, of which the first one begins at the given position. -/
def placeSegments (position : Nat) : List Segment → List PlacedSegment
  | [] => []
  | s :: ss => ⟨s, position⟩ :: placeSegments (position + s.text.length) ss

/-- The segments of a text with their positions. -/
def placedSegments (text : List Char) : List PlacedSegment := placeSegments 0 (segments text)

theorem map_segment_placeSegments (p : Nat) (ss : List Segment) :
    (placeSegments p ss).map PlacedSegment.segment = ss := by
  induction ss generalizing p with
  | nil => rfl
  | cons s ss ih => rw [placeSegments, List.map_cons, ih]

theorem position_le_of_mem_placeSegments {p : Nat} {ss : List Segment} {s : PlacedSegment}
    (h : s ∈ placeSegments p ss) : p ≤ s.position := by
  induction ss generalizing p with
  | nil => cases h
  | cons t ss ih =>
    rcases List.mem_cons.1 h with rfl | h
    · exact Nat.le_refl _
    · exact Nat.le_trans (Nat.le_add_right _ _) (ih h)

/-- A segment ends before the next one begins. -/
theorem pairwise_placeSegments (p : Nat) (ss : List Segment) :
    (placeSegments p ss).Pairwise fun s t => s.stop ≤ t.position := by
  induction ss generalizing p with
  | nil => exact .nil
  | cons s ss ih => exact .cons (fun t ht => position_le_of_mem_placeSegments ht) (ih _)

/-- Of two segments one ends before the other begins. -/
theorem stop_le_position_of_ne {p : Nat} {ss : List Segment} {s t : PlacedSegment}
    (hs : s ∈ placeSegments p ss) (ht : t ∈ placeSegments p ss) (hne : s ≠ t) :
    s.stop ≤ t.position ∨ t.stop ≤ s.position := by
  have hapart : (placeSegments p ss).Pairwise
      fun s t => s.stop ≤ t.position ∨ t.stop ≤ s.position :=
    (pairwise_placeSegments p ss).imp .inl
  have : Std.Symm fun s t : PlacedSegment => s.stop ≤ t.position ∨ t.stop ≤ s.position :=
    ⟨fun _ _ => Or.symm⟩
  exact hapart.forall hs ht hne

/-! ### Tokens and their characters -/

/-- Whether a token is a text. -/
def Token.isStr : Token → Bool
  | str _ => true
  | _ => false

/-- The characters that a token takes of a text. -/
def Placed.source (text : List Char) (t : Placed) : List Char :=
  match text.drop t.position with
  | [] => []
  | c :: cs =>
    match Token.read t.position c cs with
    | .ok (_, n) => c :: cs.take n
    | .error _ => []

theorem Placed.source_eq {before cs : List Char} {c : Char} {t : Token} {n : Nat}
    (h : Token.read before.length c cs = .ok (t, n)) (u : Token) :
    Placed.source (before ++ c :: cs) ⟨u, before.length⟩ = c :: cs.take n := by
  simp only [source, List.drop_left, h]

/-- The token at a character that is no quote is no text. -/
theorem Token.isStr_of_read {p : Nat} {c : Char} {cs : List Char} {t : Token} {n : Nat}
    (hc : isQuote c = false) (h : read p c cs = .ok (t, n)) : t.isStr = false := by
  have hread : read? c cs = some (t, n) := by
    rw [← toOption_read p, h]
    rfl
  cases begins_of_read?_eq_some hread with
  | str hquote =>
    rw [hc] at hquote
    cases hquote
  | _ => rfl

theorem Token.le_of_read_eq_ok {p : Nat} {c : Char} {cs : List Char} {t : Token} {n : Nat}
    (h : read p c cs = .ok (t, n)) : n ≤ cs.length := by
  refine le_of_read?_eq_some (c := c) (t := t) ?_
  rw [← toOption_read p, h]
  rfl

/-- Code has no token that is a text. -/
theorem isStr_of_tokensFrom {cs : List Char} (hcs : quoteFree cs = true) {p : Nat}
    {ts : List Placed} (hts : tokensFrom p cs = .ok ts) : ∀ t ∈ ts, t.token.isStr = false := by
  induction hn : cs.length using Nat.strongRecOn generalizing cs p ts with
  | ind n ih =>
    subst hn
    cases cs with
    | nil =>
      rw [tokensFrom] at hts
      cases hts
      simp
    | cons c cs =>
      rw [quoteFree_cons] at hcs
      rw [tokensFrom] at hts
      split at hts
      · exact ih cs.length (by simp) hcs.2 hts rfl
      · split at hts
        · cases hts
        · rename_i t n hread
          obtain ⟨us, hus, rfl⟩ := map_eq_ok_iff.1 hts
          have hdrop : quoteFree (cs.drop n) = true :=
            quoteFree_of_subset (List.drop_subset n cs) hcs.2
          have hrest := ih (cs.drop n).length (length_drop_lt_cons n c cs) hdrop hus rfl
          exact List.forall_mem_cons.2 ⟨Token.isStr_of_read hcs.1 hread, hrest⟩

/-! ### The literals of a text -/

/-- A segment stands where a token stands, is all that the token takes of the text, and gives this
token and no other by itself. -/
structure PlacedSegment.Gives (text : List Char) (s : PlacedSegment) (t : Placed) : Prop where
  position : s.position = t.position
  source : s.segment.text = t.source text
  alone : tokenize s.segment.text = .ok [⟨t.token, 0⟩]

/-- The token at a quote is the text of the literal there, whatever follows the literal. -/
theorem Token.exists_of_read_quote {p : Nat} {c : Char} {cs : List Char} {t : Token} {n : Nat}
    (hc : isQuote c = true) (h : read p c cs = .ok (t, n)) :
    (∃ s, t = .str s) ∧ splitLiteral c false cs = (cs.take n, cs.drop n) ∧
      tokenize (c :: cs.take n) = .ok [⟨t, 0⟩] := by
  have hquote : c = '\'' ∨ c = '"' := by simpa [isQuote] using hc
  have hread (p : Nat) (cs : List Char) : read p c cs =
      (readString p c cs).map fun r => (.str (String.ofList r.1), r.2) := by
    rcases hquote with rfl | rfl <;> rfl
  rw [hread] at h
  obtain ⟨⟨s, m⟩, hs, heq⟩ := map_eq_ok_iff.1 h
  obtain ⟨rfl, hwidth⟩ := Prod.mk.inj heq
  obtain rfl : n = m := hwidth.symm
  obtain ⟨hsplit, hself⟩ := splitLiteral_of_readString hs
  refine ⟨⟨_, rfl⟩, hsplit, ?_⟩
  have halone : read 0 c (cs.take n) = .ok (.str (String.ofList s), n) := by
    refine read_eq_ok_of_read? 0 ?_
    have hself := hself []
    rw [List.append_nil] at hself
    rw [← toOption_read p, hread, hself]
    rfl
  have hend : (cs.take n).drop n = [] := List.drop_eq_nil_of_le (List.length_take_le n cs)
  rw [tokenize, tokensFrom, if_neg (by simp [isBlank_eq_false_of_isQuote hc]), halone]
  dsimp only
  rw [hend, tokensFrom]
  rfl

/-- From any position on, the literals are the sources of the tokens of texts, in order. -/
theorem forall₂_gives_of_tokensFrom {before rest : List Char} {ts : List Placed}
    (hts : tokensFrom before.length rest = .ok ts) :
    List.Forall₂ (PlacedSegment.Gives (before ++ rest))
      ((placeSegments before.length (segments rest)).filter PlacedSegment.isLiteral)
      (ts.filter (·.token.isStr)) := by
  -- along the segments; the text before them grows by each segment
  fun_induction segments rest generalizing before ts with
  | case1 =>
    rw [tokensFrom] at hts
    cases hts
    exact .nil
  | case2 c cs hc ih =>
    rw [tokensFrom, if_neg (by simp [isBlank_eq_false_of_isQuote hc])] at hts
    split at hts
    · cases hts
    rename_i t n hread
    obtain ⟨us, hus, rfl⟩ := map_eq_ok_iff.1 hts
    obtain ⟨⟨s, rfl⟩, hsplit, halone⟩ := Token.exists_of_read_quote hc hread
    have hgives : PlacedSegment.Gives (before ++ c :: cs) ⟨⟨false, c :: cs.take n⟩, before.length⟩
        ⟨.str s, before.length⟩ := ⟨rfl, (Placed.source_eq hread _).symm, halone⟩
    have hbehind : (before ++ c :: cs.take n).length = before.length + 1 + n := by
      have hle := Token.le_of_read_eq_ok hread
      rw [List.length_append, List.length_cons, List.length_take]
      omega
    rw [hsplit] at ih ⊢
    have hrest := ih (hbehind ▸ hus)
    rw [List.append_assoc, List.cons_append, List.take_append_drop, List.length_append] at hrest
    exact .cons hgives hrest
  | case3 c cs hc ih =>
    have hcode := quoteFree_cons_takeWhile hc cs
    have hborder : IsBorder (c :: cs.takeWhile (!isQuote ·)) (cs.dropWhile (!isQuote ·)) :=
      IsComplete.isBorder_of_head? (.code hcode)
        (all_head?_dropWhile_not_isQuote (fun _ => separates_of_isQuote) cs)
    have hcut : c :: cs = (c :: cs.takeWhile (!isQuote ·)) ++ cs.dropWhile (!isQuote ·) := by
      rw [List.cons_append, List.takeWhile_append_dropWhile]
    rw [hcut] at hts ⊢
    obtain ⟨us, vs, hus, hvs, rfl⟩ := exists_tokensFrom_of_isBorder hborder hts
    have hcodeTokens : us.filter (·.token.isStr) = [] :=
      List.filter_eq_nil_iff.2 fun t ht => by simp [isStr_of_tokensFrom hcode hus t ht]
    rw [← List.length_append] at hvs
    have hrest := ih hvs
    rw [List.append_assoc, List.length_append] at hrest
    rw [List.filter_append, hcodeTokens]
    exact hrest

/-- What stands on the right stands beside something on the left. -/
theorem exists_mem_of_forall₂ {α β : Type} {R : α → β → Prop} {as : List α} {bs : List β}
    (h : List.Forall₂ R as bs) {b : β} (hb : b ∈ bs) : ∃ a ∈ as, R a b := by
  induction h with
  | nil => cases hb
  | cons hr _ ih =>
    rcases List.mem_cons.1 hb with rfl | hb
    · exact ⟨_, List.mem_cons_self, hr⟩
    · obtain ⟨a, ha, hr⟩ := ih hb
      exact ⟨a, List.mem_cons_of_mem _ ha, hr⟩

/-- **A text is cut into literals and code just where its tokens are.** If a text has tokens, then
its literals are the sources of those of its tokens that are texts, in order; no code has a part of
such a token; and the segments are the text. -/
theorem literals_give_tokens {text : List Char} {ts : List Placed} (h : tokenize text = .ok ts) :
    List.Forall₂ (PlacedSegment.Gives text)
        ((placedSegments text).filter PlacedSegment.isLiteral) (ts.filter (·.token.isStr)) ∧
      (∀ s ∈ placedSegments text, s.isLiteral = false → ∀ t ∈ ts, t.token.isStr = true →
        s.stop ≤ t.position ∨ t.position + (t.source text).length ≤ s.position) ∧
      (placedSegments text).flatMap (·.segment.text) = text := by
  have hgives := @forall₂_gives_of_tokensFrom [] text ts h
  refine ⟨hgives, fun s hs hcode t ht hstr => ?_, ?_⟩
  · obtain ⟨l, hl, hposition, hsource, -⟩ :=
      exists_mem_of_forall₂ hgives (List.mem_filter.2 ⟨ht, hstr⟩)
    obtain ⟨hl, hliteral⟩ := List.mem_filter.1 hl
    have hne : s ≠ l := by
      rintro rfl
      rw [hcode] at hliteral
      cases hliteral
    rw [List.nil_append] at hsource
    rw [← hposition, ← hsource]
    exact stop_le_position_of_ne hs hl hne
  · have hsegments := congrArg (List.flatMap Segment.text)
      (map_segment_placeSegments 0 (segments text))
    rw [text_segments, List.flatMap_map] at hsegments
    exact hsegments

/-- Literals with both kinds of quotes, an escaped quote, and no blank between two of them. -/
theorem literals_give_tokens_both_quotes :
    List.Forall₂ (PlacedSegment.Gives "'a\\'b'\"c\" + x == \"it's\"".toList)
      [⟨⟨false, "'a\\'b'".toList⟩, 0⟩, ⟨⟨false, "\"c\"".toList⟩, 6⟩,
        ⟨⟨false, "\"it's\"".toList⟩, 17⟩]
      [⟨.str "a'b", 0⟩, ⟨.str "c", 6⟩, ⟨.str "it's", 17⟩] := by
  have htokens : tokenize "'a\\'b'\"c\" + x == \"it's\"".toList =
      .ok [⟨.str "a'b", 0⟩, ⟨.str "c", 6⟩, ⟨.op (.binary (.compute .add)), 10⟩, ⟨.ident "x", 12⟩,
        ⟨.op (.binary (.compare .eq)), 14⟩, ⟨.str "it's", 17⟩] := by decide +kernel
  have hliterals : (placedSegments "'a\\'b'\"c\" + x == \"it's\"".toList).filter
      PlacedSegment.isLiteral = [⟨⟨false, "'a\\'b'".toList⟩, 0⟩, ⟨⟨false, "\"c\"".toList⟩, 6⟩,
        ⟨⟨false, "\"it's\"".toList⟩, 17⟩] := by decide +kernel
  exact hliterals ▸ (literals_give_tokens htokens).1

end TripletFacts
