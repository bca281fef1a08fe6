import TripletFacts.Proofs.Condition.Connectives
import TripletFacts.Proofs.Condition.Filling
import TripletFacts.Proofs.Condition.LowerCalls
import TripletFacts.Proofs.Condition.PresenceCalls
import TripletFacts.Proofs.Condition.SignPasses

/-!
# Code of words between blanks

Every pass over a condition looks at one word at a time if a blank stands between any two words. The
code is normal already if each of its words is; no call asks for presence, because the word of a
call and its parenthesis are not apart; and the passes over references replace them word by word.

## Main definitions

* `joined`: words with blanks between them.
* `IsNormalWord`: words that are not normalized any further.
* `OpensApart`: a parenthesis opens at the beginning of a text or behind a blank.
* `Settings.substituteReferences`: the two passes over references.

## Main results

* `normalizeCode_joined`: code of normal words is normal.
* `Settings.resolvePresence_of_opensApart`: no call asks for presence.
* `Settings.substituteReferences_append_blank`: references are replaced word by word.
-/

namespace TripletFacts

open Regex Cursor

/-! ### Words with blanks between them -/

/-- Words with a blank between any two of them. There always is a first one. -/
def joined (w : List Char) (ws : List (List Char)) : List Char := w ++ ws.flatMap (' ' :: ·)

section

variable {w : List Char} {ws : List (List Char)}

@[simp] theorem joined_nil : joined w [] = w := List.append_nil w

theorem joined_cons (w v : List Char) (vs : List (List Char)) :
    joined w (v :: vs) = w ++ ' ' :: joined v vs := by
  rw [joined, joined, List.flatMap_cons, List.cons_append]

theorem append_joined (u w : List Char) (ws : List (List Char)) :
    u ++ joined w ws = joined (u ++ w) ws := (List.append_assoc u w _).symm

theorem mem_joined {c : Char} : c ∈ joined w ws ↔ c ∈ w ∨ ∃ v ∈ ws, c = ' ' ∨ c ∈ v := by
  simp [joined]

theorem quoteFree_joined (hw : quoteFree w = true) (hws : ∀ v ∈ ws, quoteFree v = true) :
    quoteFree (joined w ws) = true := by
  rw [quoteFree, List.all_eq_true] at hw ⊢
  intro c hc
  rcases mem_joined.1 hc with hc | ⟨v, hv, rfl | hc⟩
  · exact hw c hc
  · decide
  · exact List.all_eq_true.1 (hws v hv) c hc

end

/-! ### Normal words -/

/-- Words that are not normalized any further. -/
structure IsNormalWord (w : List Char) : Prop where
  blank : ∀ c ∈ w, Unicode.isBlank c = false
  quoteFree : quoteFree w = true
  connective : ∀ p ∈ connectiveWords, w ≠ p.1.toList
  caret : '^' ∉ w
  less : '<' ∈ w → w = ['<'] ∨ w = ['<', '=']
  equals : '=' ∈ w → ∃ o ∈ ['=', '!', '<', '>'], w = [o, '=']
  paren : '(' ∈ w → w = ['(']

theorem IsNormalWord.not_mem_blank {w : List Char} (h : IsNormalWord w) : ' ' ∉ w := by
  intro hmem
  exact absurd (h.blank ' ' hmem) (by decide)

section

variable {w : List Char} {ws : List (List Char)}

/-- What stands between blanks is replaced only where it is a word. -/
theorem replaceFrom_spaced_joined {word : String} {new : List Char} (hword : ' ' ∉ word.toList)
    (hw : ' ' ∉ w) (hws : ∀ v ∈ ws, ' ' ∉ v ∧ v ≠ word.toList) :
    replaceFrom (spaced word) new 0 (joined w ws) = joined w ws := by
  induction ws generalizing w with
  | nil =>
    rw [joined_nil]
    exact replaceFrom_of_not_mem _ _ hw
  | cons v vs ih =>
    simp only [List.mem_cons, forall_eq_or_imp] at hws
    have hprefix : ¬(spaced word).isPrefixOf (' ' :: joined v vs) = true := by
      rw [List.isPrefixOf_iff_prefix]
      rintro ⟨rest, hrest⟩
      have hrest : word.toList ++ ' ' :: rest = joined v vs := by simpa [spaced] using hrest
      cases vs with
      | nil =>
        rw [joined_nil] at hrest
        exact hws.1.1 (hrest ▸ by simp)
      | cons u us =>
        rw [joined_cons] at hrest
        exact hws.1.2 (eq_of_append_cons hrest hword hws.1.1).1.symm
    rw [joined_cons, spaced, replaceFrom_append_of_not_mem _ _ hw, ← spaced, replaceFrom,
      if_neg hprefix, ih hws.1.1 hws.2]

theorem replaceConnectives_joined (hw : IsNormalWord w) (hws : ∀ v ∈ ws, IsNormalWord v) :
    replaceConnectives (joined w ws) = joined w ws := by
  have hblank : ∀ p ∈ connectiveWords, ' ' ∉ p.1.toList := by decide
  refine replaceConnectives_eq_self fun p hp => ?_
  exact replaceFrom_spaced_joined (hblank p hp) hw.not_mem_blank fun v hv =>
    ⟨(hws v hv).not_mem_blank, (hws v hv).connective p hp⟩

/-- No sign for "unequal" is written in another way. -/
theorem replaceFrom_unequal_joined (hw : IsNormalWord w) (hws : ∀ v ∈ ws, IsNormalWord v)
    (new : List Char) : replaceFrom ['<', '>'] new 0 (joined w ws) = joined w ws := by
  have hword : ∀ {u : List Char}, IsNormalWord u → ∀ rest : List Char, rest.head? ≠ some '>' →
      replaceFrom ['<', '>'] new 0 (u ++ rest) = u ++ replaceFrom ['<', '>'] new 0 rest := by
    intro u hu rest hrest
    by_cases hmem : '<' ∈ u
    · rcases hu.less hmem with rfl | rfl
      · cases rest with
        | nil => rfl
        | cons c rest =>
          have hne : '>' ≠ c := fun h => hrest (h ▸ rfl)
          rw [List.cons_append, replaceFrom, if_neg (by simp [List.isPrefixOf, hne])]
          rfl
      · rw [List.cons_append, replaceFrom, if_neg (by simp [List.isPrefixOf]), List.cons_append,
          replaceFrom, if_neg (by simp [List.isPrefixOf])]
        rfl
    · exact replaceFrom_append_of_not_mem _ _ hmem rest
  induction ws generalizing w with
  | nil => simpa [replaceFrom] using hword hw [] (by simp)
  | cons v vs ih =>
    simp only [List.mem_cons, forall_eq_or_imp] at hws
    rw [joined_cons, hword hw _ (by simp), replaceFrom, if_neg (by simp [List.isPrefixOf]),
      ih hws.1 hws.2]

/-- No sign for "equal" is written in another way. -/
theorem doubleEquals_joined (hw : IsNormalWord w) (hws : ∀ v ∈ ws, IsNormalWord v)
    (previous : Option Char) : doubleEquals previous (joined w ws) = joined w ws := by
  have hword : ∀ {u : List Char}, IsNormalWord u → ∀ (previous : Option Char) (rest : List Char),
      ∃ previous', doubleEquals previous (u ++ rest) = u ++ doubleEquals previous' rest := by
    intro u hu previous rest
    by_cases hmem : '=' ∈ u
    · obtain ⟨o, ho, rfl⟩ := hu.equals hmem
      exact ⟨some '=', doubleEquals_pair ho previous rest⟩
    · exact doubleEquals_append_of_not_mem hmem previous rest
  induction ws generalizing w previous with
  | nil =>
    obtain ⟨previous', h⟩ := hword hw previous []
    simpa [doubleEquals] using h
  | cons v vs ih =>
    simp only [List.mem_cons, forall_eq_or_imp] at hws
    obtain ⟨previous', h⟩ := hword hw previous (' ' :: joined v vs)
    rw [joined_cons, h, doubleEquals, if_neg (by simp), ih hws.1 hws.2]

/-! ### Parentheses that open apart -/

/-- A parenthesis opens at the beginning of a text or behind a blank only. -/
def OpensApart (t : List Char) : Prop :=
  ∀ a b, t = a ++ '(' :: b → ∀ x ∈ a.getLast?, x = ' '

theorem opensApart_joined (hw : IsNormalWord w) (hws : ∀ v ∈ ws, IsNormalWord v) :
    OpensApart (joined w ws) := by
  -- a word with a parenthesis has nothing before it
  have hword : ∀ {u a b : List Char}, IsNormalWord u → u = a ++ '(' :: b → a = [] := by
    rintro u a b hu rfl
    have hpair := hu.paren (by simp)
    have hlen := congrArg List.length hpair
    simp only [List.length_append, List.length_cons, List.length_nil] at hlen
    exact List.eq_nil_of_length_eq_zero (by omega)
  induction ws generalizing w with
  | nil =>
    rintro a b hab x hx
    rw [joined_nil] at hab
    obtain rfl := hword hw hab
    cases hx
  | cons v vs ih =>
    simp only [List.mem_cons, forall_eq_or_imp] at hws
    rintro a b hab x hx
    rw [joined_cons] at hab
    rcases List.append_eq_append_iff.1 hab with ⟨a', rfl, ha'⟩ | ⟨b', rfl, hb'⟩
    · cases a' with
      | nil => cases ha'
      | cons c a' =>
        rw [List.cons_append] at ha'
        obtain ⟨rfl, htail⟩ := List.cons_eq_cons.1 ha'
        rcases a'.eq_nil_or_concat with rfl | ⟨a', d, rfl⟩
        · simpa using hx.symm
        · obtain rfl : d = x := by simpa [List.getLast?_append, List.getLast?_cons] using hx
          exact ih hws.1 hws.2 _ _ htail d (by simp)
    · cases b' with
      | nil => cases hb'
      | cons c b' =>
        rw [List.cons_append] at hb'
        obtain ⟨rfl, -⟩ := List.cons_eq_cons.1 hb'
        obtain rfl := hword hw rfl
        cases hx

/-- No name of a function stands before a parenthesis. -/
theorem lowerCalls_of_opensApart {t : List Char} (h : OpensApart t) : lowerCalls t = t := by
  fun_induction lowerCalls t with
  | case1 => rfl
  | case2 c cs hc ih =>
    -- the word ends with a character that is no blank
    have hword : ∀ x ∈ (c :: cs.takeWhile continuesWord).getLast?, x ≠ ' ' := by
      rintro x hx rfl
      have hmem := List.mem_of_getLast? hx
      rcases List.mem_cons.1 hmem with rfl | hmem
      · exact absurd hc (by decide)
      · exact absurd (List.all_eq_true.1 List.all_takeWhile _ hmem) (by decide)
    have hsplit : c :: cs = (c :: cs.takeWhile continuesWord) ++ cs.dropWhile continuesWord := by
      rw [List.cons_append, List.takeWhile_append_dropWhile]
    have hnot : (cs.dropWhile continuesWord).head? ≠ some '(' := by
      intro hhead
      obtain ⟨b, hb⟩ := List.head?_eq_some_iff.1 hhead
      obtain ⟨x, hx⟩ : ∃ x, x ∈ (c :: cs.takeWhile continuesWord).getLast? :=
        ⟨_, List.getLast?_eq_some_getLast (List.cons_ne_nil _ _)⟩
      exact hword x hx (h _ b (hb ▸ hsplit) x hx)
    have hrest : OpensApart (cs.dropWhile continuesWord) := by
      intro a b hab x hx
      refine h (c :: cs.takeWhile continuesWord ++ a) b ?_ x ?_
      · rw [hsplit, hab, List.append_assoc]
      · rw [List.getLast?_append, Option.mem_def.1 hx]
        rfl
    rw [lowerCall_of_not_call hnot, ih hrest, ← hsplit]
  | case3 c cs hc ih =>
    rw [ih]
    rintro a b rfl x hx
    refine h (c :: a) b rfl x ?_
    rw [← List.singleton_append, List.getLast?_append, Option.mem_def.1 hx]
    rfl

/-- Code that no step of normalizing changes is normal. -/
theorem normalizeCode_eq_self {t : List Char} (hconnectives : replaceConnectives t = t)
    (hunequal : replaceText "<>" "!=" t = t) (hequals : doubleEquals none t = t) (hcaret : '^' ∉ t)
    (hcalls : lowerCalls t = t) : normalizeCode t = t := by
  have hpower : replaceText "^" "**" t = t := replaceFrom_of_not_mem [] _ hcaret
  unfold replaceConnectives at hconnectives
  unfold normalizeCode
  dsimp only
  rw [hconnectives, hunequal, hequals, hpower, hcalls]

/-- Code of normal words is normal. -/
theorem normalizeCode_joined (hw : IsNormalWord w) (hws : ∀ v ∈ ws, IsNormalWord v) :
    normalizeCode (joined w ws) = joined w ws := by
  have hcaret : '^' ∉ joined w ws := by
    rw [mem_joined]
    rintro (h | ⟨v, hv, h | h⟩)
    · exact hw.caret h
    · cases h
    · exact (hws v hv).caret h
  exact normalizeCode_eq_self (replaceConnectives_joined hw hws)
    (replaceFrom_unequal_joined hw hws _) (doubleEquals_joined hw hws none) hcaret
    (lowerCalls_of_opensApart (opensApart_joined hw hws))

end

/-! ### Calls -/

namespace Settings

/-- A call has its word directly before its parenthesis. -/
theorem find?_callRegex_eq_none {t : List Char} (ht : OpensApart t) {word₁ word₂ : String}
    (h : ∀ word ∈ [word₁, word₂],
      (word.toList.map Unicode.fold).getLast?.any (· != Unicode.fold ' ') = true)
    (argument : Regex) : (callRegex word₁ word₂ argument).find? t = none := by
  rw [find?_eq_none_iff]
  rintro p q rfl c' hmatches
  obtain ⟨g', hleads⟩ := hmatches.exists_leads []
  obtain ⟨u, blanks, a₁, g₁, c₁, rfl, ⟨word, hword, hu⟩, -⟩ :=
    exists_leads_of_leads_callRegex hleads
  have hlast := h word hword
  rw [← hu, List.getLast?_map] at hlast
  cases hx : u.getLast? with
  | none => simp [hx] at hlast
  | some x =>
    have hblank : x = ' ' := ht (p ++ u) (blanks ++ a₁) (by simp) x (by simp [hx])
    simp [hx, hblank] at hlast

/-- No call asks for presence. -/
theorem resolvePresence_of_opensApart {t : List Char} (ht : OpensApart t) (facts db : Facts) :
    standard.resolvePresence facts db t = .ok t := by
  have hpresent : ∀ argument, (callRegex "ЕСТЬ" "PRESENT" argument).find? t = none :=
    find?_callRegex_eq_none ht (by decide)
  have habsent : ∀ argument, (callRegex "НЕТ" "ABSENT" argument).find? t = none :=
    find?_callRegex_eq_none ht (by decide)
  rw [resolvePresence_eq_ite (regex_present ▸ replaceM_of_find?_eq_none (hpresent _))
    (regex_absent ▸ replaceM_of_find?_eq_none (habsent _)), regex_presentBare, regex_absentBare,
    replaceM_of_find?_eq_none (hpresent _)]
  split
  · rfl
  · exact replaceM_of_find?_eq_none (habsent _)

end Settings

/-! ### References -/

section

variable {marked : Bool} {w : List Char} {ws : List (List Char)}

/-- A word that no other word touches: code, or a literal that is closed. -/
def IsSelfContained (w : List Char) : Prop := quoteFree w = true ∨ IsClosed w

theorem IsSelfContained.textParts_append_blank (hw : IsSelfContained w) (y : List Char) :
    textParts marked (w ++ ' ' :: y) = textParts marked w ++ .kept ' ' :: textParts marked y := by
  rcases hw with hw | hw
  · exact TripletFacts.textParts_append_blank marked hw y
  · have hself := textParts_closed_append marked hw []
    have hblank := TripletFacts.textParts_append_blank marked quoteFree_nil y
    rw [List.append_nil, textParts_nil, List.append_nil] at hself
    rw [textParts_nil, List.nil_append, List.nil_append] at hblank
    rw [textParts_closed_append marked hw, hself, hblank]

end

namespace Settings

/-- The two passes over references, one after the other. -/
def substituteReferences (facts db : Facts) (t : List Char) : Except EvalError (List Char) :=
  (mapCode (standard.substituteMarked facts) t).bind (mapCode (standard.substituteBare db))

/-- References are replaced word by word. -/
theorem substituteReferences_append_blank {facts db : Facts} {w : List Char}
    (hw : IsSelfContained w)
    (hm : ∀ m, mapCode (standard.substituteMarked facts) w = .ok m → IsSelfContained m)
    {y t : List Char} : substituteReferences facts db (w ++ ' ' :: y) = .ok t ↔
      ∃ x z, substituteReferences facts db w = .ok x ∧ substituteReferences facts db y = .ok z ∧
        t = x ++ ' ' :: z := by
  simp only [substituteReferences, bind_eq_ok_iff, mapCode_substituteMarked] at hm ⊢
  rw [hw.textParts_append_blank]
  simp only [Part.fill_append_eq_ok_iff, Part.fill_kept_cons_eq_ok_iff, mapCode_substituteBare]
  constructor
  · rintro ⟨-, ⟨m, -, hmarked, ⟨n, hn, rfl⟩, rfl⟩, hbare⟩
    rw [(hm m hmarked).textParts_append_blank] at hbare
    simp only [Part.fill_append_eq_ok_iff, Part.fill_kept_cons_eq_ok_iff] at hbare
    obtain ⟨x, -, hx, ⟨z, hz, rfl⟩, rfl⟩ := hbare
    exact ⟨x, z, ⟨m, hmarked, hx⟩, ⟨n, hn, hz⟩, rfl⟩
  · rintro ⟨x, z, ⟨m, hmarked, hx⟩, ⟨n, hn, hz⟩, rfl⟩
    refine ⟨m ++ ' ' :: n, ⟨m, _, hmarked, ⟨n, hn, rfl⟩, rfl⟩, ?_⟩
    rw [(hm m hmarked).textParts_append_blank]
    simp only [Part.fill_append_eq_ok_iff, Part.fill_kept_cons_eq_ok_iff]
    exact ⟨x, _, hx, ⟨z, hz, rfl⟩, rfl⟩

/-- Nothing stands for nothing. -/
theorem substituteReferences_nil {facts db : Facts} :
    substituteReferences facts db [] = .ok [] := by
  rw [substituteReferences, mapCode_substituteMarked, textParts_nil]
  change mapCode (standard.substituteBare db) [] = _
  rw [mapCode_substituteBare, textParts_nil]
  rfl

theorem substituteReferences_blank_cons {facts db : Facts} {y t : List Char} :
    substituteReferences facts db (' ' :: y) = .ok t ↔
      ∃ z, substituteReferences facts db y = .ok z ∧ t = ' ' :: z := by
  have hmarked : mapCode (standard.substituteMarked facts) [] = .ok [] := by
    rw [mapCode_substituteMarked, textParts_nil]
    rfl
  have hself {m : List Char} (hm : mapCode (standard.substituteMarked facts) [] = .ok m) :
      IsSelfContained m := by
    rw [hmarked] at hm
    exact .inl (Except.ok.inj hm ▸ quoteFree_nil)
  rw [← List.nil_append (' ' :: y),
    substituteReferences_append_blank (.inl quoteFree_nil) (fun _ => hself)]
  simp [substituteReferences_nil]

/-- What is put in for a word depends on that word, if a blank stands behind it. -/
theorem substituteReferences_append {facts db : Facts} {w y t : List Char}
    (hw : IsSelfContained w)
    (hm : ∀ m, mapCode (standard.substituteMarked facts) w = .ok m → IsSelfContained m)
    (hy : y = [] ∨ ∃ y', y = ' ' :: y') :
    substituteReferences facts db (w ++ y) = .ok t ↔
      ∃ x z, substituteReferences facts db w = .ok x ∧ substituteReferences facts db y = .ok z ∧
        t = x ++ z := by
  rcases hy with rfl | ⟨y, rfl⟩
  · simp [substituteReferences_nil]
  · rw [substituteReferences_append_blank hw hm]
    simp only [substituteReferences_blank_cons]
    constructor
    · rintro ⟨x, z, hx, hz, rfl⟩
      exact ⟨x, _, hx, ⟨z, hz, rfl⟩, rfl⟩
    · rintro ⟨x, -, hx, ⟨z, hz, rfl⟩, rfl⟩
      exact ⟨x, z, hx, hz, rfl⟩

/-- The passes over code, one after the other. -/
theorem substitute_of_quoteFree {t : List Char} (hq : quoteFree t = true) (hne : t ≠ [])
    (facts db : Facts) : standard.substitute facts db t =
      (standard.resolvePresence facts db t).bind (substituteReferences facts db) := by
  rw [substitute_eq_bind, mapCode_of_quoteFree _ hq hne]
  cases standard.resolvePresence facts db t <;> rfl

/-- Where no call asks for presence, only references are replaced. -/
theorem substitute_of_opensApart {t : List Char} (hq : quoteFree t = true) (ht : OpensApart t)
    (facts db : Facts) :
    standard.substitute facts db t = substituteReferences facts db t := by
  have hsegments : ∀ seg ∈ segments t, seg.text = t := by
    intro seg hseg
    rw [segments_of_quoteFree hq] at hseg
    split at hseg
    · cases hseg
    · rw [List.mem_singleton.1 hseg]
  rw [substitute_eq_bind, mapCode_eq_self fun seg hseg _ => ?_, substituteReferences]
  · rfl
  · rw [hsegments seg hseg]
    exact resolvePresence_of_opensApart ht facts db

end Settings

end TripletFacts
