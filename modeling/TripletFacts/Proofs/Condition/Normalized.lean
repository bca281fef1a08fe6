import TripletFacts.Condition.Evaluate
import TripletFacts.Proofs.Condition.Template
import TripletFacts.Proofs.Unicode.Classes

/-!
# Normalized conditions

Normalizing a condition changes its code and keeps its literals. It brings no quotes into code and
leaves no code empty, so that the segments of the normalized condition are the normalized segments
of the condition.

## Main results

* `quoteFree_normalizeCode`: normalized code has no quotes.
* `normalizeCode_ne_nil`: normalized code is not empty.
* `segments_normalizeCondition`: the segments of a normalized condition.
-/

namespace TripletFacts

/-! ### Code without quotes -/

section

variable {cs : List Char}

theorem quoteFree_replaceFrom {old new : List Char} (hnew : quoteFree new = true)
    (hcs : quoteFree cs = true) (skip : Nat) : quoteFree (replaceFrom old new skip cs) = true := by
  induction cs generalizing skip with
  | nil => cases skip <;> rfl
  | cons c cs ih =>
    rw [quoteFree_cons] at hcs
    cases skip with
    | zero =>
      rw [replaceFrom]
      split
      · exact quoteFree_append.2 ⟨hnew, ih hcs.2 _⟩
      · exact quoteFree_cons.2 ⟨hcs.1, ih hcs.2 0⟩
    | succ skip => exact ih hcs.2 skip

theorem quoteFree_replaceText {new : String} (old : String)
    (hnew : quoteFree new.toList = true) (hcs : quoteFree cs = true) :
    quoteFree (replaceText old new cs) = true :=
  quoteFree_replaceFrom hnew hcs 0

theorem quoteFree_doubleEquals (hcs : quoteFree cs = true) (previous : Option Char) :
    quoteFree (doubleEquals previous cs) = true := by
  induction cs generalizing previous with
  | nil => rfl
  | cons c cs ih =>
    rw [quoteFree_cons] at hcs
    rw [doubleEquals]
    split
    · exact quoteFree_cons.2 ⟨rfl, quoteFree_cons.2 ⟨rfl, ih hcs.2 _⟩⟩
    · exact quoteFree_cons.2 ⟨hcs.1, ih hcs.2 _⟩

theorem isQuote_asciiLower (c : Char) : isQuote (asciiLower c) = isQuote c :=
  of_asciiLower (P := fun c d => isQuote d = isQuote c) (fun _ => rfl) (by decide) c

theorem quoteFree_lowerCall {word : List Char} (hword : quoteFree word = true) (rest : List Char) :
    quoteFree (lowerCall word rest) = true := by
  unfold lowerCall
  dsimp only
  split
  · simpa [quoteFree, Function.comp_def, isQuote_asciiLower] using hword
  · exact hword

theorem quoteFree_lowerCalls (hcs : quoteFree cs = true) : quoteFree (lowerCalls cs) = true := by
  fun_induction lowerCalls cs with
  | case1 => rfl
  | case2 c cs hc ih =>
    rw [quoteFree_cons] at hcs
    have htake := quoteFree_of_subset (List.takeWhile_subset continuesWord) hcs.2
    have hdrop := quoteFree_of_subset (List.dropWhile_subset continuesWord) hcs.2
    exact quoteFree_append.2 ⟨quoteFree_lowerCall (quoteFree_cons.2 ⟨hcs.1, htake⟩) _, ih hdrop⟩
  | case3 c cs hc ih =>
    rw [quoteFree_cons] at hcs
    exact quoteFree_cons.2 ⟨hcs.1, ih hcs.2⟩

/-- Normalizing brings no quotes into code. -/
theorem quoteFree_normalizeCode (hcs : quoteFree cs = true) :
    quoteFree (normalizeCode cs) = true := by
  have hconnectives : ∀ pairs : List (String × String),
      (∀ pair ∈ pairs, quoteFree pair.2.toList = true) → ∀ cs, quoteFree cs = true →
        quoteFree (pairs.foldl (fun code pair => replaceText pair.1 pair.2 code) cs) = true := by
    intro pairs hpairs
    induction pairs with
    | nil => exact fun cs hcs => hcs
    | cons pair pairs ih =>
      simp only [List.mem_cons, forall_eq_or_imp] at hpairs
      exact fun cs hcs => ih hpairs.2 _ (quoteFree_replaceText _ hpairs.1 hcs)
  refine quoteFree_lowerCalls (quoteFree_replaceText _ (by decide) (quoteFree_doubleEquals
    (quoteFree_replaceText _ (by decide) (hconnectives _ (by decide) _ hcs)) _))

end

/-! ### Segments -/

theorem replaceFrom_ne_nil {old new cs : List Char} (hnew : new ≠ []) (hcs : cs ≠ []) :
    replaceFrom old new 0 cs ≠ [] := by
  cases cs with
  | nil => exact absurd rfl hcs
  | cons c cs =>
    rw [replaceFrom]
    split
    · simp [hnew]
    · simp

theorem doubleEquals_ne_nil {cs : List Char} (hcs : cs ≠ []) (previous : Option Char) :
    doubleEquals previous cs ≠ [] := by
  cases cs with
  | nil => exact absurd rfl hcs
  | cons c cs =>
    rw [doubleEquals]
    split <;> simp

theorem lowerCalls_ne_nil {cs : List Char} (hcs : cs ≠ []) : lowerCalls cs ≠ [] := by
  cases cs with
  | nil => exact absurd rfl hcs
  | cons c cs =>
    rw [lowerCalls]
    split
    · unfold lowerCall
      dsimp only
      split <;> simp
    · simp

/-- Normalized code is not empty. -/
theorem normalizeCode_ne_nil {cs : List Char} (hcs : cs ≠ []) : normalizeCode cs ≠ [] := by
  have hconnectives : ∀ pairs : List (String × String),
      (∀ pair ∈ pairs, pair.2.toList ≠ []) → ∀ cs, cs ≠ [] →
        pairs.foldl (fun code pair => replaceText pair.1 pair.2 code) cs ≠ [] := by
    intro pairs hpairs
    induction pairs with
    | nil => exact fun cs hcs => hcs
    | cons pair pairs ih =>
      simp only [List.mem_cons, forall_eq_or_imp] at hpairs
      exact fun cs hcs => ih hpairs.2 _ (replaceFrom_ne_nil hpairs.1 hcs)
  exact lowerCalls_ne_nil (replaceFrom_ne_nil (by decide) (doubleEquals_ne_nil
    (replaceFrom_ne_nil (by decide) (hconnectives _ (by decide) _ hcs)) _))

/-- The code before a text is a part of its code. -/
theorem codeOf_append_of_quoteFree {u : List Char} (hu : quoteFree u = true) (rest : List Char) :
    codeOf (u ++ rest) = u ++ codeOf rest := by
  rw [codeOf, segments_append_code hu, codeOf]
  cases segments rest with
  | nil => by_cases hnil : u = [] <;> simp [consCode, hnil]
  | cons s ss =>
    obtain ⟨isCode, text⟩ := s
    cases isCode with
    | true => simp [consCode]
    | false => by_cases hnil : u = [] <;> simp [consCode, hnil]

theorem codeOf_nil : codeOf [] = [] := by rw [codeOf, segments, List.filter_nil, List.flatMap_nil]

theorem codeOf_of_quoteFree {u : List Char} (hu : quoteFree u = true) : codeOf u = u := by
  have happend := codeOf_append_of_quoteFree hu []
  rwa [List.append_nil, codeOf_nil, List.append_nil] at happend

/-- A literal before a text is no part of its code. -/
theorem codeOf_append_of_isClosed {l : List Char} (h : IsClosed l) (rest : List Char) :
    codeOf (l ++ rest) = codeOf rest := by
  rw [codeOf, segments_append_closed h]
  rfl

/-- A segment with its code normalized. -/
def Segment.normalize (seg : Segment) : Segment :=
  if seg.isCode then ⟨true, normalizeCode seg.text⟩ else seg

/-- After a stretch of code a text begins with a literal, or it ends. -/
theorem segments_dropWhile_not_isQuote (cs : List Char) :
    segments (cs.dropWhile (!isQuote ·)) = [] ∨
      ∃ t ss, segments (cs.dropWhile (!isQuote ·)) = ⟨false, t⟩ :: ss := by
  have hhead := List.head?_dropWhile_not (!isQuote ·) cs
  cases h : cs.dropWhile (!isQuote ·) with
  | nil => exact .inl (by rw [segments])
  | cons c rest =>
    rw [h] at hhead
    exact .inr ⟨_, _, by rw [segments, if_pos (by simpa using hhead)]⟩

/-- The segments of a normalized condition are the normalized segments of the condition. -/
theorem segments_normalizeCondition (condition : List Char) :
    segments (Settings.normalizeCondition condition) =
      (segments condition).map Segment.normalize := by
  unfold Settings.normalizeCondition
  fun_induction segments condition with
  | case1 => simp [segments]
  | case2 c cs hc ih =>
    rw [List.flatMap_cons, if_neg (by simp), List.map_cons, ← ih]
    by_cases h : (splitLiteral c false cs).2 = []
    · rw [h]
      simpa [segments, Segment.normalize] using
        segments_of_isOpen ⟨c, (splitLiteral c false cs).1, hc, rfl, splitLiteral_open h⟩
    · exact segments_append_closed ⟨c, _, hc, rfl, splitLiteral_closed h⟩ _
  | case3 c cs hc ih =>
    have hcode := quoteFree_cons_takeWhile hc cs
    rw [List.flatMap_cons, if_pos rfl, segments_append_code (quoteFree_normalizeCode hcode), ih,
      List.map_cons]
    have hne := normalizeCode_ne_nil (List.cons_ne_nil c (cs.takeWhile (!isQuote ·)))
    -- a literal follows, or nothing, and so no code is joined
    rcases segments_dropWhile_not_isQuote cs with h | ⟨t, ss, h⟩
    · rw [h, List.map_nil, consCode, if_neg hne]
      · rfl
      · simp
    · rw [h, List.map_cons, show Segment.normalize ⟨false, t⟩ = ⟨false, t⟩ from rfl, consCode,
        if_neg hne]
      · rfl
      · simp

/-- Code is normalized as a whole. -/
theorem normalizeCondition_of_quoteFree {t : List Char} (ht : quoteFree t = true) :
    Settings.normalizeCondition t = normalizeCode t := by
  rw [Settings.normalizeCondition, segments_of_quoteFree ht]
  split
  · rename_i hempty
    subst hempty
    change [] = lowerCalls []
    rw [lowerCalls]
  · rw [List.flatMap_singleton, if_pos rfl]

end TripletFacts
