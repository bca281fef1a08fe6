import TripletFacts.Proofs.Condition.Extension
import TripletFacts.Proofs.Condition.KeptWords
import TripletFacts.Proofs.Condition.PresenceFormula

/-!
# Formulas of calls as conditions

Normalizing keeps a formula of calls: its connectives are written as the expression language writes
them, and no keyword is the name of a function. The four passes over calls come one after the other,
and each of them meets a text in which the earlier ones have put truth values. It replaces the calls
of its own kind, and keeps the others and what has been put in.

## Main definitions

* `KeepsWord`: texts in which a word between blanks is not replaced.
* `PresenceCall.kind`, `PresenceCall.resolved`: the kind of a call, and a call when the passes over
  some kinds are done.

## Main results

* `PresenceFormula.normalizeCondition_write`: normalizing keeps a formula.
* `PresenceFormula.replaceM_write`: what a pass over calls does with a formula.
* `PresenceFormula.resolvePresence_write`: all calls of a formula are replaced.
* `PresenceFormula.evaluateCondition_write`: the value of a formula.
-/

namespace TripletFacts

open Regex Cursor Settings

/-! ### Words between blanks -/

/-- A text that does not begin with a word that is replaced between blanks, and in which it is
nowhere replaced. -/
structure KeepsWord (word : String) (new t : List Char) : Prop where
  begins : t.takeWhile (· != ' ') ≠ word.toList
  kept : replaceFrom (spaced word) new 0 t = t

namespace KeepsWord

variable {word : String} {new t : List Char}

theorem blank (hne : word.toList ≠ []) (hblank : ' ' ∉ word.toList) (h : KeepsWord word new t) :
    KeepsWord word new (' ' :: t) where
  begins heq := hne heq.symm
  kept := by
    have hprefix : ¬(spaced word).isPrefixOf (' ' :: t) = true := by
      rw [List.isPrefixOf_iff_prefix]
      rintro ⟨rest, hrest⟩
      have hrest : word.toList ++ ' ' :: rest = t := by simpa [spaced] using hrest
      refine h.begins ?_
      rw [← hrest, takeWhile_append_of_head?]
      · exact fun x hx => bne_iff_ne.2 fun heq => hblank (heq ▸ hx)
      · rfl
    rw [replaceFrom, if_neg hprefix, h.kept]

/-- Characters that are no blanks, and not all of them in the word. -/
theorem append {u : List Char} (hu : ' ' ∉ u) {x : Char} (hx : x ∈ u) (hword : x ∉ word.toList)
    (h : KeepsWord word new t) : KeepsWord word new (u ++ t) where
  begins heq := by
    have hall : ∀ y ∈ u, (y != ' ') = true := fun y hy => bne_iff_ne.2 fun heq => hu (heq ▸ hy)
    rw [List.takeWhile_append_of_pos hall] at heq
    exact hword (heq ▸ List.mem_append_left _ hx)
  kept := by rw [spaced, replaceFrom_append_of_not_mem _ _ hu, ← spaced, h.kept]

theorem blanks_append (hne : word.toList ≠ []) (hblank : ' ' ∉ word.toList) (n : Nat)
    (h : KeepsWord word new t) : KeepsWord word new (blanks n ++ t) := by
  induction n with
  | zero => exact h
  | succ n ih => exact blank hne hblank ih

end KeepsWord

/-! ### Normalizing -/

namespace PresenceCall

variable (c : PresenceCall)

/-- A call is no word between blanks, and its reference is none. -/
theorem keepsWord_text {word : String} {new t : List Char} (hne : word.toList ≠ [])
    (hword : ∀ x ∈ " ().".toList, x ∉ word.toList) (h : KeepsWord word new t) :
    KeepsWord word new (c.text ++ t) := by
  have hblank := hword ' ' (by decide)
  have hclose : KeepsWord word new ([')'] ++ t) :=
    .append (by decide) (List.mem_singleton_self _) (hword ')' (by decide)) h
  have hreference : KeepsWord word new (c.reference ++ (blanks c.after ++ ([')'] ++ t))) :=
    .append (c.not_mem_reference (by decide) (by decide)) (x := '.')
      (by simp [reference, writtenReference]) (hword '.' (by decide))
      (hclose.blanks_append hne hblank c.after)
  have hkeyword : KeepsWord word new ((c.keyword ++ ['(']) ++ (blanks c.before ++ _)) :=
    .append (x := '(') (by simp [c.isKeyword.not_mem (c := ' ') (by decide)]) (by simp)
      (hword '(' (by decide)) (hreference.blanks_append hne hblank c.before)
  simpa [text] using hkeyword

/-- No keyword is the name of a function. -/
theorem isAllowedFunction_keyword :
    isAllowedFunction (String.ofList (c.keyword.map asciiLower)) = false := by
  cases hallowed : isAllowedFunction (String.ofList (c.keyword.map asciiLower)) with
  | false => rfl
  | true =>
    obtain ⟨f, hf⟩ := Option.isSome_iff_exists.1 hallowed
    obtain ⟨word, hword, hfold⟩ := c.isKeyword
    have hall : ∀ present, ∀ word ∈ keywords present, ∀ f ∈ Function.all,
        f.name.toList.map Unicode.fold ≠ word.toList.map Unicode.fold := by decide
    refine absurd ?_ (hall _ word hword f f.mem_all)
    rw [name_of_ofName? hf, String.toList_ofList, List.map_map, ← hfold]
    exact List.map_congr_left fun x _ => Unicode.fold_asciiLower x

theorem startsName_of_isAlpha {x : Char} (hx : x.isAlpha = true) : Token.startsName x = true :=
  of_isAlpha (P := fun x => Token.startsName x = true) (by decide) hx

/-- A text of a letter and characters of names is a name. -/
theorem isName_of_isAlpha {u v : List Char} (hne : u ≠ []) (hu : ∀ x ∈ u, x.isAlpha = true)
    (hv : ∀ x ∈ v, Token.continuesName x = true) : (u ++ v).head?.any Token.startsName = true ∧
      ∀ x ∈ u ++ v, Token.continuesName x = true := by
  constructor
  · obtain ⟨x, u, rfl⟩ := List.exists_cons_of_ne_nil hne
    exact startsName_of_isAlpha (hu x List.mem_cons_self)
  · intro x hx
    exact (List.mem_append.1 hx).elim
      (fun hx => continuesName_of_startsName (startsName_of_isAlpha (hu x hx))) (hv x)

/-- The characters between the words of a call are in no name. -/
theorem continuesName_of_mem_signs {x : Char} (hx : x ∈ " ().$".toList) :
    Token.continuesName x = false := by
  have hall : " ().$".toList.any Token.continuesName = false := by decide
  exact Bool.eq_false_iff.2 (List.any_eq_false.1 hall x hx)

/-- They are kept where names of functions are looked for. -/
theorem lowerCalls_signs {u t : List Char} (hu : u ⊆ " ().$".toList) (h : lowerCalls t = t) :
    lowerCalls (u ++ t) = u ++ t := by
  have hstart : ∀ x ∈ u, Token.startsName x = false := by
    intro x hx
    cases hstart : Token.startsName x with
    | false => rfl
    | true =>
      have hgo := continuesName_of_startsName hstart
      simp [continuesName_of_mem_signs (hu hx)] at hgo
  rw [lowerCalls_append_of_not_starts hstart, h]

theorem lowerCalls_reference {t : List Char} (ht : PresenceFormula.IsBorder t)
    (h : lowerCalls t = t) : lowerCalls (c.reference ++ t) = c.reference ++ t := by
  have hmark : markText c.marked ⊆ " ().$".toList := by cases c.marked <;> simp [markText]
  obtain ⟨hname, hname'⟩ := isName_of_isAlpha c.name_ne c.isAlpha_name (v := []) (by simp)
  obtain ⟨hpfx, hpfx'⟩ := isName_of_isAlpha c.letters_ne c.isAlpha_letters fun x hx =>
    continuesName_of_isDigit (c.isDigit_digits x hx)
  have hpoint : Token.continuesName '.' = false := continuesName_of_mem_signs (by simp)
  have hborder : t.head?.any Token.continuesName = false :=
    ht.head? (continuesName_of_mem_signs (by simp)) (continuesName_of_mem_signs (by simp))
  have hbehind := lowerCalls_word_eq_self hname hname' hborder (.inl ht.head?_ne) h
  have hbefore : lowerCalls (c.pfx ++ (['.'] ++ _)) = _ :=
    lowerCalls_word_eq_self hpfx hpfx' hpoint (.inl (by simp)) (lowerCalls_signs (by simp) hbehind)
  simpa [reference, writtenReference] using lowerCalls_signs hmark hbefore

/-- No function is called where a fact is asked for. -/
theorem lowerCalls_text {t : List Char} (h : lowerCalls t = t) :
    lowerCalls (c.text ++ t) = c.text ++ t := by
  have hblanks : ∀ n, blanks n ⊆ " ().$".toList := fun n x hx =>
    List.eq_of_mem_replicate hx ▸ by decide
  have hborder := PresenceFormula.isBorder_blanks_append c.after (.inr ⟨t, .inr rfl⟩)
  have hend := lowerCalls_signs (hblanks c.after) (lowerCalls_signs (u := [')']) (by simp) h)
  have hargument := lowerCalls_signs (u := ['(']) (by simp)
    (lowerCalls_signs (hblanks c.before) (c.lowerCalls_reference hborder hend))
  have hopen : Token.continuesName '(' = false := continuesName_of_mem_signs (by simp)
  have hkeyword : c.keyword.head?.any Token.startsName = true := by
    obtain ⟨x, u, hx⟩ := List.exists_cons_of_ne_nil c.isKeyword.ne_nil
    rw [hx]
    exact (c.isKeyword.letter (hx ▸ List.mem_cons_self)).2
  have hcall : lowerCalls (c.keyword ++ (['('] ++ _)) = _ := lowerCalls_word_eq_self hkeyword
    (fun x hx => continuesName_of_startsName (c.isKeyword.letter hx).2) hopen
    (.inr c.isAllowedFunction_keyword) hargument
  simpa [text] using hcall

/-- The parentheses of a call match. -/
theorem openAfter_text (d : Nat) (t : List Char) : openAfter d (c.text ++ t) = openAfter d t := by
  have hkeyword := openAfter_append_of_not_mem (c.isKeyword.not_mem (c := '(') (by decide))
    (c.isKeyword.not_mem (c := ')') (by decide))
  have hbody := openAfter_append_of_not_mem (c.not_mem_body (x := '(') (by decide) (by decide))
    (c.not_mem_body (x := ')') (by decide) (by decide))
  calc openAfter d (c.text ++ t)
      = openAfter d (c.keyword ++
          '(' :: (blanks c.before ++ (c.reference ++ blanks c.after) ++ ')' :: t)) := by simp [text]
    _ = openAfter d ('(' :: (blanks c.before ++ (c.reference ++ blanks c.after) ++ ')' :: t)) :=
        hkeyword d _
    _ = openAfter (d + 1) (')' :: t) := hbody (d + 1) _
    _ = openAfter d t := by simp [openAfter]

end PresenceCall

namespace PresenceFormula

variable {rank : Nat} (f : PresenceFormula rank)

/-- No word of a connective that is replaced stands between blanks. -/
theorem keeps_keepsWord {p : String × String} (hp : p ∈ connectiveWords) (new : List Char) :
    Keeps (KeepsWord p.1 new) PresenceCall.text := by
  have hall : ∀ p ∈ connectiveWords, p.1.toList ≠ [] ∧
      (" ().".toList.all fun x => !p.1.toList.contains x) = true ∧
        ∀ word ∈ ["and", "or", "not"], word.toList ≠ p.1.toList ∧ ' ' ∉ word.toList := by decide
  obtain ⟨hne, hsigns, hwords⟩ := hall p hp
  have hword : ∀ x ∈ " ().".toList, x ∉ p.1.toList := fun x hx => by
    simpa using List.all_eq_true.1 hsigns x hx
  refine ⟨⟨fun h => hne h.symm, rfl⟩, fun {x} hx {t} ht => ?_, fun {word} hmem {t} ht => ?_,
    fun c t _ ht => c.keepsWord_text hne hword ht⟩
  · by_cases hblank : x = ' '
    · subst hblank
      exact ht.blank hne (hword ' ' (by simp))
    · exact ht.append (u := [x]) (by simpa using Ne.symm hblank) List.mem_cons_self
        (hword x (List.mem_append_left ['.'] hx))
  · obtain ⟨hother, hblank⟩ := hwords word hmem
    constructor
    · rw [takeWhile_append_of_head?]
      · exact hother
      · exact fun x hx => bne_iff_ne.2 fun heq => hblank (heq ▸ hx)
      · rfl
    · rw [spaced, replaceFrom_append_of_not_mem _ _ hblank, ← spaced, ht.kept]

/-- No function is called in a formula. -/
theorem keeps_lowerCalls : Keeps (fun t => lowerCalls t = t) PresenceCall.text where
  nil := by rw [lowerCalls]
  sign {x} hx {t} ht := by
    have hsign : [x] ⊆ " ().$".toList :=
      List.cons_subset.2 ⟨List.mem_append_left ['.', '$'] hx, List.nil_subset _⟩
    exact PresenceCall.lowerCalls_signs hsign ht
  word {word} hword {t} ht := by
    have hall : ∀ word ∈ ["and", "or", "not"], word.toList.head?.any Token.startsName = true ∧
        word.toList.all Token.continuesName = true := by decide
    obtain ⟨hstart, hgo⟩ := hall word hword
    exact lowerCalls_word_eq_self hstart (List.all_eq_true.1 hgo)
      (PresenceCall.continuesName_of_mem_signs (x := ' ') (by simp)) (.inl (by simp)) ht
  call c _ _ ht := c.lowerCalls_text ht

/-- The parentheses of a formula match. -/
theorem openAfter_write (d : Nat) (t : List Char) :
    openAfter d (f.write PresenceCall.text ++ t) = openAfter d t := by
  have hblanks : ∀ n d t, openAfter d (blanks n ++ t) = openAfter d t := fun n =>
    openAfter_append_of_not_mem (not_mem_blanks (by decide) n) (not_mem_blanks (by decide) n)
  have hword : ∀ word ∈ ["and", "or", "not"], ∀ d t,
      openAfter d (word.toList ++ ' ' :: t) = openAfter d t := by
    intro word hword d t
    have hall : ∀ word ∈ ["and", "or", "not"], '(' ∉ word.toList ∧ ')' ∉ word.toList := by decide
    rw [openAfter_append_of_not_mem (hall word hword).1 (hall word hword).2,
      openAfter_cons_of_ne (by decide) (by decide)]
  induction f generalizing d t with
  | call c => exact c.openAfter_text d t
  | group before f after ih =>
    have hopen : openAfter d ('(' :: (blanks before ++ (f.write PresenceCall.text ++
        (blanks after ++ ')' :: t)))) = openAfter d t := by
      simp [openAfter, hblanks, ih]
    simpa [write] using hopen
  | not between f _ ih =>
    have hnot := hword "not" (by simp) d (blanks between ++ (f.write PresenceCall.text ++ t))
    rw [hblanks, ih] at hnot
    simpa [write] using hnot
  | combine op left before after right _ _ ihl ihr =>
    have hmem : op.symbol ∈ ["and", "or", "not"] := by cases op <;> decide
    have hop := hword op.symbol hmem d (blanks after ++ (right.write PresenceCall.text ++ t))
    rw [hblanks, ihr] at hop
    have hleft := ihl d (blanks before ++ ' ' :: (op.symbol.toList ++ ' ' ::
      (blanks after ++ (right.write PresenceCall.text ++ t))))
    rw [hblanks, openAfter_cons_of_ne (by decide) (by decide), hop] at hleft
    simpa [write] using hleft

/-- A formula has a call, and a call has a parenthesis. -/
theorem mem_parenthesis : '(' ∈ f.write PresenceCall.text := by
  induction f with
  | call c => simp [write, PresenceCall.text]
  | group => exact List.mem_cons_self
  | not between f _ ih => simp [write, ih]
  | combine op left before after right _ _ ihl => simp [write, ihl]

theorem allBlank_write : Unicode.allBlank (f.write PresenceCall.text) = false := by
  rw [Unicode.allBlank, List.all_eq_false]
  exact ⟨'(', f.mem_parenthesis, by decide⟩

/-- The signs of a formula are those of its calls. -/
theorem not_mem_write {x : Char} (hx : Unicode.isWord x = false) (hsign : x ∉ " ().$".toList) :
    x ∉ f.write PresenceCall.text := by
  refine (Keeps.not_mem (fun hmem => ?_) fun c => c.not_mem_text hx hsign).whole f
  have hall : " ()andort".toList.all (fun y => Unicode.isWord y || " ().$".toList.contains y) =
      true := by decide
  have hmem := List.all_eq_true.1 hall x hmem
  rw [hx, Bool.false_or, List.contains_iff_mem] at hmem
  exact hsign hmem

theorem quoteFree_write : quoteFree (f.write PresenceCall.text) = true :=
  quoteFree_of_not_mem (f.not_mem_write (by decide) (by decide))
    (f.not_mem_write (by decide) (by decide))

theorem balanced_write : balanced (f.write PresenceCall.text) = true := by
  have hopen := f.openAfter_write 0 []
  rw [List.append_nil] at hopen
  rw [balanced, codeOf_of_quoteFree f.quoteFree_write, hopen]
  rfl

/-- Normalizing keeps a formula. -/
theorem normalizeCondition_write :
    normalizeCondition (f.write PresenceCall.text) = f.write PresenceCall.text := by
  have hconnectives := replaceConnectives_eq_self fun p hp =>
    ((keeps_keepsWord hp (spaced p.2)).whole f).kept
  have hunequal := replaceFrom_of_not_mem ['>'] ['!', '='] (f.not_mem_write (x := '<')
    (by decide) (by decide))
  have hequals := doubleEquals_of_not_mem (f.not_mem_write (x := '=') (by decide) (by decide)) none
  have hcaret := f.not_mem_write (x := '^') (by decide) (by decide)
  rw [normalizeCondition_of_quoteFree f.quoteFree_write]
  exact normalizeCode_eq_self hconnectives hunequal hequals hcaret (keeps_lowerCalls.whole f)

end PresenceFormula

/-! ### Passes over calls -/

namespace PresenceCall

/-- The kind of a call: whether it asks for what is present, and whether it has a mark. -/
def kind (c : PresenceCall) : Bool × Bool := (c.present, c.marked)

/-- A call when the passes over the given kinds of calls are done. -/
def resolved (facts db : Facts) (done : List (Bool × Bool)) (c : PresenceCall) : List Char :=
  if c.kind ∈ done then Value.boolText (c.holds facts db) else c.text

end PresenceCall

namespace PresenceFormula

section

variable {facts db : Facts} {ε : Type} {g : Match → Except ε (List Char)}

/-- In a word that stands before a border no call begins. -/
theorem replaceAfter_word (present marked : Bool) {u t : List Char} (hu : '(' ∉ u) (ht : IsBorder t)
    (b : List Char) :
    (standard.regex (callShape present marked)).replaceAfter g
        (between b (u ++ t)) =
      ((standard.regex (callShape present marked)).replaceAfter g
        (between (u.reverse ++ b) t)).map (u ++ ·) := by
  refine replaceAfter_append (consumes_callShape _ _) fun v w hvw _ b => ?_
  have hw : '(' ∉ w := fun hmem => hu (hvw ▸ List.mem_append_right v hmem)
  rcases ht with rfl | ⟨r, rfl | rfl⟩
  · rw [List.append_nil]
    exact matchAt_callShape_of_not_mem hw b
  · exact matchAt_callShape_of_sign hw (by decide) (by decide) b
  · exact matchAt_callShape_of_sign hw (by decide) (by decide) b

/-- What a pass over calls of one kind does with the parts of a formula. -/
theorem rewrites_resolved (hfacts : facts.settings = .standard) (hdb : db.settings = .standard)
    (present marked : Bool) (done : List (Bool × Bool)) :
    Rewrites (fun b t t' => (standard.regex (callShape present marked)).replaceAfter
        ((if marked then facts else db).presence present) (between b t) = .ok t')
      (PresenceCall.resolved facts db done)
      (PresenceCall.resolved facts db ((present, marked) :: done)) where
  nil b := replaceAfter_nil (consumes_callShape _ _) b
  sign {x} hx b t t' h := by
    have hall : [' ', '(', ')'].all (fun x => !Unicode.isWord x) = true := by decide
    have hword : Unicode.isWord x = false := by simpa using List.all_eq_true.1 hall x hx
    rw [replaceAfter_cons (consumes_callShape _ _)
      (matchAt_callShape_cons hword t b), h]
    rfl
  word {word} hword b t t' h := by
    have hall : ∀ word ∈ ["and", "or", "not"], '(' ∉ word.toList := by decide
    rw [replaceAfter_word _ _ (hall word hword) (.inr ⟨t, .inl rfl⟩), h]
    rfl
  call c b t t' hb ht h := by
    unfold PresenceCall.resolved at h ⊢
    by_cases hdone : c.kind ∈ done
    · rw [if_pos hdone] at h ⊢
      rw [if_pos (List.mem_cons_of_mem _ hdone),
        replaceAfter_word _ _ (by cases c.holds facts db <;> decide) ht, h]
      rfl
    · rw [if_neg hdone] at h ⊢
      by_cases hkind : present = c.present ∧ marked = c.marked
      · obtain ⟨rfl, rfl⟩ := hkind
        have hmem : c.kind ∈ (c.present, c.marked) :: done := List.mem_cons_self
        rw [if_pos hmem, c.replaceAfter_self hb fun m hpfx hname =>
          c.presence_eq_ok hfacts hdb hpfx hname, h]
        rfl
      · have hnot : c.kind ∉ (present, marked) :: done := fun hmem =>
          (List.mem_cons.1 hmem).elim (fun heq => hkind (Prod.ext_iff.1 heq.symm)) hdone
        rw [if_neg hnot, c.replaceAfter_other hkind, h]
        rfl

/-- A pass over calls of one kind replaces all of them in a formula. -/
theorem replaceM_write (f : PresenceFormula rank) (hfacts : facts.settings = .standard)
    (hdb : db.settings = .standard) (present marked : Bool) (done : List (Bool × Bool)) :
    (standard.regex (callShape present marked)).replaceM
        ((if marked then facts else db).presence present)
        (f.write (PresenceCall.resolved facts db done)) =
      .ok (f.write (PresenceCall.resolved facts db ((present, marked) :: done))) :=
  (replaceM_eq_replaceAfter _).trans ((rewrites_resolved hfacts hdb present marked done).whole f)

/-- **All calls of a formula are replaced.** Calls without a mark need facts that they ask for. -/
theorem resolvePresence_write (f : PresenceFormula rank) (hfacts : facts.settings = .standard)
    (hdb : db.settings = .standard)
    (hcalls : ∀ c ∈ f.calls, c.marked = false → db.isEmpty = false) :
    standard.resolvePresence facts db (f.write PresenceCall.text) =
      .ok (f.write fun c => Value.boolText (c.holds facts db)) := by
  have hpass := fun present marked done => f.replaceM_write hfacts hdb present marked done
  have hstart : f.write PresenceCall.text = f.write (PresenceCall.resolved facts db []) :=
    write_congr fun c _ => (if_neg List.not_mem_nil).symm
  have hpresent : (standard.regex .present).replaceM (facts.presence true) _ = _ :=
    hpass true true []
  have habsent : (standard.regex .absent).replaceM (facts.presence false) _ = _ :=
    hpass false true [(true, true)]
  have hpresentBare : (standard.regex .presentBare).replaceM (db.presence true) _ = _ :=
    hpass true false [(false, true), (true, true)]
  have habsentBare : (standard.regex .absentBare).replaceM (db.presence false) _ = _ :=
    hpass false false [(true, false), (false, true), (true, true)]
  rw [hstart, resolvePresence_eq_ite hpresent habsent]
  split
  · rename_i hempty
    refine congrArg Except.ok (write_congr fun c hc => if_pos ?_)
    have hmark : c.marked = true := by
      cases hmark : c.marked with
      | true => rfl
      | false => simp [hcalls c hc hmark] at hempty
    rw [PresenceCall.kind, hmark]
    cases c.present <;> simp
  · rw [hpresentBare]
    change (standard.regex .absentBare).replaceM (db.presence false) _ = _
    rw [habsentBare]
    refine congrArg Except.ok (write_congr fun c _ => if_pos ?_)
    rw [PresenceCall.kind]
    cases c.present <;> cases c.marked <;> simp

/-- **Formulas of calls compute membership.** A formula that is not too long or too deep has the
truth value that it has if a call that asks for what is present means that its fact is in its
collection, and the other calls mean that it is not. -/
theorem evaluateCondition_write (f : PresenceFormula rank) (hfacts : facts.settings = .standard)
    (hdb : db.settings = .standard) (hcalls : ∀ c ∈ f.calls, c.marked = false → db.isEmpty = false)
    (hsize : f.size ≤ Expr.maxTokens) (hdepth : f.depth ≤ Expr.maxDepth) :
    standard.evaluateCondition (f.write PresenceCall.text) (.given facts) (.given db) =
      .ok (.bool (f.value (PresenceCall.holds facts db))) := by
  have hne : f.write PresenceCall.text ≠ [] := List.ne_nil_of_mem f.mem_parenthesis
  have hnot : ∀ x ∉ " ()andort".toList, (∀ b, x ∉ Value.boolText b) →
      x ∉ f.write fun c => Value.boolText (c.holds facts db) := fun x hx hbool =>
    (Keeps.not_mem hx fun c => hbool _).whole f
  have hpoint := hnot '.' (by decide) (by decide)
  refine evaluateCondition_eq_ok_iff_substitute.2 ⟨f.allBlank_write, f.balanced_write, _, ?_,
    f.evaluate_write _ hsize hdepth⟩
  rw [f.normalizeCondition_write, substitute_of_quoteFree f.quoteFree_write hne,
    f.resolvePresence_write hfacts hdb hcalls]
  exact substituteReferences_eq_self (quoteFree_of_not_mem
    (hnot _ (by decide) (by decide)) (hnot _ (by decide) (by decide)))
    (hnot _ (by decide) (by decide)) (fun h => hpoint h.mem_point) facts db

end

/-- Whether the first facts have `A.B`, as it may be written. -/
def presentMarked : PresenceCall where
  present := true
  marked := true
  keyword := "Present".toList
  before := 1
  letters := ['a']
  digits := []
  name := ['B']
  after := 1
  isKeyword := ⟨"PRESENT", by decide, by decide⟩
  letters_ne := by decide
  name_ne := by decide
  isAlpha_letters := List.all_eq_true.1 (by decide)
  isDigit_digits := List.all_eq_true.1 (by decide)
  isAlpha_name := List.all_eq_true.1 (by decide)
  pfx_length := by decide
  name_length := by decide

/-- Whether the second facts have `A.B`. -/
def presentBare : PresenceCall :=
  { presentMarked with
    marked := false, keyword := "есть".toList, before := 0, after := 0
    isKeyword := ⟨"ЕСТЬ", by decide, by decide⟩ }

/-- Whether the second facts do not have `A1.B`. -/
def absentBare : PresenceCall :=
  { presentBare with
    present := false, keyword := "Absent".toList, digits := ['1']
    isKeyword := ⟨"ABSENT", by decide, by decide⟩
    isDigit_digits := List.all_eq_true.1 (by decide)
    pfx_length := by decide }

/-- A formula of three calls of different kinds. -/
def mixedCalls : PresenceFormula 1 :=
  .combine .and (.not 0 (.call presentMarked) (by decide)) 0 1
    (.group 0 (.combine .or (.call presentBare) 0 0 (.call absentBare) (by decide) (by decide)) 0)
    (by decide) (by decide)

/-- A mark tells which collection is asked. -/
theorem evaluateCondition_mixedCalls :
    mixedCalls.write PresenceCall.text =
        "not Present( $a.B ) and  (есть(a.B) or Absent(a1.B))".toList ∧
      standard.evaluateCondition (mixedCalls.write PresenceCall.text) (.given (.empty .standard))
        (.given oneNumber) = .ok (.bool true) := by
  have hvalue : mixedCalls.value (PresenceCall.holds (.empty .standard) oneNumber) = true := by
    decide
  have h : standard.evaluateCondition (mixedCalls.write PresenceCall.text)
      (.given (.empty .standard)) (.given oneNumber) = _ :=
    mixedCalls.evaluateCondition_write rfl rfl (fun _ _ _ => rfl) (by decide) (by decide)
  rw [hvalue] at h
  exact ⟨by decide, h⟩

end PresenceFormula

end TripletFacts
