import TripletFacts.Regex.Bracket

/-!
# What escapes and classes leave

The text of a regular expression is read by many small readers, each of which takes something of the
text and leaves an end of it. Where a reader is written as one large distinction of cases, its parts
are given names here, and the reader is put together from them.

## Main definitions

* `Regex.closeBoundary`, `Regex.readItem`, `Regex.readRangeAfter`, `Regex.operation?`: parts of
  readers.

## Main results

* `Regex.suffix_readEscape`, `Regex.suffix_readBracket` and their companions: a reader leaves an end
  of what there was.
* `Regex.readItems_of_skip_eq_cons`: the items of a class are read one by one.
-/

namespace TripletFacts.Regex

variable {f : Flags} {cs r : List Char} {n : Nat}

/-! ### Ends of a text -/

instance suffixTrans :
    @Trans (List Char) (List Char) (List Char) List.IsSuffix List.IsSuffix List.IsSuffix :=
  ⟨List.IsSuffix.trans⟩

theorem suffix_tail (h : r <:+ cs) : r.tail <:+ cs.tail := by
  obtain ⟨u, rfl⟩ := h
  cases u with
  | nil => exact List.suffix_refl _
  | cons c u => exact (List.tail_suffix r).trans (List.suffix_append u r)

theorem suffix_of_suffix_tail (h : r <:+ cs.tail) : r <:+ cs := h.trans (List.tail_suffix cs)

theorem suffix_skipComments (n : Nat) (cs : List Char) : skipComments n cs <:+ cs := by
  induction n generalizing cs with
  | zero => exact List.suffix_refl cs
  | succ n ih =>
    have hblanks := List.dropWhile_suffix Unicode.isBlank (l := cs)
    unfold skipComments
    split
    · rename_i rest hrest
      calc skipComments n (rest.dropWhile (· != '\n'))
          <:+ rest.dropWhile (· != '\n') := ih _
        _ <:+ rest := List.dropWhile_suffix _
        _ <:+ '#' :: rest := List.suffix_cons _ _
        _ <:+ cs := hrest ▸ hblanks
    · exact hblanks

theorem Flags.suffix_skip (f : Flags) (cs : List Char) : f.skip cs <:+ cs := by
  unfold skip
  split
  · exact suffix_skipComments _ cs
  · exact List.suffix_refl cs

theorem suffix_of_skip_eq_cons {c : Char} (h : f.skip cs = c :: r) : r <:+ cs.tail := by
  have hskip := suffix_tail (f.suffix_skip cs)
  rwa [h] at hskip

theorem length_of_skip_eq_cons {c : Char} (h : f.skip cs = c :: r) : r.length < cs.length :=
  (h ▸ f.suffix_skip cs : c :: r <:+ cs).length_le

/-! ### Escapes -/

theorem suffix_readHexDigits {v : List Char} (h : readHexDigits f n cs = some (v, r)) :
    r <:+ cs := by
  induction n generalizing cs v with
  | zero =>
    cases h
    exact List.suffix_refl _
  | succ n ih =>
    unfold readHexDigits at h
    split at h
    · cases h
    · rename_i hskip
      obtain ⟨⟨_, _⟩, hread, heq⟩ := Option.map_eq_some_iff.1 h
      cases heq
      exact (ih hread).trans (suffix_of_suffix_tail (suffix_of_skip_eq_cons hskip))

theorem suffix_readHexDigits_succ {v : List Char} (h : readHexDigits f (n + 1) cs = some (v, r)) :
    r <:+ cs.tail := by
  unfold readHexDigits at h
  split at h
  · cases h
  · rename_i hskip
    obtain ⟨⟨_, _⟩, hread, heq⟩ := Option.map_eq_some_iff.1 h
    cases heq
    exact (suffix_readHexDigits hread).trans (suffix_of_skip_eq_cons hskip)

theorem suffix_readBraced {v : List Char} (h : readBraced f n cs = some (v, r)) :
    r <:+ cs.tail := by
  induction n generalizing cs v with
  | zero => cases h
  | succ n ih =>
    unfold readBraced at h
    split at h
    · cases h
    · rename_i hskip
      cases h
      exact suffix_of_skip_eq_cons hskip
    · rename_i hskip
      obtain ⟨⟨_, _⟩, hread, heq⟩ := Option.map_eq_some_iff.1 h
      cases heq
      exact (suffix_of_suffix_tail (ih hread)).trans (suffix_of_skip_eq_cons hskip)

theorem readCodePoint_of_brace (h : f.skip cs = '\x7b' :: r) : readCodePoint f n cs =
    (readBraced f (r.length + 1) r).bind fun (inside, rest) => (hexChar? inside).map (·, rest) := by
  rw [readCodePoint, h]
  rfl

/-- The character that hexadecimal digits stand for, where classes may be restricted to ASCII. -/
def digitsChar? (f : Flags) (digits : Nat) (inside : List Char) : Option Char :=
  (hexChar? inside).filter fun c => !(f.ascii && digits == 2 && 0x80 ≤ c.toNat)

theorem readCodePoint_of_ne (h : ∀ r, f.skip cs ≠ '\x7b' :: r) : readCodePoint f n cs =
    (readHexDigits f n (f.skip cs)).bind fun (inside, rest) =>
      (digitsChar? f n inside).map (·, rest) := by
  unfold readCodePoint
  split
  · exact absurd ‹_› (h _)
  · congr
    funext ⟨inside, rest⟩
    unfold digitsChar?
    dsimp only
    cases hexChar? inside with
    | none => rfl
    | some c =>
      by_cases hc : (f.ascii && n == 2 && decide (0x80 ≤ c.toNat)) = true <;>
        simp [Option.filter, hc]

theorem suffix_readCodePoint {v : Char} (h : readCodePoint f (n + 1) cs = some (v, r)) :
    r <:+ cs.tail := by
  by_cases hbrace : ∃ rest, f.skip cs = '\x7b' :: rest
  · obtain ⟨rest, hskip⟩ := hbrace
    rw [readCodePoint_of_brace hskip] at h
    obtain ⟨⟨_, _⟩, hread, hmap⟩ := Option.bind_eq_some_iff.1 h
    obtain ⟨_, -, heq⟩ := Option.map_eq_some_iff.1 hmap
    cases heq
    exact (suffix_of_suffix_tail (suffix_readBraced hread)).trans (suffix_of_skip_eq_cons hskip)
  · rw [readCodePoint_of_ne (not_exists.1 hbrace)] at h
    obtain ⟨⟨_, _⟩, hread, hmap⟩ := Option.bind_eq_some_iff.1 h
    obtain ⟨_, -, heq⟩ := Option.map_eq_some_iff.1 hmap
    cases heq
    exact (suffix_readHexDigits_succ hread).trans (suffix_tail (f.suffix_skip cs))

theorem suffix_readNamedSet {negated : Bool} {v : CharSet}
    (h : readNamedSet f negated cs = some (v, r)) : r <:+ cs.tail := by
  unfold readNamedSet at h
  dsimp only at h
  split at h
  · cases h
  · split at h
    · cases h
    · rename_i hskip
      obtain ⟨⟨_, _⟩, hread, hmap⟩ := Option.bind_eq_some_iff.1 h
      obtain ⟨_, -, heq⟩ := Option.map_eq_some_iff.1 hmap
      cases heq
      exact (suffix_of_suffix_tail (suffix_readBraced hread)).trans (suffix_of_skip_eq_cons hskip)
    · rename_i hskip
      obtain ⟨_, -, heq⟩ := Option.map_eq_some_iff.1 h
      cases heq
      exact suffix_of_skip_eq_cons hskip

theorem suffix_readBoundaryName (f : Flags) (n : Nat) (cs : List Char) :
    (readBoundaryName f n cs).2 <:+ cs := by
  induction n generalizing cs with
  | zero => exact List.suffix_refl cs
  | succ n ih =>
    have hskip := f.suffix_skip cs
    unfold readBoundaryName
    split
    · rename_i c rest heq
      rw [heq] at hskip
      split
      · exact (ih rest).trans ((List.suffix_cons c rest).trans hskip)
      · exact hskip
    · exact List.nil_suffix

/-- A word boundary of a special kind. -/
def boundary? (f : Flags) (name : List Char) : Option Primitive :=
  match String.ofList name with
  | "start" => some (.look (wordStart f.ascii))
  | "end" => some (.look (wordEnd f.ascii))
  | "start-half" => some (.look (wordStartHalf f.ascii))
  | "end-half" => some (.look (wordEndHalf f.ascii))
  | _ => none

/-- A word boundary from what stands in its braces, with what follows; `cs` is left if there is
nothing of a name. -/
def closeBoundary (f : Flags) (cs : List Char) :
    List Char × List Char → Option (Primitive × List Char)
  | ([], _) => some (.look (wordBoundary f.ascii), cs)
  | (name, '\x7d' :: rest) => (boundary? f name).map (·, rest)
  | _ => none

theorem readBoundary_of_brace (f : Flags) (cs : List Char) : readBoundary f ('\x7b' :: cs) =
    closeBoundary f ('\x7b' :: cs) (readBoundaryName f (cs.length + 1) cs) := by
  have hnamed (name rest : List Char) :
      (match String.ofList name with
        | "start" => some (Primitive.look (wordStart f.ascii), rest)
        | "end" => some (.look (wordEnd f.ascii), rest)
        | "start-half" => some (.look (wordStartHalf f.ascii), rest)
        | "end-half" => some (.look (wordEndHalf f.ascii), rest)
        | _ => none) = (boundary? f name).map (·, rest) := by
    unfold boundary?
    split <;> rfl
  rw [readBoundary]
  rcases readBoundaryName f (cs.length + 1) cs with ⟨_ | ⟨c, name⟩, _ | ⟨d, rest⟩⟩
  · rfl
  · rfl
  · rfl
  · by_cases hd : d = '\x7d'
    · subst hd
      exact hnamed (c :: name) rest
    · simp [closeBoundary, hd]

theorem readBoundary_of_ne (h : ∀ r, cs ≠ '\x7b' :: r) :
    readBoundary f cs = some (.look (wordBoundary f.ascii), cs) := by
  unfold readBoundary
  split
  · exact absurd rfl (h _)
  · rfl

theorem suffix_readBoundary {p : Primitive} (h : readBoundary f cs = some (p, r)) : r <:+ cs := by
  by_cases hbrace : ∃ rest, cs = '\x7b' :: rest
  · obtain ⟨rest, rfl⟩ := hbrace
    have hname := suffix_readBoundaryName f (rest.length + 1) rest
    rw [readBoundary_of_brace] at h
    unfold closeBoundary at h
    split at h
    · cases h
      exact List.suffix_refl _
    · rename_i heq
      obtain ⟨_, -, hpair⟩ := Option.map_eq_some_iff.1 h
      cases hpair
      rw [heq] at hname
      exact (List.suffix_cons _ _).trans (hname.trans (List.suffix_cons _ _))
    · cases h
  · rw [readBoundary_of_ne (not_exists.1 hbrace)] at h
    cases h
    exact List.suffix_refl _

theorem suffix_readLetter {c : Char} {p : Primitive} (h : readLetter f c cs = some (p, r)) :
    r <:+ cs := by
  unfold readLetter at h
  split at h
  case h_9 => exact suffix_readBoundary h
  case h_13 =>
    split at h <;> cases h
    exact List.suffix_refl _
  all_goals
    cases h
    exact List.suffix_refl _

theorem suffix_readEscape {p : Primitive} (h : readEscape f cs = some (p, r)) : r <:+ cs.tail := by
  unfold readEscape at h
  split at h
  · cases h
  · dsimp only at h
    split at h
    case h_1 | h_2 | h_3 =>
      obtain ⟨⟨_, _⟩, hread, heq⟩ := Option.map_eq_some_iff.1 h
      cases heq
      exact suffix_of_suffix_tail (suffix_readCodePoint hread)
    case h_4 | h_5 =>
      obtain ⟨⟨_, _⟩, hread, heq⟩ := Option.map_eq_some_iff.1 h
      cases heq
      exact suffix_of_suffix_tail (suffix_readNamedSet hread)
    case h_6 =>
      split at h
      · obtain ⟨_, -, heq⟩ := Option.map_eq_some_iff.1 h
        cases heq
        exact List.suffix_refl _
      · exact suffix_readLetter h

/-! ### Classes -/

/-- A sign at the beginning of a class: whether it is there, and what follows. -/
def readSign : List Char → Bool × List Char
  | '^' :: cs => (true, cs)
  | cs => (false, cs)

theorem suffix_readSign (cs : List Char) : (readSign cs).2 <:+ cs := by
  unfold readSign
  split
  · exact List.suffix_cons _ _
  · exact List.suffix_refl _

theorem readAsciiSet_cons (cs : List Char) : readAsciiSet (':' :: cs) =
    match (readSign cs).2.dropWhile (· != ':') with
    | ':' :: ']' :: rest =>
      (asciiSet? (String.ofList ((readSign cs).2.takeWhile (· != ':')))).map fun s =>
        ((readSign cs).1, s, rest)
    | _ => none := rfl

theorem suffix_readAsciiSet {negated : Bool} {s : CharSet}
    (h : readAsciiSet cs = some (negated, s, r)) : r <:+ cs.tail := by
  unfold readAsciiSet at h
  split at h
  · rename_i cs
    change readAsciiSet (':' :: cs) = _ at h
    rw [readAsciiSet_cons] at h
    split at h
    · rename_i rest hcolon
      obtain ⟨_, -, heq⟩ := Option.map_eq_some_iff.1 h
      cases heq
      calc r <:+ ']' :: r := List.suffix_cons _ _
        _ <:+ ':' :: ']' :: r := List.suffix_cons _ _
        _ <:+ (readSign cs).2 := hcolon ▸ List.dropWhile_suffix _
        _ <:+ cs := suffix_readSign cs
    · cases h
  · cases h

/-- An item of a class as it is written. -/
def readItem (f : Flags) : List Char → Option (Primitive × List Char)
  | '\\' :: cs => readEscape f cs
  | c :: cs => some (.literal c, cs)
  | [] => none

/-- Whether something can be an item of a class. -/
def Primitive.isItem (f : Flags) : Primitive → Bool
  | literal c => !(f.ascii && 0x80 ≤ c.toNat)
  | set _ => true
  | look _ => false

theorem readClassItem_eq_match (f : Flags) (cs : List Char) : readClassItem f cs =
    match readItem f cs with
    | some (.look _, _) => none
    | some (.literal c, rest) =>
      if f.ascii && 0x80 ≤ c.toNat then none else some (.literal c, rest)
    | item => item := rfl

theorem readClassItem_eq (f : Flags) (cs : List Char) :
    readClassItem f cs = (readItem f cs).filter fun item => item.1.isItem f := by
  rw [readClassItem_eq_match]
  rcases readItem f cs with _ | ⟨c | s | test, rest⟩
  · rfl
  · by_cases hc : (f.ascii && decide (0x80 ≤ c.toNat)) = true <;>
      simp [Option.filter, Primitive.isItem, hc]
  · rfl
  · rfl

theorem suffix_readItem {p : Primitive} (h : readItem f cs = some (p, r)) : r <:+ cs.tail := by
  unfold readItem at h
  split at h
  · exact suffix_of_suffix_tail (suffix_readEscape h)
  · cases h
    exact List.suffix_refl _
  · cases h

theorem suffix_readClassItem {p : Primitive} (h : readClassItem f cs = some (p, r)) :
    r <:+ cs.tail := by
  rw [readClassItem_eq] at h
  exact suffix_readItem (Option.filter_eq_some_iff.1 h).1

/-- The range between two items, which have to be characters in order. -/
def rangeSet? (f : Flags) : Primitive → Primitive → Option CharSet
  | .literal a, .literal b => if a ≤ b then some (f.close (.range a b)) else none
  | _, _ => none

/-- An item that is followed by a hyphen and a text: a range, or the item alone. -/
def readRangeEnd (f : Flags) (first : Primitive) (cs : List Char) : Option (CharSet × List Char) :=
  match f.skip cs with
  | ']' :: _ | '-' :: _ => some (itemSet f first, '-' :: cs)
  | cs => (readClassItem f cs).bind fun (last, rest) => (rangeSet? f first last).map (·, rest)

/-- An item that is followed by a text. -/
def readRangeAfter (f : Flags) (first : Primitive) (cs : List Char) :
    Option (CharSet × List Char) :=
  match f.skip cs with
  | '-' :: rest => readRangeEnd f first rest
  | rest => some (itemSet f first, rest)

theorem match_literals_eq (f : Flags) (first : Primitive) (cs : List Char) :
    (match first, readClassItem f cs with
      | .literal a, some (.literal b, rest) =>
        if a ≤ b then some (f.close (.range a b), rest) else none
      | _, _ => none) =
      (readClassItem f cs).bind fun (last, rest) => (rangeSet? f first last).map (·, rest) := by
  rcases first with a | s | test <;> rcases readClassItem f cs with _ | ⟨b | s | test, rest⟩
  case literal.some.literal =>
    dsimp only [Option.bind_some, rangeSet?]
    split <;> rfl
  all_goals rfl

theorem match_hyphen_eq (f : Flags) (first : Primitive) (cs : List Char) :
    (match f.skip cs with
      | ']' :: _ | '-' :: _ => some (itemSet f first, '-' :: cs)
      | after =>
        match first, readClassItem f after with
        | .literal a, some (.literal b, rest) =>
          if a ≤ b then some (f.close (.range a b), rest) else none
        | _, _ => none) = readRangeEnd f first cs := by
  unfold readRangeEnd
  split
  · rfl
  · rfl
  · exact match_literals_eq f first _

theorem readRange_eq (f : Flags) (cs : List Char) : readRange f cs =
    (readClassItem f cs).bind fun (first, rest) => readRangeAfter f first rest := by
  rw [readRange]
  rcases readClassItem f cs with _ | ⟨first, rest⟩
  · rfl
  · dsimp only [Option.bind_some, readRangeAfter]
    rcases f.skip rest with _ | ⟨c, after⟩
    · rfl
    · by_cases hc : c = '-'
      · subst hc
        exact match_hyphen_eq f first after
      · simp [hc]

theorem suffix_readRangeEnd {first : Primitive} {s : CharSet}
    (h : readRangeEnd f first cs = some (s, r)) : r <:+ '-' :: cs := by
  unfold readRangeEnd at h
  split at h
  · cases h
    exact List.suffix_refl _
  · cases h
    exact List.suffix_refl _
  · obtain ⟨⟨_, _⟩, hlast, hmap⟩ := Option.bind_eq_some_iff.1 h
    obtain ⟨_, -, heq⟩ := Option.map_eq_some_iff.1 hmap
    cases heq
    calc r <:+ f.skip cs := suffix_of_suffix_tail (suffix_readClassItem hlast)
      _ <:+ cs := f.suffix_skip cs
      _ <:+ '-' :: cs := List.suffix_cons _ _

theorem suffix_readRangeAfter {first : Primitive} {s : CharSet}
    (h : readRangeAfter f first cs = some (s, r)) : r <:+ cs := by
  have hskip := f.suffix_skip cs
  unfold readRangeAfter at h
  split at h
  · rename_i heq
    exact (suffix_readRangeEnd h).trans (heq ▸ hskip)
  · cases h
    exact hskip

theorem suffix_readRange {s : CharSet} (h : readRange f cs = some (s, r)) : r <:+ cs.tail := by
  rw [readRange_eq] at h
  obtain ⟨⟨_, _⟩, hfirst, hafter⟩ := Option.bind_eq_some_iff.1 h
  exact (suffix_readRangeAfter hafter).trans (suffix_readClassItem hfirst)

theorem suffix_readHyphens (f : Flags) (n : Nat) (items : Items) (cs : List Char) :
    (readHyphens f n items cs).2 <:+ cs := by
  induction n generalizing items cs with
  | zero => exact List.suffix_refl cs
  | succ n ih =>
    unfold readHyphens
    split
    · rename_i rest hskip
      exact (ih _ rest).trans (suffix_of_suffix_tail (suffix_of_skip_eq_cons hskip))
    · exact f.suffix_skip cs

/-- The items at the beginning of a class: hyphens, or the closing bracket that stands for itself
there. -/
def startItems : Items × List Char → Items × List Char
  | (⟨_, 0, _⟩, ']' :: rest) => (Items.none.add (.single ']') 0, rest)
  | start => start

theorem readClassStart_eq_match (f : Flags) (cs : List Char) : readClassStart f cs =
    match readHyphens f ((readSign (f.skip cs)).2.length + 1) .none (readSign (f.skip cs)).2 with
    | (⟨_, 0, _⟩, ']' :: rest) =>
      ((readSign (f.skip cs)).1, Items.none.add (.single ']') 0, rest)
    | (items, rest) => ((readSign (f.skip cs)).1, items, rest) := rfl

theorem readClassStart_eq (f : Flags) (cs : List Char) : readClassStart f cs =
    ((readSign (f.skip cs)).1, startItems
      (readHyphens f ((readSign (f.skip cs)).2.length + 1) .none (readSign (f.skip cs)).2)) := by
  rw [readClassStart_eq_match]
  generalize readHyphens f _ _ _ = start
  rcases start with ⟨⟨set, _ | count, nesting⟩, _ | ⟨c, rest⟩⟩
  · rfl
  · by_cases hc : c = ']'
    · subst hc
      rfl
    · simp [startItems, hc]
  · rfl
  · rfl

theorem suffix_startItems (start : Items × List Char) : (startItems start).2 <:+ start.2 := by
  unfold startItems
  split
  · exact List.suffix_cons _ _
  · exact List.suffix_refl _

theorem suffix_readClassStart (f : Flags) (cs : List Char) : (readClassStart f cs).2.2 <:+ cs := by
  rw [readClassStart_eq]
  calc _ <:+ _ := suffix_startItems _
    _ <:+ _ := suffix_readHyphens _ _ _ _
    _ <:+ _ := suffix_readSign _
    _ <:+ cs := f.suffix_skip cs

/-- An operation on classes at the beginning of a text. -/
def operation? : List Char → Option (ClassOperation × List Char)
  | '&' :: '&' :: rest => some (.intersection, rest)
  | '-' :: '-' :: rest => some (.difference, rest)
  | '~' :: '~' :: rest => some (.symmetric, rest)
  | _ => none

theorem suffix_operation? {op : ClassOperation} (h : operation? cs = some (op, r)) :
    r <:+ cs.tail := by
  unfold operation? at h
  split at h <;> cases h <;> exact List.suffix_cons _ _

section

variable {negated : Bool} {pending : Pending} {items : Items}

theorem readItems_of_skip_eq_nil (h : f.skip cs = []) :
    readItems f n negated pending items cs = none := by
  cases n with
  | zero => rfl
  | succ n => rw [readItems, h]

/-- The set of a class, which may be negated. -/
def signedSet? (f : Flags) (negated : Bool) (s : CharSet) : Option CharSet :=
  if negated then complement? f s else some s

theorem readItems_of_skip_eq_close (h : f.skip cs = ']' :: r) :
    readItems f (n + 1) negated pending items cs =
      (signedSet? f negated (finishOperation pending items).set).map fun s =>
        (⟨s, (finishOperation pending items).nesting + 1⟩, r) := by
  rw [readItems, h]
  cases negated <;> rfl

theorem readItems_eq_match_of_skip_eq_open (h : f.skip cs = '[' :: r) :
    readItems f (n + 1) negated pending items cs =
      match readAsciiSet r with
      | some (false, s, rest) => readItems f n negated pending (items.add (f.close s) 0) rest
      | some (true, s, rest) =>
        match complement? f (f.close s) with
        | some s => readItems f n negated pending (items.add s 0) rest
        | none => none
      | none =>
        match readItems f n (readClassStart f r).1 none (readClassStart f r).2.1
          (readClassStart f r).2.2 with
        | some (b, rest) => readItems f n negated pending (items.add b.set b.nesting) rest
        | none => none := by
  rw [readItems, h]
  rfl

theorem readItems_of_skip_eq_open (h : f.skip cs = '[' :: r) :
    readItems f (n + 1) negated pending items cs =
      match readAsciiSet r with
      | some (sign, s, rest) =>
        (signedSet? f sign (f.close s)).bind fun s =>
          readItems f n negated pending (items.add s 0) rest
      | none =>
        (readItems f n (readClassStart f r).1 none (readClassStart f r).2.1
          (readClassStart f r).2.2).bind fun (b, rest) =>
            readItems f n negated pending (items.add b.set b.nesting) rest := by
  rw [readItems_eq_match_of_skip_eq_open h]
  rcases readAsciiSet r with _ | ⟨_ | _, s, rest⟩
  · rcases readItems f n (readClassStart f r).1 none (readClassStart f r).2.1
      (readClassStart f r).2.2 with _ | ⟨b, rest⟩ <;> rfl
  · rfl
  · dsimp only [signedSet?, if_true]
    cases complement? f (f.close s) <;> rfl

theorem match_range_eq (cs : List Char) :
    (match readRange f cs with
      | some (s, rest) => readItems f n negated pending (items.add s 0) rest
      | none => none) =
      (readRange f cs).bind fun (s, rest) =>
        readItems f n negated pending (items.add s 0) rest := by
  rcases readRange f cs with _ | ⟨s, rest⟩ <;> rfl

theorem readItems_of_skip_eq_cons {c : Char} (h : f.skip cs = c :: r) (hclose : c ≠ ']')
    (hopen : c ≠ '[') :
    readItems f (n + 1) negated pending items cs =
      match operation? (c :: r) with
      | some (op, rest) =>
        readItems f n negated (some (op, finishOperation pending items)) .none rest
      | none =>
        (readRange f (c :: r)).bind fun (s, rest) =>
          readItems f n negated pending (items.add s 0) rest := by
  rw [readItems, h]
  split
  · contradiction
  · rename_i heq
    exact absurd (List.cons.inj heq).1 hclose
  · rename_i heq
    exact absurd (List.cons.inj heq).1 hopen
  case h_4 heq | h_5 heq | h_6 heq =>
    rw [heq]
    rfl
  · rename_i hand hminus htilde
    have hnone : operation? (c :: r) = none := by
      unfold operation?
      split
      · exact absurd ‹_› (hand _)
      · exact absurd ‹_› (hminus _)
      · exact absurd ‹_› (htilde _)
      · rfl
    rw [hnone]
    exact match_range_eq (c :: r)

end

theorem suffix_readItems {negated : Bool} {pending : Pending} {items : Items} {b : Bracket}
    (h : readItems f n negated pending items cs = some (b, r)) : r <:+ (f.skip cs).tail := by
  induction n generalizing negated pending items cs b r with
  | zero => cases h
  | succ n ih =>
    -- the item that is read first is at least one character, so the rest may be left as a whole
    have hle {cs r : List Char} {negated : Bool} {pending : Pending} {items : Items} {b : Bracket}
        (h : readItems f n negated pending items cs = some (b, r)) : r <:+ cs :=
      (suffix_of_suffix_tail (ih h)).trans (f.suffix_skip cs)
    cases hskip : f.skip cs with
    | nil =>
      rw [readItems_of_skip_eq_nil hskip] at h
      cases h
    | cons c rest =>
      rw [List.tail_cons]
      by_cases hclose : c = ']'
      · subst hclose
        rw [readItems_of_skip_eq_close hskip] at h
        obtain ⟨_, -, heq⟩ := Option.map_eq_some_iff.1 h
        cases heq
        exact List.suffix_refl _
      by_cases hopen : c = '['
      · subst hopen
        rw [readItems_of_skip_eq_open hskip] at h
        split at h
        · rename_i hset
          obtain ⟨_, -, h⟩ := Option.bind_eq_some_iff.1 h
          exact (hle h).trans (suffix_of_suffix_tail (suffix_readAsciiSet hset))
        · obtain ⟨⟨_, _⟩, hinner, h⟩ := Option.bind_eq_some_iff.1 h
          exact (hle h).trans ((hle hinner).trans (suffix_readClassStart f rest))
      rw [readItems_of_skip_eq_cons hskip hclose hopen] at h
      split at h
      · rename_i hop
        exact (hle h).trans (suffix_operation? hop)
      · obtain ⟨⟨_, _⟩, hrange, h⟩ := Option.bind_eq_some_iff.1 h
        exact (hle h).trans (suffix_readRange hrange)

/-- A class from its beginning on leaves an end of what there was. -/
theorem suffix_readItems_readClassStart {b : Bracket}
    (h : readItems f n (readClassStart f cs).1 none (readClassStart f cs).2.1
      (readClassStart f cs).2.2 = some (b, r)) : r <:+ cs := by
  calc r <:+ _ := suffix_of_suffix_tail (suffix_readItems h)
    _ <:+ _ := f.suffix_skip _
    _ <:+ cs := suffix_readClassStart f cs

theorem suffix_readBracket {b : Bracket} (h : readBracket f cs = some (b, r)) : r <:+ cs :=
  suffix_readItems_readClassStart h

end TripletFacts.Regex
