import Mathlib.Data.List.TakeWhile
import Mathlib.Tactic.SplitIfs
import TripletFacts.Json.Printer
import TripletFacts.Json.Reader
import TripletFacts.Proofs.Number.Characters

/-!
# JSON text is read back

A value that is written as JSON text is read back as itself, wherever in a text it stands, as long
as it is nested no deeper than the reader allows; a value that is nested deeper is not read at all.
Every part of a text is followed by nothing or by one of the characters that end a value, so it is
enough to look at readers in front of such a rest.

Three things have to be known of a value. Its integers have 64 bits, since others are read as
floats. Its floats come back from their texts, which is not so for all of them, since reading scales
by powers of ten and rounds. And no object has two fields with one name, since only the last of them
would count.

## Main definitions

* `Json.Closed`: what may stand behind a value.
* `Json.nesting`: how deep arrays and objects are nested.
* `Json.Rereads`, `Json.Legible`: floats and values whose texts are read back.
* `Json.IsReadBack`: what it means for a value to be read back.

## Main results

* `Json.readNumber_writeInt`, `Json.readQuoted_quote`: integers and strings are read back.
* `Json.readSequence_intercalate`: items in a row are read if each of them is.
* `Json.Legible.isReadBack`, `Json.Legible.parse?_write`: legible values are read back.
-/

namespace TripletFacts.Json

/-! ### Ends of values -/

/-- A character that ends a value inside of an array or an object. -/
def closes (c : Char) : Bool := c == ',' || c == ']' || c == '\x7d'

/-- A text that may stand behind a value: nothing, or a character that ends the value. -/
def Closed (rest : List Char) : Prop := rest.head?.all closes = true

theorem closed_nil : Closed [] := rfl

theorem closed_cons {c : Char} (h : closes c = true) (rest : List Char) : Closed (c :: rest) := h

/-! ### Numbers -/

section Numbers

variable {rest : List Char}

theorem Closed.stops_isDigit (h : Closed rest) : rest.head?.all (fun c => !isDigit c) = true := by
  cases rest with
  | nil => rfl
  | cons c rest =>
    simp only [Closed, List.head?_cons, Option.all_some, closes, Bool.or_eq_true, beq_iff_eq] at h ⊢
    rcases h with (rfl | rfl) | rfl <;> decide

theorem Closed.takeWhile_isDigit_append (h : Closed rest) (cs : List Char) :
    (cs ++ rest).takeWhile isDigit = cs.takeWhile isDigit :=
  takeWhile_append_of_stops h.stops_isDigit cs

theorem Closed.dropWhile_isDigit_append (h : Closed rest) (cs : List Char) :
    (cs ++ rest).dropWhile isDigit = cs.dropWhile isDigit ++ rest := by
  rw [← List.append_cancel_left_eq (cs.takeWhile isDigit), ← List.append_assoc,
    List.takeWhile_append_dropWhile, ← h.takeWhile_isDigit_append cs,
    List.takeWhile_append_dropWhile]

theorem Closed.ne_of_head? (h : Closed rest) {c : Char} (hc : closes c = false) :
    rest.head? ≠ some c := by
  intro hhead
  rw [Closed, hhead, Option.all_some, hc] at h
  cases h

theorem Closed.readFraction_append (h : Closed rest) (cs : List Char) :
    readFraction (cs ++ rest) = (readFraction cs).map fun (f, r) => (f, r ++ rest) := by
  have hnone {ds : List Char} (hds : ds.head? ≠ some '.') : readFraction ds = some (none, ds) := by
    unfold readFraction
    split
    · exact absurd rfl hds
    · rfl
  cases cs with
  | nil => rw [List.nil_append, hnone (h.ne_of_head? (by decide)), hnone (by simp)]; rfl
  | cons c cs =>
    by_cases hc : c = '.'
    · subst hc
      rw [List.cons_append, readFraction, readFraction, h.takeWhile_isDigit_append,
        h.dropWhile_isDigit_append]
      split <;> rfl
    · rw [hnone (by simpa using hc), hnone (by simpa using hc)]; rfl

theorem Closed.splitSign_append (h : Closed rest) (cs : List Char) :
    splitSign (cs ++ rest) = ((splitSign cs).1, (splitSign cs).2 ++ rest) := by
  have hsign {ds : List Char} (hminus : ds.head? ≠ some '-') (hplus : ds.head? ≠ some '+') :
      splitSign ds = (false, ds) := by
    unfold splitSign
    split
    · exact absurd rfl hminus
    · exact absurd rfl hplus
    · rfl
  cases cs with
  | nil => exact hsign (h.ne_of_head? (by decide)) (h.ne_of_head? (by decide))
  | cons c cs =>
    by_cases hminus : c = '-'
    · rw [hminus]; rfl
    · by_cases hplus : c = '+'
      · rw [hplus]; rfl
      · rw [hsign (by simpa using hminus) (by simpa using hplus),
          hsign (by simpa using hminus) (by simpa using hplus)]

theorem Closed.readExponent_append (h : Closed rest) (cs : List Char) :
    readExponent (cs ++ rest) = (readExponent cs).map fun (e, r) => (e, r ++ rest) := by
  cases cs with
  | nil =>
    cases rest with
    | nil => rfl
    | cons c rest =>
      have hsmall : c ≠ 'e' := by simpa using h.ne_of_head? (c := 'e') (by decide)
      have hcapital : c ≠ 'E' := by simpa using h.ne_of_head? (c := 'E') (by decide)
      simp [readExponent, hsmall, hcapital]
  | cons c cs =>
    rw [List.cons_append, readExponent, readExponent, h.splitSign_append]
    simp only [h.takeWhile_isDigit_append, h.dropWhile_isDigit_append]
    split
    · split <;> rfl
    · rfl

/-- The number after its sign. -/
def readUnsigned (negative : Bool) (body : List Char) : Option (Json × List Char) :=
  match body.takeWhile isDigit with
  | [] => none
  | '0' :: _ :: _ => none
  | whole =>
    match readFraction (body.dropWhile isDigit) with
    | none => none
    | some (fraction, rest) =>
      match readExponent rest with
      | none => none
      | some (exponent, rest) => (assemble negative whole fraction exponent).map (·, rest)

theorem readNumber_minus (cs : List Char) : readNumber ('-' :: cs) = readUnsigned true cs := rfl

theorem readNumber_of_ne {cs : List Char} (h : cs.head? ≠ some '-') :
    readNumber cs = readUnsigned false cs := by
  unfold readNumber
  split
  rename_i heq
  split at heq
  · exact absurd rfl h
  · cases heq
    rfl

theorem Closed.readUnsigned_append (h : Closed rest) (negative : Bool) (cs : List Char) :
    readUnsigned negative (cs ++ rest) =
      (readUnsigned negative cs).map fun (v, r) => (v, r ++ rest) := by
  unfold readUnsigned
  rw [h.takeWhile_isDigit_append, h.dropWhile_isDigit_append, h.readFraction_append]
  split
  · rfl
  · rfl
  · cases readFraction (cs.dropWhile isDigit) with
    | none => rfl
    | some f =>
      dsimp only [Option.map_some]
      rw [h.readExponent_append]
      cases readExponent f.2 with
      | none => rfl
      | some e =>
        dsimp only [Option.map_some]
        cases assemble negative _ f.1 e.1 <;> rfl

/-- A number is read in the same way if a value may end behind it. -/
theorem Closed.readNumber_append (h : Closed rest) (cs : List Char) :
    readNumber (cs ++ rest) = (readNumber cs).map fun (v, r) => (v, r ++ rest) := by
  cases cs with
  | nil =>
    rw [List.nil_append, readNumber_of_ne (h.ne_of_head? (by decide)), ← List.nil_append rest,
      h.readUnsigned_append]
    rfl
  | cons c cs =>
    by_cases hc : c = '-'
    · subst hc
      exact h.readUnsigned_append true cs
    · rw [readNumber_of_ne (by simpa using hc), readNumber_of_ne (by simpa using hc)]
      exact h.readUnsigned_append false (c :: cs)

/-- A digit behind a number. -/
def appendDigit (n : Nat) (c : Char) : Nat := 10 * n + (c.toNat - '0'.toNat)

theorem le_foldl_appendDigit (n : Nat) (ds : List Char) : n ≤ ds.foldl appendDigit n := by
  induction ds generalizing n with
  | nil => exact Nat.le_refl n
  | cons d ds ih =>
    have hstep : n ≤ appendDigit n d := by
      rw [appendDigit]
      omega
    exact Nat.le_trans hstep (ih _)

/-- Digits are taken as long as the number has 64 bits. -/
theorem takeDigits_eq {n : Nat} {ds : List Char} (h : ds.foldl appendDigit n < UInt64.size) :
    takeDigits n ds = (ds.foldl appendDigit n, []) := by
  induction ds generalizing n with
  | nil => rfl
  | cons d ds ih =>
    have hvalue : 10 * n + digitsValue [d] = appendDigit n d := by
      simp [digitsValue, appendDigit]
    have hlt : appendDigit n d < UInt64.size :=
      Nat.lt_of_le_of_lt (le_foldl_appendDigit _ ds) h
    rw [takeDigits, hvalue, if_pos hlt]
    exact ih h

theorem takeDigits_toDigits {n : Nat} (h : n < UInt64.size) :
    takeDigits 0 (Nat.toDigits 10 n) = (n, []) := by
  have hvalue : (Nat.toDigits 10 n).foldl appendDigit 0 = n := digitsValue_toDigits n
  rw [takeDigits_eq (hvalue.symm ▸ h), hvalue]

/-- The digits of a number are read up to their end. -/
theorem readUnsigned_toDigits (negative : Bool) (n : Nat) :
    readUnsigned negative (Nat.toDigits 10 n) =
      (assemble negative (Nat.toDigits 10 n) none none).map (·, []) := by
  have hdigits : ∀ c ∈ Nat.toDigits 10 n, isDigit c = true :=
    List.all_eq_true.1 (all_isDigit_toDigits n)
  have htake : (Nat.toDigits 10 n).takeWhile isDigit = Nat.toDigits 10 n :=
    List.takeWhile_eq_self_iff.2 hdigits
  have hdrop : (Nat.toDigits 10 n).dropWhile isDigit = [] := List.dropWhile_eq_nil_iff.2 hdigits
  unfold readUnsigned
  rw [htake, hdrop]
  split
  · next heq => exact absurd heq Nat.toDigits_ne_nil
  · next heq =>
    -- only the number zero has a zero in front, and it has one digit
    rcases Nat.eq_zero_or_pos n with rfl | hn
    · cases heq
    · exact absurd (congrArg List.head? heq) (head?_toDigits_ne hn)
  · rfl

/-- An integer that has 64 bits, signed or unsigned. -/
def IsWord (i : Int) : Prop := Int64.minValue.toInt ≤ i ∧ i < UInt64.size

theorem readNumber_writeInt {i : Int} (h : IsWord i) :
    readNumber (writeInt i) = some (.int i, []) := by
  obtain ⟨hmin, hmax⟩ := h
  have hleast : Int64.minValue.toInt = -(2 ^ 63) := rfl
  have hsize : UInt64.size = 2 ^ 64 := rfl
  have htake := takeDigits_toDigits (n := i.natAbs) (by omega)
  by_cases hi : i < 0
  · have habs : -(i.natAbs : Int) = i := by omega
    have hnegative : i.natAbs ≠ 0 ∧ i.natAbs ≤ Int64.minValue.toInt.natAbs := by omega
    rw [writeInt, if_pos hi, List.singleton_append, readNumber_minus, readUnsigned_toDigits,
      assemble, htake]
    simp only [List.isEmpty_nil, Option.isNone_none, Bool.and_self, if_true, Bool.not_true,
      Bool.false_eq_true, if_false, hnegative, habs, ne_eq, not_false_eq_true, and_self,
      Option.map_some]
  · have habs : (i.natAbs : Int) = i := by omega
    have hsign : (Nat.toDigits 10 i.natAbs).head? ≠ some '-' := fun h =>
      absurd (List.all_eq_true.1 (all_isDigit_toDigits _) _ (List.mem_of_head? h)) (by decide)
    rw [writeInt, if_neg hi, List.nil_append, readNumber_of_ne hsign, readUnsigned_toDigits,
      assemble, htake]
    simp [habs]

end Numbers

/-! ### Strings -/

/-- The number of a control character is read from its two last hexadecimal digits. -/
theorem readUnicodeEscape_control {c : Char} (h : c.toNat < 0x20) (cs : List Char) :
    readUnicodeEscape ('0' :: '0' :: hexDigit (c.toNat / 16) :: hexDigit (c.toNat % 16) :: cs) =
      some (c, cs) := by
  have hvalue : ∀ n < 0x20,
      hexValue? ['0', '0', hexDigit (n / 16), hexDigit (n % 16)] = some n := by decide
  have hhex : readHex4 ('0' :: '0' :: hexDigit (c.toNat / 16) :: hexDigit (c.toNat % 16) :: cs) =
      some (c.toNat, cs) := by
    rw [readHex4, if_neg (by simp)]
    simp [hvalue c.toNat h]
  rw [readUnicodeEscape, hhex]
  simp only
  rw [if_neg (by omega), if_neg (by omega), Char.ofNat_toNat]

/-- A character is escaped by a letter or, if it is a control character, by its number; all others
stand for themselves. -/
theorem escapeChar_cases (c : Char) :
    (∃ d, escapeChar c = ['\\', d] ∧ d ≠ 'u' ∧ shortEscape? d = some c) ∨
      c.toNat < 0x20 ∧ escapeChar c =
        ['\\', 'u', '0', '0', hexDigit (c.toNat / 16), hexDigit (c.toNat % 16)] ∨
      (¬c.toNat < 0x20 ∧ c ≠ '\\' ∧ c ≠ '"') ∧ escapeChar c = [c] := by
  unfold escapeChar
  split_ifs with hquote hslash _ _ _ _ _ hcontrol
  any_goals (subst_vars; exact .inl ⟨_, rfl, by decide, rfl⟩)
  · exact .inr (.inl ⟨hcontrol, rfl⟩)
  · exact .inr (.inr ⟨⟨hcontrol, hslash, hquote⟩, rfl⟩)

/-- A character inside of quotes is read back. -/
theorem readString_escapeChar (n : Nat) (c : Char) (cs : List Char) :
    readString (n + 1) (escapeChar c ++ cs) =
      (readString n cs).map fun (s, rest) => (c :: s, rest) := by
  rcases escapeChar_cases c with ⟨d, hc, hd, hshort⟩ | ⟨hcontrol, hc⟩ | ⟨hplain, hc⟩
  · rw [hc, List.cons_append, List.singleton_append, readString, hshort]
    exact hd
  · rw [hc]
    simp only [List.cons_append, List.nil_append, readString, readUnicodeEscape_control hcontrol]
  · obtain ⟨hcontrol, hslash, hquote⟩ := hplain
    rw [hc, List.singleton_append, readString, if_neg (not_or.2 ⟨hcontrol, hslash⟩)]
    · exact hquote
    · exact fun _ h => absurd h hslash
    · exact fun _ _ h => absurd h hslash

theorem readString_quoted {n : Nat} {s : List Char} (h : s.length < n) (rest : List Char) :
    readString n (s.flatMap escapeChar ++ '"' :: rest) = some (s, rest) := by
  induction s generalizing n with
  | nil =>
    cases n with
    | zero => cases h
    | succ n => rfl
  | cons c s ih =>
    cases n with
    | zero => cases h
    | succ n =>
      rw [List.flatMap_cons, List.append_assoc, readString_escapeChar,
        ih (Nat.lt_of_succ_lt_succ h)]
      rfl

theorem length_le_flatMap_escapeChar (s : List Char) :
    s.length ≤ (s.flatMap escapeChar).length := by
  induction s with
  | nil => exact Nat.le_refl 0
  | cons c s ih =>
    have hpos : 1 ≤ (escapeChar c).length := by
      rcases escapeChar_cases c with ⟨d, hc, -, -⟩ | ⟨-, hc⟩ | ⟨-, hc⟩ <;> simp [hc]
    rw [List.flatMap_cons, List.length_append, List.length_cons]
    omega

/-- A string in quotes is read back. -/
theorem readQuoted_quote (s : String) (rest : List Char) :
    readQuoted (quote s ++ rest) = some (s, rest) := by
  have hlength := length_le_flatMap_escapeChar s.toList
  rw [quote, List.cons_append, readQuoted, List.append_assoc, List.singleton_append,
    readString_quoted (by rw [List.length_append]; omega), Option.map_some]
  simp only [String.ofList_toList]

/-! ### Sequences -/

/-- A text that begins with a character that is no blank and ends no value. -/
def Opens (w : List Char) : Prop := ∃ c cs, w = c :: cs ∧ isBlank c = false ∧ closes c = false

theorem skipBlanks_cons {c : Char} (h : isBlank c = false) (cs : List Char) :
    skipBlanks (c :: cs) = c :: cs :=
  List.dropWhile_cons_of_neg (by simp [h])

theorem Opens.skipBlanks_append {w : List Char} (h : Opens w) (rest : List Char) :
    skipBlanks (w ++ rest) = w ++ rest := by
  obtain ⟨c, cs, rfl, hc, -⟩ := h
  exact skipBlanks_cons hc _

section Sequences

variable {α β : Type} {item : List Char → Option (β × List Char)} {text : α → List Char}
  {value : α → β} {Fits : α → Prop} [DecidablePred Fits] {close : Char} {as : List α}

/-- Behind the first of several items there is a comma. -/
theorem intercalate_map_cons_cons (text : α → List Char) (a b : α) (as : List α) :
    [','].intercalate ((a :: b :: as).map text) =
      text a ++ ',' :: [','].intercalate ((b :: as).map text) := by
  rw [List.map_cons, List.map_cons, List.intercalate_cons_cons, List.append_assoc]
  rfl

/-- Items in a row begin with the first of them. -/
theorem exists_intercalate_eq_append (text : α → List Char) (a : α) (as : List α) :
    ∃ tail, [','].intercalate ((a :: as).map text) = text a ++ tail := by
  cases as with
  | nil => exact ⟨[], by simp⟩
  | cons b as => exact ⟨_, intercalate_map_cons_cons text a b as⟩

/-- Items with commas between them are read if every item is read. -/
theorem readItems_intercalate (hclose : close = ']' ∨ close = '\x7d')
    (hitem : ∀ a ∈ as, ∀ rest, Closed rest →
      item (text a ++ rest) = if Fits a then some (value a, rest) else none)
    (hopens : ∀ a ∈ as, Opens (text a)) {n : Nat} (hn : as.length ≤ n) (hne : as ≠ [])
    (rest : List Char) :
    readItems item close n ([','].intercalate (as.map text) ++ close :: rest) =
      if ∀ a ∈ as, Fits a then some (as.map value, rest) else none := by
  have hcloses : closes close = true := by rcases hclose with rfl | rfl <;> rfl
  have hblank : isBlank close = false := by rcases hclose with rfl | rfl <;> rfl
  have hcomma : ',' ≠ close := by rcases hclose with rfl | rfl <;> decide
  induction as generalizing n with
  | nil => exact absurd rfl hne
  | cons a as ih =>
    obtain ⟨n, rfl⟩ : ∃ m, n = m + 1 := ⟨n - 1, by simp at hn; omega⟩
    rw [List.forall_mem_cons] at hitem hopens
    cases as with
    | nil =>
      rw [List.map_singleton, List.intercalate_singleton, readItems,
        hopens.1.skipBlanks_append, hitem.1 _ (closed_cons hcloses rest)]
      by_cases ha : Fits a <;> simp [ha, skipBlanks_cons hblank]
    | cons b as =>
      have hrest := ih hitem.2 hopens.2 (n := n) (by simpa using hn) (List.cons_ne_nil b as)
      rw [intercalate_map_cons_cons, List.append_assoc, List.cons_append, readItems,
        hopens.1.skipBlanks_append, hitem.1 _ (closed_cons rfl _)]
      by_cases ha : Fits a
      · have hall : (∀ x ∈ a :: b :: as, Fits x) ↔ ∀ x ∈ b :: as, Fits x := by
          rw [List.forall_mem_cons]
          exact and_iff_right ha
        simp only [ha, if_true, skipBlanks_cons (c := ',') rfl, if_neg hcomma, hrest, hall]
        split <;> rfl
      · simp [ha]

theorem length_le_length_intercalate (hopens : ∀ a ∈ as, Opens (text a)) :
    as.length ≤ ([','].intercalate (as.map text)).length := by
  induction as with
  | nil => exact Nat.zero_le _
  | cons a as ih =>
    rw [List.forall_mem_cons] at hopens
    obtain ⟨c, cs, ha, -, -⟩ := hopens.1
    have hrest := ih hopens.2
    cases as with
    | nil => simp [ha]
    | cons b as =>
      rw [intercalate_map_cons_cons, List.length_append, List.length_cons, List.length_cons]
      exact Nat.le_add_left_of_le (Nat.succ_le_succ hrest)

/-- Nothing, or items with commas between them, are read if every item is read. -/
theorem readSequence_intercalate (hclose : close = ']' ∨ close = '\x7d')
    (hitem : ∀ a ∈ as, ∀ rest, Closed rest →
      item (text a ++ rest) = if Fits a then some (value a, rest) else none)
    (hopens : ∀ a ∈ as, Opens (text a)) (rest : List Char) :
    readSequence item close ([','].intercalate (as.map text) ++ close :: rest) =
      if ∀ a ∈ as, Fits a then some (as.map value, rest) else none := by
  have hblank : isBlank close = false := by rcases hclose with rfl | rfl <;> rfl
  cases as with
  | nil =>
    rw [List.map_nil, List.intercalate_nil, List.nil_append, readSequence, skipBlanks_cons hblank]
    simp
  | cons a as =>
    have hlength := length_le_length_intercalate hopens
    obtain ⟨tail, htail⟩ := exists_intercalate_eq_append text a as
    obtain ⟨c, cs, ha, hc, hcloses⟩ := hopens a List.mem_cons_self
    have hne : c ≠ close := by
      rintro rfl
      rcases hclose with rfl | rfl <;> cases hcloses
    obtain ⟨ds, hds⟩ : ∃ ds, [','].intercalate ((a :: as).map text) ++ close :: rest = c :: ds :=
      ⟨cs ++ (tail ++ close :: rest), by rw [htail, ha]; simp⟩
    have hn : (a :: as).length ≤ (c :: ds).length := by
      rw [← hds, List.length_append]
      exact Nat.le_add_right_of_le hlength
    have hitems := readItems_intercalate hclose hitem hopens hn (List.cons_ne_nil a as) rest
    rw [hds] at hitems ⊢
    rw [readSequence, skipBlanks_cons hc]
    simp only [if_neg hne]
    exact hitems

end Sequences

/-! ### Values -/

mutual

/-- How deep arrays and objects are nested. -/
def nesting : Json → Nat
  | arr items => 1 + nestingItems items
  | obj fields => 1 + nestingFields fields
  | null | bool _ | int _ | float _ | str _ => 0

/-- How deep the deepest of several values is nested. -/
def nestingItems : List Json → Nat
  | [] => 0
  | v :: vs => max v.nesting (nestingItems vs)

/-- How deep the deepest value of several fields is nested. -/
def nestingFields : List (String × Json) → Nat
  | [] => 0
  | (_, v) :: fields => max v.nesting (nestingFields fields)

end

theorem nestingItems_le_iff {vs : List Json} {n : Nat} :
    nestingItems vs ≤ n ↔ ∀ v ∈ vs, v.nesting ≤ n := by
  induction vs with
  | nil => simp [nestingItems]
  | cons v vs ih => rw [nestingItems, Nat.max_le, ih, List.forall_mem_cons]

theorem nestingFields_le_iff {fields : List (String × Json)} {n : Nat} :
    nestingFields fields ≤ n ↔ ∀ f ∈ fields, f.2.nesting ≤ n := by
  induction fields with
  | nil => simp [nestingFields]
  | cons f fields ih => rw [nestingFields, Nat.max_le, ih, List.forall_mem_cons]

/-- The text of a float that is read back as the same float. Since reading scales by powers of
ten, not every float has one. -/
def Rereads (x : Float) : Prop := readNumber (writeFloat x) = some (.float x, [])

/-- Values whose texts are read back: their numbers are, and no object has two fields with one
name. -/
inductive Legible : Json → Prop
  | null : Legible null
  | bool (b : Bool) : Legible (bool b)
  | int {i : Int} (h : IsWord i) : Legible (int i)
  | float {x : Float} (h : Rereads x) : Legible (float x)
  | str (s : String) : Legible (str s)
  | arr {items : List Json} (h : ∀ v ∈ items, Legible v) : Legible (arr items)
  | obj {fields : List (String × Json)} (hkeys : (fields.map Prod.fst).Nodup)
      (h : ∀ f ∈ fields, Legible f.2) : Legible (obj fields)

theorem writeItems_eq_intercalate (vs : List Json) :
    writeItems vs = [','].intercalate (vs.map write) := by
  induction vs with
  | nil => rfl
  | cons v vs ih =>
    cases vs with
    | nil => simp [writeItems]
    | cons w vs =>
      rw [writeItems, ih, intercalate_map_cons_cons]
      exact List.cons_ne_nil w vs

/-- A field of an object with its name. -/
def writeField (f : String × Json) : List Char := quote f.1 ++ ':' :: f.2.write

theorem writeFields_eq_intercalate (fields : List (String × Json)) :
    writeFields fields = [','].intercalate (fields.map writeField) := by
  induction fields with
  | nil => rfl
  | cons f fields ih =>
    cases fields with
    | nil => simp [writeFields, writeField]
    | cons g fields =>
      rw [writeFields, ih, intercalate_map_cons_cons, writeField, List.append_assoc,
        List.cons_append]
      exact List.cons_ne_nil g fields

/-! ### Reading back -/

/-- The characters that numbers begin with. -/
def beginsNumber (c : Char) : Bool := c = '-' || isDigit c

theorem exists_cons_of_readNumber {w : List Char} {r : Json × List Char}
    (h : readNumber w = some r) : ∃ c cs, w = c :: cs ∧ beginsNumber c = true := by
  cases w with
  | nil => cases h
  | cons c cs =>
    refine ⟨c, cs, rfl, ?_⟩
    by_cases hc : c = '-'
    · simp [beginsNumber, hc]
    · rw [readNumber_of_ne (by simpa using hc)] at h
      cases hdigit : isDigit c with
      | true => simp [beginsNumber, hdigit]
      | false => simp [readUnsigned, hdigit] at h

theorem opens_of_readNumber {w : List Char} {r : Json × List Char} (h : readNumber w = some r) :
    Opens w := by
  obtain ⟨c, cs, rfl, hc⟩ := exists_cons_of_readNumber h
  refine ⟨c, cs, rfl, ?_, ?_⟩ <;> rw [← Bool.not_eq_true] <;> intro hother
  · simp only [isBlank, Bool.or_eq_true, beq_iff_eq] at hother
    rcases hother with ((rfl | rfl) | rfl) | rfl <;> exact absurd hc (by decide)
  · simp only [closes, Bool.or_eq_true, beq_iff_eq] at hother
    rcases hother with (rfl | rfl) | rfl <;> exact absurd hc (by decide)

theorem Legible.opens {v : Json} (h : v.Legible) : Opens v.write := by
  cases h with
  | null | str _ | arr _ | obj _ _ => exact ⟨_, _, rfl, rfl, rfl⟩
  | bool b => cases b <;> exact ⟨_, _, rfl, rfl, rfl⟩
  | int h => exact opens_of_readNumber (readNumber_writeInt h)
  | float h => exact opens_of_readNumber h

/-- A value is read back, wherever its text stands, if it is nested no deeper than allowed, and it
is not read at all if it is nested deeper. -/
def IsReadBack (v : Json) : Prop :=
  ∀ (depth : Nat) {rest : List Char}, Closed rest →
    readValue depth (v.write ++ rest) = if v.nesting ≤ depth then some (v, rest) else none

/-- A number is read as a value. -/
theorem readValue_of_readNumber {w rest : List Char} {v : Json} (h : readNumber w = some (v, []))
    (hrest : Closed rest) (depth : Nat) : readValue depth (w ++ rest) = some (v, rest) := by
  obtain ⟨c, cs, rfl, hc⟩ := exists_cons_of_readNumber h
  have hnumber : readNumber (c :: cs ++ rest) = some (v, rest) := by
    rw [hrest.readNumber_append, h]
    rfl
  have hother {d : Char} (hd : beginsNumber d = false) : c ≠ d := by
    rintro rfl
    exact absurd hc (by simp [hd])
  rw [readValue.eq_def, (opens_of_readNumber h).skipBlanks_append]
  unfold beginsNumber at hc
  simp only [List.cons_append, hc, if_true, if_neg (hother (d := 'n') rfl),
    if_neg (hother (d := 't') rfl), if_neg (hother (d := 'f') rfl), if_neg (hother (d := '"') rfl)]
  exact hnumber

theorem isReadBack_str (s : String) : (str s).IsReadBack := by
  intro depth rest _
  have hquote : readValue depth (quote s ++ rest) =
      (readQuoted (quote s ++ rest)).map fun p => (.str p.1, p.2) := by
    cases depth <;> rfl
  rw [write, hquote, readQuoted_quote]
  rfl

/-- The items of an array are read in front of its end. -/
theorem readSequence_writeItems {items : List Json} (hopens : ∀ v ∈ items, Opens v.write)
    (h : ∀ v ∈ items, v.IsReadBack) (depth : Nat) (rest : List Char) :
    readSequence (readValue depth) ']' (writeItems items ++ ']' :: rest) =
      if nestingItems items ≤ depth then some (items, rest) else none := by
  simp only [writeItems_eq_intercalate, nestingItems_le_iff]
  have hread :=
    readSequence_intercalate (.inl rfl) (fun v hv _ hrest => h v hv depth hrest) hopens rest
  rwa [List.map_id'] at hread

theorem isReadBack_arr {items : List Json} (hopens : ∀ v ∈ items, Opens v.write)
    (h : ∀ v ∈ items, v.IsReadBack) : (arr items).IsReadBack := by
  intro depth rest _
  rw [write, nesting, List.cons_append, List.append_assoc, List.singleton_append]
  cases depth with
  | zero =>
    rw [if_neg (by omega)]
    rfl
  | succ depth =>
    have hbracket (cs : List Char) : readValue (depth + 1) ('[' :: cs) =
        (readSequence (readValue depth) ']' cs).map fun p => (.arr p.1, p.2) := rfl
    rw [hbracket, readSequence_writeItems hopens h]
    by_cases hdepth : nestingItems items ≤ depth
    · rw [if_pos hdepth, if_pos (by omega)]
      rfl
    · rw [if_neg hdepth, if_neg (by omega)]
      rfl

/-- A field is read if its value is. -/
theorem readField_writeField (value : List Char → Option (Json × List Char)) (f : String × Json)
    (rest : List Char) :
    readField value (writeField f ++ rest) =
      (value (f.2.write ++ rest)).map fun (v, rest) => ((f.1, v), rest) := by
  rw [writeField, List.append_assoc, List.cons_append, readField, readQuoted_quote]
  rfl

/-- The fields of an object are read in front of its end. -/
theorem readSequence_writeFields {fields : List (String × Json)}
    (h : ∀ f ∈ fields, f.2.IsReadBack) (depth : Nat) (rest : List Char) :
    readSequence (readField (readValue depth)) '\x7d' (writeFields fields ++ '\x7d' :: rest) =
      if nestingFields fields ≤ depth then some (fields, rest) else none := by
  simp only [writeFields_eq_intercalate, nestingFields_le_iff]
  have hfield (f : String × Json) (hf : f ∈ fields) (rest : List Char) (hrest : Closed rest) :
      readField (readValue depth) (writeField f ++ rest) =
        if f.2.nesting ≤ depth then some (f, rest) else none := by
    rw [readField_writeField, h f hf depth hrest]
    split <;> rfl
  have hread :=
    readSequence_intercalate (.inr rfl) hfield (fun f _ => ⟨_, _, rfl, rfl, rfl⟩) rest
  rwa [List.map_id'] at hread

theorem setField_of_notMem {key : String} (v : Json) {fields : List (String × Json)}
    (h : key ∉ fields.map Prod.fst) : setField key v fields = fields ++ [(key, v)] := by
  induction fields with
  | nil => rfl
  | cons f fields ih =>
    rw [List.map_cons, List.mem_cons, not_or] at h
    rw [setField, if_neg (Ne.symm h.1), ih h.2, List.cons_append]

/-- Fields that are set one after the other are kept if their names differ. -/
theorem foldl_setField {set fields : List (String × Json)}
    (h : ((set ++ fields).map Prod.fst).Nodup) :
    fields.foldl (fun fs f => setField f.1 f.2 fs) set = set ++ fields := by
  induction fields generalizing set with
  | nil => exact (List.append_nil set).symm
  | cons f fields ih =>
    have hf : f.1 ∉ set.map Prod.fst := fun hmem => by
      rw [List.map_append, List.nodup_append] at h
      exact h.2.2 _ hmem _ (by simp) rfl
    rw [List.foldl_cons, setField_of_notMem _ hf, ih (by simpa using h), List.append_assoc]
    rfl

theorem isReadBack_obj {fields : List (String × Json)} (hkeys : (fields.map Prod.fst).Nodup)
    (h : ∀ f ∈ fields, f.2.IsReadBack) : (obj fields).IsReadBack := by
  intro depth rest _
  rw [write, nesting, List.cons_append, List.append_assoc, List.singleton_append]
  cases depth with
  | zero =>
    rw [if_neg (by omega)]
    rfl
  | succ depth =>
    have hbrace (cs : List Char) : readValue (depth + 1) ('\x7b' :: cs) =
        (readSequence (readField (readValue depth)) '\x7d' cs).map fun p =>
          (.obj (p.1.foldl (fun fs f => setField f.1 f.2 fs) []), p.2) := rfl
    have hfields : fields.foldl (fun fs f => setField f.1 f.2 fs) [] = fields :=
      foldl_setField (by rwa [List.nil_append])
    rw [hbrace, readSequence_writeFields h]
    by_cases hdepth : nestingFields fields ≤ depth
    · rw [if_pos hdepth, if_pos (by omega), Option.map_some]
      simp only [hfields]
    · rw [if_neg hdepth, if_neg (by omega)]
      rfl

/-- **Legible values are read back.** -/
theorem Legible.isReadBack {v : Json} (h : v.Legible) : v.IsReadBack := by
  induction h with
  | null => exact fun depth _ _ => by cases depth <;> rfl
  | bool b => exact fun depth _ _ => by cases depth <;> cases b <;> rfl
  | int h => exact fun depth _ hrest => readValue_of_readNumber (readNumber_writeInt h) hrest depth
  | float h => exact fun depth _ hrest => readValue_of_readNumber h hrest depth
  | str s => exact isReadBack_str s
  | arr h ih => exact isReadBack_arr (fun v hv => (h v hv).opens) ih
  | obj hkeys h ih => exact isReadBack_obj hkeys ih

/-- The text of a legible value denotes the value if it is not nested too deep. -/
theorem Legible.parse?_write {v : Json} (h : v.Legible) (depth : Nat) :
    parse? depth v.write = if v.nesting ≤ depth then some v else none := by
  have hread := h.isReadBack depth closed_nil
  rw [List.append_nil] at hread
  rw [parse?, hread]
  by_cases hv : v.nesting ≤ depth <;> simp [hv]

end TripletFacts.Json
