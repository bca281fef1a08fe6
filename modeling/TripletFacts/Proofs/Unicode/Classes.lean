import TripletFacts.Expr.Token
import TripletFacts.Unicode.CharSet
import TripletFacts.Unicode.Word

/-!
# Classes of characters

What holds of the characters in the ranges of a table is seen by going through the table, and how
two tables are related by going through them side by side. The classes that tokens and patterns ask
for keep blanks and digits apart from the beginnings of names, and they do not tell a capital letter
of ASCII from its small one.

## Main definitions

* `Unicode.within`, `Unicode.outside`: ranges that lie within a table or outside of it.

## Main results

* `Unicode.of_inRanges`, `of_capital`, `of_isAlpha`, `of_asciiLower`: how to go through a table, and
  through the letters of ASCII.
* `Unicode.inRanges_of_within`, `Unicode.inRanges_of_outside`: how to hold one table against
  another.
* `startsName_of_isBlank`, `startsName_of_isDigit`: classes without a common character.
* `isDigit_asciiLower`, `isWord_asciiLower`, `isDecimalDigit_asciiLower`: classes that do not depend
  on the case of a letter.
-/

namespace TripletFacts

/-! ### Tables -/

/-- What holds of all characters in the ranges of a table. -/
theorem Unicode.of_inRanges {P : Char → Prop} {table : List (Nat × Nat)}
    (h : ∀ r ∈ table, ∀ i < r.2 + 1 - r.1, P (Char.ofNat (r.1 + i))) {c : Char}
    (hc : inRanges table c.toNat = true) : P c := by
  obtain ⟨r, hr, hlow, hhigh⟩ := exists_of_inRanges table hc
  have hi := h r hr (c.toNat - r.1) (by omega)
  rwa [Nat.add_sub_cancel' hlow, Char.ofNat_toNat] at hi

/-- What holds of the 26 capital letters of ASCII. -/
theorem of_capital {P : Char → Prop} (h : ∀ n < 26, P (Char.ofNat (65 + n))) {c : Char}
    (hc : 'A' ≤ c ∧ c ≤ 'Z') : P c := by
  have hlow : 65 ≤ c.toNat := hc.1
  have hhigh : c.toNat ≤ 90 := hc.2
  have hn := h (c.toNat - 65) (by omega)
  rwa [show 65 + (c.toNat - 65) = c.toNat by omega, Char.ofNat_toNat] at hn

/-- What holds of the ten digits of ASCII. -/
theorem of_isDigit {P : Char → Prop} (h : ∀ n < 10, P (Char.ofNat (48 + n))) {c : Char}
    (hc : isDigit c = true) : P c := by
  obtain ⟨hlow, hhigh⟩ := of_decide_eq_true hc
  have hlow : 48 ≤ c.toNat := hlow
  have hhigh : c.toNat ≤ 57 := hhigh
  have hn := h (c.toNat - 48) (by omega)
  rwa [show 48 + (c.toNat - 48) = c.toNat by omega, Char.ofNat_toNat] at hn

/-- What holds of the 52 letters of ASCII holds of a letter. -/
theorem of_isAlpha {P : Char → Prop}
    (h : ∀ n < 26, P (Char.ofNat (65 + n)) ∧ P (Char.ofNat (97 + n))) {c : Char}
    (hc : c.isAlpha = true) : P c := by
  rcases Bool.or_eq_true_iff.1 hc with hcapital | hsmall
  · exact of_capital (fun n hn => (h n hn).1) (of_decide_eq_true hcapital)
  · have hsmall : 'a' ≤ c ∧ c ≤ 'z' :=
      (Bool.and_eq_true_iff.1 hsmall).imp of_decide_eq_true of_decide_eq_true
    have hlow : 97 ≤ c.toNat := hsmall.1
    have hhigh : c.toNat ≤ 122 := hsmall.2
    have hn := (h (c.toNat - 97) (by omega)).2
    rwa [show 97 + (c.toNat - 97) = c.toNat by omega, Char.ofNat_toNat] at hn

/-- What holds of a character and its small letter. -/
theorem of_asciiLower {P : Char → Char → Prop} (hsame : ∀ c, P c c)
    (hcapital : ∀ n < 26, P (Char.ofNat (65 + n)) (asciiLower (Char.ofNat (65 + n)))) (c : Char) :
    P c (asciiLower c) := by
  by_cases h : 'A' ≤ c ∧ c ≤ 'Z'
  · exact of_capital (P := fun c => P c (asciiLower c)) hcapital h
  · rw [asciiLower, if_neg h]
    exact hsame c

/-! ### Two tables -/

namespace Unicode

/-- Goes through ascending ranges and, along with them, through an ascending table, and asks for
every range whether it suits the first range of the table that does not end before it. -/
def sweep (suits : Nat × Nat → Option (Nat × Nat) → Bool) :
    Nat → List (Nat × Nat) → List (Nat × Nat) → Bool
  | _, [], _ => true
  | low, r :: rest, table =>
    let table := table.dropWhile fun t => t.1.ble r.1 && t.2.blt r.1
    low.ble r.1 && suits r table.head? && sweep suits r.1 rest table

/-- Ranges that end before a code point do not matter in a search for it. -/
theorem inRanges_dropWhile {low n : Nat} (hlow : low ≤ n) (table : List (Nat × Nat)) :
    inRanges (table.dropWhile fun t => t.1.ble low && t.2.blt low) n = inRanges table n := by
  induction table with
  | nil => rfl
  | cons t table ih =>
    rw [List.dropWhile_cons]
    split
    · rename_i h
      simp only [Bool.and_eq_true, Nat.ble_eq, Nat.blt_eq] at h
      rw [ih, inRanges, if_neg (by omega), if_neg (by omega)]
    · rfl

/-- What a sweep shows: the range of a code point suits the first range of a table in which the code
point is found exactly if it is found in the whole table. -/
theorem exists_of_sweep {suits : Nat × Nat → Option (Nat × Nat) → Bool} {n : Nat} :
    {low : Nat} → {ranges table : List (Nat × Nat)} → sweep suits low ranges table = true →
      Covered ranges n → low ≤ n ∧ ∃ r t, suits r (List.head? t) = true ∧ r.1 ≤ n ∧ n ≤ r.2 ∧
        inRanges t n = inRanges table n
  | low, [], _, _, hn => absurd hn (covered_nil n)
  | low, r :: rest, table, h, hn => by
    simp only [sweep, Bool.and_eq_true, Nat.ble_eq] at h
    rcases (covered_cons r rest n).1 hn with hn | hn
    · exact ⟨by omega, r, _, h.1.2, hn.1, hn.2, inRanges_dropWhile hn.1 table⟩
    · obtain ⟨hlow, r', t, hsuits, hle, hge, ht⟩ := exists_of_sweep h.2 hn
      exact ⟨by omega, r', t, hsuits, hle, hge, ht.trans (inRanges_dropWhile hlow table)⟩

/-- Ranges within a table. -/
def within (ranges table : List (Nat × Nat)) : Bool :=
  sweep (fun r t => t.any fun t => t.1.ble r.1 && r.2.ble t.2) 0 ranges table

/-- Ranges outside of a table. -/
def outside (ranges table : List (Nat × Nat)) : Bool :=
  sweep (fun r t => t.all fun t => r.2.blt t.1) 0 ranges table

theorem inRanges_of_within {ranges table : List (Nat × Nat)} (h : within ranges table = true)
    {n : Nat} (hn : Covered ranges n) : inRanges table n = true := by
  obtain ⟨-, r, t, hsuits, hle, hge, ht⟩ := exists_of_sweep h hn
  rw [← ht]
  cases t with
  | nil => cases hsuits
  | cons t rest =>
    simp only [List.head?_cons, Option.any_some, Bool.and_eq_true, Nat.ble_eq] at hsuits
    rw [inRanges, if_neg (by omega), if_pos (by omega)]

theorem inRanges_of_outside {ranges table : List (Nat × Nat)} (h : outside ranges table = true)
    {n : Nat} (hn : Covered ranges n) : inRanges table n = false := by
  obtain ⟨-, r, t, hsuits, hle, hge, ht⟩ := exists_of_sweep h hn
  rw [← ht]
  cases t with
  | nil => rfl
  | cons t rest =>
    simp only [List.head?_cons, Option.all_some, Nat.blt_eq] at hsuits
    rw [inRanges, if_pos (by omega)]

/-- Outside of the ranges of its rows a table shifts nothing. -/
theorem shiftOf_eq_none {n : Nat} : {rows : List ShiftRow} →
    inRanges (rows.map fun r => (r.1, r.2.1)) n = false → shiftOf rows n = none
  | [], _ => rfl
  | (lo, hi, step, image) :: rows, h => by
    rw [List.map_cons, inRanges] at h
    rw [shiftOf]
    split
    · rfl
    · rename_i hlo
      rw [if_neg hlo] at h
      split at h
      · cases h
      · rename_i hhi
        rw [if_neg fun hin => hhi hin.1]
        exact shiftOf_eq_none h

end Unicode

/-! ### Classes without a common character -/

section

variable {c : Char}

theorem startsName_of_isBlank (h : Unicode.isBlank c = true) : Token.startsName c = false :=
  Unicode.of_inRanges (P := fun c => Token.startsName c = false) (by decide +kernel) h

theorem continuesName_of_isBlank (h : Unicode.isBlank c = true) : Token.continuesName c = false :=
  Unicode.of_inRanges (P := fun c => Token.continuesName c = false) (by decide +kernel) h

theorem startsName_of_isDigit (h : isDigit c = true) : Token.startsName c = false :=
  of_isDigit (P := fun c => Token.startsName c = false) (by decide) h

theorem isBlank_of_isDigit (h : isDigit c = true) : Unicode.isBlank c = false :=
  of_isDigit (P := fun c => Unicode.isBlank c = false) (by decide) h

theorem continuesName_of_isDigit (h : isDigit c = true) : Token.continuesName c = true :=
  of_isDigit (P := fun c => Token.continuesName c = true) (by decide) h

theorem continuesName_of_startsName (h : Token.startsName c = true) :
    Token.continuesName c = true := by
  simp only [Token.startsName, Token.continuesName, Unicode.isAlphanumeric, Bool.or_eq_true] at h ⊢
  exact h.imp_left .inl

end

/-! ### Small letters -/

section

variable {c : Char}

theorem asciiLower_of_not_capital (h : ¬('A' ≤ c ∧ c ≤ 'Z')) : asciiLower c = c := if_neg h

theorem startsName_of_capital (h : 'A' ≤ c ∧ c ≤ 'Z') : Token.startsName c = true :=
  of_capital (P := fun c => Token.startsName c = true) (by decide) h

/-- A character that begins no name is the small letter of itself only. -/
theorem asciiLower_eq_iff {x : Char} (hx : Token.startsName x = false) :
    asciiLower c = x ↔ c = x := by
  by_cases h : 'A' ≤ c ∧ c ≤ 'Z'
  · have hc := startsName_of_capital h
    have hlower := of_capital (P := fun c => Token.startsName (asciiLower c) = true) (by decide) h
    constructor
    · rintro rfl
      rw [hx] at hlower
      cases hlower
    · rintro rfl
      rw [hx] at hc
      cases hc
  · rw [asciiLower_of_not_capital h]

end

variable (c : Char)

@[simp] theorem isDigit_asciiLower : isDigit (asciiLower c) = isDigit c :=
  of_asciiLower (P := fun c d => isDigit d = isDigit c) (fun _ => rfl) (by decide) c

@[simp] theorem isWord_asciiLower : Unicode.isWord (asciiLower c) = Unicode.isWord c :=
  of_asciiLower (P := fun c d => Unicode.isWord d = Unicode.isWord c) (fun _ => rfl)
    (by decide) c

@[simp] theorem isDecimalDigit_asciiLower :
    Unicode.isDecimalDigit (asciiLower c) = Unicode.isDecimalDigit c :=
  of_asciiLower (P := fun c d => Unicode.isDecimalDigit d = Unicode.isDecimalDigit c)
    (fun _ => rfl) (by decide) c

@[simp] theorem startsName_asciiLower : Token.startsName (asciiLower c) = Token.startsName c :=
  of_asciiLower (P := fun c d => Token.startsName d = Token.startsName c) (fun _ => rfl)
    (by decide) c

@[simp] theorem continuesName_asciiLower :
    Token.continuesName (asciiLower c) = Token.continuesName c :=
  of_asciiLower (P := fun c d => Token.continuesName d = Token.continuesName c) (fun _ => rfl)
    (by decide) c

@[simp] theorem asciiLower_asciiLower : asciiLower (asciiLower c) = asciiLower c := by
  by_cases h : 'A' ≤ c ∧ c ≤ 'Z'
  · exact of_capital (P := fun c => asciiLower (asciiLower c) = asciiLower c) (by decide) h
  · rw [asciiLower_of_not_capital h, asciiLower_of_not_capital h]

end TripletFacts
