import TripletFacts.Proofs.Unicode.Capitals

/-!
# Characters with one folded form

What folds to the same character differs in case only, and the characters that do so are listed. A
property of all letters that differ from a given one in case can therefore be checked.

## Main results

* `Unicode.mem_variants`: the characters with the folded form of a character.
* `Unicode.fold_asciiLower`: a small letter of ASCII folds as its capital letter does.
-/

namespace TripletFacts.Unicode

/-- What a row of the table assigns are characters. -/
theorem isValidChar_foldRows : ∀ r ∈ foldRows,
    (r.2.2.2 + (r.2.1 - r.1)).blt 0xd800 = true ∨
      Nat.blt 0xdfff r.2.2.2 = true ∧ (r.2.2.2 + (r.2.1 - r.1)).blt 0x110000 = true := by
  decide +kernel

/-- A character is among those that are listed for its folded form. -/
theorem mem_variants {c d : Char} (h : fold c = fold d) : c ∈ variants d := by
  unfold variants
  cases hshift : shiftOf foldRows c.toNat with
  | none =>
    have hself : fold c = c := by rw [fold, hshift]
    rw [← h, hself]
    exact List.mem_cons_self
  | some m =>
    obtain ⟨⟨low, high, step, image⟩, hr, i, hi, hstep, hc, rfl⟩ := exists_of_shiftOf hshift
    dsimp only at hi hstep hc hshift
    have hvalid : Nat.isValidChar (image + i) := by
      have := isValidChar_foldRows _ hr
      simp only [Nat.blt_eq] at this
      unfold Nat.isValidChar
      omega
    have hn : (fold d).toNat = image + i := by
      rw [← h, fold, hshift]
      dsimp only
      rw [Char.ofNat, dif_pos hvalid]
      rfl
    refine List.mem_cons_of_mem _ (List.mem_filterMap.2 ⟨_, hr, ?_⟩)
    dsimp only
    rw [hn, Nat.add_sub_cancel_left, if_pos ⟨by omega, by omega, hstep⟩, ← hc, Char.ofNat_toNat]

theorem fold_asciiLower (c : Char) : fold (asciiLower c) = fold c :=
  of_asciiLower (P := fun c d => fold d = fold c) (fun _ => rfl) (by decide) c

end TripletFacts.Unicode
