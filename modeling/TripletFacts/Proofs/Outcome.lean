/-!
# Outcomes of computations

A computation yields a result or fails with an error. One that is made of others yields a result
only if each of these does.

## Main results

* `map_eq_ok_iff`, `map_const_eq_ok_iff`, `bind_eq_ok_iff`, `mapM_cons_eq_ok_iff`: when a
  computation yields a result.
* `mapError_bind_congr`, `mapError_map_congr`: computations that agree up to the kinds of errors.
* `exists_of_mapM_eq_ok`, `exists_mem_of_mapM_eq_ok`: a computation for every member of a list.
* `bind_map_append`: computations of lists that are put one after the other.
-/

namespace TripletFacts

variable {ε α β : Type}

/-- Whether a computation yields a given result can be seen, whatever its errors are. -/
instance decidableEqOk [DecidableEq α] (v : α) : (r : Except ε α) → Decidable (r = .ok v)
  | .ok u => decidable_of_iff (u = v) (by rw [Except.ok.injEq])
  | .error _ => isFalse nofun

theorem map_eq_ok_iff {r : Except ε α} {f : α → β} {y : β} :
    r.map f = .ok y ↔ ∃ x, r = .ok x ∧ f x = y := by
  cases r <;> simp [Except.map]

/-- A check, and the result that is given if it passes. -/
theorem map_const_eq_ok_iff {r : Except ε Unit} {x y : β} :
    (r.map fun _ => x) = .ok y ↔ r = .ok () ∧ x = y := by
  cases r <;> simp [Except.map]

theorem bind_eq_ok_iff {r : Except ε α} {f : α → Except ε β} {y : β} :
    r.bind f = .ok y ↔ ∃ x, r = .ok x ∧ f x = .ok y := by
  cases r <;> simp [Except.bind]

theorem toOption_eq_some_iff {r : Except ε α} {x : α} : r.toOption = some x ↔ r = .ok x := by
  cases r <;> simp [Except.toOption]

/-! ### Kinds of errors -/

section Errors

variable {κ : Type} {c : ε → κ} {r r' : Except ε α}

/-- A computation that goes on after results that agree up to the kinds of their errors. -/
theorem mapError_bind_congr (h : r.mapError c = r'.mapError c) {g g' : α → Except ε β}
    (hg : ∀ x, (g x).mapError c = (g' x).mapError c) :
    (r.bind g).mapError c = (r'.bind g').mapError c := by
  cases r with
  | error e =>
    cases r' with
    | error e' => exact congrArg Except.error (Except.error.inj h)
    | ok x => cases h
  | ok x =>
    cases r' with
    | error e' => cases h
    | ok y =>
      obtain rfl : x = y := Except.ok.inj h
      exact hg x

theorem mapError_map_congr (h : r.mapError c = r'.mapError c) (g : α → β) :
    (r.map g).mapError c = (r'.map g).mapError c :=
  mapError_bind_congr h (g := fun x => .ok (g x)) fun _ => rfl

end Errors

/-! ### Lists -/

variable {f : α → Except ε β} {as : List α} {bs : List β} {a : α}

theorem mapM_cons_eq_ok_iff : (a :: as).mapM f = .ok bs ↔
    ∃ b bs', f a = .ok b ∧ as.mapM f = .ok bs' ∧ bs = b :: bs' := by
  rw [List.mapM_cons]
  constructor
  · intro h
    obtain ⟨b, hb, h⟩ := bind_eq_ok_iff.1 h
    obtain ⟨bs', hbs', h⟩ := bind_eq_ok_iff.1 h
    exact ⟨b, bs', hb, hbs', (Except.ok.inj h).symm⟩
  · rintro ⟨b, bs', hb, hbs', rfl⟩
    rw [hb, hbs']
    rfl

/-- The computation yields a result for every member. -/
theorem exists_of_mapM_eq_ok (h : as.mapM f = .ok bs) (ha : a ∈ as) : ∃ b, f a = .ok b := by
  induction as generalizing bs with
  | nil => cases ha
  | cons a' as ih =>
    obtain ⟨b, bs', hb, hbs', -⟩ := mapM_cons_eq_ok_iff.1 h
    rcases List.mem_cons.1 ha with rfl | ha
    · exact ⟨b, hb⟩
    · exact ih hbs' ha

/-- Every result is the one for a member. -/
theorem exists_mem_of_mapM_eq_ok (h : as.mapM f = .ok bs) {b : β} (hb : b ∈ bs) :
    ∃ a ∈ as, f a = .ok b := by
  induction as generalizing bs with
  | nil =>
    obtain rfl : [] = bs := Except.ok.inj h
    cases hb
  | cons a as ih =>
    obtain ⟨b', bs', hb', hbs', rfl⟩ := mapM_cons_eq_ok_iff.1 h
    rcases List.mem_cons.1 hb with rfl | hb
    · exact ⟨a, List.mem_cons_self, hb'⟩
    · obtain ⟨a', ha', hb⟩ := ih hbs' hb
      exact ⟨a', List.mem_cons_of_mem a ha', hb⟩

/-! ### Lists one after the other -/

theorem map_nil_append (r : Except ε (List α)) : r.map ([] ++ ·) = r := by
  cases r <;> rfl

/-- What stands in front may be put there at the end. -/
theorem bind_map_append (as : List α) (r s : Except ε (List α)) :
    ((r.map (as ++ ·)).bind fun bs => s.map (bs ++ ·)) =
      (r.bind fun bs => s.map (bs ++ ·)).map (as ++ ·) := by
  cases r with
  | error e => rfl
  | ok bs =>
    cases s with
    | error e => rfl
    | ok cs => exact congrArg Except.ok (List.append_assoc as bs cs)

end TripletFacts
