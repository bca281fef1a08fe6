import TripletFacts.Proofs.Facts.Store
import TripletFacts.Proofs.Triplet.Made

/-!
# Runs of commands on a table of facts

A store begins empty or as the table of a list, and commands change it one after the other, some of
them without success. Whatever the commands are, the store stays the table of a collection: the keys
of its slots are distinct, and every triplet stands under its own key. What is seen by position and
what is found by key are then the same triplets, and a triplet is equal to none before it. A command
that fails changes nothing.

## Main definitions

* `Store.Command.Made`: commands with triplets that can be made.
* `Store.IsStart`: stores from which runs begin.
* `Store.Consistent`: keys, positions and triplets of a store fit together.

## Main results

* `Store.exists_exec_eq_ofFacts`: a command leaves the table of a collection.
* `Store.exists_run_eq_ofFacts`: so does a run.
* `Store.consistent_run`: what holds after every run.
-/

namespace TripletFacts

/-! ### Triplets that are equal to themselves -/

namespace Facts

/-- Every triplet of a collection is equal to itself. -/
def Reflexive (f : Facts) : Prop := ∀ t ∈ f.entries, t.equal t = true

variable {f g : Facts}

theorem reflexive_empty (s : Settings) : (empty s).Reflexive := fun _ h => nomatch h

theorem Reflexive.add (h : f.Reflexive) {t : Triplet} (ht : t.equal t = true) :
    (f.add t).Reflexive := by
  intro u hu
  rcases mem_putEntry hu with rfl | hu
  · exact ht
  · exact h u hu

theorem Reflexive.addAll (h : f.Reflexive) {ts : List Triplet}
    (hts : ∀ t ∈ ts, t.equal t = true) : (f.addAll ts).Reflexive := by
  induction ts generalizing f with
  | nil => exact h
  | cons t ts ih =>
    obtain ⟨ht, hts⟩ := List.forall_mem_cons.1 hts
    exact ih (h.add ht) hts

theorem reflexive_collect {ts : List Triplet} (hts : ∀ t ∈ ts, t.equal t = true) :
    (collect ts).Reflexive :=
  (reflexive_empty _).addAll hts

theorem Reflexive.subset (h : f.Reflexive) (hsub : g.entries ⊆ f.entries) : g.Reflexive :=
  fun t ht => h t (hsub ht)

/-! ### Parts and edits -/

theorem subset_of_withoutPfx {pfx : String} {strict : Bool} (h : f.withoutPfx pfx strict = .ok g) :
    g.entries ⊆ f.entries := by
  rw [withoutPfx] at h
  split at h
  · cases h
  · dsimp only at h
    split at h
    · cases h
    · obtain rfl := Except.ok.inj h
      exact List.filter_sublist.subset

theorem modify_eq_ok_iff {pfx : String} {name : Option String} {e : Edit} :
    f.modify pfx name e = .ok g ↔
      ∃ t u, f.get pfx name = .ok t ∧ t.edit e = .ok u ∧ f.add u = g := by
  rw [modify]
  cases f.get pfx name with
  | error err => simp
  | ok t => simp [map_eq_ok_iff]

end Facts

namespace Store

/-! ### One command -/

/-- The triplets and the edit of a command can be made. -/
def Command.Made : Command → Prop
  | add t | plus t | prepend t => t.Made
  | extend g | plusStore g => ∀ t ∈ g.triplets, t.Made
  | edit _ _ e => e.Made
  | remove _ _ | removePfx _ _ | removeNth _ | removeSlice _ | sort | rebuild => True

/-- A command keeps triplets equal to themselves. -/
theorem Command.reflexive_apply {f g : Facts} (hf : f.Reflexive) {c : Command} (hc : c.Made)
    {r : Option Triplet} (h : c.apply f = .ok (r, g)) : g.Reflexive := by
  cases c with
  | add t | plus t =>
    obtain ⟨-, rfl⟩ := Prod.mk.inj (Except.ok.inj h)
    exact hf.add hc.equal_self
  | extend s | plusStore s =>
    obtain ⟨-, rfl⟩ := Prod.mk.inj (Except.ok.inj h)
    exact hf.addAll fun t ht => (hc t ht).equal_self
  | prepend t =>
    obtain ⟨-, rfl⟩ := Prod.mk.inj (Except.ok.inj h)
    exact ((Facts.reflexive_empty _).add (Triplet.Made.equal_self hc)).addAll hf
  | remove pfx name =>
    obtain ⟨⟨t, g'⟩, hremove, heq⟩ := map_eq_ok_iff.1 h
    obtain ⟨-, rfl⟩ := Prod.mk.inj heq
    obtain ⟨u, -, hrest⟩ := map_eq_ok_iff.1 hremove
    obtain ⟨-, rfl⟩ := Prod.mk.inj hrest
    exact hf.subset List.filter_sublist.subset
  | removePfx pfx strict =>
    obtain ⟨g', hremove, heq⟩ := map_eq_ok_iff.1 h
    obtain ⟨-, rfl⟩ := Prod.mk.inj heq
    exact hf.subset (Facts.subset_of_withoutPfx hremove)
  | removeNth index =>
    obtain ⟨⟨t, g'⟩, hremove, heq⟩ := map_eq_ok_iff.1 h
    obtain ⟨-, rfl⟩ := Prod.mk.inj heq
    obtain ⟨⟨pos, u⟩, -, hrest⟩ := map_eq_ok_iff.1 hremove
    obtain ⟨-, rfl⟩ := Prod.mk.inj hrest
    exact hf.subset (List.eraseIdx_sublist _ _).subset
  | removeSlice r =>
    obtain ⟨g', hremove, heq⟩ := map_eq_ok_iff.1 h
    obtain ⟨-, rfl⟩ := Prod.mk.inj heq
    obtain ⟨p, -, rfl⟩ := map_eq_ok_iff.1 hremove
    exact hf.subset (dropBetween_sublist p.2.1 _).subset
  | sort =>
    obtain ⟨-, rfl⟩ := Prod.mk.inj (Except.ok.inj h)
    exact hf.subset (List.mergeSort_perm _ _).subset
  | rebuild =>
    obtain ⟨-, rfl⟩ := Prod.mk.inj (Except.ok.inj h)
    exact Facts.reflexive_collect hf
  | edit pfx name e =>
    obtain ⟨g', hmodify, heq⟩ := map_eq_ok_iff.1 h
    obtain ⟨-, rfl⟩ := Prod.mk.inj heq
    obtain ⟨t, u, hget, hedit, rfl⟩ := Facts.modify_eq_ok_iff.1 hmodify
    have ht : t.equal t = true := hf t (Facts.get_eq_ok_iff.1 hget).2.1
    exact hf.add (Triplet.equal_self_of_edit ht hc hedit)

/-- A command leaves the table of a collection, and the same one if it fails. -/
theorem exists_exec_eq_ofFacts {f : Facts} (hf : f.Reflexive) {c : Command} (hc : c.Made) :
    ∃ g : Facts, g.Reflexive ∧ (exec c (ofFacts f)).2 = ofFacts g := by
  rw [exec_ofFacts]
  cases happly : c.apply f with
  | error e => exact ⟨f, hf, rfl⟩
  | ok p => exact ⟨p.2, Command.reflexive_apply hf hc happly, rfl⟩

theorem exec_eq_self_of_error {f : Facts} {c : Command} {e : FactError}
    (h : (exec c (ofFacts f)).1 = .error e) : (exec c (ofFacts f)).2 = ofFacts f := by
  rw [exec_ofFacts] at h ⊢
  cases happly : c.apply f with
  | error e' => rfl
  | ok p =>
    rw [happly] at h
    cases h

/-! ### Runs -/

/-- An empty store, or the table of a list of triplets that can be made. -/
inductive IsStart : Store → Prop
  | empty (s : Settings) : IsStart (Store.empty s)
  | collect {ts : List Triplet} (h : ∀ t ∈ ts, t.Made) : IsStart (Store.collect ts)

theorem IsStart.exists_eq_ofFacts {s : Store} (h : s.IsStart) :
    ∃ f : Facts, f.Reflexive ∧ s = ofFacts f := by
  cases h with
  | empty s => exact ⟨.empty s, Facts.reflexive_empty s, rfl⟩
  | collect h =>
    exact ⟨.collect _, Facts.reflexive_collect fun t ht => (h t ht).equal_self,
      collect_eq_ofFacts _⟩

/-- A run leaves the table of a collection. -/
theorem exists_run_eq_ofFacts {f : Facts} (hf : f.Reflexive) {cs : List Command}
    (hcs : ∀ c ∈ cs, c.Made) : ∃ g : Facts, g.Reflexive ∧ run cs (ofFacts f) = ofFacts g := by
  induction cs generalizing f with
  | nil => exact ⟨f, hf, rfl⟩
  | cons c cs ih =>
    obtain ⟨hc, hcs⟩ := List.forall_mem_cons.1 hcs
    obtain ⟨g, hg, hexec⟩ := exists_exec_eq_ofFacts hf hc
    rw [run, List.foldl_cons, hexec]
    exact ih hg hcs

/-! ### Keys and positions -/

/-- The keys of a store, its positions and its triplets fit together. -/
structure Consistent (s : Store) : Prop where
  /-- No two slots have one key. -/
  distinct : (s.slots.map Prod.fst).Nodup
  /-- Every triplet stands under its own key. -/
  own : ∀ p ∈ s.slots, p.1 = p.2.key
  /-- The triplet in a slot is seen at its position, from the beginning and from the end. -/
  nth : ∀ (i : Nat) p, s.slots[i]? = some p →
    s.nth i = .ok p.2 ∧ s.nth ((i : Int) - s.size) = .ok p.2
  /-- The position of a triplet is that of its slot. -/
  index : ∀ (i : Nat) p, s.slots[i]? = some p → s.index p.2 = .ok i
  /-- A triplet whose key can be asked for as it stands is found under it. -/
  get : ∀ (i : Nat) p, s.slots[i]? = some p → s.settings.AcceptsKey p.2.key →
    p.2.key.upper = p.2.key → s.get p.2.pfx p.2.name = .ok p.2

theorem nth_of_getElem? {s : Store} {i : Nat} {p : Key × Triplet} (h : s.slots[i]? = some p) :
    s.nth i = .ok p.2 ∧ s.nth ((i : Int) - s.size) = .ok p.2 := by
  have hi : i < s.size := (List.getElem?_eq_some_iff.1 h).1
  have hnth : ∀ index : Int, (if index < 0 then (s.size : Int) + index else index) = i →
      s.nth index = .ok p.2 := by
    intro index hindex
    rw [nth, position, hindex]
    rw [if_pos (by omega)]
    simp [Except.bind, h]
  constructor
  · exact hnth i (if_neg (by omega))
  · exact hnth _ (by rw [if_pos (by omega)]; omega)

/-- The first triplet that is equal to a stored one is this triplet itself. -/
theorem index_ofFacts {f : Facts} (hf : f.Reflexive) {i : Nat} {t : Triplet}
    (h : f.entries[i]? = some t) : (ofFacts f).index t = .ok i := by
  obtain ⟨hi, rfl⟩ := List.getElem?_eq_some_iff.1 h
  have hfirst : f.entries.findIdx? (·.equal f.entries[i]) = some i := by
    rw [List.findIdx?_eq_some_iff_getElem]
    refine ⟨hi, hf _ (List.getElem_mem hi), fun j hj hequal => ?_⟩
    rw [Triplet.equal, Bool.and_eq_true, beq_iff_eq] at hequal
    have hi' : i < (f.entries.map Triplet.key).length := by rwa [List.length_map]
    have hkeys : (f.entries.map Triplet.key)[j] = (f.entries.map Triplet.key)[i] := by
      simpa using hequal.1
    exact hj.ne (f.nodup.getElem_inj_iff.1 hkeys)
  rw [index, triplets_ofFacts, hfirst]

theorem consistent_ofFacts {f : Facts} (hf : f.Reflexive) : (ofFacts f).Consistent := by
  have hslot : ∀ {i : Nat} {p : Key × Triplet}, (ofFacts f).slots[i]? = some p →
      f.entries[i]? = some p.2 := by
    intro i p h
    rw [ofFacts, List.getElem?_map] at h
    obtain ⟨t, ht, rfl⟩ := Option.map_eq_some_iff.1 h
    exact ht
  refine ⟨?_, ?_, fun i p => nth_of_getElem?, fun i p h => index_ofFacts hf (hslot h), ?_⟩
  · rw [ofFacts, List.map_map]
    exact f.nodup
  · intro p hp
    obtain ⟨t, -, rfl⟩ := List.mem_map.1 hp
    rfl
  · intro i p h haccepts hupper
    rw [get_ofFacts]
    exact Facts.get_eq_ok_iff.2 ⟨haccepts, List.mem_of_getElem? (hslot h), hupper.symm⟩

/-- After every run the keys, the positions and the triplets fit together, and a command that fails
leaves the store as the run has left it. -/
theorem consistent_run {start : Store} (hstart : start.IsStart) {cs : List Command}
    (hcs : ∀ c ∈ cs, c.Made) :
    (run cs start).Consistent ∧ ∀ (c : Command) (e : FactError),
      (exec c (run cs start)).1 = .error e → (exec c (run cs start)).2 = run cs start := by
  obtain ⟨f, hf, rfl⟩ := hstart.exists_eq_ofFacts
  obtain ⟨g, hg, hrun⟩ := exists_run_eq_ofFacts hf hcs
  rw [hrun]
  exact ⟨consistent_ofFacts hg, fun c e => exec_eq_self_of_error⟩

/-- A number under a prefix and a name. -/
def oneEF : Triplet where
  pfx := "E"
  name := some "F"
  comment := none
  bid := false
  special := false
  settings := .standard
  value := some (.literal (.int 1))

theorem made_oneEF : oneEF.Made := by
  have hdraft : Draft.build { pfx := "E", name := some "F", value := some (.literal (.int 1)) }
      .standard = .ok oneEF :=
    Draft.build_eq_ok_iff.2 ⟨_, _, _, _, by decide +kernel, by decide +kernel, rfl, rfl, rfl⟩
  refine .build (fun v hv => ?_) hdraft
  obtain rfl := Option.some.inj hv
  exact .literal (.int 1)

/-- A run in which a number is added, edited, not found under another name, and put in order. -/
theorem consistent_run_with_failure :
    let s := run [.add oneEF, .edit "E" (some "F") (.bid true), .remove "E" none, .sort, .rebuild]
      (Store.empty .standard)
    s.Consistent ∧ ∀ (c : Command) (e : FactError), (exec c s).1 = .error e → (exec c s).2 = s := by
  refine consistent_run (.empty .standard) ?_
  intro c hc
  simp only [List.mem_cons, List.not_mem_nil, or_false] at hc
  rcases hc with rfl | rfl | rfl | rfl | rfl
  · exact made_oneEF
  · intro v hv
    cases hv
  · trivial
  · trivial
  · trivial

end Store

end TripletFacts
