import TripletFacts.Facts.Compare
import TripletFacts.Facts.Position
import TripletFacts.Proofs.Facts.OwnKey

/-!
# Facts as a table that is changed in place

A store keeps triplets in slots. Every slot has a key of its own, under which it is found, and
nothing in a store makes this the key of the triplet in it. The operations change a store one step
after the other, and one that fails leaves what its steps have done so far.

On the table of a collection every operation does what the corresponding function of collections
says, and it changes nothing if it fails.

## Main definitions

* `Store`, `Store.Action`: tables, and operations that may fail and that change a table.
* `Store.Command`: the operations that change a table.
* `Store.ofFacts`: the table of a collection.
* `Store.Command.apply`: what a command does to a collection.

## Main results

* `Store.exec_ofFacts`: a command does to the table of a collection what it does to the collection,
  and leaves the table as it was if it fails.
-/

namespace TripletFacts

/-- Triplets in slots with keys, in an order; look-ups use the settings. -/
structure Store where
  slots : List (Key × Triplet)
  settings : Settings

namespace Store

/-! ### Reading -/

/-- The number of slots. -/
def size (s : Store) : Nat := s.slots.length

/-- The triplets in their order. -/
def triplets (s : Store) : List Triplet := s.slots.map Prod.snd

/-- The key that a prefix and a name stand for, which depends on the settings only. -/
def lookupKey (s : Store) (pfx : String) (name : Option String) : Except FactError Key :=
  (Facts.empty s.settings).lookupKey pfx name

/-- The triplet in the slot with a key. -/
def fetch (s : Store) (k : Key) : Except FactError Triplet :=
  match s.slots.lookup k with
  | some t => .ok t
  | none => .error (.noTriplet k.pfx k.name)

/-- The triplet in the slot of a prefix and a name. -/
def get (s : Store) (pfx : String) (name : Option String) : Except FactError Triplet :=
  (s.lookupKey pfx name).bind s.fetch

/-- The position from the beginning that an index stands for. -/
def position (s : Store) (index : Int) : Except FactError Nat :=
  let pos := if index < 0 then s.size + index else index
  if 0 ≤ pos ∧ pos < s.size then .ok pos.toNat else .error (.badIndex index s.size)

/-- The triplet in the slot at an index. -/
def nth (s : Store) (index : Int) : Except FactError Triplet :=
  (s.position index).bind fun pos =>
    match s.slots[pos]? with
    | some p => .ok p.2
    | none => .error (.badIndex index s.size)

/-- The positions of a range, which have to lie in the store. -/
def resolve (s : Store) (r : Range) : Except FactError (Nat × Nat) :=
  if r.first ≤ r.last s.size ∧ r.last s.size ≤ s.size then .ok (r.first, r.last s.size)
  else .error (.badRange r.first (r.last s.size) s.size)

/-- The position of the first triplet that is equal to a given one. -/
def index (s : Store) (t : Triplet) : Except FactError Nat :=
  match s.triplets.findIdx? (·.equal t) with
  | some i => .ok i
  | none => .error (.notStored (String.ofList t.text))

/-! ### Slots -/

/-- Puts a triplet into the slot with a key, or into a new slot at the end. -/
def putSlot (k : Key) (t : Triplet) : List (Key × Triplet) → List (Key × Triplet)
  | [] => [(k, t)]
  | p :: ps => if p.1 = k then (p.1, t) :: ps else p :: putSlot k t ps

/-- Puts a triplet into the slot with a key, if there is one. -/
def setSlot (k : Key) (t : Triplet) : List (Key × Triplet) → List (Key × Triplet)
  | [] => []
  | p :: ps => if p.1 = k then (p.1, t) :: ps else p :: setSlot k t ps

/-- A store without slots. -/
def empty (s : Settings) : Store := ⟨[], s⟩

/-- The store with a triplet under its key. -/
def put (s : Store) (t : Triplet) : Store := { s with slots := putSlot t.key t s.slots }

/-- The store with several triplets, put in one after the other. -/
def putAll (s : Store) (ts : List Triplet) : Store := ts.foldl put s

/-- The store of a list, with the settings of its first triplet. -/
def collect (ts : List Triplet) : Store :=
  (empty ((ts.head?.map fun t => t.settings).getD .standard)).putAll ts

/-- The store of a triplet and the triplets of a store, with the settings of the triplet. -/
def prepend (t : Triplet) (s : Store) : Store := ((empty t.settings).put t).putAll s.triplets

/-! ### Operations -/

/-- An operation on a store. What was changed before a failure stays changed. -/
abbrev Action (α : Type) := ExceptT FactError (StateM Store) α

/-- What an operation answers, and the store that it leaves. -/
def Action.on {α : Type} (a : Action α) (s : Store) : Except FactError α × Store :=
  (ExceptT.run a).run s

/-- A question about the store. -/
def ask {α : Type} (f : Store → Except FactError α) : Action α :=
  ExceptT.mk fun s => pure (f s, s)

/-- A change of the store with an answer. -/
def update {α : Type} (f : Store → α × Store) : Action α :=
  ExceptT.mk fun s => pure ((f s).map Except.ok id)

/-- A change of the store. -/
def change (f : Store → Store) : Action Unit := update fun s => ((), f s)

/-- A change of the slots. -/
def changeSlots (f : List (Key × Triplet) → List (Key × Triplet)) : Action Unit :=
  change fun s => { s with slots := f s.slots }

/-- Takes the triplet of a prefix and a name out. -/
def remove (pfx : String) (name : Option String) : Action Triplet := do
  let k ← ask (·.lookupKey pfx name)
  let taken ← update fun s =>
    (s.slots.lookup k, { s with slots := s.slots.eraseP (·.1 == k) })
  match taken with
  | some t => return t
  | none => throw (.noTriplet k.pfx k.name)

/-- Takes the triplets with a prefix out; that there were some is seen afterwards. -/
def removePfx (pfx : String) (strict : Bool) : Action Unit := do
  let pfx ← ask fun s => s.settings.buildPfx pfx
  let before ← ask fun s => .ok s.size
  changeSlots (·.filter fun p => !pfxMatches strict pfx p.2.pfx)
  let after ← ask fun s => .ok s.size
  if after = before then throw (.noPrefixed pfx)

/-- Takes the triplet at an index out. -/
def removeNth (index : Int) : Action Triplet := do
  let pos ← ask (·.position index)
  let taken ← update fun s => (s.slots[pos]?, { s with slots := s.slots.eraseIdx pos })
  match taken with
  | some p => return p.2
  | none => ask fun s => .error (.badIndex index s.size)

/-- Takes the triplets in a range out. -/
def removeSlice (r : Range) : Action Unit := do
  let p ← ask (·.resolve r)
  changeSlots (dropBetween p.1 p.2)

/-- Edits the triplet in the slot of a prefix and a name, which stays in its slot. -/
def edit (pfx : String) (name : Option String) (e : Edit) : Action Unit := do
  let k ← ask (·.lookupKey pfx name)
  let t ← ask (·.fetch k)
  let u ← ask fun _ => t.edit e
  changeSlots (setSlot k u)

/-- An operation that changes a store. -/
inductive Command where
  | add (t : Triplet)
  | extend (g : Store)
  | plus (t : Triplet)
  | plusStore (g : Store)
  | prepend (t : Triplet)
  | remove (pfx : String) (name : Option String)
  | removePfx (pfx : String) (strict : Bool)
  | removeNth (index : Int)
  | removeSlice (r : Range)
  | sort
  | rebuild
  | edit (pfx : String) (name : Option String) (e : Edit)

/-- An operation that answers that no single triplet was taken out. -/
def nothing (a : Action Unit) : Action (Option Triplet) := (fun _ => none) <$> a

/-- What a command does; it answers the triplet that was taken out. -/
def Command.action : Command → Action (Option Triplet)
  | add t | plus t => nothing (change (·.put t))
  | extend g | plusStore g => nothing (change (·.putAll g.triplets))
  | prepend t => nothing (change (Store.prepend t))
  | remove pfx name => some <$> Store.remove pfx name
  | removePfx pfx strict => nothing (Store.removePfx pfx strict)
  | removeNth index => some <$> Store.removeNth index
  | removeSlice r => nothing (Store.removeSlice r)
  | sort => nothing (changeSlots (·.mergeSort fun p q => p.1.le q.1))
  | rebuild => nothing (change fun s => collect s.triplets)
  | edit pfx name e => nothing (Store.edit pfx name e)

/-- What a command answers, and the store that it leaves. -/
def exec (c : Command) (s : Store) : Except FactError (Option Triplet) × Store := c.action.on s

/-- The store after several commands, whether they fail or not. -/
def run (cs : List Command) (s : Store) : Store := cs.foldl (fun s c => (exec c s).2) s

/-! ### Step by step -/

section

variable {α β : Type} {s : Store}

theorem on_bind (a : Action α) (g : α → Action β) : (a >>= g).on s =
    match a.on s with
    | (.ok x, s') => (g x).on s'
    | (.error e, s') => (.error e, s') := by
  change Action.on (ExceptT.bind a g) s = _
  simp only [Action.on, ExceptT.bind, ExceptT.run, ExceptT.mk, StateT.run]
  change (ExceptT.bindCont g (a s).1) (a s).2 = _
  rcases a s with ⟨_ | _, s'⟩ <;> rfl

@[simp] theorem on_ask_bind (f : Store → Except FactError α) (g : α → Action β) :
    (ask f >>= g).on s =
      match f s with
      | .ok x => (g x).on s
      | .error e => (.error e, s) := by
  rw [on_bind]
  change (match (f s, s) with
    | (.ok x, s') => (g x).on s'
    | (.error e, s') => (.error e, s')) = _
  cases f s <;> rfl

@[simp] theorem on_update_bind (f : Store → α × Store) (g : α → Action β) :
    (update f >>= g).on s = (g (f s).1).on (f s).2 := on_bind _ _

@[simp] theorem on_changeSlots_bind (f : List (Key × Triplet) → List (Key × Triplet))
    (g : Unit → Action β) :
    (changeSlots f >>= g).on s = (g ()).on { s with slots := f s.slots } := on_bind _ _

theorem on_changeSlots (f : List (Key × Triplet) → List (Key × Triplet)) :
    (changeSlots f).on s = (.ok (), { s with slots := f s.slots }) := rfl

@[simp] theorem on_pure (x : α) : (pure x : Action α).on s = (.ok x, s) := rfl

@[simp] theorem on_throw (e : FactError) : (throw e : Action α).on s = (.error e, s) := rfl

@[simp] theorem on_map (f : α → β) (a : Action α) :
    (f <$> a).on s = ((a.on s).1.map f, (a.on s).2) := by
  rw [← bind_pure_comp, on_bind]
  rcases a.on s with ⟨_ | _, s'⟩ <;> rfl

end

/-! ### Tables of collections -/

/-- The slot of a triplet under its own key. -/
def slot (t : Triplet) : Key × Triplet := (t.key, t)

/-- The table of a collection: every triplet stands under its own key. -/
def ofFacts (f : Facts) : Store := ⟨f.entries.map slot, f.settings⟩

@[simp] theorem settings_ofFacts (f : Facts) : (ofFacts f).settings = f.settings := rfl

@[simp] theorem size_ofFacts (f : Facts) : (ofFacts f).size = f.size := List.length_map _

@[simp] theorem triplets_ofFacts (f : Facts) : (ofFacts f).triplets = f.entries := by
  rw [triplets, ofFacts, List.map_map]
  exact List.map_id _

/-! ### Slots of triplets -/

variable {k : Key} {t : Triplet} (ts : List Triplet)

theorem putSlot_map_slot : putSlot t.key t (ts.map slot) = (putEntry t ts).map slot := by
  induction ts with
  | nil => rfl
  | cons u us ih =>
    rw [List.map_cons, putSlot, putEntry]
    by_cases h : u.key = t.key
    · simp [h, slot]
    · simp [h, slot, ih]

/-- An edited triplet that is put into its slot takes the place of the one with its key. -/
theorem setSlot_map_slot (h : ∃ u ∈ ts, u.key = t.key) :
    setSlot t.key t (ts.map slot) = (putEntry t ts).map slot := by
  induction ts with
  | nil => simp at h
  | cons u us ih =>
    rw [List.map_cons, setSlot, putEntry]
    by_cases hu : u.key = t.key
    · simp [hu, slot]
    · have hus : ∃ v ∈ us, v.key = t.key := by simpa [hu] using h
      simp [hu, slot, ih hus]

theorem lookup_map_slot : (ts.map slot).lookup k = ts.find? (·.key == k) := by
  induction ts with
  | nil => rfl
  | cons u us ih =>
    rw [List.map_cons, slot, List.lookup_cons, List.find?_cons, ih, BEq.comm]

/-- Of distinct keys one is taken out where all but it are kept. -/
theorem eraseP_map_slot (h : (ts.map Triplet.key).Nodup) :
    (ts.map slot).eraseP (·.1 == k) = (ts.filter (·.key != k)).map slot := by
  induction ts with
  | nil => rfl
  | cons u us ih =>
    rw [List.map_cons, List.nodup_cons] at h
    by_cases hu : u.key = k
    · have hus : us.filter (·.key != k) = us := by
        rw [List.filter_eq_self]
        intro v hv
        rw [bne_iff_ne]
        exact fun hk => h.1 (hu ▸ hk ▸ List.mem_map_of_mem hv)
      simp [slot, hu, hus]
    · simp [slot, hu, ih h.2]

theorem eraseIdx_map_slot (pos : Nat) :
    (ts.map slot).eraseIdx pos = (ts.eraseIdx pos).map slot := by
  simp [List.eraseIdx_eq_take_drop_succ]

theorem dropBetween_map_slot (first last : Nat) :
    dropBetween first last (ts.map slot) = (dropBetween first last ts).map slot := by
  simp [dropBetween]

theorem mergeSort_map_slot : (ts.map slot).mergeSort (fun p q => p.1.le q.1) =
    (ts.mergeSort fun t u => t.key.le u.key).map slot := by
  rw [List.map_mergeSort]
  exact fun _ _ _ _ => rfl

/-! ### Commands on tables of collections -/

variable (f : Facts)

theorem put_ofFacts : (ofFacts f).put t = ofFacts (f.add t) := by
  simp only [put, ofFacts, putSlot_map_slot]
  rfl

theorem putAll_ofFacts : (ofFacts f).putAll ts = ofFacts (f.addAll ts) := by
  induction ts generalizing f with
  | nil => rfl
  | cons t ts ih =>
    rw [putAll, List.foldl_cons, put_ofFacts]
    exact ih (f.add t)

/-- The table of a list is the table of its collection. -/
theorem collect_eq_ofFacts : collect ts = ofFacts (Facts.collect ts) :=
  putAll_ofFacts ts (.empty _)

theorem prepend_ofFacts : prepend t (ofFacts f) = ofFacts (t.plusFacts f) := by
  rw [prepend, triplets_ofFacts]
  change ((ofFacts (.empty t.settings)).put t).putAll f.entries = _
  rw [put_ofFacts, putAll_ofFacts]
  rfl

theorem lookupKey_ofFacts (pfx : String) (name : Option String) :
    (ofFacts f).lookupKey pfx name = f.lookupKey pfx name := rfl

theorem fetch_ofFacts : (ofFacts f).fetch k = f.fetch k := by
  simp only [fetch, Facts.fetch, ofFacts, lookup_map_slot]
  rfl

theorem get_ofFacts (pfx : String) (name : Option String) :
    (ofFacts f).get pfx name = f.get pfx name := by
  rw [get, Facts.get, lookupKey_ofFacts]
  congr 1
  exact funext fun k => fetch_ofFacts f

/-- What a command on the table of a collection answers and leaves, if it does to the collection
what is said. -/
def settle {α : Type} : Except FactError (α × Facts) → Except FactError α × Store
  | .ok (x, g) => (.ok x, ofFacts g)
  | .error e => (.error e, ofFacts f)

theorem remove_ofFacts (pfx : String) (name : Option String) :
    (remove pfx name).on (ofFacts f) = settle f (f.remove pfx name) := by
  simp only [remove, on_ask_bind, lookupKey_ofFacts, Facts.remove, Facts.get]
  cases f.lookupKey pfx name with
  | error e => rfl
  | ok k =>
    have herase : (ofFacts f).slots.eraseP (·.1 == k) = (f.filter (·.key != k)).entries.map slot :=
      eraseP_map_slot _ f.nodup
    have hlookup : (ofFacts f).slots.lookup k = f.find? k := lookup_map_slot _
    simp only [on_update_bind, Except.bind, Facts.fetch, hlookup, herase]
    cases hfind : f.find? k with
    | some t =>
      obtain ⟨-, rfl⟩ := Facts.find?_eq_some_iff.1 hfind
      rfl
    | none =>
      -- nothing was taken out
      have hsame : (f.filter (·.key != k)).entries = f.entries := by
        rw [Facts.find?, List.find?_eq_none] at hfind
        exact List.filter_eq_self.2 fun t ht => by simpa using hfind t ht
      rw [hsame]
      rfl

theorem removePfx_ofFacts (pfx : String) (strict : Bool) :
    (removePfx pfx strict).on (ofFacts f) =
      settle f ((f.withoutPfx pfx strict).map fun g => ((), g)) := by
  simp only [removePfx, on_ask_bind, Facts.withoutPfx, settings_ofFacts]
  cases f.settings.buildPfx pfx with
  | error e => rfl
  | ok pfx =>
    let rest := f.filter fun t => !pfxMatches strict pfx t.pfx
    have hrest : { ofFacts f with
        slots := (ofFacts f).slots.filter fun p => !pfxMatches strict pfx p.2.pfx } =
          ofFacts rest := by
      simp only [ofFacts, List.filter_map]
      rfl
    simp only [on_changeSlots_bind, on_ask_bind, hrest, size_ofFacts]
    by_cases hsize : rest.size = f.size
    · -- the triplets with the prefix were taken out before it was seen that there were none
      have hsame : rest = f := by
        have hentries : f.entries.filter (fun t => !pfxMatches strict pfx t.pfx) = f.entries :=
          List.filter_sublist.eq_of_length hsize
        exact Facts.ext hentries rfl
      rw [if_pos hsize, if_pos hsize, on_throw, hsame]
      rfl
    · rw [if_neg hsize, if_neg hsize, on_pure]
      rfl

/-- A position is found exactly if there is a triplet at it. -/
theorem locate_eq (index : Int) : f.locate index =
    ((ofFacts f).position index).bind fun pos =>
      match f.entries[pos]? with
      | some t => .ok (pos, t)
      | none => .error (.badIndex index f.size) := by
  simp only [Facts.locate, Facts.position?, position, size_ofFacts]
  generalize (if index < 0 then (f.size : Int) + index else index) = pos
  by_cases h : 0 ≤ pos ∧ pos < f.size
  · rw [if_pos h, if_pos h, Option.bind_some, Except.bind]
    cases f.entries[pos.toNat]? <;> rfl
  · rw [if_neg h, if_neg h]
    rfl

theorem removeNth_ofFacts (index : Int) :
    (removeNth index).on (ofFacts f) = settle f (f.removeNth index) := by
  simp only [removeNth, on_ask_bind, Facts.removeNth, locate_eq]
  cases (ofFacts f).position index with
  | error e => rfl
  | ok pos =>
    have herase : (ofFacts f).slots.eraseIdx pos = (f.entries.eraseIdx pos).map slot :=
      eraseIdx_map_slot _ pos
    have hslot : (ofFacts f).slots[pos]? = f.entries[pos]?.map slot := List.getElem?_map
    simp only [on_update_bind, Except.bind, hslot, herase]
    cases hpos : f.entries[pos]? with
    | some t => rfl
    | none =>
      have hsame : f.entries.eraseIdx pos = f.entries :=
        List.eraseIdx_of_length_le (List.getElem?_eq_none_iff.1 hpos)
      rw [hsame]
      exact congrArg (fun n => (Except.error (FactError.badIndex index n), ofFacts f))
        (size_ofFacts f)

theorem removeSlice_ofFacts (r : Range) :
    (removeSlice r).on (ofFacts f) = settle f ((f.removeSlice r).map fun g => ((), g)) := by
  have hresolve : (ofFacts f).resolve r = (f.resolve r).map Subtype.val := by
    simp only [resolve, Facts.resolve, size_ofFacts]
    split <;> rfl
  simp only [removeSlice, on_ask_bind, hresolve, Facts.removeSlice]
  cases f.resolve r with
  | error e => rfl
  | ok p =>
    have hslots : dropBetween p.1.1 p.1.2 (ofFacts f).slots =
        (dropBetween p.1.1 p.1.2 f.entries).map slot := dropBetween_map_slot _ _ _
    change (changeSlots _).on (ofFacts f) = _
    rw [on_changeSlots, hslots]
    rfl

theorem edit_ofFacts (pfx : String) (name : Option String) (e : Edit) :
    (edit pfx name e).on (ofFacts f) = settle f ((f.modify pfx name e).map fun g => ((), g)) := by
  simp only [edit, on_ask_bind, Facts.modify, Facts.get, lookupKey_ofFacts]
  cases f.lookupKey pfx name with
  | error err => rfl
  | ok k =>
    simp only [fetch_ofFacts, Except.bind]
    cases hfetch : f.fetch k with
    | error err => rfl
    | ok t =>
      dsimp only
      cases hedit : t.edit e with
      | error err => rfl
      | ok u =>
        obtain ⟨hmem, rfl⟩ := Facts.fetch_eq_ok_iff.1 hfetch
        have hkey : u.key = t.key := Triplet.key_edit hedit
        change (changeSlots _).on (ofFacts f) = _
        rw [on_changeSlots, ← hkey]
        change (Except.ok (), Store.mk (setSlot u.key u (f.entries.map slot)) _) = _
        rw [setSlot_map_slot _ ⟨t, hmem, hkey.symm⟩]
        rfl

/-- What a command does to a collection. -/
def Command.apply (f : Facts) : Command → Except FactError (Option Triplet × Facts)
  | add t | plus t => .ok (none, f.add t)
  | extend g | plusStore g => .ok (none, f.addAll g.triplets)
  | prepend t => .ok (none, t.plusFacts f)
  | remove pfx name => (f.remove pfx name).map fun p => (some p.1, p.2)
  | removePfx pfx strict => (f.withoutPfx pfx strict).map fun g => (none, g)
  | removeNth index => (f.removeNth index).map fun p => (some p.1, p.2)
  | removeSlice r => (f.removeSlice r).map fun g => (none, g)
  | sort => .ok (none, f.sort)
  | rebuild => .ok (none, f.rebuild)
  | edit pfx name e => (f.modify pfx name e).map fun g => (none, g)

/-- Answering something else does not change what is left. -/
theorem on_map_settle {α β : Type} {a : Action α} {r : Except FactError (α × Facts)}
    (h : a.on (ofFacts f) = settle f r) (g : α → β) :
    (g <$> a).on (ofFacts f) = settle f (r.map fun p => (g p.1, p.2)) := by
  rw [on_map, h]
  cases r <;> rfl

theorem on_nothing_settle {a : Action Unit} {r : Except FactError Facts}
    (h : a.on (ofFacts f) = settle f (r.map fun g => ((), g))) :
    (nothing a).on (ofFacts f) = settle f (r.map fun g => (none, g)) := by
  rw [nothing, on_map_settle f h]
  cases r <;> rfl

/-- A command does to the table of a collection what it does to the collection, and leaves the
table as it was if it fails. -/
theorem exec_ofFacts (c : Command) : exec c (ofFacts f) = settle f (c.apply f) := by
  cases c with
  | add t | plus t => exact congrArg (Prod.mk _) (put_ofFacts f)
  | extend g | plusStore g => exact congrArg (Prod.mk _) (putAll_ofFacts _ f)
  | prepend t => exact congrArg (Prod.mk _) (prepend_ofFacts f)
  | remove pfx name => exact on_map_settle f (remove_ofFacts f pfx name) some
  | removePfx pfx strict => exact on_nothing_settle f (removePfx_ofFacts f pfx strict)
  | removeNth index => exact on_map_settle f (removeNth_ofFacts f index) some
  | removeSlice r => exact on_nothing_settle f (removeSlice_ofFacts f r)
  | sort => exact congrArg (fun slots => (Except.ok none, Store.mk slots _)) (mergeSort_map_slot _)
  | rebuild =>
    change (_, collect _) = _
    rw [triplets_ofFacts, collect_eq_ofFacts]
    rfl
  | edit pfx name e => exact on_nothing_settle f (edit_ofFacts f pfx name e)

end Store

end TripletFacts
