import TripletFacts.Yaml.Node

/-!
# Nodes are read from their tokens

The tokens of a mapping are read entry by entry. How far reading may go is bounded by a number; it
is enough if the number is four times that of the tokens. What follows the value of an entry is the
next key or the end of the mapping.

## Main definitions

* `Yaml.Node.ReadsValue`: tokens that are read as the value of a key.
* `Yaml.Node.ReadsEntries`: tokens that are read as entries of a mapping.

## Main results

* `Yaml.Node.ReadsEntries.append`: entries one after the other.
* `Yaml.Node.ReadsEntries.value`: a mapping as the value of a key.
* `Yaml.Node.ReadsEntries.ofTokens?_eq`: a mapping as the root of a document.
-/

namespace TripletFacts.Yaml.Node

/-- What stands behind the value of an entry: a key or the end of the mapping. -/
def Follows (ts : List Token) : Prop := ∃ t ts', ts = t :: ts' ∧ (t = .key ∨ t = .blockEnd)

/-- The tokens in front of which a key or a value is missing. -/
def entryStops : List Token := [.key, .value, .blockEnd]

/-- Tokens that are read as the value of a key. -/
def ReadsValue (ts : List Token) (node : Node) : Prop :=
  ∀ ⦃n : Nat⦄ ⦃rest : List Token⦄, 4 * ts.length ≤ n → Follows rest → ∀ names,
    readUnless entryStops true true n names (ts ++ rest) = some (node, names, rest)

/-- Tokens that are read as entries of a mapping, if what follows is read as further ones. -/
def ReadsEntries (ts : List Token) (entries : List (Node × Node)) : Prop :=
  ∀ ⦃k : Nat⦄ ⦃names : Names⦄ ⦃rest : List Token⦄ ⦃more : List (Node × Node)⦄
    ⦃out : Names × List Token⦄, Follows rest →
    (∀ n, k ≤ n → readBlockEntries n names rest = some (more, out)) →
    Follows (ts ++ rest) ∧
      ∀ n, k + 4 * ts.length ≤ n →
        readBlockEntries n names (ts ++ rest) = some (entries ++ more, out)

/-! ### Single values -/

/-- A token that is no alias, anchor or tag begins the content of a node. -/
theorem read_eq_readContent {t : Token} (halias : ∀ a, t ≠ .alias a) {names : Names}
    {ts : List Token}
    (hproperties : readProperties names (t :: ts) = some (⟨none, none⟩, t :: ts))
    (block loose : Bool) (n : Nat) : read block loose (n + 1) names (t :: ts) =
      readContent block loose n names ⟨none, none⟩ (t :: ts) := by
  rw [read, hproperties]
  · dsimp only
    cases readContent block loose n names ⟨none, none⟩ (t :: ts) <;> rfl
  · intro a ts' h
    exact halias a (List.cons.inj h).1

theorem readUnless_eq_readContent {stops : List Token} {t : Token} (hstops : t ∉ stops)
    (halias : ∀ a, t ≠ .alias a) {names : Names} {ts : List Token}
    (hproperties : readProperties names (t :: ts) = some (⟨none, none⟩, t :: ts))
    (block loose : Bool) (n : Nat) :
    readUnless stops block loose (n + 2) names (t :: ts) =
      readContent block loose n names ⟨none, none⟩ (t :: ts) := by
  have hcontains : stops.contains t = false := by
    rw [← Bool.not_eq_true, List.contains_iff_mem]
    exact hstops
  rw [readUnless, hcontains, if_neg Bool.false_ne_true, read_eq_readContent halias hproperties]

theorem readUnless_scalar {stops : List Token} {style : Style} {text : List Char}
    (hstops : Token.scalar style text ∉ stops) {n : Nat} (hn : 3 ≤ n) (block loose : Bool)
    (names : Names) (rest : List Token) :
    readUnless stops block loose n names (.scalar style text :: rest) =
      some (.scalar none style (String.ofList text), names, rest) := by
  obtain ⟨n, rfl⟩ : ∃ k, n = k + 1 + 2 := ⟨n - 3, by omega⟩
  rw [readUnless_eq_readContent hstops (by simp) rfl, readContent]
  rfl

theorem readsValue_scalar (style : Style) (text : List Char) :
    ReadsValue [.scalar style text] (.scalar none style (String.ofList text)) := by
  intro n rest hn _ names
  exact readUnless_scalar (by simp [entryStops]) (Nat.le_trans (by simp) hn) true true names rest

theorem readsValue_empty : ReadsValue [.flowSequence, .flowSequenceEnd] (.sequence []) := by
  intro n rest hn _ names
  rw [List.length_cons, List.length_singleton] at hn
  obtain ⟨n, rfl⟩ : ∃ k, n = k + 1 + 1 + 2 := ⟨n - 4, by omega⟩
  rw [List.cons_append, readUnless_eq_readContent (by simp [entryStops]) (by simp) rfl, readContent,
    List.singleton_append, readFlowItems]
  rfl

/-! ### Items -/

/-- The tokens of items that are plain scalars. -/
def itemTokens (items : List (List Char)) : List Token :=
  items.flatMap fun cs => [.blockEntry, .scalar .plain cs]

/-- Items are read up to the next key or the end of the mapping. -/
theorem readLooseItems_itemTokens {rest : List Token} (hrest : Follows rest)
    (items : List (List Char))
    {n : Nat} (hn : (itemTokens items).length + 3 ≤ n) (names : Names) :
    readLooseItems n names (itemTokens items ++ rest) =
      some (items.map fun cs => .scalar none .plain (String.ofList cs), names, rest) := by
  induction items generalizing n with
  | nil =>
    obtain ⟨n, rfl⟩ : ∃ k, n = k + 1 := ⟨n - 1, by omega⟩
    obtain ⟨t, ts, rfl, rfl | rfl⟩ := hrest
    all_goals
      rw [itemTokens, List.flatMap_nil, List.nil_append, readLooseItems]
      all_goals simp
  | cons cs items ih =>
    have hlength : (itemTokens (cs :: items)).length = (itemTokens items).length + 2 := rfl
    obtain ⟨n, rfl⟩ : ∃ k, n = k + 1 := ⟨n - 1, by omega⟩
    have htokens : itemTokens (cs :: items) ++ rest =
        .blockEntry :: .scalar .plain cs :: (itemTokens items ++ rest) := rfl
    rw [htokens, readLooseItems, readUnless_scalar (by simp) (by omega)]
    dsimp only
    rw [ih (by omega)]
    rfl

theorem readsValue_items {items : List (List Char)} (hne : items ≠ []) :
    ReadsValue (itemTokens items)
      (.sequence (items.map fun cs => .scalar none .plain (String.ofList cs))) := by
  intro n rest hn hrest names
  obtain ⟨cs, items, rfl⟩ := List.exists_cons_of_ne_nil hne
  have hlength : (itemTokens (cs :: items)).length = (itemTokens items).length + 2 := rfl
  obtain ⟨n, rfl⟩ : ∃ k, n = k + 1 + 2 := ⟨n - 3, by omega⟩
  have hread := readLooseItems_itemTokens hrest (cs :: items) (n := n) (by omega) names
  have htokens : itemTokens (cs :: items) ++ rest =
      .blockEntry :: (.scalar .plain cs :: (itemTokens items ++ rest)) := rfl
  rw [htokens] at hread ⊢
  rw [readUnless_eq_readContent (by simp [entryStops]) (by simp) rfl, readContent, if_pos rfl,
    hread]
  rfl

/-! ### Entries -/

/-- A key with its value. -/
theorem ReadsValue.entry {ts : List Token} {node : Node} (h : ReadsValue ts node)
    (key : List Char) :
    ReadsEntries (.key :: .scalar .plain key :: .value :: ts)
      [(.scalar none .plain (String.ofList key), node)] := by
  intro k names rest more out hrest hmore
  refine ⟨⟨_, _, rfl, .inl rfl⟩, fun n hn => ?_⟩
  simp only [List.length_cons] at hn
  obtain ⟨n, rfl⟩ : ∃ j, n = j + 1 + 1 := ⟨n - 2, by omega⟩
  have hstop : Token.scalar .plain key ∉ entryStops := by simp [entryStops]
  have hkey := readUnless_scalar hstop (n := n + 1) (by omega) true true names
    (.value :: (ts ++ rest))
  have hvalue : readValue entryStops true (n + 1) names (.value :: (ts ++ rest)) =
      some (node, names, rest) := by
    rw [readValue]
    exact h (by omega) hrest names
  rw [List.cons_append, List.cons_append, List.cons_append, readBlockEntries]
  rw [entryStops] at hkey hvalue
  rw [hkey]
  dsimp only
  rw [hvalue]
  dsimp only
  rw [hmore _ (by omega)]
  rfl

theorem ReadsEntries.append {ts us : List Token} {entries entries' : List (Node × Node)}
    (h : ReadsEntries ts entries) (h' : ReadsEntries us entries') :
    ReadsEntries (ts ++ us) (entries ++ entries') := by
  intro k names rest more out hrest hmore
  obtain ⟨hfollows, hread⟩ := h' hrest hmore
  obtain ⟨hfollows', hread'⟩ := h hfollows hread
  rw [List.append_assoc, List.append_assoc]
  refine ⟨hfollows', fun n hn => hread' n ?_⟩
  rw [List.length_append] at hn
  omega

/-- A mapping up to its end. -/
theorem ReadsEntries.readBlockEntries_eq {ts : List Token} {entries : List (Node × Node)}
    (h : ReadsEntries ts entries) {n : Nat} (hn : 4 * ts.length + 1 ≤ n) (names : Names)
    (rest : List Token) : readBlockEntries n names (ts ++ .blockEnd :: rest) =
      some (entries, names, rest) := by
  have hend : ∀ n, 1 ≤ n → readBlockEntries n names (.blockEnd :: rest) =
      some ([], names, rest) := fun n hn => by
    obtain ⟨n, rfl⟩ : ∃ k, n = k + 1 := ⟨n - 1, by omega⟩
    rw [readBlockEntries]
  have hread := (h ⟨_, _, rfl, .inr rfl⟩ hend).2 n (by omega)
  rwa [List.append_nil] at hread

/-- A mapping as the value of a key. -/
theorem ReadsEntries.value {ts : List Token} {entries : List (Node × Node)}
    (h : ReadsEntries ts entries) :
    ReadsValue (.blockMapping :: (ts ++ [.blockEnd])) (.mapping entries) := by
  intro n rest hn _ names
  rw [List.length_cons, List.length_append, List.length_singleton] at hn
  obtain ⟨n, rfl⟩ : ∃ k, n = k + 1 + 2 := ⟨n - 3, by omega⟩
  rw [List.cons_append, List.append_assoc, List.singleton_append,
    readUnless_eq_readContent (by simp [entryStops]) (by simp) rfl, readContent, if_pos rfl,
    h.readBlockEntries_eq (by omega)]
  rfl

/-- A mapping as the root of a document. -/
theorem ReadsEntries.ofTokens?_eq {ts : List Token} {entries : List (Node × Node)}
    (h : ReadsEntries ts entries) :
    ofTokens? (.blockMapping :: (ts ++ [.blockEnd, .streamEnd])) = some (.mapping entries) := by
  have hread : ∀ names, read true false
      (4 * (Token.blockMapping :: (ts ++ [.blockEnd, .streamEnd])).length + 4) names
      (.blockMapping :: (ts ++ [.blockEnd, .streamEnd])) =
        some (.mapping entries, names, [.streamEnd]) := fun names => by
    rw [List.length_cons, List.length_append, read_eq_readContent (by simp) rfl, readContent,
      if_pos rfl, h.readBlockEntries_eq (by omega)]
    rfl
  have hroot : ofTokens? (.blockMapping :: (ts ++ [.blockEnd, .streamEnd])) =
      readRoot [] (.blockMapping :: (ts ++ [.blockEnd, .streamEnd])) := rfl
  rw [hroot, readRoot, hread]
  rfl

end TripletFacts.Yaml.Node
