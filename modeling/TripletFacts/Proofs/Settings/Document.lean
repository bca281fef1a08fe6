import TripletFacts.Proofs.Yaml.Documents
import TripletFacts.Settings.Document

/-!
# Settings are read back from their document

The document of settings is a mapping with a key for each of them. The rules of a field are a
mapping again, whose lines are indented. Each key stands there once, and its value is read as what
was written, whatever the settings are.

## Main results

* `Settings.ofDocument_document`: settings are read back from their document.
-/

namespace TripletFacts

open Yaml Yaml.Node

/-! ### Nodes -/

/-- The node of a text. -/
def textNode (s : String) : Node := .scalar none (styleOf s.toList) s

/-- The node of a text that is written plain. -/
def keyNode (key : String) : Node := .scalar none .plain key

/-- The entries of a mapping whose keys are written plain. -/
def keyed (fields : List (String × Node)) : List (Node × Node) :=
  fields.map fun f => (keyNode f.1, f.2)

theorem text?_textNode (s : String) : (textNode s).text? = some s := rfl

theorem fields?_keyed (fields : List (String × Node)) :
    (Node.mapping (keyed fields)).fields? = some fields := by
  rw [fields?, keyed]
  induction fields with
  | nil => rfl
  | cons f fields ih =>
    rw [List.map_cons, List.mapM_cons, ih]
    rfl

theorem valuesOf_cons (key k : String) (v : Node) (fields : List (String × Node)) :
    valuesOf key ((k, v) :: fields) =
      if k = key then v :: valuesOf key fields else valuesOf key fields := by
  rw [valuesOf, List.filterMap_cons]
  by_cases h : k = key <;> simp only [h, if_true, if_false] <;> rfl

/-- A key that stands once has one value. -/
theorem valuesOf_of_mem {fields : List (String × Node)} (hkeys : (fields.map Prod.fst).Nodup)
    {key : String} {v : Node} (h : (key, v) ∈ fields) : valuesOf key fields = [v] := by
  induction fields with
  | nil => cases h
  | cons f fields ih =>
    obtain ⟨k, u⟩ := f
    obtain ⟨hk, hfields⟩ := List.nodup_cons.1 hkeys
    rw [valuesOf_cons]
    obtain heq | hmem := List.mem_cons.1 h
    · obtain ⟨rfl, rfl⟩ := Prod.mk.inj heq
      have hnone : valuesOf key fields = [] := by
        rw [valuesOf, List.filterMap_eq_nil_iff]
        exact fun f hf => if_neg fun hkey => hk (List.mem_map.2 ⟨f, hf, hkey⟩)
      rw [if_pos rfl, hnone]
    · have hne : k ≠ key := by
        rintro rfl
        exact hk (List.mem_map.2 ⟨_, hmem, rfl⟩)
      rw [if_neg hne, ih hfields hmem]

/-! ### Numbers -/

theorem isPlainScalar_toDigits (n : Nat) : IsPlainScalar (Nat.toDigits 10 n) := by
  refine isPlainScalar_of_word Nat.toDigits_ne_nil fun x hx => .inr (.inl ?_)
  have hdigit := List.all_eq_true.1 (all_isDigit_toDigits n) x hx
  simpa [isDigit] using hdigit

theorem foldl_digits {ds : List Char} (h : ∀ d ∈ ds, isDigit d = true) (n : Nat) :
    ds.foldl (fun n c => n.bind fun n => (hexDigit? c).bind fun d =>
      if d < 10 then some (10 * n + d) else none) (some n) =
      some (ds.foldl (fun n c => 10 * n + (c.toNat - '0'.toNat)) n) := by
  induction ds generalizing n with
  | nil => rfl
  | cons d ds ih =>
    obtain ⟨hd, hds⟩ := List.forall_mem_cons.1 h
    have hrange : '0' ≤ d ∧ d ≤ '9' := by simpa [isDigit] using hd
    have hle : d.toNat ≤ 57 := hrange.2
    rw [List.foldl_cons, List.foldl_cons, Option.bind_some, hexDigit?, if_pos hrange,
      Option.bind_some, if_pos (by omega)]
    exact ih hds _

theorem isPaddedDigits_toDigits (n : Nat) : isPaddedDigits (Nat.toDigits 10 n) = false := by
  obtain rfl | hn := n.eq_zero_or_pos
  case inl => rfl
  case inr =>
    have hsign : signNext (Nat.toDigits 10 n) = false := by
      rw [signNext, Option.any_eq_false]
      intro c hc
      have hdigit := List.all_eq_true.1 (all_isDigit_toDigits n) c (List.mem_of_head? hc)
      rw [Bool.or_eq_false_iff, beq_eq_false_iff_ne, beq_eq_false_iff_ne]
      constructor
      all_goals
        rintro rfl
        exact absurd hdigit (by decide)
    unfold isPaddedDigits
    rw [hsign]
    split
    case h_1 hzero => exact absurd (congrArg List.head? hzero) (head?_toDigits_ne hn)
    case h_2 => rfl

/-- Digits are no other number than the one in base ten. -/
theorem readNat?_toDigits {bound n : Nat} (h : n < bound) :
    readNat? bound (Nat.toDigits 10 n) = some n := by
  have hdigits : ∀ d ∈ Nat.toDigits 10 n, isDigit d = true :=
    List.all_eq_true.1 (all_isDigit_toDigits n)
  have hplus : dropPlus (Nat.toDigits 10 n) = Nat.toDigits 10 n := by
    unfold dropPlus
    split
    case h_1 hsign => exact absurd (hdigits '+' (by simp [hsign])) (by decide)
    case h_2 => rfl
  have hbase : splitBase (Nat.toDigits 10 n) = none := by
    unfold splitBase
    split
    case h_1 hmark => exact absurd (hdigits 'x' (by simp [hmark])) (by decide)
    case h_2 hmark => exact absurd (hdigits 'o' (by simp [hmark])) (by decide)
    case h_3 hmark => exact absurd (hdigits 'b' (by simp [hmark])) (by decide)
    case h_4 => rfl
  have hdecimal : readBase? 10 (Nat.toDigits 10 n) = some n := by
    rw [readBase?, if_neg (by simp [Nat.toDigits_ne_nil]), foldl_digits hdigits]
    exact congrArg some (digitsValue_toDigits n)
  simp [readNat?, hplus, hbase, hdecimal, isPaddedDigits_toDigits, h]

/-! ### Lines -/

/-- The line of a key and its value. -/
theorem hasLines_documentLine {c : Nat} (key : String) {value : List Char} {node : Node}
    (hkey : IsKey key.toList) (h : HasValue c (' ' :: value) node) :
    HasLines c (documentLine c key value) [(keyNode key, node)] :=
  ⟨_, by rw [documentLine, List.append_assoc], h.entry hkey⟩

theorem hasLines_size (c : Nat) (key : String) (hkey : IsKey key.toList) (n : Nat) :
    HasLines c (documentLine c key (Nat.toDigits 10 n ++ ['\n']))
      [(keyNode key, keyNode (String.ofList (Nat.toDigits 10 n)))] :=
  hasLines_documentLine key hkey (hasValue_plain c (isPlainScalar_toDigits n))

/-! ### Rules of fields -/

namespace FieldRules

/-- The node of a pattern, or of its absence. -/
def patternNode : Option String → Node
  | some p => textNode p
  | none => keyNode "null"

/-- The keys of the rules of a field with their nodes. -/
def nodes (r : FieldRules) : List (String × Node) := [
  ("min", keyNode (String.ofList (Nat.toDigits 10 r.min.toNat))),
  ("max", keyNode (String.ofList (Nat.toDigits 10 r.max.toNat))),
  ("pattern", patternNode r.pattern),
  ("types", .sequence (r.kinds.map fun k => keyNode k.name))]

/-- The names of kinds are written as items. -/
theorem hasLines_kindLines (kinds : List Kind) : HasLines 2 (kindLines kinds)
    [(keyNode "types", .sequence (kinds.map fun k => keyNode k.name))] := by
  have hkey : IsKey "types".toList := by decide
  by_cases hne : kinds = []
  case pos =>
    subst hne
    exact ⟨_, rfl, (hasValue_empty 2).entry hkey⟩
  case neg =>
    have hname : ∀ cs ∈ kinds.map (·.name.toList), IsPlainScalar cs :=
      List.forall_mem_map.2 fun k _ =>
        isPlainScalar_of_word (by cases k <;> decide) (by cases k <;> decide)
    have hnode (k : Kind) : scalar none .plain (String.ofList k.name.toList) = keyNode k.name := by
      rw [String.ofList_toList, keyNode]
    have hline (k : Kind) : "  - ".toList ++ writeValue 4 k.name =
        spaces 2 ++ '-' :: ' ' :: (k.name.toList ++ ['\n']) := by
      cases k <;> decide
    have hvalue := hasValue_items Nat.two_pos (mt List.map_eq_nil_iff.1 hne) hname
    simp only [List.map_map, Function.comp_def, hnode] at hvalue
    refine ⟨_, ?_, hvalue.entry hkey⟩
    rw [kindLines, if_neg (by simpa using hne), itemLines, List.flatMap_map]
    simp only [hline]
    rfl

theorem hasLines_pattern (pattern : Option String) :
    HasLines 2 (documentLine 2 "pattern" (match pattern with
      | some p => writeValue 4 p
      | none => "null\n".toList)) [(keyNode "pattern", patternNode pattern)] := by
  have hkey : IsKey "pattern".toList := by decide
  cases pattern with
  | none =>
    have hnull : IsPlainScalar "null".toList := isPlainScalar_of_word (by decide) (by decide)
    exact hasLines_documentLine "pattern" hkey (hasValue_plain 2 hnull)
  | some p => exact hasLines_documentLine "pattern" hkey (hasValue_scalar 2 p)

/-- The lines of rules are their key with a mapping. -/
theorem hasLines_lines (r : FieldRules) {key : String} (hkey : IsKey key.toList) :
    HasLines 0 (r.lines key) [(keyNode key, .mapping (keyed r.nodes))] := by
  have hrules := hasLines_size 2 "min" (by decide) r.min.toNat
    |>.append (hasLines_size 2 "max" (by decide) r.max.toNat)
    |>.append (hasLines_pattern r.pattern)
    |>.append (hasLines_kindLines r.kinds)
  refine ⟨_, ?_, (hrules.hasValue Nat.two_pos).entry hkey⟩
  rw [lines]
  simp only [List.append_assoc, List.cons_append, List.nil_append]
  rfl

theorem size?_keyNode (n : UInt64) :
    (keyNode (String.ofList (Nat.toDigits 10 n.toNat))).size? = some n := by
  simp [keyNode, size?, readNat?_toDigits n.toNat_lt_size]

/-- Only texts that do not stand for nothing are written plain. -/
theorem isEmpty_and_isNull_of_styleOf {cs : List Char} (h : styleOf cs = .plain) :
    cs.isEmpty = false ∧ isNull cs = false := by
  have hreserved : isReserved cs = false := by
    unfold styleOf at h
    split at h
    case isTrue => split at h <;> cases h
    case isFalse =>
      split at h
      case isTrue hplain => simpa using (Bool.and_eq_true_iff.1 hplain).1
      case isFalse => split at h <;> cases h
  simp only [isReserved, Bool.or_eq_false_iff] at hreserved
  exact hreserved.1.1.1

theorem textOrNull?_patternNode (pattern : Option String) :
    (patternNode pattern).textOrNull? = some pattern := by
  cases pattern with
  | none => rfl
  | some p =>
    rw [patternNode, textNode]
    by_cases hstyle : styleOf p.toList = .plain
    case pos =>
      obtain ⟨hempty, hnull⟩ := isEmpty_and_isNull_of_styleOf hstyle
      have hne : p ≠ "" := by
        rintro rfl
        cases hempty
      rw [hstyle, textOrNull?, if_neg (by simp [hne, hnull])]
    case neg =>
      rw [textOrNull?]
      exact fun h => hstyle h

theorem mapM_kind?_keyNode (kinds : List Kind) :
    (kinds.map fun k => keyNode k.name).mapM kind? = some kinds := by
  induction kinds with
  | nil => rfl
  | cons k kinds ih =>
    have hkind : (keyNode k.name).kind? = some k := k.ofName?_name
    rw [List.map_cons, List.mapM_cons, hkind, ih]
    rfl

theorem rules?_nodes (r : FieldRules) : (Node.mapping (keyed r.nodes)).rules? = some r := by
  have hkeys : (r.nodes.map Prod.fst).Nodup := by simp [nodes]
  have hvalues : ∀ f ∈ r.nodes, valuesOf f.1 r.nodes = [f.2] := fun f hf => valuesOf_of_mem hkeys hf
  rw [nodes] at hvalues
  simp only [List.forall_mem_cons] at hvalues
  rw [← nodes] at hvalues
  rw [rules?, fields?_keyed, Option.bind_eq_bind, Option.bind_some]
  simp only [hvalues, Option.bind_eq_bind, Option.bind_some, size?_keyNode,
    textOrNull?_patternNode, items?, mapM_kind?_keyNode]
  rfl

end FieldRules

/-! ### Settings -/

namespace Settings

/-- The keys of settings with their nodes. -/
def nodes (s : Settings) : List (String × Node) := [
  ("bid", textNode s.bidMark),
  ("start", textNode s.startMark),
  ("prefix_name_separator", textNode s.nameSeparator),
  ("name_value_separator", textNode s.valueSeparator),
  ("end", textNode s.endMark),
  ("value_quote", textNode s.valueQuote),
  ("comment_quote", textNode s.commentQuote),
  ("triplets_separator", textNode s.tripletSeparator),
  ("expression_items_separator", textNode s.itemSeparator),
  ("prefix", .mapping (keyed s.pfxRules.nodes)),
  ("name", .mapping (keyed s.nameRules.nodes)),
  ("value", .mapping (keyed s.valueRules.nodes)),
  ("comment", .mapping (keyed s.commentRules.nodes))]

/-- The document has the lines of all keys, one after the other. -/
theorem hasLines_document (s : Settings) : HasLines 0 s.document (keyed s.nodes) := by
  have hmark (key value : String) (hkey : IsKey key.toList) :=
    hasLines_documentLine key hkey (hasValue_scalar 0 value)
  exact hmark "bid" s.bidMark (by decide)
    |>.append (hmark "start" s.startMark (by decide))
    |>.append (hmark "prefix_name_separator" s.nameSeparator (by decide))
    |>.append (hmark "name_value_separator" s.valueSeparator (by decide))
    |>.append (hmark "end" s.endMark (by decide))
    |>.append (hmark "value_quote" s.valueQuote (by decide))
    |>.append (hmark "comment_quote" s.commentQuote (by decide))
    |>.append (hmark "triplets_separator" s.tripletSeparator (by decide))
    |>.append (hmark "expression_items_separator" s.itemSeparator (by decide))
    |>.append (s.pfxRules.hasLines_lines (by decide))
    |>.append (s.nameRules.hasLines_lines (by decide))
    |>.append (s.valueRules.hasLines_lines (by decide))
    |>.append (s.commentRules.hasLines_lines (by decide))

theorem settings?_nodes (s : Settings) : (Node.mapping (keyed s.nodes)).settings? = some s := by
  have hkeys : (s.nodes.map Prod.fst).Nodup := by simp [nodes]
  have hvalues : ∀ f ∈ s.nodes, valuesOf f.1 s.nodes = [f.2] := fun f hf => valuesOf_of_mem hkeys hf
  -- one equation for each key, about the list as it is
  rw [nodes] at hvalues
  simp only [List.forall_mem_cons] at hvalues
  rw [← nodes] at hvalues
  rw [settings?, fields?_keyed, Option.bind_eq_bind, Option.bind_some]
  simp only [hvalues, text?_textNode, FieldRules.rules?_nodes]
  rfl

/-- Settings are read back from their document. -/
theorem ofDocument_document (s : Settings) : ofDocument s.document = .ok s := by
  rw [ofDocument, s.hasLines_document.ofText?_eq, Option.bind_some, s.settings?_nodes]

end Settings

end TripletFacts
