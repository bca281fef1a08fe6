import TripletFacts.Json.Record
import TripletFacts.Proofs.Json.ReadBack

/-!
# Records are read back

An alternative and a record that are written as objects are read back if what they contain is, a
record also if its fields are not in their order.

## Main definitions

* `Json.ReadsBack`: what it means for a reader to read a value back.

## Main results

* `Json.readsBack_readTagged`: an alternative with its content.
* `Json.readsBack_readChoice`: an alternative without content.
* `Json.readsBack_readRecord`: a record whose fields are given in any order.
-/

namespace TripletFacts.Json

variable {α : Type}

theorem afterMark?_cons {mark : Char} (h : isBlank mark = false) (rest : List Char) :
    afterMark? mark (mark :: rest) = some rest := by
  rw [afterMark?, skipBlanks_cons h]
  exact if_pos rfl

/-- A reader that reads the text of a value as something, wherever the text stands, if it fits, and
does not read it if it does not. -/
def ReadsBack (read : Reader α) (v : Json) (Fits : Prop) [Decidable Fits] (a : α) : Prop :=
  ∀ rest, Closed rest → read (v.write ++ rest) = if Fits then some (a, rest) else none

namespace ReadsBack

variable {β : Type} {read : Reader α} {v : Json} {Fits : Prop} [Decidable Fits] {a : α}

theorem congr {Fits' : Prop} [Decidable Fits'] (h : ReadsBack read v Fits a) (hiff : Fits ↔ Fits') :
    ReadsBack read v Fits' a := by
  intro rest hrest
  rw [h rest hrest]
  exact if_congr hiff rfl rfl

theorem map (h : ReadsBack read v Fits a) (f : α → β) : ReadsBack (read.map f) v Fits (f a) := by
  intro rest hrest
  rw [Reader.map, h rest hrest]
  split <;> rfl

theorem filterMap (h : ReadsBack read v Fits a) {f : α → Option β} {b : β} (hf : f a = some b) :
    ReadsBack (read.filterMap f) v Fits b := by
  intro rest hrest
  rw [Reader.filterMap, h rest hrest]
  split
  · exact congrArg (Option.map (·, rest)) hf
  · rfl

end ReadsBack

/-- A string is read back as its content. -/
theorem readsBack_readQuoted (s : String) :
    ReadsBack (fun cs => readQuoted (skipBlanks cs)) (str s) True s := by
  intro rest _
  have hquote : skipBlanks (quote s ++ rest) = quote s ++ rest := skipBlanks_cons rfl _
  rw [if_pos trivial, write]
  exact (congrArg readQuoted hquote).trans (readQuoted_quote s rest)

/-- An object with one field is read back if its content is. -/
theorem readsBack_readTagged {content : String → Reader α} {tag : String} {v : Json} {Fits : Prop}
    [Decidable Fits] {a : α} (h : ReadsBack (content tag) v Fits a) :
    ReadsBack (readTagged content) (obj [(tag, v)]) Fits a := by
  intro rest _
  have htext : (obj [(tag, v)]).write ++ rest =
      '\x7b' :: (quote tag ++ ':' :: (v.write ++ '\x7d' :: rest)) := by
    simp [write, writeFields]
  have hquote : skipBlanks (quote tag ++ ':' :: (v.write ++ '\x7d' :: rest)) =
      quote tag ++ ':' :: (v.write ++ '\x7d' :: rest) := skipBlanks_cons rfl _
  have hcolon (cs : List Char) : afterMark? ':' (':' :: cs) = some cs := afterMark?_cons rfl cs
  have hbrace (cs : List Char) : afterMark? '\x7d' ('\x7d' :: cs) = some cs :=
    afterMark?_cons rfl cs
  have hcontent := h ('\x7d' :: rest) rfl
  rw [htext, readTagged, afterMark?_cons rfl]
  simp only [Option.bind_eq_bind, Option.bind_some, hquote, readQuoted_quote, hcolon, hcontent]
  split
  · simp only [Option.bind_some, hbrace, Option.pure_def]
  · rfl

/-- An alternative without content is read back from its name. -/
theorem readsBack_readChoice {named? : String → Option α} {name : String} {a : α}
    (h : named? name = some a) (depth : Nat) :
    ReadsBack (readChoice named? depth) (str name) True a := by
  intro rest _
  have hquote : skipBlanks (quote name ++ rest) = quote name ++ rest := skipBlanks_cons rfl _
  have hread : readChoice named? depth (quote name ++ rest) =
      Reader.filterMap named? readQuoted (quote name ++ rest) := by
    rw [readChoice.eq_def, hquote]
    rfl
  rw [write, hread, Reader.filterMap, readQuoted_quote, if_pos trivial]
  exact congrArg (Option.map (·, rest)) h

/-! ### Records -/

/-- Of values under different names each is the only one under its name. -/
theorem only?_of_mem {given : List (String × α)} (hnames : (given.map Prod.fst).Nodup)
    {f : String × α} (hf : f ∈ given) : only? given f.1 = some f.2 := by
  have hfilter : given.filter (·.1 == f.1) = [f] := by
    induction given with
    | nil => cases hf
    | cons g given ih =>
      rw [List.map_cons, List.nodup_cons] at hnames
      rcases List.mem_cons.1 hf with rfl | hf
      · have hothers : given.filter (·.1 == f.1) = [] :=
          List.filter_eq_nil_iff.2 fun g hg heq =>
            hnames.1 (List.mem_map.2 ⟨g, hg, by simpa using heq⟩)
        rw [List.filter_cons_of_pos (by simp), hothers]
      · have hne : g.1 ≠ f.1 := fun heq => hnames.1 (heq ▸ List.mem_map_of_mem hf)
        rw [List.filter_cons_of_neg (by simpa using hne), ih hnames.2 hf]
  rw [only?, hfilter]

theorem mapM_only? {given : List (String × α)} (hnames : (given.map Prod.fst).Nodup)
    {fields : List (String × α)} (h : fields ⊆ given) :
    (fields.map Prod.fst).mapM (only? given) = some (fields.map Prod.snd) := by
  induction fields with
  | nil => rfl
  | cons f fields ih =>
    rw [List.cons_subset] at h
    rw [List.map_cons, List.mapM_cons, only?_of_mem hnames h.1, ih h.2]
    rfl

section

variable {fields : List (String × Reader α)} {toJson : α → Json} {Fits : α → Prop}
  [DecidablePred Fits] {given values : List (String × α)}

/-- A field of a record is read by its own reader. -/
theorem readMember_writeField {f : String × α} {read : Reader α}
    (hread : fields.lookup f.1 = some read) (h : ReadsBack read (toJson f.2) (Fits f.2) f.2)
    {rest : List Char} (hrest : Closed rest) :
    readMember fields (writeField (f.1, toJson f.2) ++ rest) =
      if Fits f.2 then some (some f, rest) else none := by
  have hcolon (cs : List Char) : afterMark? ':' (':' :: cs) = some cs := afterMark?_cons rfl cs
  rw [writeField, List.append_assoc, List.cons_append, readMember]
  simp only [Option.bind_eq_bind, readQuoted_quote, Option.bind_some, hcolon, hread, Reader.map,
    h rest hrest]
  split <;> rfl

variable (toJson Fits) in
/-- A record is read back from its object if each value is, by the reader of its field. The object
can have the fields in any order. -/
theorem readsBack_readRecord (hfields : fields.map Prod.fst = values.map Prod.fst)
    (hgiven : given.Perm values) (hnames : (given.map Prod.fst).Nodup)
    (h : ∀ f ∈ given, ∃ read, fields.lookup f.1 = some read ∧
      ReadsBack read (toJson f.2) (Fits f.2) f.2) :
    ReadsBack (readRecord fields) (obj (given.map fun f => (f.1, toJson f.2)))
      (∀ f ∈ given, Fits f.2) (values.map Prod.snd) := by
  intro rest _
  have hmember : ∀ f ∈ given, ∀ rest, Closed rest →
      readMember fields (writeField (f.1, toJson f.2) ++ rest) =
        if Fits f.2 then some (some f, rest) else none := by
    intro f hf rest hrest
    obtain ⟨read, hread, htext⟩ := h f hf
    exact readMember_writeField hread htext hrest
  have hsequence :=
    readSequence_intercalate (.inr rfl) hmember (fun _ _ => ⟨_, _, rfl, rfl, rfl⟩) rest
  have htexts : writeFields (given.map fun f => (f.1, toJson f.2)) =
      [','].intercalate (given.map fun f => writeField (f.1, toJson f.2)) := by
    rw [writeFields_eq_intercalate, List.map_map]
    rfl
  have hnamed : (given.map some).filterMap id = given := by simp
  have hmapM : (fields.mapM fun f => only? given f.1) = some (values.map Prod.snd) := by
    rw [← mapM_only? hnames hgiven.symm.subset, ← hfields, List.mapM_map]
    rfl
  rw [write, List.cons_append, List.append_assoc, List.singleton_append, readRecord,
    skipBlanks_cons rfl, htexts]
  simp only [Reader.filterMap, hsequence]
  split
  · rw [Option.bind_some]
    dsimp only
    rw [hnamed, hmapM, Option.map_some]
  · rfl

end

end TripletFacts.Json
