import TripletFacts.Proofs.Facts.WhatIsRead

/-!
# Texts in quotes under any marks

Settings may keep the standard rules of the fields and choose other marks. A text that is accepted
as a value has no quote before a mark of the end or before the quote of a comment, and a comment has
none of its own quotes before a mark of the end. So the quotes of a triplet are closed where they
were written, except at one place: a text may end with a quote, and if the quotes of comments are
the same character then this quote closes the text, and the one that was to close it begins the
comment.

## Main definitions

* `Triplet.quotedParts`: the parts of a triplet with a text in quotes.

## Main results

* `Settings.HasMarks.readTriplet_quotedParts`: what is read from parts with a text in quotes.
* `Facts.read_text_of_staysOpen`: texts in quotes are read back.
* `Facts.not_read_text_of_closes`: a text that ends with the quote of its comment is not.
* `Facts.read_text_of_quoted_iff`: the triplets with texts that are read back.
-/

namespace TripletFacts

open Settings Regex Cursor

/-! ### Standard rules -/

section

variable {s : Settings} (hrules : ∀ field, s.rules field = standard.rules field)

include hrules

namespace Settings

theorem validate_of_rules (field : Field) (c : Candidate) :
    s.validate field c = standard.validate field c := by
  rw [validate, validate, hrules]

theorem buildPfx_of_rules (pfx : String) : s.buildPfx pfx = standard.buildPfx pfx := by
  rw [buildPfx, buildPfx, validate_of_rules hrules]

theorem buildOptionalName_of_rules (name : Option String) :
    s.buildOptionalName name = standard.buildOptionalName name := by
  cases name with
  | none => rfl
  | some n =>
    rw [buildOptionalName, buildOptionalName, buildName, buildName, validate_of_rules hrules]

end Settings

variable {d : Draft} {t : Triplet}

/-- The prefix and the name of a triplet that was built obey the standard rules. -/
theorem Triplet.built_head_of_build (h : d.build s = .ok t) :
    Triplet.Built { t with value := none, comment := none, settings := .standard } := by
  obtain ⟨pfx, name, value, comment, hpfx, hname, -, -, rfl⟩ := Draft.build_eq_ok_iff.1 h
  rw [buildPfx_of_rules hrules] at hpfx
  rw [buildOptionalName_of_rules hrules] at hname
  exact built_of_build (d := { pfx := d.pfx, name := d.name, bid := d.bid, special := d.special })
    (Draft.build_eq_ok_iff.2 ⟨pfx, name, none, none, hpfx, hname, rfl, rfl, rfl⟩)

/-- A triplet that was built is built from its own parts. -/
theorem Draft.build_of_build (h : d.build s = .ok t) (hspecial : t.special = false) :
    Draft.build { pfx := t.pfx, name := t.name, value := t.value.map FactValue.draft,
                  comment := t.comment, bid := t.bid } s = .ok t := by
  have hbuilt := Triplet.built_head_of_build hrules h
  obtain ⟨pfx, name, value, comment, -, -, hvalue, hcomment, rfl⟩ := Draft.build_eq_ok_iff.1 h
  refine Draft.build_eq_ok_iff.2 ⟨pfx, name, value, comment, ?_, ?_,
    ValueDraft.buildOptional_of_buildOptional hvalue, buildComment_of_buildComment hcomment, ?_⟩
  · exact (buildPfx_of_rules hrules pfx).trans (buildPfx_of_validate hbuilt.pfx)
  · exact (buildOptionalName_of_rules hrules name).trans hbuilt.buildOptionalName
  · dsimp only at hspecial ⊢
    rw [hspecial]

end

/-! ### Parts with a text in quotes -/

/-- The parts of a triplet with a text in quotes as its value, and with a comment. -/
def Triplet.quotedParts (t : Triplet) (m : Marks) (v : List Char) (comment : Option (List Char)) :
    Parts where
  pfx := t.pfx.toList
  name := t.name.map String.toList
  bid := t.bid
  value := m.quotedText v
  comment := comment

section

variable {s : Settings} {m : Marks} {d : Draft} {t : Triplet} {v : String}

/-- The text of a triplet with a text in quotes. -/
theorem Settings.HasMarks.text_eq (hs : s.HasMarks m) (hsettings : t.settings = s)
    (hspecial : t.special = false) (hvalue : t.value = some (.literal (.str v))) :
    t.text = m.text (t.quotedParts m v.toList (t.comment.map String.toList)) := by
  have hquoted : (FactValue.literal (.str v)).quoted s = m.quotedText v.toList := by
    simp [FactValue.quoted, Marks.quotedText, hs.valueQuote]
  rw [Triplet.text, hvalue]
  dsimp only
  rw [hs.textWith_eq hsettings hspecial, hsettings, hquoted]
  rfl

/-- Parts with a text that stays open and a comment that may be written are told apart. -/
theorem Triplet.legible_quotedParts (hrules : ∀ field, s.rules field = standard.rules field)
    (h : d.build s = .ok t) {w a : List Char} {comment : Option (List Char)}
    (hopen : m.StaysOpen w (m.commentText comment ++ m.stop :: a))
    (hcomment : ∀ c ∈ comment, occursIn [m.commentQuote, m.stop] c = false) :
    m.Legible a (t.quotedParts m w comment) where
  pfx := (built_head_of_build hrules h).isWord_pfx
  name := by
    intro n hn
    obtain ⟨name, hname, rfl⟩ := Option.map_eq_some_iff.1 hn
    exact (built_head_of_build hrules h).isWord_name hname
  value := .quoted hopen
  comment := hcomment

/-! ### What is read -/

/-- A text in quotes is read as this text. -/
theorem Settings.HasMarks.readPlain_quotedText (hs : s.HasMarks m) (v : List Char) :
    s.readPlain (m.quotedText v) = .ok (.literal (.str (String.ofList v))) := by
  -- the first and the last character of a text in quotes are the same
  have hends : (m.quotedText v).head? = (m.quotedText v).getLast? := by
    rw [Marks.quotedText, ← List.cons_append, List.getLast?_concat]
    rfl
  have hne {w : List Char} (hw : w.head? ≠ w.getLast?) : m.quotedText v ≠ w := fun h =>
    hw (h ▸ hends)
  rw [readPlain, if_neg (hne (by decide)), if_neg (hne (by decide)), hs.unquote?_quotedText]

/-- From parts with a text in quotes a triplet with this text is built. -/
theorem Settings.HasMarks.readTriplet_quotedParts (hs : s.HasMarks m) (hm : m.Apart)
    {w : List Char} {comment : Option (List Char)} {k : Match}
    (hk : m.Keeps (t.quotedParts m w comment) k.captures) :
    s.readTriplet k = Draft.build
      { pfx := t.pfx, name := t.name, value := some (.literal (.str (String.ofList w))),
        comment := comment.map String.ofList, bid := t.bid } s := by
  have hraw : s.readValue (m.raw (t.quotedParts m w comment)) =
      .ok (some (.literal (.str (String.ofList w))), t.bid) := by
    have hvalue : (t.quotedParts m w comment).value = m.quotedText w := rfl
    rw [hs.readValue_raw (by simpa [hvalue, Marks.quotedText] using hm.bid.symm), hvalue,
      hs.readPlain_quotedText]
    rfl
  rw [readTriplet_of_keeps hk hraw]
  simp only [Triplet.quotedParts, map_ofList_map_toList, String.ofList_toList]
  rfl

/-- The comment of a triplet that was read is the text of the last group. -/
theorem Settings.group_of_readTriplet {k : Match} (h : s.readTriplet k = .ok t) {c : String}
    (hc : t.comment = some c) : k.group 4 = some c.toList := by
  unfold readTriplet at h
  split at h
  · cases h
  · obtain ⟨_, _, _, comment, -, -, -, hbuild, rfl⟩ := Draft.build_eq_ok_iff.1 h
    obtain rfl : comment = some c := hc
    obtain ⟨w, hgroup, rfl⟩ := Option.map_eq_some_iff.1 (eq_of_buildComment hbuild)
    rw [hgroup, String.toList_ofList]

/-- Before the comment of a triplet stand its mark and a prefix. -/
theorem Marks.length_group_lt {k : Match} {b a : List Char}
    (h : m.tripletRegex.matchAt (between b a) = some k) {w : List Char} (hw : k.group 4 = some w) :
    w.length + 1 < a.length := by
  obtain ⟨-, hway⟩ := leads_of_matchAt h
  obtain ⟨c₁, g₁, hstart, hway⟩ := leads_seq_iff.1 hway
  obtain ⟨a₁, rfl, rfl, rfl⟩ := leads_literal_iff.1 hstart
  obtain ⟨c₂, g₂, hpfx, hrest⟩ := leads_seq_iff.1 hway
  obtain ⟨g₃, hword, rfl⟩ := leads_group_iff.1 hpfx
  obtain ⟨x, u, a₂, rfl, -, -, rfl, rfl⟩ := leads_plus_char_iff.1 hword
  obtain ⟨span, hspan, rfl⟩ := Option.map_eq_some_iff.1 hw
  obtain ⟨g, g', hg, -⟩ := List.lookup_eq_some_iff.1 hspan
  have hmem : (4, span) ∈ k.captures := by simp [hg]
  have hinside : span.Inside _ := (hrest.inside _ hmem).resolve_left (by simp)
  have hle := hinside.length_text_le
  simp only [between, List.length_append, List.length_cons, List.length_nil] at hle ⊢
  omega

end

/-! ### Reading -/

/-- A quote before a comment begins a comment that ends where the other one ends, or earlier if the
other one begins with the mark of the end. -/
theorem exists_early_comment {quote stop : Char} {c : List Char}
    (hc : occursIn [quote, stop] c = false) :
    ∃ c' a, quote :: (c ++ [quote, stop]) = c' ++ quote :: stop :: a ∧
      occursIn [quote, stop] c' = false ∧ a.length ≤ c.length + 1 := by
  by_cases hhead : c.head? = some stop
  · obtain ⟨c, rfl⟩ := List.head?_eq_some_iff.1 hhead
    exact ⟨[], c ++ [quote, stop], rfl, rfl, by simp⟩
  · refine ⟨quote :: c, [], rfl, ?_, Nat.zero_le _⟩
    have hprefix : [quote, stop].isPrefixOf (quote :: c) = false := by
      cases c with
      | nil => simp
      | cons d c =>
        have hne : stop ≠ d := fun h => hhead (by rw [h, List.head?_cons])
        simp [List.isPrefixOf, hne]
    rw [occursIn, hprefix, hc]
    rfl

section

variable {s : Settings} {m : Marks} (hs : s.HasMarks m) (hm : m.Apart)
  (hrules : ∀ field, s.rules field = standard.rules field) {t : Triplet} {v : String}
  (ht : ∃ d : Draft, d.build s = .ok t) (hspecial : t.special = false)
  (hvalue : t.value = some (.literal (.str v)))

include hs hm hrules ht hspecial hvalue

namespace Facts

/-- A triplet whose text in quotes stays open is read back. -/
theorem read_text_of_staysOpen
    (hopen : m.StaysOpen v.toList (m.commentText (t.comment.map String.toList) ++ [m.stop])) :
    ∃ f, Facts.read s t.text = .ok f ∧ f.entries = [t] := by
  obtain ⟨d, hd⟩ := ht
  have hlegible : m.Legible [] (t.quotedParts m v.toList (t.comment.map String.toList)) := by
    refine Triplet.legible_quotedParts hrules hd hopen fun c hc => ?_
    obtain ⟨comment, hcomment, rfl⟩ := Option.map_eq_some_iff.1 hc
    have hbuild := Draft.buildComment_of_build hd
    rw [hcomment] at hbuild
    exact hs.occursIn_comment hbuild
  obtain ⟨k, hmatches, hkeeps⟩ := Marks.exists_matchesIn_text hm hlegible
  rw [← hs.text_eq (Draft.settings_of_build hd) hspecial hvalue, ← hs.regex_triplet] at hmatches
  have hread : s.readTriplet k = .ok t := by
    have hbuild := Draft.build_of_build hrules hd hspecial
    rw [hvalue] at hbuild
    rw [hs.readTriplet_quotedParts hm hkeeps, map_ofList_map_toList, String.ofList_toList]
    exact hbuild
  refine ⟨(Facts.empty s).add t, ?_, rfl⟩
  rw [Facts.read, hmatches, List.mapM_cons, hread]
  rfl

/-- A text that ends with the quote of its comment is not read back: it is read without its last
quote, and no triplet behind it has a comment of this length. -/
theorem not_read_text_of_closes (hquotes : m.valueQuote = m.commentQuote)
    (hcomment : t.comment ≠ none) (hlast : v.toList.getLast? = some m.valueQuote) :
    ¬∃ f u, Facts.read s t.text = .ok f ∧ f.entries = [u] ∧ t.SameAs u := by
  rintro ⟨f, u, hread, hentries, hsame⟩
  obtain ⟨d, hd⟩ := ht
  obtain ⟨c, hc⟩ := Option.ne_none_iff_exists'.1 hcomment
  obtain ⟨w, hw⟩ := List.getLast?_eq_some_iff.1 hlast
  obtain ⟨hstop, hquote⟩ := hs.occursIn_value (Draft.build_draft_of_build hd hvalue)
  rw [hw] at hstop hquote
  have hbuild := Draft.buildComment_of_build hd
  rw [hc] at hbuild
  obtain ⟨c', a, hsplit, hopen, hlength⟩ := exists_early_comment (hs.occursIn_comment hbuild)
  -- what is found: the text without its last quote, and a comment from this quote on
  have hlegible : m.Legible a (t.quotedParts m w (some c')) :=
    Triplet.legible_quotedParts hrules hd (.of_occursIn_concat hstop hquote _)
      (by simpa using hopen)
  have htext : t.text = m.text (t.quotedParts m w (some c')) ++ a := by
    rw [hs.text_eq (Draft.settings_of_build hd) hspecial hvalue, hw]
    simp only [Marks.text, Marks.raw, Triplet.quotedParts, Marks.quotedText, Marks.commentText, hc,
      Option.map_some, hquotes, List.append_assoc, List.cons_append, List.nil_append]
    rw [hsplit]
  obtain ⟨k, hmatches, hkeeps⟩ := Marks.exists_matchesIn_append hm hlegible
  rw [← htext, ← hs.regex_triplet] at hmatches
  obtain ⟨us, hus, rfl⟩ := map_eq_ok_iff.1 hread
  have hu : u ∈ us := (mem_entries_addAll (hentries ▸ List.mem_singleton_self u)).resolve_left
    List.not_mem_nil
  obtain ⟨k', hk', hu⟩ := exists_mem_of_mapM_eq_ok hus hu
  rw [hmatches] at hk'
  rcases List.mem_cons.1 hk' with rfl | hk'
  · -- the first match has the shorter text
    rw [hs.readTriplet_quotedParts hm hkeeps] at hu
    have hshort := (Draft.value_of_build hu rfl).symm.trans (hsame.value_eq hvalue)
    cases hshort
    simp at hw
  · -- the comment is longer than what is left behind the first match
    obtain ⟨x, c₁, hsteps, hmatch⟩ := exists_steps_of_mem_findAll hk'
    have hgroup := group_of_readTriplet hu (hsame.comment.trans hc)
    rw [← between_before_after c₁, hs.regex_triplet] at hmatch
    have hlt := Marks.length_group_lt hmatch hgroup
    have hleft := congrArg List.length hsteps.after
    simp only [between, List.length_append] at hleft
    omega

/-- **Texts in quotes are read back, except at one border.** Under settings with the standard rules
whose marks are characters that can be told apart, reading the text of a triplet with a text as its
value yields one triplet with the same prefix, name, value, comment and mark of a request if and
only if the text does not end with a quote that also begins its comment. -/
theorem read_text_of_quoted_iff :
    (∃ f u, Facts.read s t.text = .ok f ∧ f.entries = [u] ∧ t.SameAs u) ↔
      ¬(m.valueQuote = m.commentQuote ∧ t.comment ≠ none ∧
        v.toList.getLast? = some m.valueQuote) := by
  constructor
  · rintro hread ⟨hquotes, hcomment, hlast⟩
    exact not_read_text_of_closes hs hm hrules ht hspecial hvalue hquotes hcomment hlast hread
  · intro hcloses
    have hopen : m.StaysOpen v.toList
        (m.commentText (t.comment.map String.toList) ++ [m.stop]) := by
      obtain ⟨d, hd⟩ := ht
      obtain ⟨hstop, hquote⟩ := hs.occursIn_value (Draft.build_draft_of_build hd hvalue)
      refine .of_occursIn hstop hquote fun hlast comment rest heq => ?_
      cases comment with
      | none => exact hm.stop (List.cons.inj heq).1.symm
      | some c =>
        obtain ⟨hquotes, hrest⟩ := List.cons.inj heq
        have hnone : t.comment = none := by
          by_contra hcomment
          exact hcloses ⟨hquotes, hcomment, hlast⟩
        have hlength := congrArg List.length hrest
        simp [hnone, Marks.commentText] at hlength
        omega
    obtain ⟨f, hread, hentries⟩ :=
      read_text_of_staysOpen hs hm hrules ht hspecial hvalue hopen
    exact ⟨f, t, hread, hentries, rfl, rfl, hvalue ▸ .some (.literal _), rfl, rfl⟩

end Facts

end

/-- Marks of which the quotes of texts and of comments are the same. -/
def barMarks : Marks where
  start := '@'
  nameSeparator := '/'
  valueSeparator := '~'
  bid := '?'
  stop := '!'
  valueQuote := '|'
  commentQuote := '|'

/-- The standard rules with these marks. -/
def barSettings : Settings :=
  { Settings.standard with
    startMark := "@", nameSeparator := "/", valueSeparator := "~", bidMark := "?", endMark := "!",
    valueQuote := "|", commentQuote := "|" }

/-- A request with a text and a comment that have these quotes in them. -/
def barTriplet : Triplet where
  pfx := "N1"
  name := some "TEXT"
  comment := some "x|y"
  bid := true
  special := false
  settings := barSettings
  value := some (.literal (.str "|a!"))

/-- The triplet `@N1/TEXT~?||a!||x|y|!` is read back. -/
theorem Facts.read_text_of_quoted_bars :
    barSettings.HasMarks barMarks ∧ barMarks.Apart ∧
      (∀ field, barSettings.rules field = standard.rules field) ∧
      (∃ d : Draft, d.build barSettings = .ok barTriplet) ∧
      barTriplet.text = "@N1/TEXT~?||a!||x|y|!".toList ∧
      ∃ f u, Facts.read barSettings barTriplet.text = .ok f ∧ f.entries = [u] ∧
        barTriplet.SameAs u := by
  have hs : barSettings.HasMarks barMarks := by constructor <;> rfl
  have hm : barMarks.Apart := by constructor <;> decide
  have hrules : ∀ field, barSettings.rules field = standard.rules field := by
    rintro (_ | _ | _ | _) <;> rfl
  have ht : ∃ d : Draft, d.build barSettings = .ok barTriplet :=
    ⟨{ pfx := "N1", name := some "TEXT", value := some (.literal (.str "|a!")),
       comment := some "x|y", bid := true }, rfl⟩
  exact ⟨hs, hm, hrules, ht, rfl,
    (read_text_of_quoted_iff hs hm hrules ht rfl rfl).2 fun h => absurd h.2.2 (by decide)⟩

/-- The standard settings with the quote of texts for comments too. -/
def oneQuoteSettings : Settings := { Settings.standard with commentQuote := "'" }

/-- A text that ends with this quote, and a comment. -/
def endingTriplet : Triplet where
  pfx := "A"
  name := some "B"
  comment := some "x"
  bid := false
  special := false
  settings := oneQuoteSettings
  value := some (.literal (.str "a'"))

/-- The triplet `$A.B='a'''x';` is accepted, and its text is read as the text `a` with the comment
`'x`. -/
theorem Facts.read_text_of_quoted_ending :
    oneQuoteSettings.HasMarks { Marks.standard with commentQuote := '\'' } ∧
      (∀ c ∈ ['$', '.', '=', ':', ';', '\''],
        Unicode.isWord c = false ∧ Unicode.isBlank c = false ∧ c ∉ ['+', '-']) ∧
      ['$', '.', '=', ':', ';', '\''].Nodup ∧
      (∀ field, oneQuoteSettings.rules field = standard.rules field) ∧
      (∃ d : Draft, d.build oneQuoteSettings = .ok endingTriplet) ∧
      endingTriplet.text = "$A.B='a'''x';".toList ∧
      (Facts.read oneQuoteSettings "$A.B='a'''x';".toList).map (·.entries.map (·.comment)) =
        .ok [some "'x"] ∧
      ¬∃ f u, Facts.read oneQuoteSettings endingTriplet.text = .ok f ∧ f.entries = [u] ∧
        endingTriplet.SameAs u := by
  have hs : oneQuoteSettings.HasMarks { Marks.standard with commentQuote := '\'' } := by
    constructor <;> rfl
  have hm : Marks.Apart { Marks.standard with commentQuote := '\'' } := by constructor <;> decide
  have hrules : ∀ field, oneQuoteSettings.rules field = standard.rules field := by
    rintro (_ | _ | _ | _) <;> rfl
  have ht : ∃ d : Draft, d.build oneQuoteSettings = .ok endingTriplet :=
    ⟨{ pfx := "A", name := some "B", value := some (.literal (.str "a'")), comment := some "x" },
      rfl⟩
  have hclass : ∀ c ∈ ['$', '.', '=', ':', ';', '\''],
      Unicode.isWord c = false ∧ Unicode.isBlank c = false ∧ c ∉ ['+', '-'] := by
    simp only [List.forall_mem_cons, List.not_mem_nil, false_implies, implies_true, and_true]
    decide
  exact ⟨hs, hclass, by decide, hrules, ht, rfl, by decide +kernel,
    not_read_text_of_closes hs hm hrules ht rfl rfl rfl (Option.some_ne_none _) (by decide)⟩

end TripletFacts
