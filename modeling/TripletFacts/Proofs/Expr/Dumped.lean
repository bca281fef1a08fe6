import TripletFacts.Expr.Dump
import TripletFacts.Proofs.Expr.Growth
import TripletFacts.Proofs.Expr.Reading
import TripletFacts.Proofs.Json.Records

/-!
# Dumped expressions are read back

A dump has the shape of its expression, so it is nested as deep as the expression, two or three
times: a node with operands is an object inside of an object, and the arguments of a call are an
array inside of these. The parser and the reader of dumps count nesting in different ways. The
parser counts parentheses, arguments, signs in front of operands and exponents, and takes chains of
any length in a loop; the reader counts what a dump nests. So there are expressions that the parser
accepts and whose dumps are not read. A text needs at least 65 tokens for this, and 65 can be
enough.

Up to the limit of the reader the dump gives the expression back, with every literal of its kind. No
mark is written for the kinds, but their texts differ: words, digits with a point or an exponent,
digits without, and quotes.

## Main definitions

* `Expr.literals`: the literals of an expression.
* `Expr.dumpDepth`: how deep the dump of an expression is nested.

## Main results

* `Value.ofText?_write`: every value is read back from its text.
* `Expr.ofDump_dump`: an expression is read back from its dump if this is not nested too deep, and
  the dump is refused if it is.
* `Expr.Derives.dumpDepth_lt`: the tokens of a text bound the nesting of the dump.
* `Expr.read_dump_of_parse`: which parsed expressions are read back.
-/

namespace TripletFacts

/-! ### Values -/

/-- The floats among some values are read back from their texts. -/
def FloatsReread (vs : List Value) : Prop := ∀ x, .float x ∈ vs → Json.Rereads x

theorem FloatsReread.subset {vs ws : List Value} (h : FloatsReread vs) (hws : ws ⊆ vs) :
    FloatsReread ws :=
  fun x hx => h x (hws hx)

namespace Value

theorem nesting_toJson (v : Value) : v.toJson.nesting = 0 := by
  cases v <;> rfl

theorem legible_toJson {v : Value} (h : FloatsReread [v]) : v.toJson.Legible := by
  cases v with
  | bool b => exact .bool b
  | int i =>
    have hlt : i.toInt < UInt64.size := Int.lt_trans i.toInt_lt (by decide)
    exact .int ⟨i.minValue_le_toInt, hlt⟩
  | float x => exact .float (h x List.mem_cons_self)
  | str s => exact .str s

/-- Every value is read back from its text. -/
theorem ofText?_write {v : Value} (h : FloatsReread [v]) : ofText? v.toJson.write = some v := by
  rw [ofText?, (legible_toJson h).parse?_write, nesting_toJson, if_pos (Nat.zero_le _)]
  exact ofJson?_toJson v

end Value

namespace Expr

/-! ### Expressions as JSON -/

mutual

/-- The literals of an expression. -/
def literals : Expr → List Value
  | literal v => [v]
  | binary left _ right => left.literals ++ right.literals
  | unary _ operand => operand.literals
  | call _ args => literalsList args

/-- The literals of several expressions. -/
def literalsList : List Expr → List Value
  | [] => []
  | e :: es => e.literals ++ literalsList es

end

mutual

/-- How deep the dump of an expression is nested. -/
def dumpDepth : Expr → Nat
  | literal _ => 1
  | binary left _ right => 2 + max left.dumpDepth right.dumpDepth
  | unary _ operand => 2 + operand.dumpDepth
  | call _ args => 3 + dumpDepthList args

/-- How deep the deepest of several dumps is nested. -/
def dumpDepthList : List Expr → Nat
  | [] => 0
  | e :: es => max e.dumpDepth (dumpDepthList es)

end

theorem binaryNamed?_name (op : Operator) : binaryNamed? op.name = some op := by
  rcases op with op | op | op <;> cases op <;> decide

theorem unaryNamed?_name (op : UnaryOperator) : unaryNamed? op.name = some op := by
  cases op <;> decide

/-! ### Parts of nodes -/

namespace Part

/-- A part of a node as JSON. -/
def toJson : Part → Json
  | expr e => e.toJson
  | binaryOperator op => .str op.name
  | unaryOperator op => .str op.name
  | name s => .str s
  | args es => .arr (toJsonList es)

/-- How deep the dump of a part is nested. -/
def dumpDepth : Part → Nat
  | expr e => e.dumpDepth
  | binaryOperator _ | unaryOperator _ | name _ => 0
  | args es => 1 + dumpDepthList es

end Part

/-- A node with parts as JSON. -/
def nodeJson (kind : String) (parts : List (String × Part)) : Json :=
  .obj [(kind, .obj (parts.map fun f => (f.1, f.2.toJson)))]

/-! ### Readers -/

/-- The reader of the arguments of a call. -/
def readArgs (depth : Nat) : Json.Reader (List Expr) := fun cs =>
  match depth with
  | 0 => none
  | depth + 1 => Json.readArray (read depth) cs

/-- The reader of a node that has parts, in an object with `depth` levels of nesting left. -/
def readNode (depth : Nat) (kind : String) : Json.Reader Expr := fun cs =>
  match depth with
  | 0 => none
  | depth + 1 => readParts depth (read depth) (readArgs depth) kind cs

theorem read_succ (depth : Nat) :
    read (depth + 1) = Json.readTagged fun kind =>
      if kind = "Literal" then
        Json.Reader.filterMap (fun v => (Value.ofJson? v).map literal) (Json.readValue depth)
      else readNode depth kind := by
  funext cs
  rw [read]
  congr 1
  funext kind cs
  split <;> cases depth <;> rfl

/-- A node is read back if its parts are, each by its own reader. The object of the node and the
object of its parts are two levels of nesting. -/
theorem readsBack_nodeJson (kind : String) (parts : List (String × Part)) {e : Expr} {n : Nat}
    {fields : Nat → List (String × Json.Reader Part)} (hkind : kind ≠ "Literal")
    (hfields : ∀ d, partsOf? d (read d) (readArgs d) kind = some (fields d))
    (hnames : ∀ d, (fields d).map Prod.fst = parts.map Prod.fst)
    (hnodup : (parts.map Prod.fst).Nodup) (he : ofParts? (parts.map Prod.snd) = some e)
    (hdepth : ∀ d, (∀ f ∈ parts, f.2.dumpDepth ≤ d) ↔ n ≤ d)
    (h : ∀ d, ∀ f ∈ parts, ∃ read, (fields d).lookup f.1 = some read ∧
      Json.ReadsBack read f.2.toJson (f.2.dumpDepth ≤ d) f.2) (depth : Nat) :
    Json.ReadsBack (read depth) (nodeJson kind parts) (2 + n ≤ depth) e := by
  have hparts : ∀ depth, Json.ReadsBack (readNode depth kind)
      (.obj (parts.map fun f => (f.1, f.2.toJson))) (1 + n ≤ depth) e := by
    intro depth
    cases depth with
    | zero =>
      intro rest _
      rw [if_neg (by omega)]
      rfl
    | succ d =>
      have hrecord :=
        Json.readsBack_readRecord Part.toJson (·.dumpDepth ≤ d) (hnames d) (.refl _) hnodup (h d)
      have hn : n ≤ d ↔ 1 + n ≤ d + 1 := by omega
      have hnode : readNode (d + 1) kind = (Json.readRecord (fields d)).filterMap ofParts? := by
        funext cs
        exact congrArg (Option.bind · _) (hfields d)
      rw [hnode]
      exact (hrecord.filterMap he).congr ((hdepth d).trans hn)
  cases depth with
  | zero =>
    intro rest _
    rw [if_neg (by omega)]
    rfl
  | succ d =>
    have hn : 1 + n ≤ d ↔ 2 + n ≤ d + 1 := by omega
    rw [read_succ]
    refine Json.readsBack_readTagged ?_
    rw [if_neg hkind]
    exact (hparts d).congr hn

/-- A literal is read back in the object of its node. -/
theorem readsBack_literal {v : Value} (h : FloatsReread [v]) (depth : Nat) :
    Json.ReadsBack (read depth) (literal v).toJson ((literal v).dumpDepth ≤ depth) (literal v) := by
  cases depth with
  | zero => exact fun _ _ => rfl
  | succ d =>
    have hvalue : Json.ReadsBack (Json.readValue d) v.toJson (v.toJson.nesting ≤ d) v.toJson :=
      fun _ hrest => (Value.legible_toJson h).isReadBack d hrest
    have hliteral : (Value.ofJson? v.toJson).map literal = some (literal v) := by
      rw [Value.ofJson?_toJson, Option.map_some]
    have hdepth : v.toJson.nesting ≤ d ↔ (literal v).dumpDepth ≤ d + 1 := by
      rw [Value.nesting_toJson, dumpDepth]
      omega
    have hcontent :=
      (hvalue.filterMap (f := fun v => (Value.ofJson? v).map literal) hliteral).congr hdepth
    rw [read_succ]
    refine Json.readsBack_readTagged ?_
    rwa [if_pos rfl]

theorem toJsonList_eq_map (es : List Expr) : toJsonList es = es.map toJson := by
  induction es with
  | nil => rfl
  | cons e es ih => rw [toJsonList, List.map_cons, ih]

theorem dumpDepthList_le_iff {es : List Expr} {n : Nat} :
    dumpDepthList es ≤ n ↔ ∀ e ∈ es, e.dumpDepth ≤ n := by
  induction es with
  | nil => simp [dumpDepthList]
  | cons e es ih => rw [dumpDepthList, Nat.max_le, ih, List.forall_mem_cons]

/-- The dump of an expression is an object. -/
theorem opens_write_toJson (e : Expr) : Json.Opens e.toJson.write := by
  cases e <;> exact ⟨_, _, rfl, rfl, rfl⟩

/-- Arguments are read back in an array if each of them is. -/
theorem readsBack_args {es : List Expr}
    (h : ∀ e ∈ es, ∀ depth, Json.ReadsBack (read depth) e.toJson (e.dumpDepth ≤ depth) e)
    (depth : Nat) :
    Json.ReadsBack (readArgs depth) (.arr (toJsonList es)) (1 + dumpDepthList es ≤ depth) es := by
  intro rest _
  cases depth with
  | zero =>
    rw [if_neg (by omega)]
    rfl
  | succ d =>
    have hitems := Json.readSequence_intercalate (.inl rfl) (fun e he => h e he d)
      (fun e _ => opens_write_toJson e) rest
    have htext : (Json.arr (toJsonList es)).write ++ rest =
        '[' :: ([','].intercalate (es.map fun e => e.toJson.write) ++ ']' :: rest) := by
      rw [Json.write, Json.writeItems_eq_intercalate, toJsonList_eq_map, List.map_map]
      simp [Function.comp_def]
    have hdepth : 1 + dumpDepthList es ≤ d + 1 ↔ ∀ e ∈ es, e.dumpDepth ≤ d := by
      rw [← dumpDepthList_le_iff]
      omega
    simp only [hdepth]
    rw [htext, readArgs, Json.readArray, Json.afterMark?_cons rfl, Option.bind_some, hitems,
      List.map_id']

mutual

/-- Every expression is read back if its dump is nested no deeper than allowed. -/
theorem readsBack_read : (e : Expr) → FloatsReread e.literals → ∀ depth,
    Json.ReadsBack (read depth) e.toJson (e.dumpDepth ≤ depth) e
  | literal _, h => readsBack_literal h
  | binary left op right, h => by
    rw [literals] at h
    have hleft := readsBack_read left (h.subset (List.subset_append_left _ _))
    have hright := readsBack_read right (h.subset (List.subset_append_right _ _))
    refine readsBack_nodeJson "Binary"
      [("left", .expr left), ("op", .binaryOperator op), ("right", .expr right)] (by decide)
      (fun _ => rfl) (fun _ => rfl) (by simp) rfl ?_ ?_
    · simp [Part.dumpDepth]
    · intro d
      have hop := (Json.readsBack_readChoice (binaryNamed?_name op) d).map Part.binaryOperator
      simp only [List.forall_mem_cons, List.not_mem_nil, false_imp_iff, implies_true, and_true]
      exact ⟨⟨_, rfl, (hleft d).map Part.expr⟩, ⟨_, rfl, hop.congr (by simp [Part.dumpDepth])⟩,
        ⟨_, rfl, (hright d).map Part.expr⟩⟩
  | unary op operand, h => by
    have hoperand := readsBack_read operand h
    refine readsBack_nodeJson "Unary" [("op", .unaryOperator op), ("operand", .expr operand)]
      (by decide) (fun _ => rfl) (fun _ => rfl) (by simp) rfl ?_ ?_
    · simp [Part.dumpDepth]
    · intro d
      have hop := (Json.readsBack_readChoice (unaryNamed?_name op) d).map Part.unaryOperator
      simp only [List.forall_mem_cons, List.not_mem_nil, false_imp_iff, implies_true, and_true]
      exact ⟨⟨_, rfl, hop.congr (by simp [Part.dumpDepth])⟩,
        ⟨_, rfl, (hoperand d).map Part.expr⟩⟩
  | call name args, h => by
    have hargs := readsBack_args (readsBack_of_mem args h)
    have hdepth : (call name args).dumpDepth = 2 + (1 + dumpDepthList args) := by
      rw [dumpDepth]
      omega
    rw [hdepth]
    refine readsBack_nodeJson "FunctionCall" [("name", .name name), ("args", .args args)]
      (by decide) (fun _ => rfl) (fun _ => rfl) (by simp) rfl ?_ ?_
    · simp [Part.dumpDepth]
    · intro d
      have hname := (Json.readsBack_readQuoted name).map Part.name
      simp only [List.forall_mem_cons, List.not_mem_nil, false_imp_iff, implies_true, and_true]
      exact ⟨⟨_, rfl, hname.congr (by simp [Part.dumpDepth])⟩, ⟨_, rfl, (hargs d).map Part.args⟩⟩

theorem readsBack_of_mem : (es : List Expr) → FloatsReread (literalsList es) →
    ∀ e ∈ es, ∀ depth, Json.ReadsBack (read depth) e.toJson (e.dumpDepth ≤ depth) e
  | [], _ => nofun
  | e :: es, h => by
    rw [literalsList] at h
    exact List.forall_mem_cons.2 ⟨readsBack_read e (h.subset (List.subset_append_left _ _)),
      readsBack_of_mem es (h.subset (List.subset_append_right _ _))⟩

end

/-- **Dumps are read back** if they are nested no deeper than the reader allows, and refused if they
are nested deeper. -/
theorem ofDump_dump {e : Expr} (h : FloatsReread e.literals) :
    ofDump e.dump = if e.dumpDepth ≤ Json.maxDepth then .ok e else .error .badDocument := by
  have hread := readsBack_read e h Json.maxDepth [] Json.closed_nil
  rw [List.append_nil] at hread
  rw [ofDump, ofText?, dump, hread]
  by_cases hdepth : e.dumpDepth ≤ Json.maxDepth <;> simp [hdepth]

/-! ### Tokens -/

theorem dumpDepthList_lt {b : Nat} {es : List Expr} (h : ∀ e ∈ es, e.dumpDepth + 1 ≤ b) :
    dumpDepthList es ≤ b := by
  induction es with
  | nil => exact Nat.zero_le b
  | cons e es ih =>
    rw [List.forall_mem_cons] at h
    exact Nat.max_le.2 ⟨Nat.le_of_succ_le h.1, ih h.2⟩

/-- A node nests its dump by two levels for each of its tokens at most. -/
theorem growth_dumpDepth : Growth (fun e => e.dumpDepth + 1) 2 where
  literal _ := Nat.le_refl 2
  binary left _ right := by
    rw [dumpDepth]
    omega
  unary _ operand := by
    rw [dumpDepth]
    omega
  call _ args b h := by
    have hargs := dumpDepthList_lt h
    rw [dumpDepth]
    omega

/-- The tokens of a text bound the nesting of the dump. -/
theorem Derives.dumpDepth_lt {n : Nat} {A : Nonterminal} {ts : List Token} {e : Expr}
    (h : Derives n A ts e) : e.dumpDepth < 2 * ts.length :=
  growth_dumpDepth.le_of_derives h

/-! ### Texts -/

/-- **Which parsed expressions are read back.** The dump of a parsed expression is read as this
expression if it is nested no deeper than the reader allows, and is refused if it is nested deeper.
Every text of at most 64 tokens has a dump that is read back. -/
theorem read_dump_of_parse {text : List Char} {ts : Tokens} {e : Expr}
    (hts : tokenize text = .ok ts) (he : parse text = .ok e) (hfloats : FloatsReread e.literals) :
    ofDump e.dump =
        (if e.dumpDepth ≤ Json.maxDepth then .ok e else .error .badDocument) ∧
      e.dumpDepth < 2 * ts.length ∧ (ts.length ≤ 64 → ofDump e.dump = .ok e) := by
  obtain ⟨ts', hts', -, -, hderives⟩ := parse_eq_ok_iff.1 he
  obtain rfl := Except.ok.inj (hts.symm.trans hts')
  have hread := ofDump_dump hfloats
  have hdepth : e.dumpDepth < 2 * ts.length := by
    have hdepth := hderives.dumpDepth_lt
    rwa [plain, List.length_map] at hdepth
  refine ⟨hread, hdepth, fun hlength => ?_⟩
  have hmax : e.dumpDepth ≤ Json.maxDepth := by
    rw [Json.maxDepth]
    omega
  rw [hread, if_pos hmax]

/-- The dump of this expression has a literal of every kind, one of them with a quote inside. -/
theorem read_dump_of_parse_all_kinds :
    ∃ ts e, tokenize "max('a\"b', 2.5) == 7 or True".toList = .ok ts ∧
      parse "max('a\"b', 2.5) == 7 or True".toList = .ok e ∧
      e.literals = [.str "a\"b", .float 2.5, .int 7, .bool true] ∧ ofDump e.dump = .ok e := by
  have hts : tokenize "max('a\"b', 2.5) == 7 or True".toList = .ok [⟨.ident "max", 0⟩, ⟨.lparen, 3⟩,
      ⟨.str "a\"b", 4⟩, ⟨.comma, 9⟩, ⟨.number (.float 2.5), 11⟩, ⟨.rparen, 14⟩,
      ⟨.op (.binary (.compare .eq)), 16⟩, ⟨.number (.int 7), 19⟩, ⟨.ident "or", 21⟩,
      ⟨.ident "True", 24⟩] := by decide +kernel
  have hliterals : (parse "max('a\"b', 2.5) == 7 or True".toList).toOption.map literals =
      some [.str "a\"b", .float 2.5, .int 7, .bool true] := by decide +kernel
  have hreread : Json.Rereads 2.5 := by
    have htext : Json.writeFloat 2.5 = ['2', '.', '5'] := by decide +kernel
    have hscaled : Json.scaled? (Binary64.ofInt 25) (-1) = some 2.5 := by decide +kernel
    have hread : Json.readNumber ['2', '.', '5'] =
        ((Json.scaled? (Binary64.ofInt 25) (-1)).map Json.float).map (·, []) := rfl
    rw [Json.Rereads, htext, hread, hscaled]
    rfl
  cases he : parse "max('a\"b', 2.5) == 7 or True".toList with
  | error _ =>
    rw [he] at hliterals
    cases hliterals
  | ok e =>
    rw [he] at hliterals
    have hliterals : e.literals = [.str "a\"b", .float 2.5, .int 7, .bool true] :=
      Option.some.inj hliterals
    have hfloats : FloatsReread e.literals := by
      intro x hx
      rw [hliterals] at hx
      obtain rfl : x = 2.5 := by simpa using hx
      exact hreread
    exact ⟨_, e, hts, rfl, hliterals, (read_dump_of_parse hts he hfloats).2.2 (by decide)⟩

/-! ### Dumps that are nested too deep -/

/-- A number with minus signs in front of it. -/
def negations : Nat → Expr
  | 0 => .literal (.int 1)
  | n + 1 => .unary .negate (negations n)

theorem literals_negations (n : Nat) : (negations n).literals = [.int 1] := by
  induction n with
  | zero => rfl
  | succ n ih => exact ih

/-- A sign is one token and nests the dump by two levels. -/
theorem dumpDepth_negations (n : Nat) : (negations n).dumpDepth = 2 * n + 1 := by
  induction n with
  | zero => rfl
  | succ n ih =>
    rw [negations, dumpDepth, ih]
    omega

theorem derives_negations (d n : Nat) :
    Derives (d + n) .sign
      (List.replicate n (.op (.binary (.compute .sub))) ++ [.number (.int 1)]) (negations n) := by
  induction n with
  | zero => exact .unsigned (.base (.number (.int 1)))
  | succ n ih => exact .unary .minus ih

/-- The parser takes 64 signs in front of a number, and the reader refuses their dump. -/
theorem not_forall_read_dump :
    ¬∀ (text : List Char) (e : Expr), parse text = .ok e → FloatsReread e.literals →
      ofDump e.dump = .ok e := by
  intro h
  have hts : tokenize (List.replicate 64 '-' ++ ['1']) =
      .ok ((List.range 64).map (⟨.op (.binary (.compute .sub)), ·⟩) ++
        [⟨.number (.int 1), 64⟩]) := by
    decide +kernel
  have hderives : Derives maxDepth (.chain .disjunction)
      (List.replicate 64 (.op (.binary (.compute .sub))) ++ [.number (.int 1)]) (negations 64) :=
    .disjunction_of_comparison (.alone (.sum_of_sign (derives_negations 64 64))) (by decide)
  have he : parse (List.replicate 64 '-' ++ ['1']) = .ok (negations 64) :=
    parse_eq_ok_iff.2 ⟨_, hts, by decide, by decide, hderives⟩
  have hfloats : FloatsReread (negations 64).literals := by
    rw [literals_negations]
    intro x hx
    simp at hx
  have hread := h _ _ he hfloats
  rw [ofDump_dump hfloats, dumpDepth_negations, if_neg (by decide)] at hread
  cases hread

end Expr

end TripletFacts
