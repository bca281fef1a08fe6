import TripletFacts.Unicode.Age
import TripletFacts.Unicode.Property
import TripletFacts.Unicode.Script

/-!
# Sets of characters by name

A pattern names a set of characters by one of its properties, by its general category or a class of
categories, by its script, or by a kind of name together with a value: a category, a script, the
scripts in which a character is used, or the edition in which it was there already.

## Main definitions

* `Unicode.plainName`: a name without the differences that do not matter.
* `Unicode.namedSet?`: the characters that a name stands for.
* `Unicode.valuedSet?`: the characters that a kind of name and a value stand for.
-/

namespace TripletFacts.Unicode

/-- A name without the differences that do not matter: capitals, blanks, hyphens, underscores,
characters outside of ASCII, and `is` at the beginning. Only `isc` is kept, so that it does not
become the name `c` of a class of categories. -/
def plainName (name : List Char) : String :=
  let plain (cs : List Char) : List Char :=
    (cs.filter fun c => decide (c.toNat < 0x80) && c ∉ [' ', '_', '-']).map Char.toLower
  match name with
  | i :: s :: rest =>
    if i.toLower = 'i' ∧ s.toLower = 's' then
      if plain rest = ['c'] then "isc" else String.ofList (plain rest)
    else String.ofList (plain name)
  | _ => String.ofList (plain name)

/-- The classes of general categories with their names and the short names of their members. -/
def categoryClasses : List (List String × List String) :=
  [(["l", "letter"], ["lu", "ll", "lt", "lm", "lo"]),
   (["lc", "casedletter"], ["lu", "ll", "lt"]),
   (["m", "mark", "combiningmark"], ["mn", "mc", "me"]),
   (["n", "number"], ["nd", "nl", "no"]),
   (["p", "punctuation", "punct"], ["pc", "pd", "ps", "pe", "pi", "pf", "po"]),
   (["s", "symbol"], ["sm", "sc", "sk", "so"]),
   (["z", "separator"], ["zs", "zl", "zp"]),
   (["c", "other"], ["cc", "cf", "co", "cn"])]

/-- The table of the general category with a given name. -/
def categoryTable? (name : String) : Option (List (Nat × Nat)) :=
  (categories.find? fun row => row.1.contains name).map Prod.snd

/-- The characters of a general category, or of a class of categories. -/
def categorySet? (name : String) : Option CharSet :=
  match name with
  | "any" => some CharSet.empty.compl
  | "ascii" => some (CharSet.empty.insert 0 0x7f)
  | "assigned" => some (CharSet.ofRanges categoryCn).compl
  | name =>
    match categoryTable? name with
    | some table => some (.ofRanges table)
    | none =>
      (categoryClasses.find? fun row => row.1.contains name).map fun row =>
        setOfTables (row.2.filterMap categoryTable?)

/-- The names of a script and its table. -/
def scriptRow? (name : String) : Option (List String × List (Nat × Nat)) :=
  scripts.find? fun row => row.1.contains name

/-- The characters of a script. -/
def scriptSet? (name : String) : Option CharSet := (scriptRow? name).map fun row => .ofRanges row.2

/-- The characters that are used in a script. -/
def usedInScript? (name : String) : Option CharSet :=
  (scriptRow? name).map fun row =>
    let shared := sharedRows.filter fun (_, _, names) => names.any row.1.contains
    ((CharSet.ofRanges row.2).diff (.ofRanges (sharedRows.map fun (lo, hi, _) => (lo, hi)))).union
      (.ofRanges (shared.map fun (lo, hi, _) => (lo, hi)))

/-- The characters that an edition of the character database has. -/
def ageSet? (name : String) : Option CharSet :=
  (ages.findIdx? fun row => row.1.contains name).map fun i =>
    setOfTables ((ages.take (i + 1)).map Prod.snd)

/-- The characters that a name stands for: a property, a general category or a script. -/
def namedSet? (name : String) : Option CharSet :=
  match properties.find? fun row => row.names.contains name with
  | some row => some row.set
  | none =>
    match categorySet? name with
    | some s => some s
    | none => scriptSet? name

/-- The characters that a kind of name and a value stand for. -/
def valuedSet? (kind value : String) : Option CharSet :=
  match kind with
  | "gc" | "generalcategory" => categorySet? value
  | "sc" | "script" => scriptSet? value
  | "scx" | "scriptextensions" => usedInScript? value
  | "age" => ageSet? value
  | _ => none

end TripletFacts.Unicode
