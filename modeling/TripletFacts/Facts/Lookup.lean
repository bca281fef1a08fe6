import TripletFacts.Facts.Basic
import TripletFacts.Number.Reading
import TripletFacts.Triplet.Build

/-!
# Looking facts up

Facts are looked up by prefix and name or by prefix alone. What is asked for has to obey the rules
of the collection, and is put into capital letters before it is compared. A look-up that is not
strict takes the digits at the end of a stored prefix away: `E` finds `E`, `E1` and `E2`.

## Main definitions

* `Facts.get`, `Facts.remove`, `Facts.modify`: the fact with a prefix and a name, the collection
  without it, and the collection with it changed.
* `Facts.withPfx`, `Facts.withoutPfx`: the facts with a prefix, and the others.
* `Facts.satisfy`: the answer to a request.
-/

namespace TripletFacts

/-- A prefix without the digits at its end. -/
def basePfx (pfx : String) : List Char := (pfx.toList.reverse.dropWhile isDigit).reverse

/-- Whether a stored prefix is found by a prefix that is asked for. -/
def pfxMatches (strict : Bool) (asked stored : String) : Bool :=
  if strict then stored == asked else basePfx stored == asked.toList

namespace Facts

/-! ### By prefix and name -/

/-- The key that a prefix and a name stand for. -/
def lookupKey (f : Facts) (pfx : String) (name : Option String) : Except FactError Key :=
  match f.settings.buildPfx pfx with
  | .error e => .error e
  | .ok pfx =>
    match name with
    | none => .ok ⟨pfx, none⟩
    | some name => (f.settings.buildName name).map fun name => ⟨pfx, some name⟩

/-- The triplet with a key, which has to be there. -/
def fetch (f : Facts) (k : Key) : Except FactError Triplet :=
  match f.find? k with
  | some t => .ok t
  | none => .error (.noTriplet k.pfx k.name)

/-- The triplet with a prefix and a name. -/
def get (f : Facts) (pfx : String) (name : Option String) : Except FactError Triplet :=
  (f.lookupKey pfx name).bind f.fetch

/-- Whether there is a triplet with a prefix and a name. -/
def containsKey (f : Facts) (pfx : String) (name : Option String) : Except FactError Bool :=
  (f.lookupKey pfx name).map fun k => (f.find? k).isSome

/-- The triplet with a prefix and a name, and the collection without it. -/
def remove (f : Facts) (pfx : String) (name : Option String) : Except FactError (Triplet × Facts) :=
  (f.get pfx name).map fun t => (t, f.filter (·.key != t.key))

/-- The collection with the triplet of a prefix and a name edited. -/
def modify (f : Facts) (pfx : String) (name : Option String) (e : Edit) : Except FactError Facts :=
  match f.get pfx name with
  | .error err => .error err
  | .ok t => (t.edit e).map f.add

/-! ### By prefix -/

/-- The triplets with a prefix; there has to be one. -/
def withPfx (f : Facts) (pfx : String) (strict : Bool) : Except FactError Facts :=
  match f.settings.buildPfx pfx with
  | .error e => .error e
  | .ok pfx =>
    let found := f.filter fun t => pfxMatches strict pfx t.pfx
    if found.isEmpty then .error (.noPrefixed pfx) else .ok found

/-- The triplets without those with a prefix, of which there has to be one. -/
def withoutPfx (f : Facts) (pfx : String) (strict : Bool) : Except FactError Facts :=
  match f.settings.buildPfx pfx with
  | .error e => .error e
  | .ok pfx =>
    let rest := f.filter fun t => !pfxMatches strict pfx t.pfx
    if rest.size = f.size then .error (.noPrefixed pfx) else .ok rest

/-- Whether some triplet has exactly this prefix. -/
def containsPfx (f : Facts) (pfx : String) : Except FactError Bool :=
  (f.settings.buildPfx pfx).map fun pfx => f.entries.any fun t => t.pfx == pfx

/-! ### Requests -/

end Facts

/-- The answer to a request: all facts with its prefix, or the one that it names. -/
inductive BidMatch where
  | all (f : Facts)
  | single (t : Triplet)

/-- The facts that a request asks for. -/
def Facts.satisfy (f : Facts) (bid : Triplet) : Except FactError BidMatch :=
  if bid.bid then
    match bid.name with
    | none => (f.withPfx bid.pfx true).map .all
    | some name => (f.get bid.pfx (some name)).map .single
  else .error (.notBid (String.ofList bid.text))

end TripletFacts
