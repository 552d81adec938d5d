import TagGateway.Fault

/-!
# What a value holds

Values of all kinds arrive where collections are expected. Each way to look into a value works for
some kinds and fails for the others.

* `Value.elements` lists the items, `Value.holds` looks for a text among them.
* `Value.item` takes the item at a place or under a key.
* `Value.before` is the order of values, `Value.ascending` puts several in order, `leastBy` finds
  the least of several.
-/

namespace TagGateway

namespace Value

/-- The items of a collection: the keys of a dictionary, the characters of a text, the bytes as
numbers. -/
def elements : Value → Except Fault (List Value)
  | dict entries => .ok (entries.map (·.1))
  | list items => .ok items
  | struct items => .ok items
  | text s => .ok (s.toList.map fun c => text c.toString)
  | bytes bs => .ok (bs.map fun b => int b.toNat)
  | v => .error (.notIterable v.kind)

/-- Whether one text occurs in another. -/
def occursIn (part : List Char) : List Char → Bool
  | [] => part.isEmpty
  | c :: rest => part.isPrefixOf (c :: rest) || occursIn part rest

/-- Whether a value holds a text: as an item, as a key or as a part of a text. -/
def holds (s : String) : Value → Except Fault Bool
  | dict entries => .ok (Assoc.has (text s) entries)
  | list items => .ok (items.contains (text s))
  | struct items => .ok (items.contains (text s))
  | text t => .ok (occursIn s.toList t.toList)
  | bytes _ => .error (.bytesWanted .text)
  | v => .error (.notSearchable v.kind)

/-- The bound of places in a collection. -/
def placeLimit : Int := Int.pow 2 63

/-- The item of a collection at a place, which is counted from the end if it is negative. -/
def itemAt (collection : Kind) (items : List Value) (place : Value) : Except Fault Value :=
  match place.asInt? with
  | none => .error (.notPlace collection place.kind)
  | some i =>
    if placeLimit ≤ i || i < -placeLimit then .error .placeTooLarge
    else
      let i := if i < 0 then i + items.length else i
      match (if i < 0 then none else items[i.toNat]?) with
      | some v => .ok v
      | none => .error (.noPlace collection)

/-- The item of a collection at a place, or the value of a key of a dictionary. -/
def item (v key : Value) : Except Fault Value :=
  match v with
  | dict entries =>
    match Assoc.get? key entries with
    | some v => .ok v
    | none => .error (.noKey key.shown)
  | list items => itemAt .list items key
  | struct items => itemAt .struct items key
  | text s => itemAt .text (s.toList.map fun c => text c.toString) key
  | bytes bs => itemAt .bytes (bs.map fun b => int b.toNat) key
  | v => .error (.noPlaces v.kind)

mutual

/-- Whether a value comes before another: numbers by value, texts by characters, lists by the
first items that differ. Values of other kinds have no order. -/
def before : Value → Value → Except Fault Bool
  | text s, text t => .ok (s < t)
  | bytes s, bytes t => .ok (s.map UInt8.toNat < t.map UInt8.toNat)
  | list xs, list ys => beforeItems xs ys
  | struct xs, struct ys => beforeItems xs ys
  | a, b =>
    match a.number?, b.number? with
    | some m, some n => .ok (m.less n)
    | _, _ => .error (.unordered "<" a.kind b.kind)

/-- Whether a list of items comes before another. -/
def beforeItems : List Value → List Value → Except Fault Bool
  | [], ys => .ok !ys.isEmpty
  | _ :: _, [] => .ok false
  | x :: xs, y :: ys => if x == y then beforeItems xs ys else before x y

end

/-- Put a value into an ascending list, behind all that it does not come before. -/
def insertAscending (v : Value) : List Value → Except Fault (List Value)
  | [] => .ok [v]
  | w :: rest => do
    if ← v.before w then return v :: w :: rest
    return w :: (← insertAscending v rest)

/-- Values in ascending order. -/
def ascending (vs : List Value) : Except Fault (List Value) :=
  vs.foldlM (fun sorted v => insertAscending v sorted) []

/-- Whether a value can be the key of a dictionary: it holds nothing that can change. -/
def keyFault? : Value → Option Fault
  | list _ => some (.notKey .list)
  | dict _ => some (.notKey .dict)
  | variant _ _ => some (.notKey .variant)
  | struct items => keyFaultIn? items
  | _ => none
where
  /-- The fault of the first item that can be no key. -/
  keyFaultIn? : List Value → Option Fault
    | [] => none
    | v :: rest => v.keyFault?.or (keyFaultIn? rest)

end Value

/-- The least of several things by a value of each, the first if several are least. -/
def leastBy {α : Type} (value : α → Value) (first : α) : List α → Except Fault α
  | [] => .ok first
  | x :: rest => do
    if ← (value x).before (value first) then leastBy value x rest else leastBy value first rest

end TagGateway
