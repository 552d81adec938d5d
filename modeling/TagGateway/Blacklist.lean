import TagGateway.Address
import TagGateway.Value.Access
import TagGateway.Value.Conversion

/-!
# The blacklist

The addresses whose sensors are ignored. The list only grows; it is kept in ascending order.

* `Blacklist.add` puts in the canonical form of an address, or refuses what writes none.
* `Blacklist.contains` compares the upper-case form of a text, untrimmed.
* `Blacklist.mem_insertSorted`: a list with an address put in has that address and all it had.
-/

namespace TagGateway

/-- The canonical form of a text, or the fault of a text that writes no address. -/
def Address.normalize (text : String) : Except Fault String :=
  match Address.canonical? text with
  | some mac => .ok mac
  | none => .error (.invalidAddress text)

/-- The canonical form of a value that writes an address. -/
def Address.ofValue : Value → Except Fault String
  | .text text => normalize text
  | .bytes _ => .error (.bytesWanted .text)
  | v => .error (.noAttribute v.kind "strip")

/-- The ignored addresses in ascending order. -/
structure Blacklist where
  macs : List String := []
deriving DecidableEq, Repr

namespace Blacklist

/-- Put a text into an ascending list, unless it is there. -/
def insertSorted (s : String) : List String → List String
  | [] => [s]
  | t :: rest =>
    if s < t then s :: t :: rest
    else if s = t then t :: rest
    else t :: insertSorted s rest

theorem mem_insertSorted {a s : String} {l : List String} :
    a ∈ insertSorted s l ↔ a = s ∨ a ∈ l := by
  induction l with
  | nil => simp [insertSorted]
  | cons t rest ih =>
    simp only [insertSorted]
    split
    · simp
    · split
      · rename_i h
        subst h
        simp
      · simp only [List.mem_cons, ih]
        exact or_left_comm

/-- The list with a canonical address put in. -/
def insert (b : Blacklist) (mac : String) : Blacklist := ⟨insertSorted mac b.macs⟩

/-- Whether the upper-case form of a text is listed. -/
def contains (b : Blacklist) (text : String) : Bool := b.macs.contains (Text.upper text)

/-- Whether the upper-case form of a value is listed. -/
def holds (b : Blacklist) (v : Value) : Except Fault Bool := do
  match ← v.upper with
  | .text text => return b.contains text
  | _ => return false

/-- Put in the address that a value writes; tells whether it is new. -/
def add (b : Blacklist) (v : Value) : Except Fault (Bool × Blacklist) := do
  let mac ← Address.ofValue v
  return (!b.macs.contains mac, b.insert mac)

/-- The list of the addresses that the items of a value write. -/
def ofValue (v : Value) : Except Fault Blacklist := do
  (← v.elements).foldlM (fun b item => return (← b.add item).2) {}

/-- How many addresses are ignored. -/
def size (b : Blacklist) : Nat := b.macs.length

end Blacklist

end TagGateway
