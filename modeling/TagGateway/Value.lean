import TagGateway.Assoc
import TagGateway.Bus.Signature
import TagGateway.Number
import TagGateway.Text.Quoted

/-!
# Values on the bus

Properties of devices, arguments of calls and bodies of signals hold values of many kinds.

* `Value` is one such value; a dictionary keeps the order of its keys.
* `Value.equals` compares two values; equal keys are the same key of a dictionary.
* `Value.display` writes a value for people; inside a collection texts are quoted. A variant is
  written with the first type of its signature.
-/

namespace TagGateway

/-- A value on the bus. -/
inductive Value
  | null
  | bool (b : Bool)
  | int (i : Int)
  | float (x : Float)
  | text (s : String)
  | bytes (bs : List UInt8)
  | list (items : List Value)
  | struct (items : List Value)
  | dict (entries : List (Value × Value))
  | variant (signature : String) (value : Value)
deriving Inhabited

/-- The kinds of values. -/
inductive Value.Kind
  | null | bool | int | float | text | bytes | list | struct | dict | variant
deriving DecidableEq, Repr

namespace Value

/-- The kind of a value. -/
def kind : Value → Kind
  | null => .null
  | bool _ => .bool
  | int _ => .int
  | float _ => .float
  | text _ => .text
  | bytes _ => .bytes
  | list _ => .list
  | struct _ => .struct
  | dict _ => .dict
  | variant .. => .variant

/-- The name of a kind in messages. -/
def Kind.name : Kind → String
  | null => "NoneType"
  | bool => "bool"
  | int => "int"
  | float => "float"
  | text => "str"
  | bytes => "bytes"
  | list => "list"
  | struct => "tuple"
  | dict => "dict"
  | variant => "dbus_fast.signature.Variant"

/-- The name of a kind without the place where the kind is defined. -/
def Kind.plainName : Kind → String
  | variant => "Variant"
  | kind => kind.name

/-- The whole number that a value stands for where numbers are calculated with: a truth value
counts as zero or one. -/
def asInt? : Value → Option Int
  | bool b => some (if b then 1 else 0)
  | int i => some i
  | _ => none

/-- The number that a value stands for. -/
def number? : Value → Option Number
  | float x => some (.real x)
  | v => v.asInt?.map .whole

/-- The value of a number. -/
def ofNumber : Number → Value
  | .whole n => int n
  | .real x => float x

/-- Whether a value counts as true: all do but null, false, zero and what is empty. -/
def isTrue : Value → Bool
  | null => false
  | bool b => b
  | int i => i != 0
  | float x => !(x == 0)
  | text s => !s.isEmpty
  | bytes bs => !bs.isEmpty
  | list items => !items.isEmpty
  | struct items => !items.isEmpty
  | dict entries => !entries.isEmpty
  | variant .. => true

/-- Whether two values are numbers with the same value. -/
def sameNumber (a b : Value) : Bool :=
  match a.number?, b.number? with
  | some m, some n => m.equals n
  | _, _ => false

mutual

/-- Whether two values are equal: numbers of any kind by their value, collections of one kind item
by item, dictionaries in any order of their entries. -/
def equals : Value → Value → Bool
  | null, null => true
  | text s, text t => s == t
  | bytes s, bytes t => s == t
  | list xs, list ys => equalItems xs ys
  | struct xs, struct ys => equalItems xs ys
  | dict xs, dict ys => xs.length == ys.length && equalEntries xs ys
  | variant s v, variant t w => s == t && equals v w
  | a, b => sameNumber a b

/-- Whether two lists of items are equal. -/
def equalItems : List Value → List Value → Bool
  | [], [] => true
  | x :: xs, y :: ys => equals x y && equalItems xs ys
  | _, _ => false

/-- Whether each of some entries is among others, in any order. -/
def equalEntries : List (Value × Value) → List (Value × Value) → Bool
  | [], _ => true
  | (k, v) :: xs, ys => ys.any (fun (l, w) => equals k l && equals v w) && equalEntries xs ys

end

instance : BEq Value := ⟨equals⟩

/-- A dictionary from entries put one after the other. -/
def ofEntries (es : List (Value × Value)) : Value := dict (Assoc.ofList es)

mutual

/-- The text of a value inside a collection. -/
def shown : Value → String
  | null => "None"
  | bool b => if b then "True" else "False"
  | int i => toString i
  | float x => Decimal.text x
  | text s => Text.quoted s
  | bytes bs => Text.quotedBytes bs
  | list items => "[" ++ ", ".intercalate (shownItems items) ++ "]"
  | struct items =>
    match shownItems items with
    | [item] => "(" ++ item ++ ",)"
    | texts => "(" ++ ", ".intercalate texts ++ ")"
  | dict entries => "\x7b" ++ ", ".intercalate (shownEntries entries) ++ "\x7d"
  | variant signature value =>
    "<dbus_fast.signature.Variant ('" ++ Bus.Signature.first signature ++ "', " ++
      (match value with
        | text s => s
        | v => v.shown) ++ ")>"

/-- The texts of the items of a collection. -/
def shownItems : List Value → List String
  | [] => []
  | v :: rest => v.shown :: shownItems rest

/-- The texts of the entries of a dictionary. -/
def shownEntries : List (Value × Value) → List String
  | [] => []
  | (k, v) :: rest => (k.shown ++ ": " ++ v.shown) :: shownEntries rest

end

/-- The text of a value for people. -/
def display : Value → String
  | text s => s
  | v => v.shown

end Value

end TagGateway
