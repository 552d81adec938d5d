import TagGateway.Value.Access

/-!
# Variants

A variant is a value with the signature of its type. Callers of the service deal in plain values:
what arrives is unwrapped, and the options in the arguments of a call are wrapped.

* `Bus.variantFault?` tells which signatures no variant has.
* `Value.unwrap` removes the variants inside dictionaries and lists.
* `Value.wrap` wraps an option by its kind; `wrapBody` wraps the options of a call.
-/

namespace TagGateway

/-- Why there is no variant with a signature, if there is none: its type is the first one of the
signature. -/
def Bus.variantFault? (signature : String) : Option Fault :=
  match Signature.check signature with
  | .error flaw => some (.invalidSignature flaw)
  | .ok () => if signature.isEmpty then some (.noPlace .list) else none

namespace Value

mutual

/-- A value without its variants, however deep they are in dictionaries and lists. -/
def unwrap : Value → Value
  | variant _ v => v.unwrap
  | dict entries => dict (unwrapEntries entries)
  | list items => list (unwrapItems items)
  | v => v

/-- The items of a list without their variants. -/
def unwrapItems : List Value → List Value
  | [] => []
  | v :: rest => v.unwrap :: unwrapItems rest

/-- The entries of a dictionary, with values without variants. -/
def unwrapEntries : List (Value × Value) → List (Value × Value)
  | [] => []
  | (k, v) :: rest => (k, v.unwrap) :: unwrapEntries rest

end

/-- Whether a value is a text. -/
def isText : Value → Bool
  | text _ => true
  | _ => false

/-- The items of a list of texts. -/
def texts? : Value → Option (List Value)
  | list items => if items.all isText then some items else none
  | struct items => if items.all isText then some items else none
  | _ => none

/-- An option as a variant: a truth value, a short whole number, a text or a list of texts. A
variant stands for itself. -/
def wrap (v : Value) : Except Fault Value :=
  match v with
  | variant s w => .ok (variant s w)
  | bool b => .ok (variant "b" (bool b))
  | int i =>
    if -32768 ≤ i && i ≤ 32767 then .ok (variant "n" (int i)) else .error .shortRange
  | text s => .ok (variant "s" (text s))
  | v =>
    match v.texts? with
    | some items => .ok (variant "as" (list items))
    | none => .error (.noVariant v.shown)

/-- The entries of a dictionary of options, wrapped. -/
def wrapEntries : List (Value × Value) → Except Fault (List (Value × Value))
  | [] => .ok []
  | (k, v) :: rest => do
    let v ← v.wrap
    return (k, v) :: (← wrapEntries rest)

/-- An argument of a call with its options wrapped: a dictionary is one of options. -/
def wrapArgument : Value → Except Fault Value
  | dict entries => (wrapEntries entries).map dict
  | v => .ok v

end Value

namespace Bus

/-- The signature of a dictionary of options. -/
def optionsSignature : String := "a\x7bsv\x7d"

/-- The arguments of a call with a signature; dictionaries are wrapped if the signature has
dictionaries of options. -/
def wrapBody (signature : String) (body : Value) : Except Fault (List Value) := do
  let items ← body.elements
  if Value.occursIn optionsSignature.toList signature.toList then items.mapM Value.wrapArgument
  else return items

end Bus

end TagGateway
