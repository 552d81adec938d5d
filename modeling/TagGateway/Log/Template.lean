import TagGateway.Log.Directive

/-!
# Templates

A template is a text with places for named values; two percent signs stand for one.

* `Template.fieldFor?` is what stands at a place.
* `Template.fill` fills a template in, or says what is wrong at the first place that fails.
-/

namespace TagGateway.Log

namespace Template

/-- Check a width or a precision, which may take a field; tells whether it does. -/
def checkExtent (bound : Nat) (tooBig range : Flaw) (v? : Option Field) :
    Extent → Except Flaw Bool
  | .unsaid => .ok false
  | .number n => if bound < n then .error tooBig else .ok false
  | .star =>
    match v?, v?.bind Field.number? with
    | none, _ => .error .noMoreValues
    | _, some (.whole n) =>
      if (bound : Int) < n || n < -(bound : Int) - 1 then .error range else .ok true
    | _, _ => .error .widthNotWhole

/-- The field for a place, if there is one: a name stands for its value; a place without a name
stands for all values, but only as long as none has been used. -/
def fieldFor? (fields : List (String × Value)) (unused : Bool) (d : Directive) :
    Except Flaw (Option Field) :=
  match d.name with
  | none => .ok (if unused then some .all else none)
  | some name =>
    match fields.find? (·.1 == name) with
    | some (_, v) => .ok (some (.value v))
    | none => .error (.unknownName name)

/-- The text for a directive whose letter, if it has one, has an index. There is one field for
each place, so that none is left where the width or the precision has taken it. -/
def place (fields : List (String × Value)) (unused : Bool) (index : Nat) (d : Directive) :
    Except Flaw (List Char) := do
  let v? ← fieldFor? fields unused d
  let taken ← checkExtent (Nat.pow 2 63 - 1) .widthTooBig .widthRange v? d.width
  let v? := if taken then none else v?
  let taken ← checkExtent (Nat.pow 2 31 - 1) .precisionTooBig .precisionRange v? d.precision
  let v? := if taken then none else v?
  match d.letter?, v? with
  | none, _ => throw .cutOff
  | some _, none => throw .noMoreValues
  | some letter, some v => d.write index letter v

/-- Fill in the characters of a template from an index on, in at most so many rounds. -/
def fillFrom (fields : List (String × Value)) :
    Nat → Nat → Bool → List Char → Except Flaw (List Char)
  | 0, _, _, cs => .ok cs
  | _, _, _, [] => .ok []
  | fuel + 1, index, unused, '%' :: '%' :: rest =>
    (fillFrom fields fuel (index + 2) unused rest).map ('%' :: ·)
  | fuel + 1, index, unused, '%' :: rest => do
    let (d, after) ← Directive.read rest
    let written ← place fields unused (index + d.size) d
    return written ++ (← fillFrom fields fuel (index + d.size + 1) false after)
  | fuel + 1, index, unused, c :: rest =>
    (fillFrom fields fuel (index + 1) unused rest).map (c :: ·)

/-- A template with its places filled in by the values of their names. -/
def fill (template : String) (fields : List (String × Value)) : Except Flaw String :=
  (fillFrom fields template.length 0 true template.toList).map String.ofList

end Template

end TagGateway.Log
