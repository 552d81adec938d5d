/-!
# Signatures

A signature lists the types of the arguments of a call, a letter for each basic type. An array is
written as `a` before its type, a struct in parentheses, and a dictionary entry in braces with its
key, of a basic type, before its value.

* `Signature.check` tells what is wrong with a signature.
* `Signature.first` is the first type of a signature.
-/

namespace TagGateway.Bus.Signature

/-- What is wrong with a signature. -/
inductive Flaw
  /-- The signature ends where a type is wanted. -/
  | ended
  /-- A character begins no type. -/
  | unexpected (c : Char)
  /-- A struct is not closed. -/
  | openStruct
  /-- A dictionary entry is not closed after its value. -/
  | openEntry
  /-- The key of a dictionary entry is not of a basic type. -/
  | compoundKey
  /-- Types are nested too deep. -/
  | tooDeep
  | tooLong
deriving DecidableEq, Repr

/-- The greatest number of arrays, structs and dictionary entries around a type. -/
def depthLimit : Nat := 64

/-- The wording of a flaw. -/
def Flaw.message : Flaw → String
  | ended => "Cannot parse an empty signature"
  | unexpected c => "got unexpected token: \"" ++ c.toString ++ "\""
  | openStruct => "missing closing \")\" for struct"
  | openEntry => "missing closing \"\x7d\" for dict entry"
  | compoundKey => "expected a simple type for dict entry key"
  | tooDeep => "container nesting exceeds maximum depth " ++ toString depthLimit
  | tooLong => "A signature must be less than 256 characters"

/-- The letters of types that hold no other types. -/
def simpleTypes : List Char := "ybnqiuxtdsogvh".toList

/-- Whether a character begins a type that holds other types. -/
def beginsContainer (c : Char) : Bool := c == 'a' || c == '(' || c == '{'

mutual

/-- Read a type inside some others: whether it is a simple one, and what follows it. -/
def readType : Nat → Nat → List Char → Except Flaw (Bool × List Char)
  | 0, _, _ | _, _, [] => .error .ended
  | fuel + 1, depth, c :: rest =>
    if beginsContainer c && depthLimit ≤ depth then .error .tooDeep
    else if c == 'a' then (readType fuel (depth + 1) rest).map fun (_, rest) => (false, rest)
    else if c == '(' then (readStruct fuel (depth + 1) rest).map (false, ·)
    else if c == '{' then (readEntry fuel (depth + 1) rest).map (false, ·)
    else if simpleTypes.contains c then .ok (true, rest)
    else .error (.unexpected c)

/-- Read the types of a struct up to its end; gives what follows it. -/
def readStruct : Nat → Nat → List Char → Except Flaw (List Char)
  | 0, _, _ => .error .ended
  | fuel + 1, depth, cs =>
    match readType fuel depth cs with
    | .error flaw => .error flaw
    | .ok (_, []) => .error .openStruct
    | .ok (_, ')' :: rest) => .ok rest
    | .ok (_, rest) => readStruct fuel depth rest

/-- Read the key and the value of a dictionary entry up to its end; gives what follows it. -/
def readEntry : Nat → Nat → List Char → Except Flaw (List Char)
  | 0, _, _ => .error .ended
  | fuel + 1, depth, cs =>
    match readType fuel depth cs with
    | .error flaw => .error flaw
    | .ok (false, _) => .error .compoundKey
    | .ok (true, rest) =>
      match readType fuel depth rest with
      | .error flaw => .error flaw
      | .ok (_, '}' :: rest) => .ok rest
      | .ok _ => .error .openEntry

end

/-- Read types to the end, one at each round. Every type takes a character, and a type is read in
two rounds for each. -/
def readAll (fuel : Nat) : Nat → List Char → Except Flaw Unit
  | 0, _ | _, [] => .ok ()
  | rounds + 1, cs => do
    let (_, rest) ← readType fuel 0 cs
    readAll fuel rounds rest

/-- The rounds in which the types of a signature are read. -/
def rounds (signature : String) : Nat := 2 * signature.length + 1

/-- Whether a text is a signature, and if not, what is wrong with it. -/
def check (signature : String) : Except Flaw Unit :=
  if 255 < signature.length then .error .tooLong
  else readAll (rounds signature) signature.length signature.toList

/-- The first type of a signature, or all of what is no signature. -/
def first (signature : String) : String :=
  match readType (rounds signature) 0 signature.toList with
  | .ok (_, rest) => String.ofList (signature.toList.take (signature.length - rest.length))
  | .error _ => signature

end TagGateway.Bus.Signature
