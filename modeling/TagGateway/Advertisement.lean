import TagGateway.Value.Access
import TagGateway.Value.Conversion

/-!
# Advertisements

One advertisement of a sensor as the adapter saw it, and how it is read off the properties that
the Bluetooth service keeps of the device.

* `Advertisement.ofProperties` takes the address, the name, the signal strength and, of several
  manufacturer entries, the one with the least manufacturer.

A manufacturer is a whole number in all that sensors send. Anything else that the service keeps in
its place is taken as it is, up to the point where a whole number is needed.
-/

namespace TagGateway

/-- The properties of a device, by name. -/
abbrev Properties := List (String × Value)

/-- One advertisement. -/
structure Advertisement where
  mac : String := ""
  name : String := ""
  manufacturer : Value := .int 0
  payload : List UInt8 := []
  signalStrength : Int := 0

/-- The byte that an item of a byte list stands for. -/
def Value.byte (v : Value) : Except Fault UInt8 :=
  match v.asInt? with
  | none => .error (.notByte v.kind)
  | some i => if 0 ≤ i ∧ i < 256 then .ok (UInt8.ofNat i.toNat) else .error .byteRange

/-- The bound of counts of bytes for which there is room. -/
def roomLimit : Int := Int.pow 2 40

/-- The bytes of memory that a byte string takes besides its own. -/
def bytesOverhead : Int := 33

/-- So many zero bytes. -/
def zeroBytes (count : Int) : Except Fault (List UInt8) :=
  if Value.placeLimit ≤ count || count < -Value.placeLimit then .error .countTooLarge
  else if count < 0 then .error .negativeCount
  else if Value.placeLimit - bytesOverhead ≤ count then .error .bytesTooLarge
  else if roomLimit ≤ count then .error .outOfMemory
  else .ok (List.replicate count.toNat 0)

/-- The bytes of a value: a list of byte values, or that many zero bytes for a number. -/
def Value.payload (v : Value) : Except Fault (List UInt8) :=
  match v with
  | .bytes bs => .ok bs
  | .list items => items.mapM Value.byte
  | .struct items => items.mapM Value.byte
  | .dict entries => (entries.map (·.1)).mapM Value.byte
  | .text _ => .error .textForBytes
  | .bool b => .ok (List.replicate b.toNat 0)
  | .int i => zeroBytes i
  | _ => .error (.notBytes v.kind)

/-- The upper-case hexadecimal digits of a natural number. -/
def upperHex (n : Nat) : List Char := (Nat.toDigits 16 n).map Char.toUpper

/-- A whole number in upper-case hexadecimal, filled with zeros after the sign to four places. -/
def paddedHex (i : Int) : String :=
  let digits := upperHex i.natAbs
  let room := if i < 0 then 3 else 4
  let filled := List.replicate (room - digits.length) '0' ++ digits
  String.ofList (if i < 0 then '-' :: filled else filled)

/-- A value in hexadecimal digits, as a whole number. -/
def Value.hexadecimal (v : Value) : Except Fault String :=
  match v.asInt? with
  | some i => .ok (paddedHex i)
  | none => .error (.notHexadecimal v.kind)

namespace Advertisement

/-- The entry with the least manufacturer, and how many there are to choose from; none if there
are no entries. A collection of another kind than a dictionary has its own items for
manufacturers. -/
def leastEntry? (entries : Value) : Except Fault (Option (Value × Value × Nat)) :=
  match entries with
  | .dict [] => .ok none
  | .dict (first :: rest) => do
    let (manufacturer, value) ← leastBy (·.1) first rest
    return some (manufacturer, value, rest.length + 1)
  | v => do
    match ← v.elements with
    | [] => return none
    | first :: rest =>
      let manufacturer ← leastBy id first rest
      return some (manufacturer, ← v.item manufacturer, rest.length + 1)

/-- The manufacturer entry that an advertisement uses: the manufacturer, its bytes and how many
entries there were to choose from. -/
def manufacturerEntry? (entries : Value) : Except Fault (Option (Value × List UInt8 × Nat)) := do
  if !entries.isTrue then return none
  match ← leastEntry? entries with
  | none => return none
  | some (manufacturer, value, count) => return some (manufacturer, ← value.payload, count)

/-- Read an advertisement off the properties of a device. A property that is missing leaves its
part at zero; several manufacturer entries are noticed. -/
def ofProperties (props : Properties) : Except Fault (Advertisement × List Notice) := do
  let mac := Text.upper ((Assoc.get? "Address" props).getD (.text "")).display
  let name := ((Assoc.get? "Name" props).getD (.text "")).display
  let signalStrength ← ((Assoc.get? "RSSI" props).getD (.int 0)).whole
  match ← manufacturerEntry? ((Assoc.get? "ManufacturerData" props).getD .null) with
  | none => return ({ mac, name, signalStrength }, [])
  | some (manufacturer, payload, count) =>
    let advertisement := ⟨mac, name, manufacturer, payload, signalStrength⟩
    if count ≤ 1 then return (advertisement, [])
    let message := mac ++ " advertises " ++ toString count ++ " manufacturer ids, using 0x" ++
      (← manufacturer.hexadecimal)
    return (advertisement, [⟨.debug, message, none⟩])

end Advertisement

end TagGateway
