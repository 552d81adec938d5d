import TagGateway.Measurement.Sheet
import TagGateway.Payload.Decode
import TagGateway.Payload.Hex
import TagGateway.Value.Conversion

/-!
# Drafts of advertisements

An advertisement can be written by hand. Its parts are then values of any kind, taken as they are:
a draft is described with what was written, and decoded as far as its parts allow.

* `Advertisement.draft` is the draft that says the same as an advertisement.
* `Draft.describe` lists the parts for people.
* `Draft.decode5` and `Draft.decode3` read the payload as one format, `Draft.decode` as the one it
  says.
-/

namespace TagGateway

/-- An advertisement written by hand. -/
structure Draft where
  mac : Value := .text ""
  name : Value := .text ""
  manufacturer : Value := .int 0
  payload : List UInt8 := []
  signalStrength : Value := .int 0

/-- The draft that says the same as an advertisement. -/
def Advertisement.draft (a : Advertisement) : Draft :=
  ⟨.text a.mac, .text a.name, a.manufacturer, a.payload, .int a.signalStrength⟩

/-- The payload that a value writes in pairs of hexadecimal digits. -/
def Payload.ofValue : Value → Except Fault (List UInt8)
  | .text text => (ofPairs text).mapError .notHexPairs
  | v => .error (.notHexText v.kind)

namespace Draft

/-- The parts of an advertisement, a line each. -/
def describe (d : Draft) : Except Fault String := do
  let manufacturer ← d.manufacturer.hexadecimal
  let data := " ".intercalate (d.payload.map fun b =>
    String.ofList ('0' :: 'x' :: Text.hexDigits 2 b.toNat))
  return "\n".intercalate [
    "Ble packet MAC: " ++ d.mac.display,
    "Device name: " ++ (if d.name.isTrue then d.name.display else "\x7bunnamed\x7d"),
    "Signal strength: " ++ d.signalStrength.display,
    "Manufacturer id: 0x" ++ manufacturer,
    "Manufacturer data: " ++ data]

/-- What a draft says of its payload, with the address of the sender if that is a text. -/
def advertisement (d : Draft) : Advertisement where
  mac := match d.mac with
    | .text s => s
    | _ => ""
  manufacturer := d.manufacturer
  payload := d.payload

/-- The format of the payload. -/
def identify (d : Draft) : PayloadFormat := Payload.identify d.advertisement

/-- Read the payload of a draft. The address of the sender is looked at last of all, and fails the
reading if it has no upper case. -/
def decodeWith (read : Advertisement → Except Fault Measurement) (d : Draft) : Except Fault Sheet :=
  match read d.advertisement, d.mac.upper with
  | .ok m, .ok _ => .ok (m.sheet.put .signalStrength d.signalStrength)
  | .error (.undecodable _ .address), .error f => .error f
  | .error f, _ | .ok _, .error f => .error f

/-- Decode the payload of a draft as data format 5. -/
def decode5 (mode : Payload.Mode) : Draft → Except Fault Sheet := decodeWith (Payload.decode5 mode)

/-- Decode the payload of a draft as data format 3, which takes over the address of the sender. -/
def decode3 (mode : Payload.Mode) (d : Draft) : Except Fault Sheet := do
  return (← decodeWith (Payload.decode3 mode) d).put .mac (← d.mac.upper)

/-- Decode the payload of a draft as the format it says; none for formats that are not decoded. -/
def decode (mode : Payload.Mode) (d : Draft) : Except Fault (Option Sheet) :=
  match d.identify with
  | .format5 => (d.decode5 mode).map some
  | .format3 => (d.decode3 mode).map some
  | _ => .ok none

end Draft

/-- The parts of an advertisement, a line each. -/
def Advertisement.describe (a : Advertisement) : Except Fault String := a.draft.describe

end TagGateway
