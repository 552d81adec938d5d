import TagGateway.Advertisement

/-!
# Requests to the Bluetooth service

The gateway works with the Bluetooth service through a few requests. An operation that makes a
request is suspended until the reply arrives; anything may happen in between.

* `Request` is what is asked, `Reply` the answer or the fault.
* `Effect` is what an operation does without waiting: notices, and giving a subscription back.
* `Topic` says what a subscription is for, so that a signal finds its way.
-/

namespace TagGateway.Bus

/-- The interface of adapters. -/
def adapterInterface : String := "org.bluez.Adapter1"

/-- The interface of devices. -/
def deviceInterface : String := "org.bluez.Device1"

/-- The interface through which properties are read and their changes are signalled. -/
def propertiesInterface : String := "org.freedesktop.DBus.Properties"

/-- The interface that lists objects and signals their coming and going. -/
def objectsInterface : String := "org.freedesktop.DBus.ObjectManager"

/-- The signal of changed properties. -/
def propertiesChanged : String := "PropertiesChanged"

/-- The property that carries the payloads of a device. -/
def payloadProperty : String := "ManufacturerData"

/-- The property of an adapter that tells whether it discovers. -/
def discoveringProperty : String := "Discovering"

/-- The path of the root object. -/
def rootPath : String := "/"

/-- The path of an adapter. -/
def adapterPath (adapter : String) : String := "/org/bluez/" ++ adapter

/-- What a subscription is for. -/
inductive Topic
  /-- Changes of the adapter's properties. -/
  | adapter
  /-- Objects that appear. -/
  | appeared
  /-- Objects that disappear. -/
  | disappeared
  /-- Changes of the properties of the device with this path. -/
  | device (path : String)
deriving DecidableEq, Repr

namespace Topic

/-- The parameters of the signals on a topic. -/
def parameters : Topic → List String
  | adapter | device _ => ["interface", "changed", "invalidated"]
  | appeared | disappeared => ["path", "interfaces"]

/-- The name of the handler of the signals on a topic. -/
def handler : Topic → String
  | adapter => "DiscoveryController._run.<locals>.<lambda>"
  | appeared | disappeared => "BleListener._setup.<locals>.<lambda>"
  | device _ => "DeviceRegistry.add_device.<locals>.<lambda>"

/-- The name of the part of the program that takes the signals on a topic. -/
def taker : Topic → String
  | adapter => "ruuvi_gateway.ble.discovery"
  | appeared | disappeared => "ruuvi_gateway.ble.listener"
  | device _ => "ruuvi_gateway.ble.registry"

/-- The values that a signal on a topic carries; a body that is no collection carries none. -/
def arguments (t : Topic) (body : Value) : Except Fault (List Value) :=
  body.elements.mapError fun _ => .notArguments (t.taker ++ "." ++ t.handler) body.kind

/-- The fault of a signal that has not as many arguments as its topic has parameters. -/
def mismatch (t : Topic) (body : List Value) : Fault :=
  if body.length < t.parameters.length then
    .missingArguments t.handler (t.parameters.drop body.length)
  else .extraArguments t.handler t.parameters.length body.length

end Topic

/-- What an operation waits for. -/
inductive Request
  | connect
  | disconnect
  | call (path interface member signature : String) (body : List Value)
  | subscribe (path interface member : String) (topic : Topic)
  | sleep (duration : Value)
  /-- Hand an advertisement to the receiver. -/
  | deliver (a : Advertisement)

/-- The name of a subscription at the service. -/
abbrev Ticket := Nat

/-- The content of a reply: the values of a call or the ticket of a subscription. -/
structure Answer where
  body : List Value := []
  ticket : Ticket := 0

/-- The reply to a request. -/
abbrev Reply := Except Fault Answer

/-- The reply that says only that a request was carried out. -/
def Reply.done : Reply := .ok {}

/-- The request for one property of a device. -/
def Request.property (path name : String) : Request :=
  .call path propertiesInterface "Get" "ss" [.text deviceInterface, .text name]

/-- The request for all properties of a device. -/
def Request.properties (path : String) : Request :=
  .call path propertiesInterface "GetAll" "s" [.text deviceInterface]

/-- What an operation does without waiting. -/
inductive Effect
  | notice (n : Notice)
  | unsubscribe (ticket : Ticket)

/-- A notice without a fault. -/
def Effect.say (level : Level) (message : String) : Effect := .notice ⟨level, message, none⟩

/-- The first value of a reply that has to have one. -/
def Answer.first (a : Answer) : Except Fault Value :=
  match a.body with
  | v :: _ => .ok v
  | [] => .error (.noPlace .list)

/-- The address in the reply to a request for it, in upper case. -/
def Answer.address (a : Answer) : Except Fault String := do
  return Text.upper (← a.first).display

/-- The properties in the reply to a request for all of them. -/
def Answer.properties (a : Answer) : Except Fault Properties := do
  match ← a.first with
  | .dict entries => return Assoc.ofList (entries.map fun (k, v) => (k.display, v))
  | v => throw (.noAttribute v.kind "get")

end TagGateway.Bus
