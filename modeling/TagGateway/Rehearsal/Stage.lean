import TagGateway.Rehearsal.Script

/-!
# The scripted service

The state of a Bluetooth service that follows a script: devices and their properties, calls that
fail, hooks, and the subscriptions handed out.

* `Stage.answerCall` and `Stage.answerSubscribe` answer requests.
* `Stage.subscribers` are the topics that a signal reaches.
-/

namespace TagGateway.Rehearsal

open Bus

/-- A subscription handed out; its ticket is its place in the order. -/
structure Subscription where
  path : String
  interface : String
  member : String
  topic : Topic
  active : Bool := true

/-- The scripted service. -/
structure Stage where
  /-- The devices with their properties, by path. -/
  devices : List (String × Properties) := []
  /-- The paths that are listed while there is a device. -/
  known : List String := []
  objects : List (String × List String) := []
  failing : List (String × Int) := []
  hooks : List Hook := []
  counts : List (String × Nat) := []
  connectFault : Option Fault := none
  emptyListing : Bool := false
  subscriptions : List Subscription := []

namespace Stage

/-- The member whose failures are those of subscriptions. -/
def subscribing : String := "AddMatch"

/-- Count a call of a member and tell whether it fails. -/
def takeFailure (s : Stage) (member : String) : Stage × Bool :=
  match Assoc.get? member s.failing with
  | none => (s, false)
  | some n =>
    if n = -1 then (s, true)
    else if n > 0 then ({ s with failing := Assoc.put member (n - 1) s.failing }, true)
    else (s, false)

/-- The properties of the device with a path. -/
def device? (s : Stage) (path : String) : Option Properties := Assoc.get? path s.devices

/-- A refused call. -/
def refuse (message : String) : Reply := .error (.callFailed message none)

/-- Properties as the value that a reply carries. -/
def propertiesValue (props : Properties) : Value :=
  Value.ofEntries (props.map fun (name, v) => (.text name, v))

/-- The reply to the request for a device's properties. -/
def answerProperties (s : Stage) (path member : String) (body : List Value) : Reply :=
  match s.device? path with
  | none => refuse ("Unknown object " ++ path)
  | some props =>
    if member = "GetAll" then .ok { body := [propertiesValue props] }
    else
      match body with
      | [_, .text name] =>
        match Assoc.get? name props with
        | some v => .ok { body := [v] }
        | none => refuse ("No such property " ++ name)
      | _ => refuse "No such property "

/-- The reply to the request for the known objects. -/
def answerListing (s : Stage) : Reply :=
  if s.emptyListing then .ok {}
  else
    let devices := (s.devices.filter fun d => s.known.contains d.1).map fun (path, props) =>
      (Value.text path, Value.dict [(.text deviceInterface, propertiesValue props)])
    let objects := s.objects.map fun (path, interfaces) =>
      (Value.text path, Value.ofEntries (interfaces.map fun i => (.text i, .dict [])))
    .ok { body := [Value.ofEntries (devices ++ objects)] }

/-- Answer a call whose hooks have run. -/
def answerCall (s : Stage) (path interface member : String) (body : List Value) : Stage × Reply :=
  let (s, fails) := s.takeFailure member
  if fails then (s, refuse (interface ++ "." ++ member ++ " on " ++ path ++ " failed"))
  else if interface = propertiesInterface && (member = "Get" || member = "GetAll") then
    (s, s.answerProperties path member body)
  else if member = "GetManagedObjects" then (s, s.answerListing)
  else (s, .ok {})

/-- Answer a subscription whose hooks have run. -/
def answerSubscribe (s : Stage) (path interface member : String) (topic : Topic) :
    Stage × Reply :=
  let (s, fails) := s.takeFailure subscribing
  if fails then
    (s, refuse ("AddMatch for " ++ interface ++ "." ++ member ++ " on " ++ path ++ " failed"))
  else
    ({ s with subscriptions := s.subscriptions ++ [{ path, interface, member, topic }] },
      .ok { ticket := s.subscriptions.length })

/-- Give a subscription back. -/
def unsubscribe (s : Stage) (t : Ticket) : Stage :=
  { s with subscriptions := s.subscriptions.modify t fun x => { x with active := false } }

/-- Deactivate all subscriptions. -/
def unsubscribeAll (s : Stage) : Stage :=
  { s with subscriptions := s.subscriptions.map fun x => { x with active := false } }

/-- The active subscriptions. -/
def active (s : Stage) : List Subscription := s.subscriptions.filter (·.active)

/-- The topics of the active subscriptions that a signal reaches. -/
def subscribers (s : Stage) (path interface member : String) : List Topic :=
  (s.active.filter fun x => x.path = path && x.interface = interface && x.member = member).map
    (·.topic)

/-- Change properties of a device. -/
def setProperties (s : Stage) (path : String) (props : Properties) : Stage :=
  let held := (s.device? path).getD []
  let changed := props.foldl (fun ps (name, v) => Assoc.put name v ps) held
  { s with devices := Assoc.put path changed s.devices }

/-- Take a property off a device. -/
def unsetProperty (s : Stage) (path name : String) : Stage :=
  match s.device? path with
  | none => s
  | some props => { s with devices := Assoc.put path (Assoc.erase name props) s.devices }

/-- Take a device away. -/
def dropDevice (s : Stage) (path : String) : Stage :=
  { s with devices := Assoc.erase path s.devices }

/-- Count an event and give the steps of its hooks. -/
def takeHooks (s : Stage) (event : String) : Stage × List Step :=
  let n := (Assoc.get? event s.counts).getD 0 + 1
  ({ s with counts := Assoc.put event n s.counts },
    (s.hooks.filter fun h => h.event = event && (h.nth == none || h.nth == some n)).flatMap
      (·.steps))

end Stage

end TagGateway.Rehearsal
