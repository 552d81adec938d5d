import TagGateway.Blacklist
import TagGateway.Bus.Request

/-!
# The roster of tracked devices

Each tracked device is held with its address and the ticket of the subscription to its property
changes. Admitting a device takes two requests, for its address and for the subscription, and
while they are under way devices may be removed, blacklisted or admitted by another operation.

* `Roster.announce` and `Roster.resume` are the steps of an admission.
* `Roster.remove`, `Roster.ban` and `Roster.clear` take devices off, giving their subscriptions
  back.
* `Roster.tracks` tells whether packets of a device may be passed on.
-/

namespace TagGateway

open Bus

/-- A tracked device. -/
structure Entry where
  path : String
  mac : String
  ticket : Ticket
deriving DecidableEq, Repr

/-- The tracked devices of one adapter, in order of admission, and the blacklist. -/
structure Roster where
  adapterPath : String
  entries : List Entry := []
  blacklist : Blacklist := {}
deriving DecidableEq, Repr

/-- Where a suspended admission stands. -/
inductive Admission
  /-- Waits for the address. -/
  | addressing (path : String)
  /-- Waits for the subscription. -/
  | subscribing (path mac : String)
deriving DecidableEq, Repr

/-- What a suspended admission waits for. -/
def Admission.request : Admission → Request
  | addressing path => .property path "Address"
  | subscribing path _ => .subscribe path propertiesInterface propertiesChanged (.device path)

/-- How an admission goes on. -/
inductive Admission.Next
  | wait (a : Admission)
  /-- The device is tracked now; this is to be announced. -/
  | admitted (path : String)
  /-- The device is not tracked by this operation. -/
  | refused
  | failed (f : Fault)

namespace Roster

/-- The roster of an adapter; slashes at the end of its path do not count. -/
def ofPath (path : String) (blacklist : Blacklist := {}) : Roster :=
  { adapterPath := String.ofList (Text.dropWhileEnd (· == '/') path.toList), blacklist }

/-- The tracked device with a path. -/
def find? (r : Roster) (path : String) : Option Entry := r.entries.find? (·.path = path)

/-- Whether a path is tracked. -/
def contains (r : Roster) (path : String) : Bool := r.entries.any (·.path = path)

/-- Whether packets of a path may be passed on: it is tracked and its address not ignored. -/
def tracks (r : Roster) (path : String) : Bool :=
  match r.find? path with
  | some e => !r.blacklist.contains e.mac
  | none => false

/-- Whether a path lies below the adapter. -/
def covers (r : Roster) (path : String) : Bool :=
  (r.adapterPath ++ "/").toList.isPrefixOf path.toList

/-- The path of an announced object that is a device, if it is to be admitted. A path that is
tracked already is not, whatever its interfaces are. -/
def candidate? (r : Roster) (path interfaces : Value) : Except Fault (Option String) := do
  if let some f := path.keyFault? then throw f
  match path with
  | .text path =>
    if r.contains path then return none
    return if ← interfaces.holds deviceInterface then some path else none
  | path =>
    if ← interfaces.holds deviceInterface then
      throw (if path.kind = .bytes then .bytesForPath else .noAttribute path.kind "startswith")
    return none

/-- Begin the admission of an object that was announced with some interfaces. -/
def announce (r : Roster) (path interfaces : Value) : List Effect × Admission.Next :=
  match r.candidate? path interfaces with
  | .error f => ([], .failed f)
  | .ok none => ([], .refused)
  | .ok (some path) =>
    if r.covers path then ([], .wait (.addressing path))
    else ([.say .debug ("Ignoring " ++ path ++ ", not on adapter " ++ r.adapterPath)], .refused)

/-- Go on with an admission when the address is known. -/
def addressed (r : Roster) (path : String) (reply : Reply) : List Effect × Admission.Next :=
  match reply >>= Answer.address with
  | .ok mac =>
    if r.blacklist.contains mac then
      ([.say .debug ("Ignoring blacklisted device " ++ mac)], .refused)
    else ([], .wait (.subscribing path mac))
  | .error f =>
    if f.isCallFailure then
      ([.say .warning ("Could not resolve address of " ++ path ++ ": " ++ f.message)], .refused)
    else ([], .failed f)

/-- Go on with an admission when the subscription stands: the device is admitted unless it has
come in or been blacklisted in the meantime. -/
def subscribed (r : Roster) (path mac : String) (reply : Reply) :
    Roster × List Effect × Admission.Next :=
  match reply with
  | .ok answer =>
    if r.contains path || r.blacklist.contains mac then
      (r, [.unsubscribe answer.ticket], .refused)
    else
      ({ r with entries := r.entries ++ [⟨path, mac, answer.ticket⟩] },
        [.say .info ("Tracking device " ++ mac ++ " (" ++ path ++ ")")], .admitted path)
  | .error f =>
    if f.isCallFailure then
      (r, [.say .warning ("Could not subscribe to " ++ path ++ ": " ++ f.message)], .refused)
    else (r, [], .failed f)

/-- Go on with a suspended admission. -/
def resume (r : Roster) (a : Admission) (reply : Reply) : Roster × List Effect × Admission.Next :=
  match a with
  | .addressing path => (r, r.addressed path reply)
  | .subscribing path mac => r.subscribed path mac reply

/-- The tracked device that a value is the path of. Where nothing is tracked any value will do. -/
def entryOf? (r : Roster) (path : Value) : Except Fault (Option Entry) :=
  if r.entries.isEmpty then .ok none
  else
    match path.keyFault?, path with
    | some f, _ => .error f
    | none, .text path => .ok (r.find? path)
    | none, _ => .ok none

/-- Take off the device with a path, if it is removed as a device. -/
def remove (r : Roster) (path interfaces : Value) :
    Except Fault (Roster × List Effect × Bool) := do
  if !(← interfaces.holds deviceInterface) then return (r, [], false)
  match ← r.entryOf? path with
  | none => return (r, [], false)
  | some e =>
    return ({ r with entries := r.entries.filter (·.path ≠ e.path) },
      [.unsubscribe e.ticket,
        .say .info ("Device " ++ e.mac ++ " removed (" ++ e.path ++ ")")], true)

/-- Ignore an address from now on: tracked devices with it are taken off. -/
def ban (r : Roster) (v : Value) : Except Fault (Roster × List Effect × List String) := do
  let mac ← Address.ofValue v
  let (new, blacklist) ← r.blacklist.add v
  let evicted := r.entries.filter (·.mac = mac)
  let effects :=
    (if new then [.say .info ("Blacklisted " ++ mac)] else []) ++
      evicted.flatMap fun e =>
        [.unsubscribe e.ticket,
          .say .info ("Evicted blacklisted device " ++ mac ++ " (" ++ e.path ++ ")")]
  return ({ r with entries := r.entries.filter (·.mac ≠ mac), blacklist }, effects,
    evicted.map (·.path))

/-- Take off all devices. -/
def clear (r : Roster) : Roster × List Effect :=
  ({ r with entries := [] }, r.entries.map fun e => .unsubscribe e.ticket)

end Roster

end TagGateway
