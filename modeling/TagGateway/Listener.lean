import TagGateway.Discovery
import TagGateway.Emission
import TagGateway.Roster

/-!
# The listener

Discovery, the roster and emissions together: signals of the Bluetooth service become events,
events are handled one at a time, and what devices advertise is handed to a receiver.

* `Listener.signal` turns a signal into a posted event.
* `Listener.start`, `Listener.resume` and `Listener.wake` drive a run, as for a controller of
  discovery; the setup and the handlers of events are tasks of the listener.
* `Listener.ban` may be used at any time, also while a task waits.
-/

namespace TagGateway

open Bus

namespace Listener

/-- What the listener has handled; `κ` are handlers that others post. -/
inductive Event (κ : Type)
  /-- An object appeared with some interfaces. -/
  | appeared (path interfaces : Value)
  /-- Interfaces of an object disappeared. -/
  | disappeared (path interfaces : Value)
  /-- Properties of a device changed. -/
  | changed (path : String) (names : List Value)
  | foreign (handler : κ)

/-- The requests of the setup, in order. -/
inductive Setup
  | watchingAppeared | watchingDisappeared | listing
deriving DecidableEq, Repr

/-- The task under way: the setup or the handler of an event. -/
inductive Task
  | setup (s : Setup)
  | admission (a : Admission)
  | emission (e : Emission)
  | foreign

end Listener

/-- A listener on one adapter. -/
structure Listener (κ : Type) where
  discovery : Discovery (Listener.Event κ) := {}
  roster : Roster
  task : Option Listener.Task := none

namespace Listener

variable {κ : Type}

/-- The listener with some settings. -/
def ofSettings (s : Discovery.Settings) : Listener κ :=
  { discovery := { settings := s }, roster := Roster.ofPath (adapterPath s.adapter) }

/-- The state of discovery. -/
def status (l : Listener κ) : Discovery.Status := l.discovery.status

/-- What a listener waits for. -/
inductive Pending (κ : Type)
  | nothing
  | reply (r : Request)
  | foreign (handler : κ)
  | item

/-- What a request of the setup asks. -/
def Setup.request : Setup → Request
  | watchingAppeared => .subscribe rootPath objectsInterface "InterfacesAdded" .appeared
  | watchingDisappeared => .subscribe rootPath objectsInterface "InterfacesRemoved" .disappeared
  | listing => .call rootPath objectsInterface "GetManagedObjects" "" []

/-- What the listener waits for. -/
def pending (l : Listener κ) : Pending κ :=
  match l.task, l.discovery.pending with
  | some (.setup s), _ => .reply s.request
  | some (.admission a), _ => .reply a.request
  | some (.emission e), _ => .reply e.request
  | some .foreign, .handler (.foreign handler) => .foreign handler
  | _, .reply r => .reply r
  | _, .item => .item
  | _, _ => .nothing

/-! ## Signals -/

/-- Post an event. -/
def post (l : Listener κ) (name : String) (e : Event κ) : Listener κ × List Effect :=
  let (discovery, effects) := l.discovery.post name e
  ({ l with discovery }, effects)

/-- The name of the handler of objects that appear. -/
def appearedHandler : String := "add_device"

/-- The name of the handler of objects that disappear. -/
def disappearedHandler : String := "_remove_device"

/-- The name of the handler of changed properties. -/
def changedHandler : String := "on_properties_changed"

/-- A signal that a subscription for some topic gets. -/
def signal (l : Listener κ) (topic : Topic) (body : List Value) :
    Except Fault (Listener κ × List Effect) := do
  match topic, body with
  | .appeared, [path, interfaces] => return l.post appearedHandler (.appeared path interfaces)
  | .disappeared, [path, interfaces] =>
    return l.post disappearedHandler (.disappeared path interfaces)
  | .adapter, [interface, changed, _] =>
    let (discovery, effects) := l.discovery.postAdapterChange interface changed
    return ({ l with discovery }, effects)
  | .device path, [interface, changed, _] =>
    if interface != .text deviceInterface then return (l, [])
    return l.post changedHandler (.changed path (← changed.elements))
  | topic, body => throw (topic.mismatch body)

/-! ## Runs -/

/-- What a listener does next. -/
abbrev Move (κ : Type) := Listener κ × List Effect × Option (Except Fault Unit)

/-- A move of discovery as one of the listener. The setup begins when discovery waits for it, and
when the run ends all devices are taken off. -/
def ofDiscovery (l : Listener κ) (m : Discovery.Move (Event κ)) : Move κ :=
  let (discovery, effects, result) := m
  let task := match discovery.phase with
    | .preparing => some (.setup .watchingAppeared)
    | _ => none
  let l := { l with discovery, task }
  match result with
  | none => (l, effects, none)
  | some result =>
    let (roster, more) := l.roster.clear
    ({ l with roster }, effects ++ more, some result)

/-- The task has ended, with a fault or without. -/
def conclude (l : Listener κ) (effects : List Effect) (outcome : Except Fault Unit) : Move κ :=
  let (l, more, result) := l.ofDiscovery (l.discovery.resume (outcome.map fun _ => {}))
  (l, effects ++ more, result)

/-- Go on waiting, with this task. -/
def await (l : Listener κ) (effects : List Effect) (task : Task) : Move κ :=
  ({ l with task := some task }, effects, none)

/-- Go on with an emission. -/
def continueEmission (l : Listener κ) (effects : List Effect) (next : Emission.Next) : Move κ :=
  match next with
  | .wait e => l.await effects (.emission e)
  | .ended _ => l.conclude effects (.ok ())
  | .failed f => l.conclude effects (.error f)

/-- Go on with an admission. A device that was admitted has its first emission at once. -/
def continueAdmission (l : Listener κ) (effects : List Effect) (next : Admission.Next) : Move κ :=
  match next with
  | .wait a => l.await effects (.admission a)
  | .admitted path => l.continueEmission effects (Emission.start path (l.roster.tracks path))
  | .refused => l.conclude effects (.ok ())
  | .failed f => l.conclude effects (.error f)

/-- Begin to handle an event. -/
def handle (l : Listener κ) (e : Event κ) (effects : List Effect) : Move κ :=
  match e with
  | .appeared path interfaces =>
    let (more, next) := l.roster.announce path interfaces
    l.continueAdmission (effects ++ more) next
  | .disappeared path interfaces =>
    match l.roster.remove path interfaces with
    | .error f => l.conclude effects (.error f)
    | .ok (roster, more, _) => { l with roster }.conclude (effects ++ more) (.ok ())
  | .changed path names =>
    l.continueEmission effects (Emission.startIfDue path (.list names) (l.roster.tracks path))
  | .foreign _ => l.await effects .foreign

/-- The values of some keys of a collection, with their keys, up to the first key that has none. -/
def lookedUp (objects : Value) : List Value → List (Value × Value) × Except Fault Unit
  | [] => ([], .ok ())
  | path :: rest =>
    match objects.item path with
    | .error f => ([], .error f)
    | .ok interfaces =>
      let (found, outcome) := lookedUp objects rest
      ((path, interfaces) :: found, outcome)

/-- The objects in the reply that lists them, in ascending order of their paths, and whether they
are all. -/
def listed (a : Answer) : List (Value × Value) × Except Fault Unit :=
  match a.body with
  | [] => ([], .ok ())
  | objects :: _ =>
    match objects.elements >>= Value.ascending with
    | .error f => ([], .error f)
    | .ok paths => lookedUp objects paths

/-- Post the objects that the service already knows. -/
def postListed (l : Listener κ) (objects : List (Value × Value)) : Listener κ × List Effect :=
  objects.foldl
    (fun (l, effects) (path, interfaces) =>
      let (l, more) := l.post appearedHandler (.appeared path interfaces)
      (l, effects ++ more))
    (l, [])

/-- Go on with the setup. A list of known objects that cannot be had is done without, but one that
cannot be read ends the setup. -/
def resumeSetup (l : Listener κ) (s : Setup) (reply : Reply) : Move κ :=
  match s, reply with
  | .watchingAppeared, .ok _ => l.await [] (.setup .watchingDisappeared)
  | .watchingDisappeared, .ok _ => l.await [] (.setup .listing)
  | .listing, .ok answer =>
    let (objects, outcome) := listed answer
    let (l, effects) := l.postListed objects
    l.conclude effects outcome
  | .listing, .error f =>
    if f.isCallFailure then
      l.conclude [.say .warning ("Could not list known devices: " ++ f.message)] (.ok ())
    else l.conclude [] (.error f)
  | _, .error f => l.conclude [] (.error f)

/-- Go on when what the listener waits for has arrived. -/
def resume (l : Listener κ) (reply : Reply) : Move κ :=
  match l.task with
  | none => l.ofDiscovery (l.discovery.resume reply)
  | some (.setup s) => l.resumeSetup s reply
  | some (.admission a) =>
    let (roster, effects, next) := l.roster.resume a reply
    { l with roster }.continueAdmission effects next
  | some (.emission e) =>
    let (effects, next) := e.resume (l.roster.tracks e.path) reply
    l.continueEmission effects next
  | some .foreign => l.conclude [] (reply.map fun _ => ())

/-- Take the next event, if the listener waits for one. -/
def wake (l : Listener κ) : Move κ :=
  let (l, effects, result) := l.ofDiscovery l.discovery.wake
  match l.discovery.phase, l.task, result with
  | .handling _ e, none, none => l.handle e effects
  | _, _, _ => (l, effects, result)

/-- Whether there is an event to take. -/
def hasItem (l : Listener κ) : Bool :=
  match l.discovery.phase with
  | .waiting => !l.discovery.queue.isEmpty
  | _ => false

/-- Begin a run. A start that is refused takes off all devices. -/
def start (l : Listener κ) : Listener κ × List Effect × Except Fault Unit :=
  match l.discovery.start with
  | .ok discovery => ({ l with discovery, task := none }, [], .ok ())
  | .error f =>
    let (roster, effects) := l.roster.clear
    ({ l with roster }, effects, .error f)

/-- Ask the run to stop. -/
def stop (l : Listener κ) : Listener κ := { l with discovery := l.discovery.stop }

/-- Ignore an address from now on. -/
def ban (l : Listener κ) (mac : Value) : Except Fault (Listener κ × List Effect) := do
  let (roster, effects, _) ← l.roster.ban mac
  return ({ l with roster }, effects)

end Listener

end TagGateway
