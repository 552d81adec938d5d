import TagGateway.Discovery
import TagGateway.Emission
import TagGateway.Rehearsal.World
import TagGateway.Roster

/-!
# Rehearsals of single parts

The roster, emissions and the retries of discovery, each on its own on the stage. An operation that
makes requests cannot be begun while another one waits for its reply, that is, by a hook.
-/

namespace TagGateway.Rehearsal

open Bus

/-! ## The roster -/

/-- A roster that may announce what it admits. -/
structure RosterActor where
  roster : Roster
  announces : Bool := true

namespace RosterActor

/-- Go on with an admission until it ends. It makes at most two requests. -/
def drive (c : Cast RosterActor) :
    Nat → World RosterActor → List Effect → Admission.Next →
      World RosterActor × Except Fault Outcome
  | 0, w, effects, _ => (w.apply effects, .ok .nothing)
  | fuel + 1, w, effects, next =>
    let w := w.apply effects
    match next with
    | .refused => (w, .ok (.value (.bool false)))
    | .failed f => (w, .error f)
    | .admitted path =>
      if w.actor.announces then
        let (w, r) := (w.see [.added path]).runHooks c "added"
        (w, r.map fun _ => .value (.bool true))
      else (w, .ok (.value (.bool true)))
    | .wait a =>
      let (w, reply) := w.ask c a.request
      let (roster, effects, next) := w.actor.roster.resume a reply
      drive c fuel { w with actor := { w.actor with roster } } effects next

/-- Change the roster of a world. -/
def update (w : World RosterActor) (roster : Roster) (effects : List Effect) (o : Outcome) :
    World RosterActor × Except Fault Outcome :=
  ({ w with actor := { w.actor with roster } }.apply effects, .ok o)

/-- Steps on a roster that take no time. -/
def act (w : World RosterActor) (s : Step) : World RosterActor × Except Fault Outcome :=
  let roster := w.actor.roster
  match s with
  | .announce .. => (w, .error .nestedRun)
  | .remove path interfaces =>
    match roster.remove path interfaces with
    | .error f => (w, .error f)
    | .ok (roster, effects, removed) => update w roster effects (.value (.bool removed))
  | .ban mac =>
    match roster.ban mac with
    | .error f => (w, .error f)
    | .ok (roster, effects, evicted) => update w roster effects (.texts evicted)
  | .blacklist mac =>
    match roster.blacklist.add mac with
    | .error f => (w, .error f)
    | .ok (new, blacklist) => update w { roster with blacklist } [] (.value (.bool new))
  | .contains path => (w, .ok (.value (.bool (roster.contains path))))
  | .size => (w, .ok (.value (.int roster.entries.length)))
  | .clear =>
    let (roster, effects) := roster.clear
    update w roster effects .nothing
  | _ => (w, .ok .nothing)

/-- A signal of changed properties is dispatched if it is about the device itself. -/
def signal (a : RosterActor) (topic : Topic) (body : List Value) :
    Except Fault (RosterActor × List Event) := do
  match topic, body with
  | .device path, [interface, changed, _] =>
    if interface != .text deviceInterface then return (a, [])
    return (a, [.dispatch "on_properties_changed" path (← changed.elements)])
  | topic, body => throw (topic.mismatch body)

/-- The roster as an actor that waits for a reply. -/
def cast : Cast RosterActor where
  signal := signal
  tracks a path := a.roster.tracks path
  act := act

/-- Steps on a roster that waits for nothing. -/
def begin (w : World RosterActor) (s : Step) : World RosterActor × Except Fault Outcome :=
  match s with
  | .announce path interfaces =>
    let (effects, next) := w.actor.roster.announce path interfaces
    drive cast 4 w effects next
  | s => act w s

/-- Carry out a step on a roster. -/
def step (w : World RosterActor) (s : Step) : World RosterActor × Except Fault Outcome :=
  w.perform { cast with act := begin } s

end RosterActor

/-! ## Emissions -/

/-- Emissions behind gates that a script opens and closes: none if the script has no gates. -/
structure EmissionActor where
  gates : Option (List Value)

namespace EmissionActor

/-- Steps on an emission that waits for a reply: no other can be begun. -/
def act (w : World EmissionActor) (s : Step) : World EmissionActor × Except Fault Outcome :=
  match s with
  | .emit _ | .change .. => (w, .error .nestedRun)
  | _ => (w, .ok .nothing)

/-- An emission that waits for a reply as an actor. -/
def cast : Cast EmissionActor where
  act := act

/-- Come to the gate: it is open when the script has ended. -/
def enter (w : World EmissionActor) (path : String) : World EmissionActor × Bool :=
  match w.actor.gates with
  | none => (w, true)
  | some gates =>
    let isOpen := gates.headD (.bool true)
    ({ w with actor := EmissionActor.mk (some gates.tail) }.see [.gate path isOpen], isOpen.isTrue)

/-- Leave the gate. -/
def leave (w : World EmissionActor) (path : String) : World EmissionActor :=
  if w.actor.gates.isSome then w.see [.gateEnd path] else w

/-- Hand over an advertisement behind the second gate. -/
def deliver (w : World EmissionActor) (path : String) (a : Advertisement) :
    World EmissionActor × Except Fault Outcome :=
  let (w, isOpen) := enter w path
  match Emission.passOn path a isOpen with
  | (effects, .wait e) =>
    let (w, reply) := (w.apply effects).ask cast e.request
    match Emission.delivered reply with
    | .failed f => (w, .error f)
    | _ => (leave w path, .ok (.value (.bool true)))
  | (effects, _) => (leave (w.apply effects) path, .ok (.value (.bool false)))

/-- Emit an advertisement of a device. -/
def emit (w : World EmissionActor) (path : String) : World EmissionActor × Except Fault Outcome :=
  let (w, isOpen) := enter w path
  let w := leave w path
  match Emission.start path isOpen with
  | .wait e =>
    let (w, reply) := w.ask cast e.request
    match Emission.read reply with
    | .error f => (w, .error f)
    | .ok (a, effects) => deliver (w.apply effects) path a
  | _ => (w, .ok (.value (.bool false)))

/-- Steps where no emission is under way. -/
def begin (w : World EmissionActor) (s : Step) : World EmissionActor × Except Fault Outcome :=
  match s with
  | .emit path => emit w path
  | .change path names =>
    match Emission.isDue names with
    | .error f => (w, .error f)
    | .ok true => emit w path
    | .ok false => (w, .ok (.value (.bool false)))
  | s => act w s

/-- Carry out a step on emissions. -/
def step (w : World EmissionActor) (s : Step) : World EmissionActor × Except Fault Outcome :=
  w.perform { cast with act := begin } s

end EmissionActor

/-! ## Discovery without a run -/

namespace DiscoveryActor

/-- A controller whose events no one handles. -/
abbrev Controller := Discovery Unit

/-- Steps on a controller that take no time. -/
def act (w : World Controller) (s : Step) : World Controller × Except Fault Outcome :=
  match s with
  | .stop => ({ w with actor := w.actor.stop }, .ok .nothing)
  | .want wanted => ({ w with actor := { w.actor with wanted } }, .ok .nothing)
  | .retry .. | .adapterChange .. => (w, .error .nestedRun)
  | _ => (w, .ok .nothing)

/-- A controller that waits for a reply as an actor. -/
def cast : Cast Controller where
  act := act

/-- Go on with a retry until it ends. -/
def drive : Nat → World Controller → List Effect → Discovery.Retry.Next →
    World Controller × Except Fault Bool
  | 0, w, effects, _ => (w.apply effects, .ok false)
  | fuel + 1, w, effects, next =>
    let w := w.apply effects
    match next with
    | .ended restarted => (w, .ok restarted)
    | .failed f => (w, .error f)
    | .wait r =>
      let (w, reply) := w.ask cast (r.request w.actor)
      let (actor, effects, next) := w.actor.resumeRetry r reply
      drive fuel { w with actor } effects next

/-- Carry out a retry: each attempt makes two requests. -/
def retry (w : World Controller) (times backoff : Option Value) :
    World Controller × Except Fault Bool :=
  let (effects, next) := w.actor.startRetry times backoff
  let attempts := Discovery.attemptsOf (times.getD w.actor.settings.attempts)
  drive (2 * (attempts.toOption.getD 0).toNat + 2) w effects next

/-- Start discovery again after it was lost. -/
def recover (w : World Controller) : World Controller × Except Fault Outcome :=
  match retry (w.apply [w.actor.lossNotice]) none none with
  | (w, .error f) => (w, .error f)
  | (w, .ok restarted) =>
    let (actor, effects) := w.actor.settle restarted
    ({ w with actor }.apply effects, .ok .nothing)

/-- Steps on a controller that waits for nothing. -/
def begin (w : World Controller) (s : Step) : World Controller × Except Fault Outcome :=
  match s with
  | .retry times backoff =>
    let (w, r) := retry w times backoff
    (w, r.map fun b => .value (.bool b))
  | .adapterChange interface changed =>
    match w.actor.isLoss (.text interface) changed with
    | .error f => (w, .error f)
    | .ok true => recover w
    | .ok false => (w, .ok .nothing)
  | s => act w s

/-- Carry out a step on a controller. -/
def step (w : World Controller) (s : Step) : World Controller × Except Fault Outcome :=
  w.perform { cast with act := begin } s

end DiscoveryActor

end TagGateway.Rehearsal
