import TagGateway.Bus.Request

/-!
# Emissions

A change of a device's payloads is passed on as an advertisement: all properties of the device
are read once, and the receiver gets what they say. The device has to be tracked before the
properties are read and again when they have arrived.

* `Emission.isDue` tells which changes are passed on.
* `Emission.start`, `Emission.read` and `Emission.passOn` are the steps.
-/

namespace TagGateway

open Bus

/-- Where a suspended emission stands. -/
inductive Emission
  /-- Waits for the properties. -/
  | reading (path : String)
  /-- Waits for the receiver. -/
  | delivering (path : String) (a : Advertisement)

/-- How an emission goes on. -/
inductive Emission.Next
  | wait (e : Emission)
  /-- Ended; tells whether the advertisement was received. -/
  | ended (emitted : Bool)
  | failed (f : Fault)

namespace Emission

/-- What a suspended emission waits for. -/
def request : Emission → Request
  | reading path => .properties path
  | delivering _ a => .deliver a

/-- Whether a change of the properties with these names is passed on. -/
def isDue (names : Value) : Except Fault Bool := names.holds payloadProperty

/-- Begin an emission of a device that is tracked or not. -/
def start (path : String) (tracked : Bool) : Next :=
  if tracked then .wait (reading path) else .ended false

/-- Begin an emission if a change of properties is passed on. -/
def startIfDue (path : String) (names : Value) (tracked : Bool) : Next :=
  match isDue names with
  | .error f => .failed f
  | .ok due => if due then start path tracked else .ended false

/-- The advertisement that the properties in a reply make. -/
def read (reply : Reply) : Except Fault (Advertisement × List Effect) := do
  let answer ← reply
  let (a, notices) ← answer.properties >>= Advertisement.ofProperties
  return (a, notices.map .notice)

/-- Hand an advertisement to the receiver if its device is still tracked. -/
def passOn (path : String) (a : Advertisement) (tracked : Bool) : List Effect × Next :=
  if tracked then ([], .wait (delivering path a))
  else
    ([.say .debug ("Dropping packet from " ++ a.mac ++ ", device no longer tracked")],
      .ended false)

/-- Go on when the receiver is done. -/
def delivered (reply : Reply) : Next :=
  match reply with
  | .ok _ => .ended true
  | .error f => .failed f

/-- Go on with a suspended emission of a device that is tracked or not at this moment. -/
def resume (e : Emission) (tracked : Bool) (reply : Reply) : List Effect × Next :=
  match e with
  | reading path =>
    match read reply with
    | .error f => ([], .failed f)
    | .ok (a, effects) =>
      let (more, next) := passOn path a tracked
      (effects ++ more, next)
  | delivering _ _ => ([], delivered reply)

/-- The path of the device. -/
def path : Emission → String
  | reading path => path
  | delivering path _ => path

end Emission

end TagGateway
