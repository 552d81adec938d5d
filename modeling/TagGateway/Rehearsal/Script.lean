import TagGateway.Advertisement.Draft
import TagGateway.Bus.Request
import TagGateway.Metrics.Family

/-!
# Scripts

A rehearsal runs the gateway against a Bluetooth service that follows a script: what the service
answers, what fails, and what happens while a request is under way.

* `Step` is one thing that happens.
* `Hook` ties steps to a request that they happen during.
* `Event` is what an onlooker sees, in order.
-/

namespace TagGateway.Rehearsal

open Bus

/-- One thing that happens. -/
inductive Step
  /-- The service sends a signal. -/
  | signal (path interface member : String) (body : Value)
  /-- Properties of a device change; an unknown device comes into being. -/
  | setProperties (path : String) (props : Properties)
  | unsetProperty (path name : String)
  | dropDevice (path : String)
  /-- Calls of a member fail so many times, or always for minus one. -/
  | failCalls (member : String) (times : Int)
  | raise (f : Fault)
  /-- Steps without a pause between them. -/
  | batch (steps : List Step)
  | start
  | stop
  | ban (mac : Value)
  /-- A handler with a name is posted; it carries out steps. -/
  | post (name : String) (steps : List Step)
  | announce (path interfaces : Value)
  | remove (path interfaces : Value)
  /-- An address is put on the blacklist without a look at the roster. -/
  | blacklist (mac : Value)
  /-- Steps while the roster is held for a path. -/
  | track (path : String) (steps : List Step)
  | contains (path : String)
  | size
  | clear
  | emit (path : String)
  | change (path : String) (names : Value)
  | retry (times backoff : Option Value)
  | adapterChange (interface : String) (changed : Value)
  | want (discovery : Bool)
  /-- An advertisement written by hand reaches the gateway directly. -/
  | packet (d : Draft)
  | shutdown
  | hostSignal (number : Value)
  | metrics
  | nothing
deriving Inhabited

/-- Steps that happen during an event with a name: each time, or only the nth time. -/
structure Hook where
  event : String
  nth : Option Nat
  steps : List Step

/-- What an onlooker sees. -/
inductive Event
  | connect
  | disconnect
  | call (path interface member signature : String) (body : List Value)
  | subscribe (path interface member : String)
  | unsubscribe (path interface member : String)
  | sleep (duration : Value)
  | packet (a : Advertisement)
  | gate (path : String) (isOpen : Value)
  | gateEnd (path : String)
  | dispatch (handler path : String) (names : List Value)
  | added (path : String)
  | handled (name : String)
  | serve (port address : Value)
  | serverShutdown
  | serverClose
  | serverJoin
  | notice (n : Notice)

/-- What a step gives back. -/
inductive Outcome
  | value (v : Value)
  | batch (outcomes : List Outcome)
  | tracked (held : Bool) (outcomes : List Outcome)
  | samples (samples : List Metrics.Sample)

/-- The outcome of a step that gives nothing back. -/
def Outcome.nothing : Outcome := .value .null

/-- The outcome that lists texts. -/
def Outcome.texts (ts : List String) : Outcome := .value (.list (ts.map .text))

end TagGateway.Rehearsal
