import TagGateway.Bus.Request

/-!
# Discovery

A controller keeps an adapter discovering and handles events one at a time, in the order in which
they were posted, until it is told to stop. It is a machine that moves when what it waits for has
arrived; between two moves it may be told to stop and events may be posted.

* `Discovery.start` begins a run, `Discovery.resume` takes the reply that the current phase waits
  for, and `Discovery.wake` takes the next event from the queue.
* `Discovery.post` and `Discovery.stop` may come at any time.
* `Retry` is the part that starts discovery again after it was lost: a number of attempts, with a
  pause before each.
-/

namespace TagGateway

open Bus

namespace Discovery

/-- The settings of a controller. The pause is passed on as it was given, and the attempts are
counted only when they begin. -/
structure Settings where
  adapter : String := "hci0"
  attempts : Value := .int 2
  delay : Value := .float 1.0

/-- What stands in the queue. -/
inductive Item (ε : Type)
  /-- Properties of the adapter changed: those of an interface, by name. -/
  | adapterChanged (interface changed : Value)
  /-- An event for a handler with a name. -/
  | event (name : String) (e : ε)
  | stop

/-- Where a suspended retry stands: an attempt, counted from one, that sleeps or calls. -/
structure Retry where
  times : Value
  backoff : Value
  attempt : Nat
  calling : Bool

/-- What the controller waits for. -/
inductive Phase (ε : Type)
  /-- No run. -/
  | off
  | connecting
  /-- The subscription to the adapter's changes. -/
  | watching
  /-- The setup that the caller provides. -/
  | preparing
  | filtering
  | starting
  /-- A retry because the first start failed. -/
  | retrying (r : Retry)
  /-- The next event. -/
  | waiting
  /-- A retry because discovery was lost. -/
  | recovering (r : Retry)
  /-- The handler of an event. -/
  | handling (name : String) (e : ε)
  | stopping
  /-- The disconnection that ends the run, and how the run ends. -/
  | disconnecting (outcome : Except Fault Unit)

end Discovery

/-- A controller of discovery; `ε` are the events it has handled. -/
structure Discovery (ε : Type) where
  settings : Discovery.Settings := {}
  status : Discovery.Status := .idle
  /-- Whether discovery should be running. -/
  wanted : Bool := false
  stopRequested : Bool := false
  phase : Discovery.Phase ε := .off
  queue : List (Discovery.Item ε) := []

namespace Discovery

variable {ε : Type}

/-- The path of the adapter. -/
def path (d : Discovery ε) : String := adapterPath d.settings.adapter

/-- Whether the adapter is discovering. -/
def isDiscovering (d : Discovery ε) : Bool := d.status = .discovering

/-- Whether there is a queue that is being worked off. -/
def isLive (d : Discovery ε) : Bool :=
  match d.phase with
  | .off | .disconnecting _ => false
  | _ => true

/-- A call to the adapter. -/
def adapterCall (d : Discovery ε) (member : String) : Request :=
  .call d.path adapterInterface member "" []

/-- What the controller waits for. -/
inductive Pending (ε : Type)
  | nothing
  | reply (r : Request)
  | setup
  | handler (e : ε)
  | item

/-- What a suspended retry waits for. -/
def Retry.request (d : Discovery ε) (r : Retry) : Request :=
  if r.calling then d.adapterCall "StartDiscovery" else .sleep r.backoff

/-- What the current phase waits for. -/
def pending (d : Discovery ε) : Pending ε :=
  match d.phase with
  | .off => .nothing
  | .connecting => .reply .connect
  | .watching => .reply (.subscribe d.path propertiesInterface propertiesChanged .adapter)
  | .preparing => .setup
  | .filtering => .reply (.call d.path adapterInterface "SetDiscoveryFilter" "a\x7bsv\x7d"
      [.dict [(.text "DuplicateData", .bool true)]])
  | .starting => .reply (d.adapterCall "StartDiscovery")
  | .retrying r => .reply (r.request d)
  | .recovering r => .reply (r.request d)
  | .waiting => .item
  | .handling _ e => .handler e
  | .stopping => .reply (d.adapterCall "StopDiscovery")
  | .disconnecting _ => .reply .disconnect

/-- Move to a state; a change is noticed. -/
def setStatus (d : Discovery ε) (status : Status) : Discovery ε × List Effect :=
  ({ d with status },
    if d.status = status then []
    else [.say .debug ("Discovery on " ++ d.settings.adapter ++ ": " ++ d.status.name ++
      " -> " ++ status.name)])

/-- Ask the run to stop: remembered for ever, and put into the queue if there is one. -/
def stop (d : Discovery ε) : Discovery ε :=
  { d with
    stopRequested := true
    queue := if d.isLive then d.queue ++ [.stop] else d.queue }

/-- Post an item under a name; without a run it is dropped. -/
def postItem (d : Discovery ε) (name : String) (item : Item ε) : Discovery ε × List Effect :=
  if d.isLive then ({ d with queue := d.queue ++ [item] }, [])
  else (d, [.say .debug ("Dropping event for " ++ name ++ ", loop not running")])

/-- Post an event for a handler with a name. -/
def post (d : Discovery ε) (name : String) (e : ε) : Discovery ε × List Effect :=
  d.postItem name (.event name e)

/-- The name of the handler of adapter changes. -/
def adapterHandler : String := "on_adapter_properties_changed"

/-- Post a change of the adapter. -/
def postAdapterChange (d : Discovery ε) (interface changed : Value) : Discovery ε × List Effect :=
  d.postItem adapterHandler (.adapterChanged interface changed)

/-- Discovery cannot be had: the run is stopped as failed. -/
def fail (d : Discovery ε) : Discovery ε × List Effect :=
  let (d, effects) := d.setStatus .failed
  ({ d with wanted := false }.stop, effects)

/-! ## Retries -/

/-- How a retry goes on. -/
inductive Retry.Next
  | wait (r : Retry)
  /-- Ended; tells whether discovery runs again. -/
  | ended (restarted : Bool)
  | failed (f : Fault)

/-- The number of attempts that a value asks for. -/
def attemptsOf (times : Value) : Except Fault Int :=
  match times, times.asInt? with
  | _, some n => .ok n
  | .float _, _ => .error (.notByte .float)
  | .text _, _ | .bytes _, _ | .list _, _ | .struct _, _ => .error (.notJoined times.kind .int)
  | _, _ => .error (.unsupported "+" times.kind .int)

/-- Sleep before the next attempt, or give up. -/
def nextAttempt (d : Discovery ε) (times backoff : Value) (attempt : Nat) :
    List Effect × Retry.Next :=
  match attemptsOf times with
  | .error f => ([], .failed f)
  | .ok n =>
    if (attempt : Int) ≤ n then ([], .wait ⟨times, backoff, attempt, false⟩)
    else
      ([.say .error ("Could not restart discovery on " ++ d.settings.adapter ++ " after " ++
        times.display ++ " attempts")], .ended false)

/-- Begin a retry, with the settings' number of attempts and pause unless others are given. -/
def startRetry (d : Discovery ε) (times backoff : Option Value := none) :
    List Effect × Retry.Next :=
  d.nextAttempt (times.getD d.settings.attempts) (backoff.getD d.settings.delay) 1

/-- The notice of a start that failed. -/
def startFailed (f : Fault) : Effect := .say .warning ("Failed to start discovery: " ++ f.message)

/-- Go on with a suspended retry. -/
def resumeRetry (d : Discovery ε) (r : Retry) (reply : Reply) :
    Discovery ε × List Effect × Retry.Next :=
  match r.calling, reply with
  | false, .error f => (d, [], .failed f)
  | false, .ok _ =>
    if d.stopRequested then (d, [], .ended false)
    else
      (d, [.say .info ("Restarting discovery on " ++ d.settings.adapter ++ " (attempt " ++
        toString r.attempt ++ "/" ++ r.times.display ++ ")")], .wait { r with calling := true })
  | true, .ok _ =>
    let (d, effects) := d.setStatus .discovering
    (d, effects, .ended true)
  | true, .error f =>
    if f.isCallFailure then
      let (effects, next) := d.nextAttempt r.times r.backoff (r.attempt + 1)
      (d, startFailed f :: effects, next)
    else (d, [], .failed f)

/-- What an ended retry means: unless discovery runs again or a stop was requested, failure. -/
def settle (d : Discovery ε) (restarted : Bool) : Discovery ε × List Effect :=
  if restarted || d.stopRequested then (d, []) else d.fail

/-- Whether a change of the adapter says that discovery was lost. -/
def isLoss (d : Discovery ε) (interface changed : Value) : Except Fault Bool := do
  if interface != .text adapterInterface then return false
  if !(← changed.holds discoveringProperty) then return false
  let discovering ← changed.item (.text discoveringProperty)
  return !discovering.isTrue && d.wanted

/-- The notice of lost discovery. -/
def lossNotice (d : Discovery ε) : Effect :=
  .say .warning ("Discovery on " ++ d.settings.adapter ++ " stopped unexpectedly")

/-! ## Runs -/

/-- Begin a run, which only a controller that was never used can. A start inside a run that has
not reached a state yet is refused as well. -/
def start (d : Discovery ε) : Except Fault (Discovery ε) :=
  if d.status ≠ .idle then .error (.alreadyUsed d.status)
  else
    match d.phase with
    | .off => .ok { d with phase := .connecting, queue := [] }
    | _ => .error .nestedRun

/-- What a run does next: the controller, its effects and, at the end, the result of the run. -/
abbrev Move (ε : Type) := Discovery ε × List Effect × Option (Except Fault Unit)

/-- Wait in a phase. -/
def enter (d : Discovery ε) (phase : Phase ε) (effects : List Effect := []) : Move ε :=
  ({ d with phase }, effects, none)

/-- Leave the run by disconnecting. -/
def leave (d : Discovery ε) (outcome : Except Fault Unit) (effects : List Effect := []) : Move ε :=
  ({ d with wanted := false, phase := .disconnecting outcome }, effects, none)

/-- Go on with the retry of a first start. -/
def continueRetrying (d : Discovery ε) (effects : List Effect) (next : Retry.Next) : Move ε :=
  match next with
  | .wait r => d.enter (.retrying r) effects
  | .failed f => d.leave (.error f) effects
  | .ended restarted =>
    let (d, more) := d.settle restarted
    d.enter .waiting (effects ++ more)

/-- The report of a handler that raised a fault. -/
def handlerFailed (name : String) (f : Fault) : Effect :=
  .notice ⟨.error, "Event handler " ++ name ++ " failed", some f⟩

/-- Go on with the retry of lost discovery. -/
def continueRecovering (d : Discovery ε) (effects : List Effect) (next : Retry.Next) : Move ε :=
  match next with
  | .wait r => d.enter (.recovering r) effects
  | .failed f => d.enter .waiting (effects ++ [handlerFailed adapterHandler f])
  | .ended restarted =>
    let (d, more) := d.settle restarted
    d.enter .waiting (effects ++ more)

/-- The stop has been handled and discovery does not run. -/
def finish (d : Discovery ε) (effects : List Effect := []) : Move ε :=
  if d.status = .failed then d.leave (.ok ()) effects
  else
    let (d, more) := d.setStatus .stopped
    d.leave (.ok ()) (effects ++ more)

/-- Start discovery for the first time. -/
def begin (d : Discovery ε) (effects : List Effect := []) : Move ε :=
  { d with wanted := true }.enter .starting
    (effects ++ [Effect.say .info ("Starting bluetooth discovery on " ++ d.settings.adapter)])

/-- The result of a run that has disconnected. -/
def result (d : Discovery ε) (outcome : Except Fault Unit) : Except Fault Unit :=
  match outcome with
  | .error f => .error f
  | .ok () =>
    if d.status = .failed then .error (.lost d.settings.adapter d.settings.attempts)
    else .ok ()

/-- Go on when what the current phase waits for has arrived. -/
def resume (d : Discovery ε) (reply : Reply) : Move ε :=
  match d.phase with
  | .off | .waiting => (d, [], none)
  | .connecting =>
    match reply with
    | .error f => ({ d with phase := .off }, [], some (.error f))
    | .ok _ =>
      if d.stopRequested then
        let (d, effects) := d.setStatus .stopped
        d.leave (.ok ()) effects
      else d.enter .watching
  | .watching =>
    match reply with
    | .ok _ => d.enter .preparing
    | .error f =>
      if f.isCallFailure then
        d.enter .preparing [.say .warning ("Cannot watch discovery state of " ++
          d.settings.adapter ++ ": " ++ f.message)]
      else d.leave (.error f)
  | .preparing =>
    match reply with
    | .ok _ => d.enter .filtering
    | .error f => d.leave (.error f)
  | .filtering =>
    match reply with
    | .ok _ => d.begin
    | .error f =>
      if f.isCallFailure then
        d.begin [.say .warning ("Failed to set discovery filter: " ++ f.message)]
      else d.leave (.error f)
  | .starting =>
    match reply with
    | .ok _ =>
      let (d, effects) := d.setStatus .discovering
      d.enter .waiting effects
    | .error f =>
      if f.isCallFailure then
        let (effects, next) := d.startRetry
        d.continueRetrying (startFailed f :: effects) next
      else d.leave (.error f)
  | .retrying r =>
    let (d, effects, next) := d.resumeRetry r reply
    d.continueRetrying effects next
  | .recovering r =>
    let (d, effects, next) := d.resumeRetry r reply
    d.continueRecovering effects next
  | .handling name _ =>
    match reply with
    | .ok _ => d.enter .waiting
    | .error f => d.enter .waiting [handlerFailed name f]
  | .stopping =>
    match reply with
    | .ok _ => d.finish
    | .error f =>
      if f.isCallFailure then
        d.finish [.say .warning ("Failed to stop discovery: " ++ f.message)]
      else d.leave (.error f)
  | .disconnecting outcome =>
    match reply with
    | .ok _ => ({ d with phase := .off }, [], some (d.result outcome))
    | .error f => ({ d with phase := .off }, [], some (.error f))

/-- Take the next item from the queue; only a run that waits for one does. -/
def wake (d : Discovery ε) : Move ε :=
  match d.phase, d.queue with
  | .waiting, .stop :: rest =>
    let d := { d with queue := rest, wanted := false }
    if d.status = .discovering then
      d.enter .stopping [.say .info ("Stopping bluetooth discovery on " ++ d.settings.adapter)]
    else d.finish
  | .waiting, .adapterChanged interface changed :: rest =>
    let d := { d with queue := rest }
    match d.isLoss interface changed with
    | .error f => d.enter .waiting [handlerFailed adapterHandler f]
    | .ok false => d.enter .waiting
    | .ok true =>
      let (effects, next) := d.startRetry
      d.continueRecovering (d.lossNotice :: effects) next
  | .waiting, .event name e :: rest =>
    { d with queue := rest }.enter (.handling name e)
  | _, _ => (d, [], none)

end Discovery

end TagGateway
