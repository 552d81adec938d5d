import TagGateway.Checkup.Checks
import TagGateway.Gateway.State

/-!
# A run of the gateway

A run opens the endpoint, has the listener work on a thread of its own, and waits for a request to
shut down or for the end of the listener. Then everything that was taken up is given back.

* `Surroundings` is what a run works with; `Surroundings.run` is the run, with its exit code.
* `Surroundings.setHandlers` has signals taken in other ways, to end the run and to give them back.
-/

namespace TagGateway.Gateway

/-- How a run is to be done. -/
structure Plan where
  /-- Whether metrics are served. -/
  serves : Bool
  /-- Whether signals of the host end the run. -/
  takesSignals : Bool
  /-- Whether the run is on the main thread, the only one that signals reach. -/
  onMainThread : Bool := true
deriving DecidableEq, Repr

/-- What takes a signal of the host. -/
inductive SignalHandler
  /-- The host, in its own way. -/
  | host
  /-- No one: the signal is lost. -/
  | ignored
  /-- The gateway, whose run it ends. -/
  | gateway
  /-- A function of the program around the gateway. -/
  | function (name : String)
deriving DecidableEq, Repr

/-- What takes each signal of the host, by its number. -/
abbrev SignalHandlers := Int → SignalHandler

/-- Have a signal taken in another way. -/
def SignalHandlers.set (hs : SignalHandlers) (n : Int) (h : SignalHandler) : SignalHandlers :=
  fun m => if m = n then h else hs m

/-- The signals that end a run: an interrupt, and the request to terminate. -/
def endingSignals : List Int := [2, 15]

/-- What a run works with. -/
structure Surroundings (σ : Type) where
  gateway : σ → Gateway
  update : (Gateway → Gateway) → σ → σ
  /-- How many addresses are on the blacklist of the listener. -/
  banned : σ → Nat
  /-- Have the listener ignore an address. -/
  ban : String → σ → σ × Except Fault Unit
  /-- Serve metrics at an address and a port. -/
  serve : Value → Value → σ → σ × Except Fault Unit
  closeEndpoint : σ → σ
  /-- Have a signal taken in another way; gives what took it before. -/
  handle : Int → SignalHandler → σ → σ × SignalHandler
  /-- Start the listener on its thread. -/
  start : σ → σ
  /-- Wait until the listener has ended or a shutdown is requested. -/
  wait : σ → σ
  /-- Ask the listener to stop. -/
  stop : σ → σ
  /-- Wait for the end of the listener and give its result, if it comes in time. -/
  join : σ → σ × Option (Except Fault Unit)
  say : Notice → σ → σ

/-- The classes of failures of the host system that are no causes of their own. -/
def systemClasses : List String :=
  ["OSError", "BlockingIOError", "ChildProcessError", "ConnectionError", "BrokenPipeError",
    "ConnectionAbortedError", "ConnectionRefusedError", "ConnectionResetError", "InterruptedError",
    "PermissionError", "ProcessLookupError", "TimeoutError", "gaierror", "herror"]

/-- Whether a fault is one of the host system. -/
def isSystemFault : Fault → Bool
  | .system _ | .isDirectory _ | .notDirectory _ | .fileExists _ | .noSuchFile _ | .nameTooLong _
  | .unreachable _ => true
  | .other kind _ => systemClasses.contains kind
  | _ => false

/-- Whether the operator gets a guide to a fault. -/
def needsGuide : Fault → Bool
  | .unreachable _ | .discoveryLost _ => true
  | _ => false

namespace Surroundings

variable {σ : Type} (e : Surroundings σ)

/-- Have the listener ignore addresses, up to the first text that writes none. -/
def banAll : List String → σ → σ × Except Fault Unit
  | [], x => (x, .ok ())
  | mac :: rest, x =>
    match e.ban mac x with
    | (x, .error f) => (x, .error f)
    | (x, .ok ()) => banAll rest x

/-- Have signals taken in other ways; gives what took each of them before. -/
def setHandlers : List (Int × SignalHandler) → σ → σ × List (Int × SignalHandler)
  | [], x => (x, [])
  | (n, h) :: rest, x =>
    let (x, held) := e.handle n h x
    let (x, previous) := setHandlers rest x
    (x, (n, held) :: previous)

/-- Have signals end the run, if they are to and can reach it; gives what took them before. -/
def takeSignals (p : Plan) (x : σ) : σ × List (Int × SignalHandler) :=
  if p.takesSignals then
    if p.onMainThread then e.setHandlers (endingSignals.map fun n => (n, .gateway)) x
    else (e.say ⟨.debug, "Not on the main thread, signal handlers not installed", none⟩ x, [])
  else (x, [])

/-- Keep and tell a fault of the listener. -/
def noteResult (r : Except Fault Unit) (x : σ) : σ :=
  match r with
  | .ok () => x
  | .error f =>
    e.say ⟨.error, "BLE listener failed: " ++ f.message, none⟩
      (e.update (fun g => { g with fault := some f }) x)

/-- Note how the listener ended; its end asks for a shutdown in any case. Between its end and the
time it is waited for, a run neither looks at the result nor says anything. -/
def note (outcome : Option (Except Fault Unit)) (x : σ) : σ :=
  match outcome with
  | some r => e.update requestShutdown (e.noteResult r x)
  | none => e.say ⟨.warning, "BLE listener did not stop within 10 seconds", none⟩ x

/-- Give the operator a guide to a fault. -/
def explain (host : Host) (f : Fault) (x : σ) : σ :=
  let (text, notices) := Checkup.guide (e.gateway x).adapter host f
  e.say ⟨.error, text, none⟩ (notices.foldl (fun x n => e.say n x) x)

/-- The exit code, after the operator has been told of a fault of the listener. -/
def conclude (host : Host) (x : σ) : σ × Except Fault Int :=
  match (e.gateway x).fault with
  | none => (x, .ok 0)
  | some f => (if needsGuide f then e.explain host f x else x, .ok 1)

/-- Have the listener work until it ends or is stopped, and give back what was taken up. -/
def listen (p : Plan) (host : Host) (x : σ) : σ × Except Fault Int :=
  let (x, previous) := e.takeSignals p x
  let adapter := (e.gateway x).adapter.display
  let x := e.say ⟨.info, "Starting Ruuvi gateway on adapter " ++ adapter, none⟩ x
  let (x, outcome) := e.join (e.stop (e.wait (e.start x)))
  let (x, _) := e.setHandlers previous (e.note outcome x)
  let x := if p.serves then e.closeEndpoint x else x
  e.conclude host (e.say ⟨.info, (e.gateway x).report (e.banned x), none⟩ x)

/-- Open the endpoint if the plan says so. A setting that cannot be read ends the run; an address
that cannot be bound gives the exit code. -/
def openEndpoint (p : Plan) (x : σ) : σ × Except Fault (Option Int) :=
  if p.serves then
    match (e.gateway x).settings.address, (e.gateway x).settings.port with
    | .ok address, .ok port =>
      match e.serve address (.int port) x with
      | (x, .ok ()) => (x, .ok none)
      | (x, .error f) =>
        if isSystemFault f then
          (e.say ⟨.error, "Cannot serve metrics on " ++ address.display ++ ":" ++ toString port ++
            ": " ++ f.message, none⟩ x, .ok (some 1))
        else (x, .error f)
    | .error f, _ | _, .error f => (x, .error f)
  else (x, .ok none)

/-- Run the gateway; gives the exit code. -/
def run (p : Plan) (host : Host) (x : σ) : σ × Except Fault Int :=
  match (e.gateway x).settings.blacklist with
  | .error f => (x, .error f)
  | .ok items =>
    match e.banAll items x with
    | (x, .error f) => (x, .error f)
    | (x, .ok ()) =>
      match e.openEndpoint p x with
      | (x, .error f) => (x, .error f)
      | (x, .ok (some code)) => (x, .ok code)
      | (x, .ok none) => e.listen p host x

end Surroundings

end TagGateway.Gateway
