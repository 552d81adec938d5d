import TagGateway.Gateway.Run
import TagGateway.Rehearsal.Run

/-!
# Rehearsals of the gateway

The gateway with its listener on the stage. A run of the gateway takes steps off the script while
it waits; the step in progress when the run ends shows all that happens up to its end.

* `Shift.surroundings` is what a run works with on the stage.
* `Shift.play` carries out a script.
-/

namespace TagGateway.Rehearsal

open Bus

/-- The gateway as the receiver of a listener. -/
abbrev Service := Player Gateway

/-- The metrics endpoint by itself, on a host that lets it bind its address or not. -/
def Endpoint.deed : Metrics.Endpoint.Deed → Event
  | .serve port address => .serve port address
  | .shutdown => .serverShutdown
  | .close => .serverClose
  | .join => .serverJoin

/-- How the gateway takes advertisements and steps of its own; the host has these readings. -/
def attendant (readings : Metrics.Readings) : Reception Gateway where
  receive g a :=
    let (g, notices, r) := g.handle a
    (g, notices.map .notice, r)
  act w s :=
    let g := w.actor.receiver
    let set (w : World Service) (g : Gateway) : World Service :=
      { w with actor := { w.actor with receiver := g } }
    match s with
    | .packet d =>
      let (g, notices, r) := g.handleDraft d
      ((set w g).see (notices.map .notice), r.map fun _ => .nothing)
    | .shutdown => (set w g.requestShutdown, .ok .nothing)
    | .hostSignal number =>
      match g.takeSignal number with
      | .ok (g, n) => ((set w g).see [.notice n], .ok .nothing)
      | .error f => (w, .error f)
    | .metrics =>
      let (g, families, notices) := g.scrape readings
      ((set w g).see (notices.map .notice),
        .ok (.samples (Metrics.sortSamples (families.flatMap (·.samples)))))
    | _ => (w, .ok .nothing)

/-- A script being carried out on the gateway, with the step in progress. -/
structure Shift where
  world : World Service
  script : List (String × Step)
  readings : Metrics.Readings
  /-- Why the address of the endpoint cannot be bound, if it cannot. -/
  serveFault : Option Fault := none
  handlers : Gateway.SignalHandlers := fun _ => .host
  label : String := ""
  outcome : Option (Except Fault Outcome) := none
  /-- The listener is at work, or has been. -/
  begun : Bool := false
  /-- The result of the listener, once it has ended. -/
  ended : Option (Except Fault Unit) := none
  records : List (Record Service) := []

namespace Shift

/-- How the gateway of a shift takes what comes. -/
def reception (x : Shift) : Reception Gateway := attendant x.readings

/-- The gateway of a shift. -/
def gateway (x : Shift) : Gateway := x.world.actor.receiver

/-- Change the gateway of a shift. -/
def update (f : Gateway → Gateway) (x : Shift) : Shift :=
  { x with world := { x.world with actor :=
    { x.world.actor with receiver := f x.world.actor.receiver } } }

/-- Show what was seen. -/
def see (x : Shift) (es : List Event) : Shift := { x with world := x.world.see es }

/-- Put the step in progress on record. -/
def close (x : Shift) : Shift :=
  { x with
    records := x.records ++ [⟨x.label, x.outcome, x.world⟩]
    world := Player.fresh x.world }

/-- Whether a run of the gateway has nothing to wait for any more. -/
def isOver (x : Shift) : Bool := x.ended.isSome || x.gateway.ending

/-- Carry out steps while the listener runs. A script that ends asks for a shutdown. -/
def attend (x : Shift) : List (String × Step) → Shift
  | [] =>
    { x.close.update Gateway.requestShutdown with label := "end", outcome := none, script := [] }
  | (label, s) :: rest =>
    let x := x.close
    let (world, r) := x.world.perform (Player.cast x.reception) s
    let (world, ended) := Player.settle x.reception world
    let x := { x with world, ended, label, outcome := some r, script := rest }
    if x.isOver then x else attend x rest

/-- Ask the listener of a shift to stop. -/
def stop (x : Shift) : Shift :=
  { x with world := Player.set x.world x.world.actor.listener.stop [] }

/-- Have the listener work until it waits or ends. -/
def begin (x : Shift) : Shift :=
  let (world, ended) := Player.begin x.reception x.world
  { x with world, ended, begun := true }

/-- Start the listener. If a shutdown is requested already, its thread gets its turn only when it is
waited for. -/
def start (x : Shift) : Shift := if x.gateway.ending then { x with begun := false } else x.begin

/-- Carry out steps until the listener has ended or a shutdown is requested. -/
def wait (x : Shift) : Shift := if x.isOver then x else x.attend x.script

/-- Wait for the end of the listener. -/
def join (x : Shift) : Shift × Option (Except Fault Unit) :=
  let x := if x.begun then x else x.begin
  match x.ended with
  | some r => (x, some r)
  | none =>
    let (world, ended) := Player.settle x.reception x.world
    ({ x with world, ended }, ended)

/-- Have the listener ignore an address. -/
def ban (mac : String) (x : Shift) : Shift × Except Fault Unit :=
  match x.world.actor.listener.ban (.text mac) with
  | .error f => (x, .error f)
  | .ok (l, effects) => ({ x with world := Player.set x.world l effects }, .ok ())

/-- Open the endpoint. -/
def serve (address port : Value) (x : Shift) : Shift × Except Fault Unit :=
  let bound := match x.serveFault with
    | some f => .error f
    | none => .ok ()
  let (endpoint, deed, r) := x.gateway.endpoint.serve address port bound
  let x := (x.update fun g => { g with endpoint }).see [Endpoint.deed deed]
  match r with
  | .ok n => (x.see [.notice n], .ok ())
  | .error f => (x, .error f)

/-- Close the endpoint. -/
def closeEndpoint (x : Shift) : Shift :=
  let (endpoint, deeds, notices) := x.gateway.endpoint.shutdown
  (x.update fun g => { g with endpoint }).see
    (deeds.map Endpoint.deed ++ notices.map .notice)

/-- What a run works with on the stage. -/
def surroundings : Gateway.Surroundings Shift where
  gateway := gateway
  update := update
  banned x := x.world.actor.listener.roster.blacklist.size
  ban := ban
  serve := serve
  closeEndpoint := closeEndpoint
  handle n h x := ({ x with handlers := x.handlers.set n h }, x.handlers n)
  start := start
  wait := wait
  stop := stop
  join := join
  say n x := x.see [.notice n]

/-- Run the gateway as the step in progress, and put its exit on record. -/
def runGateway (plan : Gateway.Plan) (host : Host) (x : Shift) : Shift :=
  let (x, code) := surroundings.run plan host x
  let x := { x.close with label := "exit", outcome := some (code.map fun n => .value (.int n)) }
  { x.close with ended := none }

/-- Carry out the next steps of a script, at most so many. -/
def playFor (plan : Gateway.Plan) (host : Host) : Nat → Shift → Shift
  | 0, x => x
  | fuel + 1, x =>
    match x.script with
    | [] => x
    | (label, .start) :: rest =>
      playFor plan host fuel
        (runGateway plan host { x with label, outcome := none, script := rest })
    | (label, s) :: rest =>
      let (world, r) := x.world.perform (Player.idleCast x.reception) s
      playFor plan host fuel
        { x with world, label, outcome := some r, script := rest }.close

/-- Carry out a script. -/
def play (plan : Gateway.Plan) (host : Host) (x : Shift) : List (Record Service) :=
  (playFor plan host x.script.length x).records

end Shift

/-! ## The endpoint alone -/

/-- A step with the endpoint. -/
inductive EndpointStep
  | serve (address port : Value)
  | shutdown

/-- Carry out a step with the endpoint; its address cannot be bound if there is a fault. -/
def playEndpoint (serveFault : Option Fault) (e : Metrics.Endpoint) :
    EndpointStep → Metrics.Endpoint × List Event × Except Fault Unit
  | .serve address port =>
    let bound := match serveFault with
      | some f => .error f
      | none => .ok ()
    match e.serve address port bound with
    | (e, deed, .ok n) => (e, [Endpoint.deed deed, .notice n], .ok ())
    | (e, deed, .error f) => (e, [Endpoint.deed deed], .error f)
  | .shutdown =>
    let (e, deeds, notices) := e.shutdown
    (e, deeds.map Endpoint.deed ++ notices.map .notice, .ok ())

end TagGateway.Rehearsal
