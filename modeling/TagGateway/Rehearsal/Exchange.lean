import TagGateway.Bus.Router

/-!
# A scripted bus

The router at work on a bus whose replies are written in advance. The bus answers the calls about
match rules by itself; other calls take the next reply.

* `Exchange.perform` carries out a step; `Exchange.settle` tells the bus which rules it can drop.
-/

namespace TagGateway.Rehearsal

open TagGateway.Bus

/-- What a step asks of the router. -/
inductive BusStep
  | connect (fails : Bool)
  | disconnect
  | call (c : Call)
  | get (path interface name : String)
  | getAll (path interface : String)
  /-- Subscribe; the subscriber gives another subscription back, then fails. -/
  | subscribe (name : String) (route : Route) (unsubscribes : Option Int) (raises : Option String)
  | unsubscribe (ticket : Int)
  /-- The bus loses the link. -/
  | drop
  | signal (isSignal : Bool) (route : Route) (body : Value)

/-- What an onlooker sees at the bus. -/
inductive BusEvent
  | connect
  | addHandler
  | removeHandler
  | disconnect
  | message (m : Message)
  | received (name : String) (body : List Value)
  | notice (n : Notice)

/-- What a subscriber does when it is called. -/
structure Reaction where
  name : String
  unsubscribes : Option Int := none
  raises : Option String := none

/-- The router on its bus. -/
structure Exchange where
  router : Router := {}
  replies : List BusReply := []
  /-- The members that the bus refuses. -/
  refused : List String := []
  connectError : String := ""
  disconnectError : Option String := none
  /-- The reactions of subscribers, by ticket. -/
  reactions : List Reaction := []
  /-- Routes whose match rules are to be dropped. -/
  dropped : List Route := []
  /-- The name of the handler that reacts for the subscribers. -/
  handler : String := "handler"
  /-- Whether the bus hands signals to the router. -/
  handled : Bool := false
  trace : List BusEvent := []

namespace Exchange

/-- Show events. -/
def emit (x : Exchange) (events : List BusEvent) : Exchange :=
  { x with trace := x.trace ++ events }

/-- The reply of the bus to a member that has no reply written in advance. -/
def ownReply (x : Exchange) (member : String) : BusReply :=
  if x.refused.contains member then
    .failed (some "org.freedesktop.DBus.Error.AccessDenied") (.list [.text "denied"])
  else .returned (.list [])

/-- The reply to a member. -/
def reply (x : Exchange) (member : String) : Exchange × BusReply :=
  if member = "AddMatch" || member = "RemoveMatch" then (x, x.ownReply member)
  else
    match x.replies with
    | r :: rest => ({ x with replies := rest }, r)
    | [] => (x, x.ownReply member)

/-- Make a call. -/
def call (x : Exchange) (c : Call) : Exchange × Except Fault Value :=
  match x.router.message c with
  | .error fault => (x, .error fault)
  | .ok m =>
    let (x, reply) := (x.emit [.message m]).reply c.member
    (x, c.result reply)

/-- The ticket that a number stands for, counted from the end if it is negative. -/
def ticket? (x : Exchange) (i : Int) : Option Ticket :=
  let n : Int := x.router.subscribers.length
  let i := if i < 0 then n + i else i
  if 0 ≤ i && i < n then some i.toNat else none

/-- Give a subscription back. -/
def unsubscribe (x : Exchange) (i : Int) : Exchange × Option Fault :=
  match x.ticket? i with
  | none => (x, some (.noPlace .list))
  | some t =>
    let (router, dropped) := x.router.unsubscribe t
    ({ x with router, dropped := x.dropped ++ dropped.toList }, none)

/-- The receivers on the exchange. -/
def receivers : Receivers Exchange where
  router x := x.router
  report n x := x.emit [.notice n]
  call t body x :=
    match x.reactions[t]?, body.elements with
    | none, _ => (x, none)
    | _, .error _ => (x, some (.notArguments x.handler body.kind))
    | some r, .ok items =>
      let x := x.emit [.received r.name items]
      let (x, fault) := match r.unsubscribes with
        | some i => x.unsubscribe i
        | none => (x, none)
      match fault, r.raises with
      | some fault, _ => (x, some fault)
      | none, some message => (x, some (.other "RuntimeError" message))
      | none, none => (x, none)

/-- The first value of a result. -/
def first (result : Except Fault Value) : Except Fault Value := do (← result).item (.int 0)

/-- Set up the link. -/
def connect (x : Exchange) (fails : Bool) : Exchange × Except Fault Value :=
  if x.router.connected then (x, .ok .null)
  else if fails then
    ({ x with router := { x.router with link := none } }.emit [.connect],
      .error (.unreachable ("Failed to connect to the system bus: " ++ x.connectError)))
  else
    ({ x with router := x.router.opened, handled := true }.emit [.connect, .addHandler,
      .notice ⟨.debug, "Connected to system bus as :1.42", none⟩], .ok .null)

/-- Close the link. -/
def disconnect (x : Exchange) : Exchange :=
  let closed := { x with router := x.router.close }
  match x.router.link with
  | none => closed
  | some _ =>
    ({ closed with handled := false }.emit [.removeHandler, .disconnect]).emit
      (x.disconnectError.toList.map fun message =>
        .notice ⟨.warning, "Error closing system bus connection: " ++ message, none⟩)

/-- Carry out a step. -/
def perform (x : Exchange) : BusStep → Exchange × Except Fault Value
  | .connect fails => x.connect fails
  | .disconnect => (x.disconnect, .ok .null)
  | .call c => x.call c
  | .get path interface name =>
    let (x, result) := x.call
      { path, interface := propertiesInterface, member := "Get", signature := "ss",
        body := .list [.text interface, .text name] }
    (x, first result)
  | .getAll path interface =>
    let (x, result) := x.call
      { path, interface := propertiesInterface, member := "GetAll", signature := "s",
        body := .list [.text interface] }
    (x, first result)
  | .subscribe name route unsubscribes raises =>
    let (x, result) := x.call (.toBus "AddMatch" (route.rule x.router.service))
    match result with
    | .error fault => (x, .error fault)
    | .ok _ =>
      ({ x with
          router := x.router.subscribed route
          reactions := x.reactions ++ [{ name, unsubscribes, raises }] }, .ok .null)
  | .unsubscribe i =>
    match x.unsubscribe i with
    | (x, some fault) => (x, .error fault)
    | (x, none) => (x, .ok .null)
  | .drop => ({ x with router := x.router.lost }, .ok .null)
  | .signal isSignal route body =>
    (receivers.receive isSignal route body x, .ok .null)

/-- Tell the bus to drop a match rule; that it refuses is only noted. -/
def dropRule (x : Exchange) (route : Route) : Exchange :=
  match x.call (.toBus "RemoveMatch" (route.rule x.router.service)) with
  | (x, .ok _) => x
  | (x, .error fault) => x.emit [.notice ⟨.debug, "RemoveMatch failed: " ++ fault.message, none⟩]

/-- Tell the bus to drop all match rules that are no longer needed. -/
def settle (x : Exchange) : Exchange :=
  x.dropped.foldl dropRule { x with dropped := [] }

/-- A step, and all that follows from it; the events are taken off. -/
def play (x : Exchange) (step : BusStep) : Exchange × Except Fault Value × List BusEvent :=
  let (x, result) := x.perform step
  let x := x.settle
  ({ x with trace := [] }, result, x.trace)

/-- The routes with the number of their subscribers, in the order of their names. -/
def routes (x : Exchange) : List (Route × Nat) :=
  (x.router.routes.map fun (route, ts) => (route, ts.length)).mergeSort
    fun (a, _) (b, _) => !([b.path, b.interface, b.member] < [a.path, a.interface, a.member])

end Exchange

end TagGateway.Rehearsal
