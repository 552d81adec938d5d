import TagGateway.Bus.Message
import TagGateway.Bus.Request

/-!
# Routing of signals

One link to the system bus carries all signals. Each subscription has a ticket; the table of
routes says which tickets a signal reaches, in the order in which they subscribed. A subscription
that is given back is inactive at once; the bus is told later.

* `Router.subscribed` and `Router.unsubscribe` keep the table; `Router.close` empties it.
* `deliver` hands a signal to its subscribers, whatever they do meanwhile; `receive` takes any
  message off the bus.
-/

namespace TagGateway.Bus

/-- A subscription: its route, and whether it is active. -/
structure Subscriber where
  route : Route
  active : Bool := true
deriving DecidableEq, Repr

/-- The link to the bus and the subscriptions on it. -/
structure Router where
  service : String := "org.bluez"
  /-- Whether the bus still holds the link; `none` without a link. -/
  link : Option Bool := none
  /-- All subscriptions so far, by ticket. -/
  subscribers : List Subscriber := []
  /-- The tickets that a signal reaches, by route. -/
  routes : List (Route × List Ticket) := []

namespace Router

/-- Whether messages can be sent. -/
def connected (r : Router) : Bool := r.link == some true

/-- Whether a subscription is active. -/
def isActive (r : Router) (t : Ticket) : Bool :=
  match r.subscribers[t]? with
  | some s => s.active
  | none => false

/-- The tickets that a signal reaches. -/
def targets (r : Router) (route : Route) : List Ticket := (Assoc.get? route r.routes).getD []

/-- The router with a new link. -/
def opened (r : Router) : Router := { r with link := some true }

/-- The router whose link the bus has lost. -/
def lost (r : Router) : Router := { r with link := r.link.map fun _ => false }

/-- Add a subscription that the bus has accepted. -/
def subscribed (r : Router) (route : Route) : Router :=
  let t := r.subscribers.length
  { r with
    subscribers := r.subscribers ++ [{ route }]
    routes := Assoc.put route (r.targets route ++ [t]) r.routes }

/-- Make a subscription inactive. -/
def deactivate (r : Router) (t : Ticket) : Router :=
  { r with subscribers := r.subscribers.modify t fun s => { s with active := false } }

/-- Take a ticket off its route; a route without tickets is dropped. -/
def unroute (r : Router) (route : Route) (t : Ticket) : Router :=
  match (r.targets route).erase t with
  | [] => { r with routes := Assoc.erase route r.routes }
  | rest => { r with routes := Assoc.put route rest r.routes }

/-- Give a subscription back; gives the route whose match rule the bus has to drop, if it can be
told. -/
def unsubscribe (r : Router) (t : Ticket) : Router × Option Route :=
  match r.subscribers[t]? with
  | some ⟨route, true⟩ =>
    ((r.deactivate t).unroute route t, if r.connected then some route else none)
  | _ => (r, none)

/-- Close the link; all subscriptions on routes become inactive. -/
def close (r : Router) : Router :=
  let routed := r.routes.flatMap (·.2)
  { routed.foldl deactivate r with link := none, routes := [] }

/-- The message of a call, if there is a link. -/
def message (r : Router) (c : Call) : Except Fault Message :=
  match r.link with
  | none => .error (c.fault ": not connected")
  | some _ => c.message r.service

end Router

/-- The receivers of signals: a state that holds the router, and what it does when a subscriber is
called or has failed. -/
structure Receivers (σ : Type) where
  router : σ → Router
  /-- Call a subscriber with a body; it may change anything, and may fail. -/
  call : Ticket → Value → σ → σ × Option Fault
  report : Notice → σ → σ

variable {σ : Type}

/-- Call a subscriber and report its failure. -/
def Receivers.callOne (h : Receivers σ) (route : Route) (body : Value) (s : σ) (t : Ticket) : σ :=
  match h.call t body s with
  | (s, none) => s
  | (s, some fault) =>
    h.report ⟨.error, "Signal handler for " ++ route.interface ++ "." ++ route.member ++ " on " ++
      route.path ++ " failed", some fault⟩ s

/-- Hand a signal to the subscribers that its route has now, in order. Each is called if it is
still active at its turn; the failure of one does not keep the signal from the others. -/
def Receivers.deliver (h : Receivers σ) (route : Route) (body : Value) (s : σ) : σ :=
  ((h.router s).targets route).foldl
    (fun s t => if (h.router s).isActive t then h.callOne route body.unwrap s t else s) s

/-- Take a message off the bus. Only a signal is handed on. -/
def Receivers.receive (h : Receivers σ) (isSignal : Bool) (route : Route) (body : Value) (s : σ) :
    σ :=
  if isSignal then h.deliver route body s else s

end TagGateway.Bus
