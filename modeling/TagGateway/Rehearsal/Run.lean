import TagGateway.Listener
import TagGateway.Rehearsal.World

/-!
# Rehearsals of the listener

A listener on the stage, with a receiver of its advertisements. Steps of a script that come while
it runs wait until it has nothing left to do.

* `Player.settle` drives a run until it waits for an event that is not there, or ends.
* `Player.play` carries out a script; the end of a run is a record of its own.
-/

namespace TagGateway.Rehearsal

open Bus

/-- What a posted handler does: it has a name and carries out steps. -/
abbrev Handler := String × List Step

/-- A listener and its receiver, and how far the current run has come. -/
structure Player (ρ : Type) where
  listener : Listener Handler
  receiver : ρ
  /-- The service was reached. -/
  connected : Bool := false
  /-- The run has let others go on: it has slept or has waited for events. -/
  paused : Bool := false

/-- How a receiver takes advertisements, and the steps that are its own. -/
structure Reception (ρ : Type) where
  receive : ρ → Advertisement → ρ × List Event × Except Fault Unit
  act : World (Player ρ) → Step → World (Player ρ) × Except Fault Outcome :=
    fun w _ => (w, .ok .nothing)

namespace Player

variable {ρ : Type}

/-- A listener seen by the onlooker: notices are events, subscriptions are given back. -/
def set (w : World (Player ρ)) (listener : Listener Handler) (effects : List Effect) :
    World (Player ρ) :=
  { w with actor := { w.actor with listener } }.apply effects

/-- Carry out a step of the listener that takes no time. A start inside a run is refused. -/
def act (t : Reception ρ) (w : World (Player ρ)) (s : Step) :
    World (Player ρ) × Except Fault Outcome :=
  let l := w.actor.listener
  match s with
  | .stop => (set w l.stop [], .ok .nothing)
  | .ban mac =>
    match l.ban mac with
    | .error f => (w, .error f)
    | .ok (l, effects) => (set w l effects, .ok .nothing)
  | .post name steps =>
    let (l, effects) := l.post name (.foreign (name, steps))
    (set w l effects, .ok .nothing)
  | .start =>
    let (l, effects, r) := l.start
    match r with
    | .error f => (set w l effects, .error f)
    | .ok () => (w, .ok .nothing)
  | s => t.act w s

/-- A signal reaches the listener; what it has to say is seen. -/
def signal (p : Player ρ) (topic : Topic) (body : List Value) :
    Except Fault (Player ρ × List Event) := do
  let (listener, effects) ← p.listener.signal topic body
  return ({ p with listener }, effects.filterMap fun
    | .notice n => some (.notice n)
    | .unsubscribe _ => none)

/-- A listener with its receiver as an actor. -/
def cast (t : Reception ρ) : Cast (Player ρ) where
  signal := signal
  receive p a :=
    let (receiver, es, r) := t.receive p.receiver a
    ({ p with receiver }, es, r)
  act := act t

/-- Note how far the run has come. -/
def mark (p : Player ρ) : Player ρ :=
  match p.listener.discovery.phase with
  | .off | .connecting => p
  | .waiting => { p with connected := true, paused := true }
  | _ => { p with connected := true }

/-- Take the move that a listener has made. -/
def take (w : World (Player ρ)) (m : Listener.Move Handler) :
    World (Player ρ) × Option (Except Fault Unit) :=
  let (l, effects, result) := m
  let w := set w l effects
  ({ w with actor := w.actor.mark }, result)

/-- Carry out what a posted handler does. -/
def carryOut (t : Reception ρ) (w : World (Player ρ)) (h : Handler) : World (Player ρ) × Reply :=
  let (w, r) := (w.see [.handled h.1]).performAll (cast t) h.2
  (w, r.map fun _ => {})

/-- Note a request that has been answered: a sleep lets others go on. -/
def noteReply (w : World (Player ρ)) (r : Request) (reply : Reply) : World (Player ρ) :=
  match r, reply with
  | .sleep _, .ok _ => { w with actor := { w.actor with paused := true } }
  | _, _ => w

/-- Make one move, if there is one to make: give what the listener waits for. -/
def advance (t : Reception ρ) (w : World (Player ρ)) :
    Option (World (Player ρ) × Option (Except Fault Unit)) :=
  match w.actor.listener.pending with
  | .nothing => none
  | .reply r =>
    let (w, reply) := w.ask (cast t) r
    let w := noteReply w r reply
    some (take w (w.actor.listener.resume reply))
  | .foreign h =>
    let (w, reply) := carryOut t w h
    some (take w (w.actor.listener.resume reply))
  | .item => if w.actor.listener.hasItem then some (take w w.actor.listener.wake) else none

/-- Whoever watches for idleness posts an event to be told, as soon as the run lets others go on.
When the run ended before, that event is dropped, which is noticed. -/
def watcherDropped (p : Player ρ) : List Event :=
  if p.connected && !p.paused then
    [.notice ⟨.debug, "Dropping event for barrier, loop not running", none⟩]
  else []

/-- Make moves until there is none left or the run has ended. -/
def settleFor (t : Reception ρ) :
    Nat → World (Player ρ) → World (Player ρ) × Option (Except Fault Unit)
  | 0, w => (w, none)
  | fuel + 1, w =>
    match advance t w with
    | none => (w, none)
    | some (w, some result) => (w, some result)
    | some (w, none) => settleFor t fuel w

/-- The number of moves after which a rehearsal is given up. -/
def patience : Nat := 1000000

/-- Make moves until there is none left or the run has ended. -/
def settle (t : Reception ρ) (w : World (Player ρ)) :
    World (Player ρ) × Option (Except Fault Unit) :=
  settleFor t patience w

/-- Begin a run that no one watches and drive it until it waits or ends. -/
def launch (t : Reception ρ) (w : World (Player ρ)) :
    World (Player ρ) × Option (Except Fault Unit) :=
  let (l, effects, r) := w.actor.listener.start
  let w := set { w with actor := { w.actor with connected := false, paused := false } } l effects
  match r with
  | .error f => (w, some (.error f))
  | .ok () => settle t w

/-- Begin a run and drive it until it waits or ends. -/
def begin (t : Reception ρ) (w : World (Player ρ)) :
    World (Player ρ) × Option (Except Fault Unit) :=
  match launch t w with
  | (w, none) => (w, none)
  | (w, some r) => (w.see w.actor.watcherDropped, some r)

/-- Steps while no run is under way. A start among several steps has no one to watch it and nothing
that could end it but a fault. -/
def idle (t : Reception ρ) (w : World (Player ρ)) (s : Step) :
    World (Player ρ) × Except Fault Outcome :=
  match s with
  | .start =>
    match launch t w with
    | (w, some r) => (w, r.map fun _ => .nothing)
    | (w, none) => (w, .ok .nothing)
  | s => act t w s

/-- A listener that no run is under way of, with its receiver, as an actor. -/
def idleCast (t : Reception ρ) : Cast (Player ρ) := { cast t with act := idle t }

/-- A world in which nothing has been seen yet. -/
def fresh (w : World (Player ρ)) : World (Player ρ) := { w with events := [] }

/-- The records of a step that may have ended the run, and whether a run goes on. -/
def close (label : String) (outcome : Option (Except Fault Outcome)) (w : World (Player ρ))
    (ended : Option (Except Fault Outcome)) : List (Record (Player ρ)) × Bool :=
  match ended with
  | none => ([⟨label, outcome, w⟩], true)
  | some result => ([⟨label, outcome, w⟩, ⟨"exit", some result, fresh w⟩], false)

/-- The result of a run as an outcome. -/
def runOutcome (r : Except Fault Unit) : Except Fault Outcome := r.map fun _ => .nothing

/-- Carry out a script, step by step; `running` tells whether a run is under way. A run that is
still under way at the end is stopped. -/
def play (t : Reception ρ) :
    Bool → World (Player ρ) → List (String × Step) → List (Record (Player ρ))
  | false, _, [] => []
  | true, w, [] =>
    let w := fresh w
    let (w, ended) := settle t (set w w.actor.listener.stop [])
    (close "end" none w (ended.map runOutcome)).1
  | running, w, (label, s) :: rest =>
    let w := fresh w
    match running, s with
    | false, .start =>
      let (w, ended) := begin t w
      let (records, running) := close label none w (ended.map runOutcome)
      records ++ play t running w rest
    | false, s =>
      let (w, r) := w.perform (idleCast t) s
      ⟨label, some r, w⟩ :: play t false w rest
    | true, s =>
      let (w, r) := w.perform (cast t) s
      let (w, ended) := settle t w
      let (records, running) := close label (some r) w (ended.map runOutcome)
      records ++ play t running w rest

/-- A receiver that only shows what it gets. -/
def onlooker : Reception Unit where
  receive _ a := ((), [.packet a], .ok ())

end Player

end TagGateway.Rehearsal
