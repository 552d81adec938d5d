import TagGateway.Rehearsal.Stage

/-!
# Rehearsals

An actor, a part of the gateway or the whole of it, on the stage of the scripted service.

* `Cast` says how an actor takes signals, advertisements and the steps that are its own.
* `World.perform` carries out a step, `World.ask` a request with the hooks that belong to it.
-/

namespace TagGateway.Rehearsal

open Bus

/-- An actor on its stage, and what an onlooker has seen. -/
structure World (σ : Type) where
  stage : Stage
  actor : σ
  events : List Event := []

/-- What an actor can do. -/
structure Cast (σ : Type) where
  /-- Take a signal through a subscription for a topic, or fail to. -/
  signal : σ → Topic → List Value → Except Fault (σ × List Event) := fun a _ _ => .ok (a, [])
  /-- Receive an advertisement. -/
  receive : σ → Advertisement → σ × List Event × Except Fault Unit :=
    fun a r => (a, [.packet r], .ok ())
  /-- Whether packets of a path would be passed on. -/
  tracks : σ → String → Bool := fun _ _ => false
  /-- Carry out a step of its own. -/
  act : World σ → Step → World σ × Except Fault Outcome := fun w _ => (w, .ok .nothing)

namespace World

variable {σ : Type}

/-- Note what was seen. -/
def see (w : World σ) (es : List Event) : World σ := { w with events := w.events ++ es }

/-- Carry out the effects of an operation. -/
def apply (w : World σ) (effects : List Effect) : World σ :=
  effects.foldl
    (fun w e =>
      match e with
      | .notice n => w.see [.notice n]
      | .unsubscribe t =>
        match w.stage.subscriptions[t]? with
        | some x =>
          { w with stage := w.stage.unsubscribe t }.see
            [.unsubscribe x.path x.interface x.member]
        | none => w)
    w

/-- Send a signal through subscriptions, up to the first that fails to take it. -/
def sendTo (c : Cast σ) (body : Value) (w : World σ) : List Topic → World σ × Except Fault Unit
  | [] => (w, .ok ())
  | topic :: rest =>
    match topic.arguments body >>= c.signal w.actor topic with
    | .error f => (w, .error f)
    | .ok (actor, es) => sendTo c body ({ w with actor }.see es) rest

/-- Send a signal to all that have subscribed to it, and count them. -/
def send (c : Cast σ) (w : World σ) (path interface member : String) (body : Value) :
    World σ × Except Fault Nat :=
  let topics := w.stage.subscribers path interface member
  let (w, r) := w.sendTo c body topics
  (w, r.map fun _ => topics.length)

mutual

/-- Carry out a step. -/
def perform (c : Cast σ) (w : World σ) : Step → World σ × Except Fault Outcome
  | .signal path interface member body =>
    let (w, r) := w.send c path interface member body
    (w, r.map fun n => .value (.int n))
  | .setProperties path props =>
    ({ w with stage := w.stage.setProperties path props }, .ok .nothing)
  | .unsetProperty path name =>
    ({ w with stage := w.stage.unsetProperty path name }, .ok .nothing)
  | .dropDevice path => ({ w with stage := w.stage.dropDevice path }, .ok .nothing)
  | .failCalls member times =>
    ({ w with stage := { w.stage with failing := Assoc.put member times w.stage.failing } },
      .ok .nothing)
  | .raise f => (w, .error f)
  | .batch steps =>
    let (w, r) := performAll c w steps
    (w, r.map .batch)
  | .track path steps =>
    let held := c.tracks w.actor path
    let (w, r) := performAll c w steps
    (w, r.map (.tracked held))
  | s => c.act w s

/-- Carry out steps up to the first that raises a fault. -/
def performAll (c : Cast σ) (w : World σ) : List Step → World σ × Except Fault (List Outcome)
  | [] => (w, .ok [])
  | s :: rest =>
    match perform c w s with
    | (w, .error f) => (w, .error f)
    | (w, .ok o) =>
      let (w, r) := performAll c w rest
      (w, r.map (o :: ·))

end

/-- Run the hooks of an event. -/
def runHooks (c : Cast σ) (w : World σ) (event : String) : World σ × Except Fault Unit :=
  let (stage, steps) := w.stage.takeHooks event
  let (w, r) := { w with stage }.performAll c steps
  (w, r.map fun _ => ())

/-- Run the hooks of an event, then answer unless one of them raised a fault. -/
def answerAfter (c : Cast σ) (w : World σ) (event : String) (answer : World σ → World σ × Reply) :
    World σ × Reply :=
  match w.runHooks c event with
  | (w, .error f) => (w, .error f)
  | (w, .ok ()) => answer w

/-- Carry out a request. -/
def ask (c : Cast σ) (w : World σ) (r : Request) : World σ × Reply :=
  match r with
  | .connect =>
    let w := w.see [.connect]
    match w.stage.connectFault with
    | some f => (w, .error f)
    | none => w.answerAfter c "connect" fun w => (w, .done)
  | .disconnect => ({ w with stage := w.stage.unsubscribeAll }.see [.disconnect], .done)
  | .call path interface member signature body =>
    (w.see [.call path interface member signature body]).answerAfter c member fun w =>
      let (stage, reply) := w.stage.answerCall path interface member body
      ({ w with stage }, reply)
  | .subscribe path interface member topic =>
    (w.see [.subscribe path interface member]).answerAfter c Stage.subscribing fun w =>
      let (stage, reply) := w.stage.answerSubscribe path interface member topic
      ({ w with stage }, reply)
  | .sleep duration =>
    (w.see [.sleep duration]).answerAfter c "sleep" fun w => (w, .done)
  | .deliver a =>
    let (actor, es, r) := c.receive w.actor a
    let w := { w with actor }.see es
    match r with
    | .error f => (w, .error f)
    | .ok () => w.answerAfter c "callback" fun w => (w, .done)

end World

/-- What a step gave back and showed, and the world after it. The outcome is left out where a
step has none. -/
structure Record (σ : Type) where
  label : String
  outcome : Option (Except Fault Outcome)
  world : World σ

/-- Carry out labelled steps one by one, each with the events that it alone shows. -/
def World.record {σ : Type} (run : World σ → Step → World σ × Except Fault Outcome) :
    World σ → List (String × Step) → List (Record σ)
  | _, [] => []
  | w, (label, s) :: rest =>
    let (w, r) := run { w with events := [] } s
    ⟨label, some r, w⟩ :: record run w rest

end TagGateway.Rehearsal
