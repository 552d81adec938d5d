import TagGateway.Proofs.Discovery.Step

/-!
# Sessions of a controller

A controller together with a log of its present run. Between two moves of the controller it may be
told to stop and items may be posted, at any time and from anywhere.

* `Discovery.Session` — the controller, the log since the last accepted start, and the result of the
  run once it has one.
* `Discovery.Session.perform` — one happening; `Discovery.Session.run` — a sequence of them.
* `Discovery.calls`, `Discovery.begun`, `Discovery.endings`, `Discovery.answers` — what is read off
  a log.
-/

namespace TagGateway

open Bus

namespace Discovery

/-- How far a run has come. -/
inductive Stage
  /-- Not at the queue yet. -/
  | ahead
  /-- At the queue, with no handler under way. -/
  | idle
  /-- At the queue, with a handler under way. -/
  | busy
  /-- Done with the queue. -/
  | stopping
  /-- Disconnecting, or no run. -/
  | done
deriving DecidableEq, Repr

/-- The stage of a phase. -/
def Phase.stage {ε : Type} : Phase ε → Stage
  | .off | .disconnecting _ => .done
  | .connecting | .watching | .preparing | .filtering | .starting | .retrying _ => .ahead
  | .waiting => .idle
  | .recovering _ | .handling _ _ => .busy
  | .stopping => .stopping

variable {ε : Type}

/-- What may happen to a controller. -/
inductive Happening (ε : Type)
  | start
  | stop
  | post (name : String) (e : ε)
  | adapterChange (interface changed : Value)
  /-- What the controller waits for has arrived. -/
  | reply (r : Reply)
  /-- The controller takes the next item. -/
  | wake

/-- An entry of a log. -/
inductive Mark (ε : Type)
  | posted (item : Item ε)
  /-- A stop was requested, by anyone or by the run itself. -/
  | stopped
  /-- The run has reached the queue. -/
  | opened
  | begun (item : Item ε)
  | ended
  | asked (q : Request)
  | answered (q : Request) (r : Reply)
  /-- The setup has ended. -/
  | prepared (r : Reply)

/-- Whether an item is a stop. -/
def Item.isStop : Item ε → Bool
  | .stop => true
  | _ => false

/-- The entries for a reply. -/
def replyMarks (d : Discovery ε) (r : Reply) : List (Mark ε) :=
  match d.pending with
  | .reply q => [.answered q r]
  | .setup => [.prepared r]
  | _ => []

/-- The entries for the item that is taken from the queue. -/
def itemMarks (d : Discovery ε) : List (Mark ε) :=
  (d.queue.head?.toList.filter fun item => !item.isStop).map .begun

/-- The entry for a stop that a move requests. -/
def stopMarks (d d' : Discovery ε) : List (Mark ε) :=
  if d'.stopRequested = d.stopRequested then [] else [.stopped]

/-- The entry for a move that comes to the queue. -/
def queueMarks (d d' : Discovery ε) : List (Mark ε) :=
  if d'.phase.stage = .idle then [if d.phase.stage = .ahead then .opened else .ended] else []

/-- The entry for a request that is made. -/
def askMarks (d : Discovery ε) : List (Mark ε) :=
  match d.pending with
  | .reply q => [.asked q]
  | _ => []

/-- The entries for a move from one controller to the next. -/
def moveMarks (d d' : Discovery ε) : List (Mark ε) :=
  stopMarks d d' ++ queueMarks d d' ++ askMarks d'

/-- A controller with the log of its present run. -/
structure Session (ε : Type) where
  controller : Discovery ε
  log : List (Mark ε) := []
  /-- The result of the run, once it is over. -/
  result : Option (Except Fault Unit) := none

namespace Session

/-- The session after a move of its controller. -/
def move (s : Session ε) (marks : List (Mark ε)) (m : Move ε) : Session ε :=
  { controller := m.1
    log := s.log ++ marks ++ moveMarks s.controller m.1
    result := m.2.2 }

/-- Something happens. A start that is refused changes nothing, and the controller moves only when
what it waits for has arrived. -/
def perform (s : Session ε) : Happening ε → Session ε
  | .start =>
    match s.controller.start with
    | .ok d => { controller := d, log := [.asked .connect] }
    | .error _ => s
  | .stop => { s with controller := s.controller.stop, log := s.log ++ [.stopped] }
  | .post name e =>
    { s with
      controller := (s.controller.post name e).1
      log := s.log ++ [.posted (.event name e)] }
  | .adapterChange interface changed =>
    { s with
      controller := (s.controller.postAdapterChange interface changed).1
      log := s.log ++ [.posted (.adapterChanged interface changed)] }
  | .reply r =>
    if s.controller.takesReply then s.move (s.controller.replyMarks r) (s.controller.resume r)
    else s
  | .wake =>
    if s.controller.hasItem then s.move s.controller.itemMarks s.controller.wake else s

/-- All that happens, in order. -/
def run (s : Session ε) (happenings : List (Happening ε)) : Session ε :=
  happenings.foldl perform s

end Session

/-! ## Logs -/

/-- The items that were put to the run, stops among them, in order. -/
def calls (log : List (Mark ε)) : List (Item ε) :=
  log.filterMap fun
    | .posted item => some item
    | .stopped => some .stop
    | _ => none

/-- The items that are to be handled: those before the first stop. -/
def due (log : List (Mark ε)) : List (Item ε) := (calls log).takeWhile fun item => !item.isStop

/-- The items whose handling has begun, in order. -/
def begun (log : List (Mark ε)) : List (Item ε) :=
  log.filterMap fun
    | .begun item => some item
    | _ => none

/-- How often the handling of an item has ended. -/
def endings (log : List (Mark ε)) : Nat :=
  log.countP fun
    | .ended => true
    | _ => false

/-- Whether the run has reached the queue. -/
def isOpened (log : List (Mark ε)) : Bool :=
  log.any fun
    | .opened => true
    | _ => false

/-- The requests that were answered, with their replies, in order. -/
def answers (log : List (Mark ε)) : List (Request × Reply) :=
  log.filterMap fun
    | .answered q r => some (q, r)
    | _ => none

/-- The fault that connecting or the setup has raised. -/
def raised (log : List (Mark ε)) : Option Fault :=
  log.findSome? fun
    | .answered .connect (.error f) | .prepared (.error f) => some f
    | _ => none

@[simp] theorem calls_append (log more : List (Mark ε)) :
    calls (log ++ more) = calls log ++ calls more :=
  List.filterMap_append

@[simp] theorem begun_append (log more : List (Mark ε)) :
    begun (log ++ more) = begun log ++ begun more :=
  List.filterMap_append

@[simp] theorem endings_append (log more : List (Mark ε)) :
    endings (log ++ more) = endings log + endings more :=
  List.countP_append

@[simp] theorem isOpened_append (log more : List (Mark ε)) :
    isOpened (log ++ more) = (isOpened log || isOpened more) :=
  List.any_append

@[simp] theorem answers_append (log more : List (Mark ε)) :
    answers (log ++ more) = answers log ++ answers more :=
  List.filterMap_append

@[simp] theorem raised_append (log more : List (Mark ε)) :
    raised (log ++ more) = (raised log).or (raised more) :=
  List.findSome?_append

/-! ## The entries of a move -/

theorem stopMarks_cases (d d' : Discovery ε) :
    (d'.stopRequested = d.stopRequested ∧ stopMarks d d' = []) ∨
      (d'.stopRequested ≠ d.stopRequested ∧ stopMarks d d' = [.stopped]) := by
  unfold stopMarks
  by_cases h : d'.stopRequested = d.stopRequested
  · exact Or.inl ⟨h, if_pos h⟩
  · exact Or.inr ⟨h, if_neg h⟩

theorem queueMarks_cases (d d' : Discovery ε) :
    (d'.phase.stage ≠ .idle ∧ queueMarks d d' = []) ∨
      (d'.phase.stage = .idle ∧ d.phase.stage = .ahead ∧ queueMarks d d' = [.opened]) ∨
        (d'.phase.stage = .idle ∧ d.phase.stage ≠ .ahead ∧ queueMarks d d' = [.ended]) := by
  unfold queueMarks
  by_cases hidle : d'.phase.stage = .idle
  · by_cases hahead : d.phase.stage = .ahead
    · exact Or.inr (Or.inl ⟨hidle, hahead, by rw [if_pos hidle, if_pos hahead]⟩)
    · exact Or.inr (Or.inr ⟨hidle, hahead, by rw [if_pos hidle, if_neg hahead]⟩)
  · exact Or.inl ⟨hidle, if_neg hidle⟩

theorem askMarks_cases (d : Discovery ε) : askMarks d = [] ∨ ∃ q, askMarks d = [.asked q] := by
  unfold askMarks
  split
  · exact Or.inr ⟨_, rfl⟩
  · exact Or.inl rfl

/-- A move begins no handler, answers nothing and posts nothing but a stop. -/
theorem mem_moveMarks {d d' : Discovery ε} {m : Mark ε} (h : m ∈ moveMarks d d') :
    m = .stopped ∨ m = .opened ∨ m = .ended ∨ ∃ q, m = .asked q := by
  unfold moveMarks at h
  rcases List.mem_append.mp h with h | h
  · rcases List.mem_append.mp h with h | h
    · rcases stopMarks_cases d d' with ⟨-, heq⟩ | ⟨-, heq⟩
      · rw [heq] at h
        cases h
      · rw [heq] at h
        exact Or.inl (List.mem_singleton.mp h)
    · rcases queueMarks_cases d d' with ⟨-, heq⟩ | ⟨-, -, heq⟩ | ⟨-, -, heq⟩
      · rw [heq] at h
        cases h
      · rw [heq] at h
        exact Or.inr (Or.inl (List.mem_singleton.mp h))
      · rw [heq] at h
        exact Or.inr (Or.inr (Or.inl (List.mem_singleton.mp h)))
  · rcases askMarks_cases d' with heq | ⟨q, heq⟩
    · rw [heq] at h
      cases h
    · rw [heq] at h
      exact Or.inr (Or.inr (Or.inr ⟨q, List.mem_singleton.mp h⟩))

@[simp] theorem begun_moveMarks (d d' : Discovery ε) : begun (moveMarks d d') = [] := by
  refine List.filterMap_eq_nil_iff.mpr fun m hm => ?_
  rcases mem_moveMarks hm with rfl | rfl | rfl | ⟨q, rfl⟩ <;> rfl

@[simp] theorem answers_moveMarks (d d' : Discovery ε) : answers (moveMarks d d') = [] := by
  refine List.filterMap_eq_nil_iff.mpr fun m hm => ?_
  rcases mem_moveMarks hm with rfl | rfl | rfl | ⟨q, rfl⟩ <;> rfl

@[simp] theorem raised_moveMarks (d d' : Discovery ε) : raised (moveMarks d d') = none := by
  refine List.findSome?_eq_none_iff.mpr fun m hm => ?_
  rcases mem_moveMarks hm with rfl | rfl | rfl | ⟨q, rfl⟩ <;> rfl

/-- A move posts a stop exactly if it changes whether one was requested. -/
theorem calls_moveMarks (d d' : Discovery ε) :
    calls (moveMarks d d') = if d'.stopRequested = d.stopRequested then [] else [.stop] := by
  have hqueue : calls (queueMarks d d') = [] := by
    rcases queueMarks_cases d d' with ⟨-, heq⟩ | ⟨-, -, heq⟩ | ⟨-, -, heq⟩ <;> rw [heq] <;> rfl
  have hask : calls (askMarks d') = [] := by
    rcases askMarks_cases d' with heq | ⟨q, heq⟩ <;> rw [heq] <;> rfl
  rw [moveMarks, calls_append, calls_append, hqueue, hask, List.append_nil, List.append_nil]
  rcases stopMarks_cases d d' with ⟨h, heq⟩ | ⟨h, heq⟩
  · rw [heq, if_pos h]
    rfl
  · rw [heq, if_neg h]
    rfl

/-- A move ends a handler exactly if it comes back to the queue. -/
theorem endings_moveMarks (d d' : Discovery ε) :
    endings (moveMarks d d') =
      if d'.phase.stage = .idle ∧ d.phase.stage ≠ .ahead then 1 else 0 := by
  have hstop : endings (stopMarks d d') = 0 := by
    rcases stopMarks_cases d d' with ⟨-, heq⟩ | ⟨-, heq⟩ <;> rw [heq] <;> rfl
  have hask : endings (askMarks d') = 0 := by
    rcases askMarks_cases d' with heq | ⟨q, heq⟩ <;> rw [heq] <;> rfl
  rw [moveMarks, endings_append, endings_append, hstop, hask, Nat.zero_add, Nat.add_zero]
  rcases queueMarks_cases d d' with ⟨h, heq⟩ | ⟨-, h, heq⟩ | ⟨h, h', heq⟩
  · rw [heq, if_neg fun hc => h hc.1]
    rfl
  · rw [heq, if_neg fun hc => hc.2 h]
    rfl
  · rw [heq, if_pos ⟨h, h'⟩]
    rfl

/-- A move opens the queue exactly if it comes there for the first time. -/
theorem isOpened_moveMarks (d d' : Discovery ε) :
    isOpened (moveMarks d d') = decide (d'.phase.stage = .idle ∧ d.phase.stage = .ahead) := by
  have hstop : isOpened (stopMarks d d') = false := by
    rcases stopMarks_cases d d' with ⟨-, heq⟩ | ⟨-, heq⟩ <;> rw [heq] <;> rfl
  have hask : isOpened (askMarks d') = false := by
    rcases askMarks_cases d' with heq | ⟨q, heq⟩ <;> rw [heq] <;> rfl
  rw [moveMarks, isOpened_append, isOpened_append, hstop, hask, Bool.false_or, Bool.or_false]
  rcases queueMarks_cases d d' with ⟨h, heq⟩ | ⟨h, h', heq⟩ | ⟨-, h, heq⟩
  · rw [heq, decide_eq_false fun hc => h hc.1]
    rfl
  · rw [heq, decide_eq_true ⟨h, h'⟩]
    rfl
  · rw [heq, decide_eq_false fun hc => h hc.2]
    rfl

theorem replyMarks_cases (d : Discovery ε) (r : Reply) :
    (∃ q, d.pending = .reply q ∧ d.replyMarks r = [.answered q r]) ∨
      (d.pending = .setup ∧ d.replyMarks r = [.prepared r]) ∨ d.replyMarks r = [] := by
  unfold replyMarks
  cases d.pending with
  | reply q => exact Or.inl ⟨q, rfl, rfl⟩
  | setup => exact Or.inr (Or.inl ⟨rfl, rfl⟩)
  | nothing => exact Or.inr (Or.inr rfl)
  | handler e => exact Or.inr (Or.inr rfl)
  | item => exact Or.inr (Or.inr rfl)

/-- A reply puts nothing to the run, begins and ends no handler. -/
theorem replyMarks_silent (d : Discovery ε) (r : Reply) :
    calls (d.replyMarks r) = [] ∧ begun (d.replyMarks r) = [] ∧ endings (d.replyMarks r) = 0 ∧
      isOpened (d.replyMarks r) = false := by
  rcases d.replyMarks_cases r with ⟨q, -, heq⟩ | ⟨-, heq⟩ | heq <;> rw [heq] <;>
    exact ⟨rfl, rfl, rfl, rfl⟩

end Discovery

end TagGateway
