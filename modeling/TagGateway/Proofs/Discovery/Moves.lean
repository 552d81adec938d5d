import TagGateway.Proofs.Discovery.Dispatch
import TagGateway.Proofs.Roster.Admission

/-!
# What the moves of a controller leave alone

Whatever moves a controller, it gives no subscription back; and a move that handles no event leaves
the events that wait.

* `Discovery.events` — the events in the queue.
* `Discovery.Moves` — a move that handles no event; `Discovery.Resumed.events`,
  `Discovery.Resumed.phase_running`, `Discovery.Resumed.linked`, `Discovery.Resumed.setUp` and
  `Discovery.Resumed.live` — that those on a reply are such.
* `Discovery.resume_tickets`, `Discovery.wake_tickets` — nothing is given back.
-/

namespace TagGateway

open Bus

/-! ## Effects that give nothing back -/

namespace Bus.Effect

@[simp] theorem tickets_nil : tickets [] = [] := rfl

@[simp] theorem tickets_cons_notice (n : Notice) (effects : List Effect) :
    tickets (.notice n :: effects) = tickets effects := rfl

@[simp] theorem tickets_cons_say (level : Level) (message : String) (effects : List Effect) :
    tickets (.say level message :: effects) = tickets effects := rfl

@[simp] theorem tickets_append (effects more : List Effect) :
    tickets (effects ++ more) = tickets effects ++ tickets more :=
  List.filterMap_append

end Bus.Effect

/-! ## Moves of discovery -/

namespace Discovery

variable {ε : Type} {d d' : Discovery ε}

/-- The event that an item of the queue is. -/
def Item.event? : Item ε → Option ε
  | .event _ e => some e
  | _ => none

/-- The events that wait to be handled, in order. -/
def events (d : Discovery ε) : List ε := d.queue.filterMap Item.event?

/-- Whether a phase comes after the setup of a run and before its disconnection. -/
def Phase.isSetUp : Phase ε → Bool
  | .off | .connecting | .watching | .preparing | .disconnecting _ => false
  | .filtering | .starting | .retrying _ | .waiting | .recovering _ | .handling _ _ | .stopping =>
    true

/-- A move that handles no event leaves those that wait. It neither begins nor ends a run, brings
none to life, and passes no setup over. -/
structure Moves (d d' : Discovery ε) : Prop where
  events : d'.events = d.events
  live : d'.isLive = true → d.isLive = true
  handling : ∀ name e, d'.phase ≠ .handling name e
  running : d'.phase ≠ .off ∧ d'.phase ≠ .connecting
  linked : ∀ outcome, d.phase ≠ .disconnecting outcome
  setUp : d'.phase.isSetUp = true → d.phase.isSetUp = true ∨ d.phase = .preparing

theorem events_givenUp (d : Discovery ε) : d.givenUp.events = d.events := by
  simp [events, givenUp, Item.event?]

theorem events_broken (d : Discovery ε) (inside : Bool) (f : Fault) :
    (d.broken inside f).events = d.events := by
  unfold broken
  split <;> rfl

theorem Attempted.events {inside : Bool} {times backoff : Value} {attempt : Nat}
    (h : Attempted d inside times backoff attempt d') : d'.events = d.events := by
  cases h with
  | unreadable f hf => exact d.events_broken inside f
  | sleeps n hn hle => rfl
  | stopped n hn hlt hstop => rfl
  | givenUp n hn hlt hstop => exact d.events_givenUp

theorem RetryResumed.events {inside : Bool} {r : Retry} {reply : Reply}
    (h : RetryResumed d inside r reply d') : d'.events = d.events := by
  cases h with
  | sleepFailed f hcalling hreply => exact d.events_broken inside f
  | abandoned a hcalling hreply hstop => rfl
  | calls a hcalling hreply hstop => rfl
  | restarted a hcalling hreply => rfl
  | callFailed f d' hcalling hreply hf hattempted => exact hattempted.events
  | callBroken f hcalling hreply hf => exact d.events_broken inside f

theorem Resumed.events {reply : Reply} {result : Option (Except Fault Unit)}
    (h : Resumed d reply d' result) : d'.events = d.events := by
  cases h with
  | refused f d' hphase hreply hf hattempted => exact hattempted.events
  | retried inside r d' hphase hresumed => exact hresumed.events
  | _ => rfl

/-! ## Phases -/

theorem isSetUp_retryPhase (inside : Bool) (r : Retry) :
    (retryPhase inside r : Phase ε).isSetUp = true := by
  cases inside <;> rfl

theorem Attempted.phase_running {inside : Bool} {times backoff : Value} {attempt : Nat}
    (h : Attempted d inside times backoff attempt d') :
    d'.phase ≠ .off ∧ d'.phase ≠ .connecting := by
  cases h <;> cases inside <;> exact ⟨nofun, nofun⟩

theorem RetryResumed.phase_running {inside : Bool} {r : Retry} {reply : Reply}
    (h : RetryResumed d inside r reply d') : d'.phase ≠ .off ∧ d'.phase ≠ .connecting := by
  cases h with
  | callFailed f d' hcalling hreply hf hattempted => exact hattempted.phase_running
  | _ => cases inside <;> exact ⟨nofun, nofun⟩

/-- A run that goes on has been begun and is not over. -/
theorem Resumed.phase_running {reply : Reply} (h : Resumed d reply d' none) :
    d'.phase ≠ .off ∧ d'.phase ≠ .connecting := by
  cases h with
  | refused f d' hphase hreply hf hattempted => exact hattempted.phase_running
  | retried inside r d' hphase hresumed => exact hresumed.phase_running
  | _ => exact ⟨nofun, nofun⟩

/-- Only the end of a run answers a disconnection. -/
theorem Resumed.linked {reply : Reply} (h : Resumed d reply d' none) (outcome : Except Fault Unit) :
    d.phase ≠ .disconnecting outcome := by
  cases h with
  | aborted f hphase hreply hf =>
    rcases hphase with hphase | hphase | hphase | hphase <;> rw [hphase] <;> nofun
  | retried inside r d' hphase hresumed =>
    rw [hphase]
    cases inside <;> nofun
  | _ => simp [*]

/-- A reply passes no setup over. -/
theorem Resumed.setUp {reply : Reply} {result : Option (Except Fault Unit)}
    (h : Resumed d reply d' result) (hsetUp : d'.phase.isSetUp = true) :
    d.phase.isSetUp = true ∨ d.phase = .preparing := by
  cases h with
  | prepared a hphase hreply => exact Or.inr hphase
  | filtered hphase hreply => exact Or.inl (by rw [hphase]; rfl)
  | started a hphase hreply => exact Or.inl (by rw [hphase]; rfl)
  | refused f d' hphase hreply hf hattempted => exact Or.inl (by rw [hphase]; rfl)
  | retried inside r d' hphase hresumed =>
    exact Or.inl (by rw [hphase]; exact isSetUp_retryPhase inside r)
  | handled name e hphase => exact Or.inl (by rw [hphase]; rfl)
  | _ => cases hsetUp

/-- A run ends when it could not connect or has disconnected. -/
theorem Resumed.ending {reply : Reply} {outcome : Except Fault Unit}
    (h : Resumed d reply d' (some outcome)) :
    d.phase = .connecting ∨ ∃ o, d.phase = .disconnecting o := by
  cases h with
  | unconnected f hphase hreply => exact Or.inl hphase
  | left o a hphase hreply => exact Or.inr ⟨o, hphase⟩
  | torn o f hphase hreply => exact Or.inr ⟨o, hphase⟩

/-- Only a controller without a run begins one. -/
theorem start_eq_ok {d d' : Discovery ε} (h : d.start = .ok d') :
    d.phase = .off ∧ d' = { d with phase := .connecting, queue := [] } := by
  unfold Discovery.start at h
  split at h
  · cases h
  · split at h
    · rename_i hoff
      cases h
      exact ⟨hoff, rfl⟩
    · cases h

/-! ## Nothing is given back -/

theorem setStatus_tickets (d : Discovery ε) (status : Status) :
    Effect.tickets (d.setStatus status).2 = [] := by
  unfold setStatus
  split <;> rfl

theorem settle_tickets (d : Discovery ε) (restarted : Bool) :
    Effect.tickets (d.settle restarted).2 = [] := by
  unfold settle
  split
  · rfl
  · exact setStatus_tickets d .failed

theorem nextAttempt_tickets (d : Discovery ε) (times backoff : Value) (attempt : Nat) :
    Effect.tickets (d.nextAttempt times backoff attempt).1 = [] := by
  unfold nextAttempt
  split
  · rfl
  · split <;> rfl

theorem continueRetry_tickets (d : Discovery ε) (inside : Bool) {effects : List Effect}
    (h : Effect.tickets effects = []) (next : Retry.Next) :
    Effect.tickets (d.continueRetry inside effects next).2.1 = [] := by
  have hsettle := d.settle_tickets
  cases inside <;> cases next <;>
    simp [continueRetry, continueRetrying, continueRecovering, enter, leave, h, hsettle,
      handlerFailed]

theorem resumeRetry_tickets (d : Discovery ε) (r : Retry) (reply : Reply) :
    Effect.tickets (d.resumeRetry r reply).2.1 = [] := by
  unfold resumeRetry
  split
  · rfl
  · split <;> rfl
  · exact setStatus_tickets d .discovering
  · split
    · exact d.nextAttempt_tickets _ _ _
    · rfl

theorem finish_tickets (d : Discovery ε) {effects : List Effect}
    (h : Effect.tickets effects = []) : Effect.tickets (d.finish effects).2.1 = [] := by
  unfold finish
  split
  · exact h
  · simp [leave, h, setStatus_tickets]

/-- Discovery gives no subscription back. -/
theorem resume_tickets (d : Discovery ε) (reply : Reply) :
    Effect.tickets (d.resume reply).2.1 = [] := by
  unfold resume
  split
  · rfl
  · rfl
  · split
    · rfl
    · split
      · exact setStatus_tickets d .stopped
      · rfl
  · split
    · rfl
    · split <;> rfl
  · split <;> rfl
  · split
    · rfl
    · split <;> rfl
  · split
    · exact setStatus_tickets d .discovering
    · rename_i f
      split
      · have heffects : Effect.tickets (startFailed f :: d.startRetry.1) = [] :=
          d.nextAttempt_tickets _ _ _
        exact d.continueRetry_tickets false heffects _
      · rfl
  · rename_i r _
    exact (d.resumeRetry r reply).1.continueRetry_tickets false (d.resumeRetry_tickets r reply) _
  · rename_i r _
    exact (d.resumeRetry r reply).1.continueRetry_tickets true (d.resumeRetry_tickets r reply) _
  · split <;> rfl
  · split
    · exact d.finish_tickets rfl
    · split
      · exact d.finish_tickets rfl
      · rfl
  · split <;> rfl

theorem wake_tickets (d : Discovery ε) : Effect.tickets d.wake.2.1 = [] := by
  unfold wake
  split
  · simp only
    split
    · rfl
    · exact finish_tickets _ rfl
  · rename_i rest _ _
    simp only
    split
    · rfl
    · rfl
    · have heffects : Effect.tickets (d.lossNotice :: d.startRetry.1) = [] :=
        d.nextAttempt_tickets _ _ _
      exact continueRetry_tickets { d with queue := rest } true heffects _
  · rfl
  · rfl

/-- A run that has a result is over. -/
theorem Resumed.phase_off {reply : Reply} {outcome : Except Fault Unit}
    (h : Resumed d reply d' (some outcome)) : d'.phase = .off := by
  cases h <;> rfl

theorem isLive_of_phase (hoff : d.phase ≠ .off) (hleaving : ∀ o, d.phase ≠ .disconnecting o) :
    d.isLive = true := by
  unfold isLive
  split
  · rename_i h
    exact absurd h hoff
  · rename_i h
    exact absurd h (hleaving _)
  · rfl

/-- A reply brings no run to life. -/
theorem Resumed.live {reply : Reply} {result : Option (Except Fault Unit)}
    (h : Resumed d reply d' result) (hlive : d'.isLive = true) : d.isLive = true := by
  cases h with
  | left outcome a hphase hreply => cases hlive
  | torn outcome f hphase hreply => cases hlive
  | aborted f hphase hreply hf => cases hlive
  | retried inside r d' hphase hresumed =>
    cases inside <;>
      exact isLive_of_phase (by simp [hphase, retryPhase]) (by simp [hphase, retryPhase])
  | _ => exact isLive_of_phase (by simp [*]) (by simp [*])

end Discovery

end TagGateway
