import TagGateway.Discovery

/-!
# What one move of a controller does

Each way in which a run goes on, with its guards. Later arguments split on these cases and need not
open the moves again.

* `Discovery.Resumed` — the moves on a reply; `Discovery.resumed_resume` shows that there are no
  others.
* `Discovery.Woken` — the moves on an item of the queue; `Discovery.woken_wake` likewise.
* `Discovery.Attempted`, `Discovery.RetryResumed` — the part that both share: a retry, of the first
  start or of one that was lost.
-/

namespace TagGateway

open Bus

namespace Discovery

variable {ε : Type}

/-- The phase of a suspended retry: of the first start, or inside the handling of a loss. -/
def retryPhase (inside : Bool) (r : Retry) : Phase ε :=
  if inside then .recovering r else .retrying r

/-- Go on with a retry of either kind. -/
def continueRetry (inside : Bool) (d : Discovery ε) (effects : List Effect) (next : Retry.Next) :
    Move ε :=
  if inside then d.continueRecovering effects next else d.continueRetrying effects next

/-- The controller after its retry has failed with a fault. -/
def broken (d : Discovery ε) (inside : Bool) (f : Fault) : Discovery ε :=
  if inside then { d with phase := .waiting }
  else { d with wanted := false, phase := .disconnecting (.error f) }

/-- The controller after it has given discovery up. -/
def givenUp (d : Discovery ε) : Discovery ε :=
  { d with
    status := .failed
    wanted := false
    stopRequested := true
    phase := .waiting
    queue := d.queue ++ [.stop] }

/-- The controller after it has handled a stop. -/
def finished (d : Discovery ε) : Discovery ε :=
  { d with
    status := if d.status = .failed then .failed else .stopped
    wanted := false
    phase := .disconnecting (.ok ()) }

/-- How a retry goes on to an attempt with some number. -/
inductive Attempted (d : Discovery ε) (inside : Bool) (times backoff : Value) (attempt : Nat) :
    Discovery ε → Prop
  | unreadable (f : Fault) : attemptsOf times = .error f →
      Attempted d inside times backoff attempt (d.broken inside f)
  | sleeps (n : Int) : attemptsOf times = .ok n → (attempt : Int) ≤ n →
      Attempted d inside times backoff attempt
        { d with phase := retryPhase inside ⟨times, backoff, attempt, false⟩ }
  | stopped (n : Int) : attemptsOf times = .ok n → n < attempt → d.stopRequested = true →
      Attempted d inside times backoff attempt { d with phase := .waiting }
  | givenUp (n : Int) : attemptsOf times = .ok n → n < attempt → d.stopRequested = false →
      Attempted d inside times backoff attempt d.givenUp

/-- How a suspended retry goes on after a reply. -/
inductive RetryResumed (d : Discovery ε) (inside : Bool) (r : Retry) (reply : Reply) :
    Discovery ε → Prop
  | sleepFailed (f : Fault) : r.calling = false → reply = .error f →
      RetryResumed d inside r reply (d.broken inside f)
  | abandoned (a : Answer) : r.calling = false → reply = .ok a → d.stopRequested = true →
      RetryResumed d inside r reply { d with phase := .waiting }
  | calls (a : Answer) : r.calling = false → reply = .ok a → d.stopRequested = false →
      RetryResumed d inside r reply
        { d with phase := retryPhase inside { r with calling := true } }
  | restarted (a : Answer) : r.calling = true → reply = .ok a →
      RetryResumed d inside r reply { d with status := .discovering, phase := .waiting }
  | callFailed (f : Fault) (d' : Discovery ε) : r.calling = true → reply = .error f →
      f.isCallFailure = true → Attempted d inside r.times r.backoff (r.attempt + 1) d' →
      RetryResumed d inside r reply d'
  | callBroken (f : Fault) : r.calling = true → reply = .error f → f.isCallFailure = false →
      RetryResumed d inside r reply (d.broken inside f)

/-- How a run goes on after a reply. -/
inductive Resumed (d : Discovery ε) (reply : Reply) :
    Discovery ε → Option (Except Fault Unit) → Prop
  | unconnected (f : Fault) : d.phase = .connecting → reply = .error f →
      Resumed d reply { d with phase := .off } (some (.error f))
  | stoppedEarly (a : Answer) : d.phase = .connecting → reply = .ok a → d.stopRequested = true →
      Resumed d reply
        { d with status := .stopped, wanted := false, phase := .disconnecting (.ok ()) } none
  | connected (a : Answer) : d.phase = .connecting → reply = .ok a → d.stopRequested = false →
      Resumed d reply { d with phase := .watching } none
  | watched : d.phase = .watching → (∀ f, reply = .error f → f.isCallFailure = true) →
      Resumed d reply { d with phase := .preparing } none
  | prepared (a : Answer) : d.phase = .preparing → reply = .ok a →
      Resumed d reply { d with phase := .filtering } none
  | filtered : d.phase = .filtering → (∀ f, reply = .error f → f.isCallFailure = true) →
      Resumed d reply { d with wanted := true, phase := .starting } none
  | started (a : Answer) : d.phase = .starting → reply = .ok a →
      Resumed d reply { d with status := .discovering, phase := .waiting } none
  | refused (f : Fault) (d' : Discovery ε) : d.phase = .starting → reply = .error f →
      f.isCallFailure = true → Attempted d false d.settings.attempts d.settings.delay 1 d' →
      Resumed d reply d' none
  | unprepared (f : Fault) : d.phase = .preparing → reply = .error f →
      Resumed d reply { d with wanted := false, phase := .disconnecting (.error f) } none
  | aborted (f : Fault) :
      d.phase = .watching ∨ d.phase = .filtering ∨ d.phase = .starting ∨ d.phase = .stopping →
      reply = .error f → f.isCallFailure = false →
      Resumed d reply { d with wanted := false, phase := .disconnecting (.error f) } none
  | retried (inside : Bool) (r : Retry) (d' : Discovery ε) : d.phase = retryPhase inside r →
      RetryResumed d inside r reply d' → Resumed d reply d' none
  | handled (name : String) (e : ε) : d.phase = .handling name e →
      Resumed d reply { d with phase := .waiting } none
  | finished : d.phase = .stopping → (∀ f, reply = .error f → f.isCallFailure = true) →
      Resumed d reply d.finished none
  | left (outcome : Except Fault Unit) (a : Answer) : d.phase = .disconnecting outcome →
      reply = .ok a → Resumed d reply { d with phase := .off } (some (d.result outcome))
  | torn (outcome : Except Fault Unit) (f : Fault) : d.phase = .disconnecting outcome →
      reply = .error f → Resumed d reply { d with phase := .off } (some (.error f))

/-- How a run goes on with the first item of the queue. -/
inductive Woken (d : Discovery ε) : Discovery ε → Prop
  | stops (rest : List (Item ε)) : d.queue = .stop :: rest → d.status = .discovering →
      Woken d { d with wanted := false, phase := .stopping, queue := rest }
  | ends (rest : List (Item ε)) : d.queue = .stop :: rest → d.status ≠ .discovering →
      Woken d { d with wanted := false, queue := rest }.finished
  | ignored (interface changed : Value) (rest : List (Item ε)) :
      d.queue = .adapterChanged interface changed :: rest →
      Woken d { d with phase := .waiting, queue := rest }
  | lost (interface changed : Value) (rest : List (Item ε)) (d' : Discovery ε) :
      d.queue = .adapterChanged interface changed :: rest → d.wanted = true →
      Attempted { d with queue := rest } true d.settings.attempts d.settings.delay 1 d' →
      Woken d d'
  | handles (name : String) (e : ε) (rest : List (Item ε)) : d.queue = .event name e :: rest →
      Woken d { d with phase := .handling name e, queue := rest }

/-! ## Retries -/

theorem settle_of_stopRequested {d : Discovery ε} (h : d.stopRequested = true) (restarted : Bool) :
    d.settle restarted = (d, []) := by
  unfold settle
  rw [h, Bool.or_true, if_pos rfl]

theorem stop_of_isLive {d : Discovery ε} (h : d.isLive = true) :
    d.stop = { d with stopRequested := true, queue := d.queue ++ [.stop] } := by
  unfold stop
  rw [if_pos h]

theorem settle_of_not_stopRequested {d : Discovery ε} (h : d.stopRequested = false)
    (hlive : d.isLive = true) : { (d.settle false).1 with phase := .waiting } = d.givenUp := by
  have hlive' : ({ (d.setStatus .failed).1 with wanted := false } : Discovery ε).isLive = true :=
    hlive
  unfold settle fail
  rw [h, Bool.or_false, if_neg Bool.false_ne_true]
  simp only [stop_of_isLive hlive']
  rfl

/-- A retry that has ended: unless discovery runs or a stop was requested it is given up. -/
theorem continueRetry_ended (inside : Bool) (d : Discovery ε) (effects : List Effect)
    (restarted : Bool) :
    (d.continueRetry inside effects (.ended restarted)).1 =
        { (d.settle restarted).1 with phase := .waiting } ∧
      (d.continueRetry inside effects (.ended restarted)).2.2 = none := by
  cases inside
  · exact ⟨rfl, rfl⟩
  · exact ⟨rfl, rfl⟩

theorem continueRetry_failed (inside : Bool) (d : Discovery ε) (effects : List Effect) (f : Fault) :
    (d.continueRetry inside effects (.failed f)).1 = d.broken inside f ∧
      (d.continueRetry inside effects (.failed f)).2.2 = none := by
  cases inside
  · exact ⟨rfl, rfl⟩
  · exact ⟨rfl, rfl⟩

theorem continueRetry_wait (inside : Bool) (d : Discovery ε) (effects : List Effect) (r : Retry) :
    (d.continueRetry inside effects (.wait r)).1 = { d with phase := retryPhase inside r } ∧
      (d.continueRetry inside effects (.wait r)).2.2 = none := by
  cases inside
  · exact ⟨rfl, rfl⟩
  · exact ⟨rfl, rfl⟩

theorem attempted_nextAttempt {d : Discovery ε} (hlive : d.isLive = true) (inside : Bool)
    (times backoff : Value) (attempt : Nat) (effects : List Effect) :
    Attempted d inside times backoff attempt
        (d.continueRetry inside effects (d.nextAttempt times backoff attempt).2).1 ∧
      (d.continueRetry inside effects (d.nextAttempt times backoff attempt).2).2.2 = none := by
  unfold nextAttempt
  cases hn : attemptsOf times with
  | error f =>
    obtain ⟨hd, hresult⟩ := d.continueRetry_failed inside effects f
    exact ⟨hd ▸ .unreadable f hn, hresult⟩
  | ok n =>
    simp only
    split
    · rename_i hle
      obtain ⟨hd, hresult⟩ := d.continueRetry_wait inside effects ⟨times, backoff, attempt, false⟩
      exact ⟨hd ▸ .sleeps n hn hle, hresult⟩
    · rename_i hlt
      obtain ⟨hd, hresult⟩ := d.continueRetry_ended inside effects false
      have hlt : n < attempt := by omega
      refine ⟨?_, hresult⟩
      simp only
      rw [hd]
      by_cases hstop : d.stopRequested = true
      · rw [settle_of_stopRequested hstop]
        exact .stopped n hn hlt hstop
      · rw [Bool.not_eq_true] at hstop
        rw [settle_of_not_stopRequested hstop hlive]
        exact .givenUp n hn hlt hstop

theorem retryResumed_resumeRetry {d : Discovery ε} (hlive : d.isLive = true) (inside : Bool)
    (r : Retry) (reply : Reply) :
    let m := (d.resumeRetry r reply).1.continueRetry inside (d.resumeRetry r reply).2.1
      (d.resumeRetry r reply).2.2
    RetryResumed d inside r reply m.1 ∧ m.2.2 = none := by
  unfold resumeRetry
  cases hcalling : r.calling with
  | false =>
    cases reply with
    | error f =>
      obtain ⟨hd, hresult⟩ := d.continueRetry_failed inside [] f
      exact ⟨hd ▸ .sleepFailed f hcalling rfl, hresult⟩
    | ok a =>
      by_cases hstop : d.stopRequested = true
      · simp only [if_pos hstop]
        obtain ⟨hd, hresult⟩ := d.continueRetry_ended inside [] false
        refine ⟨?_, hresult⟩
        rw [hd, settle_of_stopRequested hstop]
        exact .abandoned a hcalling rfl hstop
      · simp only [if_neg hstop]
        rw [Bool.not_eq_true] at hstop
        obtain ⟨hd, hresult⟩ := d.continueRetry_wait inside _ { r with calling := true }
        refine ⟨?_, hresult⟩
        rw [hd]
        exact .calls a hcalling rfl hstop
  | true =>
    cases reply with
    | ok a =>
      simp only
      obtain ⟨hd, hresult⟩ := (d.setStatus .discovering).1.continueRetry_ended inside _ true
      refine ⟨?_, hresult⟩
      rw [hd]
      exact .restarted a hcalling rfl
    | error f =>
      simp only
      cases hf : f.isCallFailure with
      | true =>
        simp only [if_true]
        obtain ⟨hd, hresult⟩ :=
          attempted_nextAttempt hlive inside r.times r.backoff (r.attempt + 1) _
        exact ⟨.callFailed f _ hcalling rfl hf hd, hresult⟩
      | false =>
        simp only [Bool.false_eq_true, if_false]
        obtain ⟨hd, hresult⟩ := d.continueRetry_failed inside [] f
        refine ⟨?_, hresult⟩
        rw [hd]
        exact .callBroken f hcalling rfl hf

/-! ## Moves -/

/-- Whether a reply is waited for. -/
def takesReply (d : Discovery ε) : Bool :=
  match d.pending with
  | .reply _ | .setup | .handler _ => true
  | .nothing | .item => false

/-- Whether there is an item to take. -/
def hasItem (d : Discovery ε) : Bool :=
  match d.phase with
  | .waiting => !d.queue.isEmpty
  | _ => false

theorem phase_of_hasItem {d : Discovery ε} (h : d.hasItem = true) : d.phase = .waiting := by
  unfold hasItem at h
  split at h
  · assumption
  · cases h

theorem isCallFailure_of_ok (a : Answer) :
    ∀ f, (.ok a : Reply) = .error f → f.isCallFailure = true :=
  nofun

theorem isCallFailure_of_error {f : Fault} (h : f.isCallFailure = true) :
    ∀ f', (.error f : Reply) = .error f' → f'.isCallFailure = true := by
  intro f' hf'
  cases hf'
  exact h

theorem finish_eq (d : Discovery ε) (effects : List Effect) :
    (d.finish effects).1 = d.finished ∧ (d.finish effects).2.2 = none := by
  unfold finish
  by_cases h : d.status = .failed
  · rw [if_pos h]
    refine ⟨?_, rfl⟩
    simp only [leave, finished, if_pos h]
    rw [← h]
  · rw [if_neg h]
    refine ⟨?_, rfl⟩
    simp only [leave, finished, if_neg h]
    rfl

theorem resumed_retry {d : Discovery ε} (inside : Bool) {r : Retry}
    (hphase : d.phase = retryPhase inside r) (reply : Reply) :
    let m := (d.resumeRetry r reply).1.continueRetry inside (d.resumeRetry r reply).2.1
      (d.resumeRetry r reply).2.2
    Resumed d reply m.1 m.2.2 := by
  intro m
  have hlive : d.isLive = true := by
    unfold isLive
    cases inside <;> rw [hphase] <;> rfl
  obtain ⟨hd, hresult⟩ := retryResumed_resumeRetry hlive inside r reply
  rw [hresult]
  exact .retried inside r _ hphase hd

/-- **A reply moves a run in one of these ways.** -/
theorem resumed_resume {d : Discovery ε} (h : d.takesReply = true) (reply : Reply) :
    Resumed d reply (d.resume reply).1 (d.resume reply).2.2 := by
  unfold resume
  split
  · rename_i hphase
    simp only [takesReply, pending, hphase] at h
    cases h
  · rename_i hphase
    simp only [takesReply, pending, hphase] at h
    cases h
  · rename_i hphase
    cases reply with
    | error f => exact .unconnected f hphase rfl
    | ok a =>
      by_cases hstop : d.stopRequested = true
      · simp only [if_pos hstop]
        exact .stoppedEarly a hphase rfl hstop
      · simp only [if_neg hstop]
        rw [Bool.not_eq_true] at hstop
        exact .connected a hphase rfl hstop
  · rename_i hphase
    cases reply with
    | ok a => exact .watched hphase (isCallFailure_of_ok a)
    | error f =>
      cases hf : f.isCallFailure with
      | true =>
        simp only [hf, if_true]
        exact .watched hphase (isCallFailure_of_error hf)
      | false =>
        simp only [hf, Bool.false_eq_true, if_false]
        exact .aborted f (Or.inl hphase) rfl hf
  · rename_i hphase
    cases reply with
    | ok a => exact .prepared a hphase rfl
    | error f => exact .unprepared f hphase rfl
  · rename_i hphase
    cases reply with
    | ok a => exact .filtered hphase (isCallFailure_of_ok a)
    | error f =>
      cases hf : f.isCallFailure with
      | true =>
        simp only [hf, if_true]
        exact .filtered hphase (isCallFailure_of_error hf)
      | false =>
        simp only [hf, Bool.false_eq_true, if_false]
        exact .aborted f (Or.inr (Or.inl hphase)) rfl hf
  · rename_i hphase
    have hlive : d.isLive = true := by
      unfold isLive
      rw [hphase]
    cases reply with
    | ok a => exact .started a hphase rfl
    | error f =>
      cases hf : f.isCallFailure with
      | true =>
        obtain ⟨hd, hresult⟩ := attempted_nextAttempt hlive false d.settings.attempts
          d.settings.delay 1 (startFailed f :: d.startRetry.1)
        have hresult' : (d.continueRetrying (startFailed f :: d.startRetry.1)
          d.startRetry.2).2.2 = none := hresult
        simp only [hf, if_true]
        rw [hresult']
        exact .refused f _ hphase rfl hf hd
      | false =>
        simp only [hf, Bool.false_eq_true, if_false]
        exact .aborted f (Or.inr (Or.inr (Or.inl hphase))) rfl hf
  · rename_i r hphase
    exact resumed_retry false hphase reply
  · rename_i r hphase
    exact resumed_retry true hphase reply
  · rename_i name e hphase
    cases reply with
    | ok a => exact .handled name e hphase
    | error f => exact .handled name e hphase
  · rename_i hphase
    cases reply with
    | ok a =>
      obtain ⟨hd, hresult⟩ := d.finish_eq []
      simp only [hd, hresult]
      exact .finished hphase (isCallFailure_of_ok a)
    | error f =>
      cases hf : f.isCallFailure with
      | true =>
        obtain ⟨hd, hresult⟩ :=
          d.finish_eq [.say .warning ("Failed to stop discovery: " ++ f.message)]
        simp only [hf, if_true, hd, hresult]
        exact .finished hphase (isCallFailure_of_error hf)
      | false =>
        simp only [hf, Bool.false_eq_true, if_false]
        exact .aborted f (Or.inr (Or.inr (Or.inr hphase))) rfl hf
  · rename_i outcome hphase
    cases reply with
    | ok a => exact .left outcome a hphase rfl
    | error f => exact .torn outcome f hphase rfl

theorem wanted_of_isLoss {d : Discovery ε} {interface changed : Value}
    (h : d.isLoss interface changed = .ok true) : d.wanted = true := by
  unfold isLoss at h
  simp only [bind, Except.bind, pure, Except.pure] at h
  split at h
  · cases h
  · split at h
    · cases h
    · split at h
      · cases h
      · split at h
        · cases h
        · rw [Except.ok.injEq, Bool.and_eq_true] at h
          exact h.2

/-- **An item of the queue moves a run in one of these ways**, and none of them ends it. -/
theorem woken_wake {d : Discovery ε} (h : d.hasItem = true) :
    Woken d d.wake.1 ∧ d.wake.2.2 = none := by
  have hphase := phase_of_hasItem h
  unfold hasItem at h
  rw [hphase] at h
  unfold wake
  split
  · rename_i rest _ hqueue
    by_cases hstatus : d.status = .discovering
    · simp only [if_pos hstatus]
      exact ⟨.stops rest hqueue hstatus, rfl⟩
    · simp only [if_neg hstatus]
      obtain ⟨hd, hresult⟩ := finish_eq { d with queue := rest, wanted := false } []
      rw [hd, hresult]
      exact ⟨.ends rest hqueue hstatus, rfl⟩
  · rename_i interface changed rest _ hqueue
    simp only
    split
    · exact ⟨.ignored interface changed rest hqueue, rfl⟩
    · exact ⟨.ignored interface changed rest hqueue, rfl⟩
    · rename_i hloss
      have hlive : ({ d with queue := rest } : Discovery ε).isLive = true := by
        unfold isLive
        rw [hphase]
      obtain ⟨hd, hresult⟩ := attempted_nextAttempt hlive true d.settings.attempts
        d.settings.delay 1 _
      exact ⟨.lost interface changed rest _ hqueue (wanted_of_isLoss hloss) hd, hresult⟩
  · rename_i name e rest _ hqueue
    exact ⟨.handles name e rest hqueue, rfl⟩
  · rename_i hstop hchange hevent
    cases hqueue : d.queue with
    | nil =>
      rw [hqueue] at h
      cases h
    | cons item rest =>
      cases item with
      | adapterChanged interface changed => exact absurd hqueue (hchange _ _ _ hphase)
      | event name e => exact absurd hqueue (hevent _ _ _ hphase)
      | stop => exact absurd hqueue (hstop _ hphase)

end Discovery

end TagGateway
