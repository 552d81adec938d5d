import TagGateway.Proofs.Discovery.Session

/-!
# The states of a controller and the results of its runs

The bus is taken to fail only as documented: calls and subscriptions by refusal, connecting in any
way, pausing and disconnecting not at all. The setup and the handlers may raise anything.

* `Discovery.allows` — what the bus may reply; `Discovery.Session.allowsAll` — in all of a session.
* `Discovery.EndsInFailures` — the last requests were some number of failed attempts to start.
* `Discovery.Lawful` — the invariant, with the law of each phase in `Discovery.PhaseLaw`.
* `Discovery.StepLaw` — how one step may change the state, and when it may come to failure.
* `Discovery.Session.lifecycle` — the law of states, results and refused starts, for all runs.
-/

namespace TagGateway

open Bus

namespace Discovery

variable {ε : Type}

/-- Whether the bus may give a reply to what the controller waits for. -/
def allows (d : Discovery ε) (r : Reply) : Bool :=
  match d.pending, r with
  | .reply (.call ..), .error f | .reply (.subscribe ..), .error f => f.isCallFailure
  | .reply (.sleep _), .error _ | .reply .disconnect, .error _ => false
  | _, _ => true

/-- Whether something may happen next. -/
def Session.allows (s : Session ε) : Happening ε → Bool
  | .reply r => s.controller.allows r
  | _ => true

/-- Whether all this may happen, one after the other. -/
def Session.allowsAll (s : Session ε) : List (Happening ε) → Bool
  | [] => true
  | happening :: rest => s.allows happening && (s.perform happening).allowsAll rest

/-- Whether there is no run. -/
def Phase.isOff : Phase ε → Bool
  | .off => true
  | _ => false

/-- Whether a fault in a phase is raised out of the run: one of connecting or of the setup. -/
def Phase.raises : Phase ε → Bool
  | .connecting | .preparing => true
  | _ => false

/-! ## Failed attempts -/

/-- The request that starts discovery. -/
def startRequest (settings : Settings) : Request :=
  .call (adapterPath settings.adapter) adapterInterface "StartDiscovery" "" []

/-- The requests and replies of an attempt to restart that was refused. -/
def IsFailedAttempt (settings : Settings) (exchanges : List (Request × Reply)) : Prop :=
  ∃ a f, f.isCallFailure = true ∧
    exchanges = [(.sleep settings.delay, .ok a), (startRequest settings, .error f)]

/-- The last requests and replies are those of a number of failed attempts. -/
def EndsInFailures (settings : Settings) (k : Nat) (exchanges : List (Request × Reply)) : Prop :=
  ∃ earlier attempts, exchanges = earlier ++ List.flatten attempts ∧ attempts.length = k ∧
    ∀ attempt ∈ attempts, IsFailedAttempt settings attempt

variable {settings : Settings} {exchanges : List (Request × Reply)}

theorem endsInFailures_zero (settings : Settings) (exchanges : List (Request × Reply)) :
    EndsInFailures settings 0 exchanges :=
  ⟨exchanges, [], by simp, rfl, fun _ h => nomatch h⟩

theorem EndsInFailures.append {k : Nat} {attempt : List (Request × Reply)}
    (h : EndsInFailures settings k exchanges) (hattempt : IsFailedAttempt settings attempt) :
    EndsInFailures settings (k + 1) (exchanges ++ attempt) := by
  obtain ⟨earlier, attempts, rfl, rfl, hall⟩ := h
  refine ⟨earlier, attempts ++ [attempt], by simp, by simp, ?_⟩
  intro attempt' hmem
  rcases List.mem_append.mp hmem with hmem | hmem
  · exact hall attempt' hmem
  · rw [List.mem_singleton.mp hmem]
    exact hattempt

/-! ## The laws -/

/-- What holds of a suspended retry: the attempts before the present one have failed. -/
structure RetryLaw (settings : Settings) (n : Int) (exchanges : List (Request × Reply))
    (r : Retry) : Prop where
  times : r.times = settings.attempts
  backoff : r.backoff = settings.delay
  first : 1 ≤ r.attempt
  within : (r.attempt : Int) ≤ n
  failures : if r.calling then
      ∃ before a, exchanges = before ++ [(.sleep settings.delay, .ok a)] ∧
        EndsInFailures settings (r.attempt - 1) before
    else EndsInFailures settings (r.attempt - 1) exchanges

/-- What holds in each phase, given the requests that were answered and what connecting or the setup
has raised. -/
def PhaseLaw (settings : Settings) (n : Int) (d : Discovery ε) (exchanges : List (Request × Reply))
    (raised : Option Fault) : Prop :=
  match d.phase with
  | .off => True
  | .connecting | .watching | .preparing | .filtering => raised = none ∧ d.status = .idle
  | .starting => raised = none ∧ d.status = .idle ∧ d.wanted = true
  | .retrying r =>
    raised = none ∧ d.status = .idle ∧ d.wanted = true ∧ RetryLaw settings n exchanges r
  | .recovering r =>
    raised = none ∧ (d.status = .idle ∨ d.status = .discovering) ∧ d.wanted = true ∧
      RetryLaw settings n exchanges r
  | .waiting | .handling _ _ =>
    raised = none ∧
      ((d.wanted = true ∧ (d.status = .idle ∨ d.status = .discovering)) ∨
        (d.wanted = false ∧ d.status = .failed))
  | .stopping => raised = none ∧ d.status = .discovering
  | .disconnecting (.ok ()) => raised = none ∧ (d.status = .stopped ∨ d.status = .failed)
  | .disconnecting (.error f) => raised = some f ∧ d.status = .idle

/-- How a run may end, or that there was none. -/
inductive Verdict (settings : Settings) :
    Status → Option Fault → Option (Except Fault Unit) → Prop
  | unused : Verdict settings .idle none none
  | stopped : Verdict settings .stopped none (some (.ok ()))
  | lost : Verdict settings .failed none (some (.error (.lost settings.adapter settings.attempts)))
  | raised (f : Fault) : Verdict settings .idle (some f) (some (.error f))

/-- The changes of state that there are. -/
inductive Status.Becomes : Status → Status → Prop
  | stays (status : Status) : Becomes status status
  | leavesIdle (status : Status) : Becomes .idle status
  | stops : Becomes .discovering .stopped
  | fails : Becomes .discovering .failed

/-- How one step may change the state. It comes to failure only after all attempts of a retry have
failed, with no stop requested. -/
def StepLaw (settings : Settings) (n : Int) (d d' : Discovery ε)
    (exchanges : List (Request × Reply)) : Prop :=
  d.status.Becomes d'.status ∧
    (d.status ≠ .failed → d'.status = .failed →
      d.stopRequested = false ∧ EndsInFailures settings n.toNat exchanges)

/-- The invariant of a session. -/
structure Lawful (settings : Settings) (n : Int) (s : Session ε) : Prop where
  settings_eq : s.controller.settings = settings
  phase : PhaseLaw settings n s.controller (answers s.log) (raised s.log)
  verdict : s.controller.phase = .off → Verdict settings s.controller.status (raised s.log) s.result
  running : s.controller.phase ≠ .off → s.result = none

/-- The law of the present phase. -/
theorem Lawful.phaseLaw {n : Int} {s : Session ε} {phase : Phase ε} (h : Lawful settings n s)
    (hphase : s.controller.phase = phase) :
    PhaseLaw settings n { s.controller with phase } (answers s.log) (raised s.log) := by
  rw [← hphase]
  exact h.phase

theorem stepLaw_of_same {n : Int} {d d' : Discovery ε} (h : d'.status = d.status) :
    StepLaw settings n d d' exchanges := by
  refine ⟨?_, fun hne heq => absurd (h ▸ heq) hne⟩
  rw [h]
  exact .stays _

theorem stepLaw_of_becomes {n : Int} {d d' : Discovery ε} (status : Status)
    (hstatus : d'.status = status) (h : d.status.Becomes status) (hne : status ≠ .failed) :
    StepLaw settings n d d' exchanges := by
  refine ⟨?_, fun _ heq => absurd (hstatus.symm.trans heq) hne⟩
  rw [hstatus]
  exact h

/-! ## Retries -/

/-- The law of a suspended retry of either kind. -/
theorem phaseLaw_retryPhase {n : Int} {d : Discovery ε} {inside : Bool} {r : Retry}
    {fault : Option Fault} :
    PhaseLaw settings n { d with phase := retryPhase inside r } exchanges fault ↔
      fault = none ∧ (d.status = .idle ∨ (inside = true ∧ d.status = .discovering)) ∧
        d.wanted = true ∧ RetryLaw settings n exchanges r := by
  cases inside with
  | true => simp [PhaseLaw, retryPhase]
  | false => simp [PhaseLaw, retryPhase]

/-- A retry that goes on to its next attempt: all before have failed. -/
theorem Attempted.lawful {n : Int} {d d' : Discovery ε} {inside : Bool} {attempt : Nat}
    (hn : attemptsOf settings.attempts = .ok n)
    (h : Attempted d inside settings.attempts settings.delay attempt d')
    (hstatus : d.status = .idle ∨ (inside = true ∧ d.status = .discovering))
    (hwanted : d.wanted = true) (hfirst : 1 ≤ attempt)
    (hwithin : attempt = 1 ∨ (attempt : Int) ≤ n + 1)
    (hfailures : EndsInFailures settings (attempt - 1) exchanges) :
    PhaseLaw settings n d' exchanges none ∧ StepLaw settings n d d' exchanges := by
  have hstatus' : d.status = .idle ∨ d.status = .discovering := hstatus.imp_right And.right
  cases h with
  | unreadable f hf =>
    rw [hn] at hf
    cases hf
  | sleeps m hm hle =>
    rw [hn] at hm
    cases hm
    have hretry :
        RetryLaw settings n exchanges ⟨settings.attempts, settings.delay, attempt, false⟩ :=
      ⟨rfl, rfl, hfirst, hle, hfailures⟩
    exact ⟨phaseLaw_retryPhase.mpr ⟨rfl, hstatus, hwanted, hretry⟩, stepLaw_of_same rfl⟩
  | stopped m hm hlt hstop => exact ⟨⟨rfl, Or.inl ⟨hwanted, hstatus'⟩⟩, stepLaw_of_same rfl⟩
  | givenUp m hm hlt hstop =>
    rw [hn] at hm
    cases hm
    have hall : attempt - 1 = n.toNat := by omega
    rw [hall] at hfailures
    refine ⟨⟨rfl, Or.inr ⟨rfl, rfl⟩⟩, ?_, fun _ _ => ⟨hstop, hfailures⟩⟩
    rcases hstatus' with heq | heq <;> rw [heq]
    · exact .leavesIdle _
    · exact .fails

theorem pending_of_retryPhase {d : Discovery ε} {inside : Bool} {r : Retry}
    (h : d.phase = retryPhase inside r) : d.pending = .reply (r.request d) := by
  unfold pending
  cases inside <;> rw [h] <;> rfl

/-- A retry that goes on after a documented reply. -/
theorem RetryResumed.lawful {n : Int} {d d' : Discovery ε} {inside : Bool} {r : Retry}
    {reply : Reply} (hn : attemptsOf settings.attempts = .ok n)
    (h : RetryResumed d inside r reply d') (hphase : d.phase = retryPhase inside r)
    (hsettings : d.settings = settings) (hdoc : d.allows reply = true)
    (hstatus : d.status = .idle ∨ (inside = true ∧ d.status = .discovering))
    (hwanted : d.wanted = true) (hretry : RetryLaw settings n exchanges r) :
    PhaseLaw settings n d' (exchanges ++ [(r.request d, reply)]) none ∧
      StepLaw settings n d d' (exchanges ++ [(r.request d, reply)]) := by
  have hstatus' : d.status = .idle ∨ d.status = .discovering := hstatus.imp_right And.right
  have hfailures := hretry.failures
  unfold allows at hdoc
  rw [pending_of_retryPhase hphase] at hdoc
  cases h with
  | sleepFailed f hcalling hreply =>
    simp only [Retry.request, hcalling, Bool.false_eq_true, if_false, hreply] at hdoc
  | abandoned a hcalling hreply hstop =>
    exact ⟨⟨rfl, Or.inl ⟨hwanted, hstatus'⟩⟩, stepLaw_of_same rfl⟩
  | calls a hcalling hreply hstop =>
    rw [if_neg (by rw [hcalling]; exact Bool.noConfusion)] at hfailures
    refine ⟨phaseLaw_retryPhase.mpr ⟨rfl, hstatus, hwanted, ?_⟩, stepLaw_of_same rfl⟩
    refine ⟨hretry.times, hretry.backoff, hretry.first, hretry.within, ?_⟩
    rw [if_pos rfl]
    refine ⟨exchanges, a, ?_, hfailures⟩
    rw [Retry.request, if_neg (by rw [hcalling]; exact Bool.noConfusion), hretry.backoff, hreply]
  | restarted a hcalling hreply =>
    refine ⟨⟨rfl, Or.inl ⟨hwanted, Or.inr rfl⟩⟩,
      stepLaw_of_becomes .discovering rfl ?_ (by decide)⟩
    rcases hstatus' with heq | heq <;> rw [heq]
    · exact .leavesIdle _
    · exact .stays _
  | callFailed f _ hcalling hreply hf hattempted =>
    rw [if_pos hcalling] at hfailures
    obtain ⟨before, a, rfl, hbefore⟩ := hfailures
    have hattempt : IsFailedAttempt settings
        [(.sleep settings.delay, .ok a), (r.request d, reply)] := by
      refine ⟨a, f, hf, ?_⟩
      rw [Retry.request, if_pos hcalling, hreply, ← hsettings]
      rfl
    have hmore := hbefore.append hattempt
    rw [Nat.sub_add_cancel hretry.first] at hmore
    rw [hretry.times, hretry.backoff] at hattempted
    rw [List.append_assoc]
    have hwithin := hretry.within
    exact hattempted.lawful hn hstatus hwanted (Nat.le_add_left _ _) (Or.inr (by omega)) hmore
  | callBroken f hcalling hreply hf =>
    simp only [Retry.request, hcalling, if_true, adapterCall, hreply] at hdoc
    rw [hdoc] at hf
    cases hf

/-! ## Moves -/

theorem settings_broken (d : Discovery ε) (inside : Bool) (f : Fault) :
    (d.broken inside f).settings = d.settings := by
  cases inside <;> rfl

theorem Attempted.settings_eq {d d' : Discovery ε} {inside : Bool} {times backoff : Value}
    {attempt : Nat} (h : Attempted d inside times backoff attempt d') :
    d'.settings = d.settings := by
  cases h with
  | unreadable f _ => exact settings_broken d inside f
  | _ => rfl

theorem RetryResumed.settings_eq {d d' : Discovery ε} {inside : Bool} {r : Retry} {reply : Reply}
    (h : RetryResumed d inside r reply d') : d'.settings = d.settings := by
  cases h with
  | sleepFailed f _ _ => exact settings_broken d inside f
  | callFailed f _ _ _ _ hattempted => exact hattempted.settings_eq
  | callBroken f _ _ _ => exact settings_broken d inside f
  | _ => rfl

theorem Resumed.settings_eq {d d' : Discovery ε} {reply : Reply}
    {result : Option (Except Fault Unit)} (h : Resumed d reply d' result) :
    d'.settings = d.settings := by
  cases h with
  | refused f _ _ _ _ hattempted => exact hattempted.settings_eq
  | retried inside r _ _ hretry => exact hretry.settings_eq
  | _ => rfl

theorem Woken.settings_eq {d d' : Discovery ε} (h : Woken d d') : d'.settings = d.settings := by
  cases h with
  | lost interface changed rest _ _ _ hattempted => exact hattempted.settings_eq
  | _ => rfl

theorem replyMarks_of_reply {d : Discovery ε} {q : Request} (h : d.pending = .reply q) (r : Reply) :
    d.replyMarks r = [.answered q r] := by
  unfold replyMarks
  rw [h]

theorem raised_replyMarks_of_ok (d : Discovery ε) (a : Answer) :
    raised (d.replyMarks (.ok a)) = none := by
  rcases d.replyMarks_cases (.ok a) with ⟨q, -, heq⟩ | ⟨-, heq⟩ | heq <;> rw [heq]
  · cases q <;> rfl
  · rfl
  · rfl

theorem unraised_of_ok {d : Discovery ε} {log : List (Mark ε)} {r : Reply} {a : Answer}
    (hraised : raised log = none) (h : r = .ok a) :
    (raised log).or (raised (d.replyMarks r)) = none := by
  rw [hraised, h, raised_replyMarks_of_ok, Option.or_none]

/-- Only connecting and the setup raise anything out of a run. -/
theorem unraised_of_phase {d : Discovery ε} {log : List (Mark ε)} {phase : Phase ε} (r : Reply)
    (hraised : raised log = none) (h : d.phase = phase) (hraises : phase.raises = false) :
    (raised log).or (raised (d.replyMarks r)) = none := by
  rw [hraised, Option.none_or]
  unfold replyMarks pending
  rw [h]
  cases phase with
  | connecting => cases hraises
  | preparing => cases hraises
  | retrying retry =>
    simp only [Retry.request]
    split <;> rfl
  | recovering retry =>
    simp only [Retry.request]
    split <;> rfl
  | _ => rfl

/-- A failure that the bus may report is a refusal. -/
theorem isCallFailure_of_allows {d : Discovery ε} {f : Fault} (h : d.allows (.error f) = true)
    (hphase : d.phase = .watching ∨ d.phase = .filtering ∨ d.phase = .starting ∨
      d.phase = .stopping) : f.isCallFailure = true := by
  unfold allows pending at h
  rcases hphase with heq | heq | heq | heq <;> rw [heq] at h <;> exact h

theorem not_allows_of_disconnecting {d : Discovery ε} {outcome : Except Fault Unit}
    (hphase : d.phase = .disconnecting outcome) (f : Fault) : d.allows (.error f) = false := by
  unfold allows pending
  rw [hphase]

/-- What a move has to keep, given the log after it. -/
structure MoveLaw (settings : Settings) (n : Int) (d d' : Discovery ε)
    (exchanges : List (Request × Reply)) (raised : Option Fault)
    (result : Option (Except Fault Unit)) : Prop where
  phase : PhaseLaw settings n d' exchanges raised
  step : StepLaw settings n d d' exchanges
  verdict : d'.phase = .off → Verdict settings d'.status raised result
  running : d'.phase ≠ .off → result = none

/-- A move within a run that raises nothing. -/
theorem moveLaw_within {n : Int} {d d' : Discovery ε} {fault : Option Fault} (hfault : fault = none)
    (h : PhaseLaw settings n d' exchanges none ∧ StepLaw settings n d d' exchanges)
    (hon : d'.phase.isOff = false) : MoveLaw settings n d d' exchanges fault none := by
  subst hfault
  refine ⟨h.1, h.2, fun hoff => ?_, fun _ => rfl⟩
  rw [hoff] at hon
  cases hon

theorem Attempted.isOff_eq {d d' : Discovery ε} {inside : Bool} {times backoff : Value}
    {attempt : Nat} (h : Attempted d inside times backoff attempt d') : d'.phase.isOff = false := by
  cases h <;> cases inside <;> rfl

theorem RetryResumed.isOff_eq {d d' : Discovery ε} {inside : Bool} {r : Retry}
    {reply : Reply} (h : RetryResumed d inside r reply d') : d'.phase.isOff = false := by
  cases h with
  | callFailed f _ _ _ _ hattempted => exact hattempted.isOff_eq
  | _ => cases inside <;> rfl

/-- What a run results in is what it ends with. -/
theorem verdict_result {n : Int} {d : Discovery ε} {outcome : Except Fault Unit}
    {fault : Option Fault}
    (h : PhaseLaw settings n { d with phase := .disconnecting outcome } exchanges fault)
    (hsettings : d.settings = settings) :
    Verdict settings d.status fault (some (d.result outcome)) := by
  cases outcome with
  | ok u =>
    obtain ⟨rfl, hstatus⟩ := h
    rcases hstatus with heq | heq
    · simp only at heq
      simp only [Discovery.result, heq, reduceCtorEq, if_false]
      exact .stopped
    · simp only at heq
      simp only [Discovery.result, heq, if_true, hsettings]
      exact .lost
  | error f =>
    obtain ⟨rfl, hidle⟩ := h
    simp only at hidle
    rw [hidle]
    exact .raised f

/-- **A documented reply keeps the laws.** -/
theorem Resumed.lawful {n : Int} {s : Session ε} {d' : Discovery ε} {reply : Reply}
    {result : Option (Except Fault Unit)} (hn : attemptsOf settings.attempts = .ok n)
    (h : Lawful settings n s) (hmove : Resumed s.controller reply d' result)
    (hdoc : s.controller.allows reply = true) :
    MoveLaw settings n s.controller d' (answers s.log ++ answers (s.controller.replyMarks reply))
      ((raised s.log).or (raised (s.controller.replyMarks reply))) result := by
  cases hmove with
  | unconnected f hphase hreply =>
    obtain ⟨hraised, hidle⟩ := h.phaseLaw hphase
    have hmarks : s.controller.replyMarks reply = [.answered .connect reply] :=
      replyMarks_of_reply (by rw [pending, hphase]) reply
    rw [hraised, hmarks, hreply]
    refine ⟨trivial, stepLaw_of_same rfl, fun _ => ?_, fun hne => absurd rfl hne⟩
    rw [hidle]
    exact .raised f
  | stoppedEarly a hphase hreply hstop =>
    obtain ⟨hraised, hidle⟩ := h.phaseLaw hphase
    refine moveLaw_within ?_ ⟨⟨rfl, Or.inl rfl⟩, stepLaw_of_becomes .stopped rfl ?_ (by decide)⟩ rfl
    · exact unraised_of_ok hraised hreply
    · rw [hidle]
      exact .leavesIdle _
  | connected a hphase hreply hstop =>
    obtain ⟨hraised, hidle⟩ := h.phaseLaw hphase
    refine moveLaw_within ?_ ⟨⟨rfl, hidle⟩, stepLaw_of_same rfl⟩ rfl
    exact unraised_of_ok hraised hreply
  | watched hphase hreply =>
    obtain ⟨hraised, hidle⟩ := h.phaseLaw hphase
    refine moveLaw_within ?_ ⟨⟨rfl, hidle⟩, stepLaw_of_same rfl⟩ rfl
    exact unraised_of_phase reply hraised hphase rfl
  | prepared a hphase hreply =>
    obtain ⟨hraised, hidle⟩ := h.phaseLaw hphase
    refine moveLaw_within ?_ ⟨⟨rfl, hidle⟩, stepLaw_of_same rfl⟩ rfl
    exact unraised_of_ok hraised hreply
  | filtered hphase hreply =>
    obtain ⟨hraised, hidle⟩ := h.phaseLaw hphase
    refine moveLaw_within ?_ ⟨⟨rfl, hidle, rfl⟩, stepLaw_of_same rfl⟩ rfl
    exact unraised_of_phase reply hraised hphase rfl
  | started a hphase hreply =>
    obtain ⟨hraised, hidle, hwanted⟩ := h.phaseLaw hphase
    refine moveLaw_within ?_
      ⟨⟨rfl, Or.inl ⟨hwanted, Or.inr rfl⟩⟩, stepLaw_of_becomes .discovering rfl ?_ (by decide)⟩ rfl
    · exact unraised_of_ok hraised hreply
    · rw [hidle]
      exact .leavesIdle _
  | refused f _ hphase hreply hf hattempted =>
    obtain ⟨hraised, hidle, hwanted⟩ := h.phaseLaw hphase
    rw [h.settings_eq] at hattempted
    refine moveLaw_within ?_ (hattempted.lawful hn (Or.inl hidle) hwanted (Nat.le_refl 1)
      (Or.inl rfl) (endsInFailures_zero _ _)) hattempted.isOff_eq
    exact unraised_of_phase reply hraised hphase rfl
  | unprepared f hphase hreply =>
    obtain ⟨hraised, hidle⟩ := h.phaseLaw hphase
    have hmarks : s.controller.replyMarks reply = [.prepared reply] := by
      rw [replyMarks, pending, hphase]
    rw [hraised, hmarks, hreply]
    refine ⟨⟨rfl, hidle⟩, stepLaw_of_same rfl, ?_, fun _ => rfl⟩
    intro hoff
    cases hoff
  | aborted f hphase hreply hf =>
    rw [hreply] at hdoc
    rw [isCallFailure_of_allows hdoc hphase] at hf
    cases hf
  | retried inside r _ hphase hretry =>
    obtain ⟨hraised, hstatus, hwanted, hretrylaw⟩ :=
      phaseLaw_retryPhase.mp (h.phaseLaw hphase)
    have hraises : (retryPhase inside r : Phase ε).raises = false := by
      cases inside <;> rfl
    refine moveLaw_within (unraised_of_phase reply hraised hphase hraises) ?_ hretry.isOff_eq
    rw [replyMarks_of_reply (pending_of_retryPhase hphase)]
    exact hretry.lawful hn hphase h.settings_eq hdoc hstatus hwanted hretrylaw
  | handled name e hphase =>
    obtain ⟨hraised, hstatus⟩ := h.phaseLaw hphase
    refine moveLaw_within ?_ ⟨⟨rfl, hstatus⟩, stepLaw_of_same rfl⟩ rfl
    exact unraised_of_phase reply hraised hphase rfl
  | finished hphase hreply =>
    obtain ⟨hraised, hstatus⟩ := h.phaseLaw hphase
    have hstopped : s.controller.finished.status = .stopped := by
      rw [Discovery.finished, hstatus]
      rfl
    refine moveLaw_within ?_
      ⟨⟨rfl, Or.inl hstopped⟩, stepLaw_of_becomes .stopped hstopped ?_ (by decide)⟩ rfl
    · exact unraised_of_phase reply hraised hphase rfl
    · rw [hstatus]
      exact .stops
  | left outcome a hphase hreply =>
    have hfault : (raised s.log).or (raised (s.controller.replyMarks reply)) = raised s.log := by
      rw [hreply, raised_replyMarks_of_ok, Option.or_none]
    rw [hfault]
    refine ⟨trivial, stepLaw_of_same rfl, fun _ => ?_, fun hne => absurd rfl hne⟩
    exact verdict_result (h.phaseLaw hphase) h.settings_eq
  | torn outcome f hphase hreply =>
    rw [hreply, not_allows_of_disconnecting hphase] at hdoc
    cases hdoc

/-- **Taking an item keeps the laws.** -/
theorem Woken.lawful {n : Int} {s : Session ε} {d' : Discovery ε}
    (hn : attemptsOf settings.attempts = .ok n) (h : Lawful settings n s)
    (hphase : s.controller.phase = .waiting) (hmove : Woken s.controller d') :
    MoveLaw settings n s.controller d' (answers s.log) (raised s.log) none := by
  have hlaw := h.phase
  unfold PhaseLaw at hlaw
  rw [hphase] at hlaw
  obtain ⟨hraised, hstatus⟩ := hlaw
  cases hmove with
  | stops rest hqueue hdiscovering =>
    exact moveLaw_within hraised ⟨⟨rfl, hdiscovering⟩, stepLaw_of_same rfl⟩ rfl
  | ends rest hqueue hnot =>
    rcases hstatus with ⟨-, hidle | hdiscovering⟩ | ⟨-, hfailed⟩
    · have hstopped :
          ({ s.controller with wanted := false, queue := rest } : Discovery ε).finished.status =
            .stopped := by
        simp only [Discovery.finished, hidle, reduceCtorEq, if_false]
      refine moveLaw_within hraised
        ⟨⟨rfl, Or.inl hstopped⟩, stepLaw_of_becomes .stopped hstopped ?_ (by decide)⟩ rfl
      rw [hidle]
      exact .leavesIdle _
    · exact absurd hdiscovering hnot
    · have hstill :
          ({ s.controller with wanted := false, queue := rest } : Discovery ε).finished.status =
            .failed := by
        simp only [Discovery.finished, hfailed, if_true]
      refine moveLaw_within hraised ⟨⟨rfl, Or.inr hstill⟩, stepLaw_of_same ?_⟩ rfl
      rw [hstill, hfailed]
  | ignored interface changed rest hqueue =>
    exact moveLaw_within hraised ⟨⟨rfl, hstatus⟩, stepLaw_of_same rfl⟩ rfl
  | lost interface changed rest _ hqueue hwanted hattempted =>
    rcases hstatus with ⟨-, hstatus⟩ | ⟨hunwanted, -⟩
    · obtain rfl := h.settings_eq
      have hlaws := Attempted.lawful (d := { s.controller with queue := rest }) hn hattempted
        (hstatus.imp_right fun heq => ⟨rfl, heq⟩) hwanted (Nat.le_refl 1) (Or.inl rfl)
        (endsInFailures_zero _ (answers s.log))
      exact moveLaw_within hraised hlaws hattempted.isOff_eq
    · rw [hwanted] at hunwanted
      cases hunwanted
  | handles name e rest hqueue =>
    exact moveLaw_within hraised ⟨⟨rfl, hstatus⟩, stepLaw_of_same rfl⟩ rfl

/-! ## Sessions -/

/-- The laws of a phase speak of the state and of what is wanted only. -/
theorem PhaseLaw.congr {n : Int} {d d' : Discovery ε} {fault : Option Fault}
    (h : PhaseLaw settings n d exchanges fault) (hphase : d'.phase = d.phase)
    (hstatus : d'.status = d.status) (hwanted : d'.wanted = d.wanted) :
    PhaseLaw settings n d' exchanges fault := by
  unfold PhaseLaw at h ⊢
  rw [hphase, hstatus, hwanted]
  exact h

/-- What is put to a run from outside changes neither its state nor its phase. -/
theorem Lawful.put {n : Int} {s : Session ε} {d : Discovery ε} {m : Mark ε}
    (h : Lawful settings n s) (hd : ∃ stopRequested queue,
      d = { s.controller with stopRequested := stopRequested, queue := queue })
    (hanswers : answers [m] = []) (hraised : raised [m] = none) :
    Lawful settings n { s with controller := d, log := s.log ++ [m] } ∧
      StepLaw settings n s.controller d (answers (s.log ++ [m])) := by
  obtain ⟨stopRequested, queue, rfl⟩ := hd
  have hanswers' : answers (s.log ++ [m]) = answers s.log := by
    rw [answers_append, hanswers, List.append_nil]
  have hraised' : raised (s.log ++ [m]) = raised s.log := by
    rw [raised_append, hraised, Option.or_none]
  refine ⟨⟨h.settings_eq, ?_, ?_, h.running⟩, stepLaw_of_same rfl⟩
  · rw [hanswers', hraised']
    exact h.phase.congr rfl rfl rfl
  · rw [hraised']
    exact h.verdict

theorem Lawful.move {n : Int} {s : Session ε} {marks : List (Mark ε)} {m : Move ε}
    (hsettings : m.1.settings = settings)
    (hmove : MoveLaw settings n s.controller m.1 (answers s.log ++ answers marks)
      ((raised s.log).or (raised marks)) m.2.2) :
    Lawful settings n (s.move marks m) ∧
      StepLaw settings n s.controller m.1 (answers (s.move marks m).log) := by
  have hanswers : answers (s.move marks m).log = answers s.log ++ answers marks := by
    simp only [Session.move, answers_append, answers_moveMarks, List.append_nil]
  have hraised : raised (s.move marks m).log = (raised s.log).or (raised marks) := by
    simp only [Session.move, raised_append, raised_moveMarks, Option.or_none]
  refine ⟨⟨hsettings, ?_, ?_, hmove.running⟩, ?_⟩
  · rw [hanswers, hraised]
    exact hmove.phase
  · rw [hraised]
    exact hmove.verdict
  · rw [hanswers]
    exact hmove.step

theorem lawful_start {n : Int} {s : Session ε} {d : Discovery ε} (h : Lawful settings n s)
    (hstart : s.controller.start = .ok d) :
    Lawful settings n { controller := d, log := [.asked .connect] } ∧
      StepLaw settings n s.controller d [] := by
  unfold start at hstart
  split at hstart
  · cases hstart
  · rename_i hidle
    rw [ne_eq, Decidable.not_not] at hidle
    split at hstart
    · cases hstart
      refine ⟨⟨h.settings_eq, ⟨rfl, hidle⟩, ?_, fun _ => rfl⟩, stepLaw_of_same rfl⟩
      intro hoff
      cases hoff
    · cases hstart

theorem answers_itemMarks (d : Discovery ε) :
    answers d.itemMarks = [] ∧ raised d.itemMarks = none := by
  unfold itemMarks
  cases d.queue with
  | nil => exact ⟨rfl, rfl⟩
  | cons item rest => cases item <;> exact ⟨rfl, rfl⟩

namespace Session

/-- **Each step keeps the laws**, as long as the bus replies as documented. -/
theorem lawful_perform {n : Int} {s : Session ε} (hn : attemptsOf settings.attempts = .ok n)
    (h : Lawful settings n s) (happening : Happening ε)
    (hdoc : s.allows happening = true) :
    Lawful settings n (s.perform happening) ∧
      StepLaw settings n s.controller (s.perform happening).controller
        (answers (s.perform happening).log) := by
  cases happening with
  | start =>
    simp only [perform]
    split
    · rename_i hstart
      exact lawful_start h hstart
    · exact ⟨h, stepLaw_of_same rfl⟩
  | stop => exact h.put ⟨_, _, rfl⟩ rfl rfl
  | post name e =>
    refine h.put ?_ rfl rfl
    unfold post postItem
    split
    · exact ⟨_, _, rfl⟩
    · exact ⟨_, _, rfl⟩
  | adapterChange interface changed =>
    refine h.put ?_ rfl rfl
    unfold postAdapterChange postItem
    split
    · exact ⟨_, _, rfl⟩
    · exact ⟨_, _, rfl⟩
  | reply r =>
    simp only [perform]
    split
    · rename_i htakes
      have hmove := resumed_resume htakes r
      exact Lawful.move (hmove.settings_eq.trans h.settings_eq)
        (hmove.lawful hn h hdoc)
    · exact ⟨h, stepLaw_of_same rfl⟩
  | wake =>
    simp only [perform]
    split
    · rename_i hitem
      obtain ⟨hmove, hresult⟩ := woken_wake hitem
      obtain ⟨hanswers, hraised⟩ := s.controller.answers_itemMarks
      refine Lawful.move (hmove.settings_eq.trans h.settings_eq) ?_
      rw [hanswers, hraised, hresult, List.append_nil, Option.or_none]
      exact hmove.lawful hn h (phase_of_hasItem hitem)
    · exact ⟨h, stepLaw_of_same rfl⟩

theorem lawful_run {n : Int} {s : Session ε} (hn : attemptsOf settings.attempts = .ok n)
    (h : Lawful settings n s) {happenings : List (Happening ε)}
    (hdoc : s.allowsAll happenings = true) : Lawful settings n (s.run happenings) := by
  induction happenings generalizing s with
  | nil => exact h
  | cons happening rest ih =>
    rw [allowsAll, Bool.and_eq_true] at hdoc
    exact ih (lawful_perform hn h happening hdoc.1).1 hdoc.2

theorem lawful_new (settings : Settings) (n : Int) :
    Lawful settings n ({ controller := { settings } } : Session ε) :=
  ⟨rfl, trivial, fun _ => .unused, fun hne => absurd rfl hne⟩

/-- A start is accepted in the first state while there is no run; otherwise it is refused and
changes nothing. -/
theorem start_accepted_or_refused (s : Session ε) :
    (s.controller.status = .idle ∧ s.controller.phase = .off ∧ ∃ d, s.controller.start = .ok d) ∨
      (¬(s.controller.status = .idle ∧ s.controller.phase = .off) ∧
        ∃ f, s.controller.start = .error f ∧ f.title = "RuntimeError" ∧ s.perform .start = s) := by
  have hrefused {f : Fault} (h : s.controller.start = .error f) : s.perform .start = s := by
    simp only [perform, h]
  by_cases hidle : s.controller.status = .idle
  · cases hphase : s.controller.phase with
    | off =>
      refine Or.inl ⟨hidle, rfl, ?_⟩
      unfold start
      rw [if_neg (not_not_intro hidle), hphase]
      exact ⟨_, rfl⟩
    | _ =>
      have hstart : s.controller.start = .error .nestedRun := by
        unfold start
        rw [if_neg (not_not_intro hidle), hphase]
      exact Or.inr ⟨fun h => (nomatch h.2), _, hstart, rfl, hrefused hstart⟩
  · have hstart : s.controller.start = .error (.alreadyUsed s.controller.status) := by
      unfold start
      rw [if_pos hidle]
    exact Or.inr ⟨fun h => hidle h.1, _, hstart, rfl, hrefused hstart⟩

/-- **The states of a controller and the results of its runs.** Let the number of attempts be a
number. At any point of any session over a bus that replies as documented: the next step changes the
state as it may, and comes to failure only after a full round of failed attempts without a stop; a
run that is over has stopped and returned, or failed and reported the loss, or raised what
connecting or the setup raised and left the state as it was; and a start is refused unless the
controller is unused and idle. -/
theorem lifecycle (settings : Settings) (n : Int) (hn : attemptsOf settings.attempts = .ok n)
    (happenings : List (Happening ε))
    (hdoc : ({ controller := { settings } } : Session ε).allowsAll happenings = true) :
    let s := ({ controller := { settings } } : Session ε).run happenings
    (∀ next, s.allows next = true →
      let s' := s.perform next
      s.controller.status.Becomes s'.controller.status ∧
        (s.controller.status ≠ .failed → s'.controller.status = .failed →
          s.controller.stopRequested = false ∧ EndsInFailures settings n.toNat (answers s'.log))) ∧
      (∀ result, s.result = some result →
        Verdict settings s.controller.status (raised s.log) (some result)) ∧
      ((s.controller.status = .idle ∧ s.controller.phase = .off ∧
          ∃ d, s.controller.start = .ok d) ∨
        (¬(s.controller.status = .idle ∧ s.controller.phase = .off) ∧
          ∃ f, s.controller.start = .error f ∧ f.title = "RuntimeError" ∧
            s.perform .start = s)) := by
  intro s
  have h : Lawful settings n s := lawful_run hn (lawful_new settings n) hdoc
  refine ⟨fun next hnext => (lawful_perform hn h next hnext).2, ?_, start_accepted_or_refused s⟩
  intro result hresult
  have hoff : s.controller.phase = .off := by
    refine Classical.byContradiction fun hne => ?_
    rw [h.running hne] at hresult
    cases hresult
  rw [← hresult]
  exact h.verdict hoff

/-- Discovery cannot be started, and the only further attempt fails as well. -/
def neverStarted : List (Happening Nat) :=
  [.start, .reply .done, .reply .done, .reply .done, .reply .done,
    .reply (.error (.callFailed "" none)),
    .reply .done,
    .reply (.error (.callFailed "" none)),
    .wake,
    .reply .done]

theorem neverStarted_failed :
    let settings : Settings := { attempts := .int 1 }
    let s := ({ controller := { settings } } : Session Nat).run neverStarted
    (attemptsOf settings.attempts = .ok 1 ∧
        ({ controller := { settings } } : Session Nat).allowsAll neverStarted = true) ∧
      s.controller.status = .failed ∧
        ∃ result, s.result = some result ∧
          Verdict settings s.controller.status (raised s.log) (some result) := by
  have hallowed : ({ controller := { settings := { attempts := .int 1 } } } :
      Session Nat).allowsAll neverStarted = true := by decide +kernel
  have hover : (({ controller := { settings := { attempts := .int 1 } } } :
      Session Nat).run neverStarted).result.isSome = true := by decide +kernel
  obtain ⟨result, hresult⟩ := Option.isSome_iff_exists.mp hover
  obtain ⟨-, hverdict, -⟩ := lifecycle { attempts := .int 1 } 1 rfl neverStarted hallowed
  exact ⟨⟨rfl, hallowed⟩, by decide +kernel, result, hresult, hverdict result hresult⟩

end Session

end Discovery

end TagGateway
