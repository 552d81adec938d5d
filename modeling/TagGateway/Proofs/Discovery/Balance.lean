import TagGateway.Proofs.Discovery.Dispatch
import TagGateway.Proofs.Discovery.Requests

/-!
# The balance of a run

What a run as a whole asks of the bus, whatever the bus replies: a connection that was made is given
up once and last, discovery that was started is stopped once unless it failed, and after a stop
discovery is not started any more.

* `Discovery.Resumed.filtering_of_start`, `Discovery.Resumed.isPast` — what a stop leaves possible.
* `Discovery.Accounted` — the invariant of a session, kept by `Discovery.Session.accounted_perform`.
* `Discovery.Balanced` — the requests of a run; **`Discovery.Session.balanced`** — for all runs.
-/

namespace TagGateway

open Bus

namespace Discovery

variable {ε : Type} {settings : Settings}

/-! ## Starts after a stop -/

/-- Whether discovery is being set up: after the connection and before the first start. -/
def Phase.isSetup : Phase ε → Bool
  | .watching | .preparing | .filtering => true
  | _ => false

theorem start_notMem_disconnect (settings : Settings) : startRequest settings ∉ [.disconnect] := by
  intro hmem
  cases List.mem_singleton.mp hmem

theorem broken_asks_no_start (d : Discovery ε) (inside : Bool) (f : Fault) :
    startRequest settings ∉ (d.broken inside f).asked := by
  cases inside with
  | true => exact List.not_mem_nil
  | false => exact start_notMem_disconnect settings

theorem Attempted.asks_no_start {d d' : Discovery ε} {inside : Bool} {times backoff : Value}
    {attempt : Nat} (h : Attempted d inside times backoff attempt d') :
    startRequest settings ∉ d'.asked := by
  cases h with
  | unreadable f _ => exact broken_asks_no_start d inside f
  | sleeps n _ _ =>
    intro hmem
    cases inside <;> exact nomatch List.mem_singleton.mp hmem
  | stopped n _ _ _ => exact List.not_mem_nil
  | givenUp n _ _ _ => exact List.not_mem_nil

/-- A retry starts discovery only if no stop was requested. -/
theorem RetryResumed.asks_no_start {d d' : Discovery ε} {inside : Bool} {r : Retry} {reply : Reply}
    (h : RetryResumed d inside r reply d') (hstop : d.stopRequested = true) :
    startRequest settings ∉ d'.asked := by
  cases h with
  | sleepFailed f _ _ => exact broken_asks_no_start d inside f
  | abandoned a _ _ _ => exact List.not_mem_nil
  | calls a _ _ hnot =>
    rw [hstop] at hnot
    cases hnot
  | restarted a _ _ => exact List.not_mem_nil
  | callFailed f _ _ _ _ hattempted => exact hattempted.asks_no_start
  | callBroken f _ _ _ => exact broken_asks_no_start d inside f

/-- After a stop only the end of the setup starts discovery. -/
theorem Resumed.filtering_of_start {d d' : Discovery ε} {reply : Reply}
    {result : Option (Except Fault Unit)} (h : Resumed d reply d' result)
    (hstop : d.stopRequested = true) (hstart : startRequest settings ∈ d'.asked) :
    d.phase = .filtering := by
  cases h with
  | filtered hphase _ => exact hphase
  | unconnected f _ _ => cases hstart
  | stoppedEarly a _ _ _ => exact absurd hstart (start_notMem_disconnect settings)
  | connected a _ _ hnot =>
    rw [hstop] at hnot
    cases hnot
  | watched _ _ => cases hstart
  | prepared a _ _ =>
    exact absurd rfl (isPlain_asked_of_setup settings (Or.inr (Or.inr rfl)) _ hstart).2
  | started a _ _ => cases hstart
  | refused f _ _ _ _ hattempted => exact absurd hstart hattempted.asks_no_start
  | unprepared f _ _ => exact absurd hstart (start_notMem_disconnect settings)
  | aborted f _ _ _ => exact absurd hstart (start_notMem_disconnect settings)
  | retried inside r _ _ hretry => exact absurd hstart (hretry.asks_no_start hstop)
  | handled name e _ => cases hstart
  | finished _ _ => exact absurd hstart (start_notMem_disconnect settings)
  | left outcome a _ _ => cases hstart
  | torn outcome f _ _ => cases hstart

theorem Woken.asks_no_start {d d' : Discovery ε} (h : Woken d d') :
    startRequest settings ∉ d'.asked := by
  cases h with
  | stops rest _ _ =>
    intro hmem
    have hsame := List.mem_singleton.mp hmem
    injection hsame with _ _ hmember
    exact absurd hmember (by decide)
  | ends rest _ _ => exact start_notMem_disconnect settings
  | ignored interface changed rest _ => exact List.not_mem_nil
  | lost interface changed rest _ _ _ hattempted => exact hattempted.asks_no_start
  | handles name e rest _ => exact List.not_mem_nil

/-- A stop was requested, and discovery is not being set up. -/
def IsPast (d : Discovery ε) : Prop := d.stopRequested = true ∧ d.phase.isSetup = false

theorem isPast_broken {d : Discovery ε} (h : d.stopRequested = true) (inside : Bool) (f : Fault) :
    IsPast (d.broken inside f) := by
  cases inside <;> exact ⟨h, rfl⟩

theorem isPast_retryPhase {d : Discovery ε} (h : d.stopRequested = true) (inside : Bool)
    (r : Retry) : IsPast { d with phase := retryPhase inside r } := by
  cases inside <;> exact ⟨h, rfl⟩

theorem Attempted.isPast {d d' : Discovery ε} {inside : Bool} {times backoff : Value}
    {attempt : Nat} (h : Attempted d inside times backoff attempt d')
    (hstop : d.stopRequested = true) : IsPast d' := by
  cases h with
  | unreadable f _ => exact isPast_broken hstop inside f
  | sleeps n _ _ => exact isPast_retryPhase hstop inside _
  | stopped n _ _ _ => exact ⟨hstop, rfl⟩
  | givenUp n _ _ _ => exact ⟨rfl, rfl⟩

theorem RetryResumed.isPast {d d' : Discovery ε} {inside : Bool} {r : Retry} {reply : Reply}
    (h : RetryResumed d inside r reply d') (hstop : d.stopRequested = true) : IsPast d' := by
  cases h with
  | sleepFailed f _ _ => exact isPast_broken hstop inside f
  | calls a _ _ _ => exact isPast_retryPhase hstop inside _
  | callFailed f _ _ _ _ hattempted => exact hattempted.isPast hstop
  | callBroken f _ _ _ => exact isPast_broken hstop inside f
  | abandoned a _ _ _ => exact ⟨hstop, rfl⟩
  | restarted a _ _ => exact ⟨hstop, rfl⟩

/-- After a stop a run that is not being set up never is again. -/
theorem Resumed.isPast {d d' : Discovery ε} {reply : Reply} {result : Option (Except Fault Unit)}
    (h : Resumed d reply d' result) (hpast : IsPast d) : IsPast d' := by
  obtain ⟨hstop, hnot⟩ := hpast
  cases h with
  | connected a _ _ hnone =>
    rw [hstop] at hnone
    cases hnone
  | watched hphase _ =>
    rw [hphase] at hnot
    cases hnot
  | prepared a hphase _ =>
    rw [hphase] at hnot
    cases hnot
  | refused f _ _ _ _ hattempted => exact hattempted.isPast hstop
  | retried inside r _ _ hretry => exact hretry.isPast hstop
  | _ => exact ⟨hstop, rfl⟩

theorem Woken.isPast {d d' : Discovery ε} (h : Woken d d') (hpast : IsPast d) : IsPast d' := by
  cases h with
  | lost interface changed rest _ _ _ hattempted => exact hattempted.isPast hpast.1
  | _ => exact ⟨hpast.1, rfl⟩

theorem Resumed.stopRequested {d d' : Discovery ε} {reply : Reply}
    {result : Option (Except Fault Unit)} (h : Resumed d reply d' result)
    (hstop : d.stopRequested = true) : d'.stopRequested = true := by
  cases h with
  | refused f _ _ _ _ hattempted => exact (hattempted.isPast hstop).1
  | retried inside r _ _ hretry => exact (hretry.isPast hstop).1
  | _ => exact hstop

theorem Woken.stopRequested {d d' : Discovery ε} (h : Woken d d') (hstop : d.stopRequested = true) :
    d'.stopRequested = true := by
  cases h with
  | lost interface changed rest _ _ _ hattempted => exact (hattempted.isPast hstop).1
  | _ => exact hstop

/-! ## Disconnections -/

/-- Whether an entry is of something that a run does, rather than of what is put to it or answered
to it. -/
def Mark.isWork : Mark ε → Bool
  | .asked _ | .prepared _ | .opened | .begun _ | .ended => true
  | .posted _ | .stopped | .answered _ _ => false

/-- A run disconnects once, and does nothing after that. -/
def DisconnectsLast (log : List (Mark ε)) : Prop :=
  ∃ earlier later, log = earlier ++ .asked .disconnect :: later ∧
    .disconnect ∉ requests earlier ∧ ∀ m ∈ later, m.isWork = false

theorem DisconnectsLast.append {log more : List (Mark ε)} (h : DisconnectsLast log)
    (hmore : ∀ m ∈ more, m.isWork = false) : DisconnectsLast (log ++ more) := by
  obtain ⟨earlier, later, rfl, hfirst, hlast⟩ := h
  refine ⟨earlier, later ++ more, by simp, hfirst, fun m hm => ?_⟩
  rcases List.mem_append.mp hm with hm | hm
  · exact hlast m hm
  · exact hmore m hm

/-- A run that has not come to its end has not disconnected. -/
theorem RequestLaw.disconnect_notMem {d : Discovery ε} {rs : List Request}
    {xs : List (Request × Reply)} (h : RequestLaw settings d rs xs)
    (hstage : d.phase.stage ≠ .done) : .disconnect ∉ rs := by
  have hplain (hall : ∀ q ∈ rs, IsPlain settings q) : .disconnect ∉ rs :=
    fun hmem => (hall _ hmem).1 rfl
  cases hphase : d.phase with
  | off => exact absurd (by rw [hphase]; rfl) hstage
  | connecting =>
    rw [(h.of_phase hphase).1]
    exact fun hmem => nomatch List.mem_singleton.mp hmem
  | stopping =>
    obtain ⟨before, rfl, hbefore⟩ := (h.of_phase hphase).1.last
    intro hmem
    rcases List.mem_append.mp hmem with hmem | hmem
    · exact (hbefore _ hmem).1 rfl
    · exact nomatch List.mem_singleton.mp hmem
  | disconnecting outcome => exact absurd (by rw [hphase]; rfl) hstage
  | _ => exact hplain (h.of_phase hphase).1.plain

/-- A move that comes to disconnect does so for the first time and does nothing else after that. -/
theorem disconnectsLast_move {s : Session ε} {marks : List (Mark ε)} {m : Move ε}
    (hbefore : .disconnect ∉ requests s.log) (hmarks : requests marks = [])
    (hmem : .disconnect ∈ requests (s.move marks m).log) : DisconnectsLast (s.move marks m).log := by
  simp only [Session.move, requests_append, requests_moveMarks, hmarks, List.append_nil] at hmem
  have hasked : m.1.asked = [.disconnect] := by
    have hnow := (List.mem_append.mp hmem).resolve_left hbefore
    unfold asked at hnow ⊢
    cases hpending : m.1.pending with
    | reply q =>
      rw [hpending] at hnow
      rw [List.mem_singleton.mp hnow]
    | _ =>
      rw [hpending] at hnow
      cases hnow
  refine ⟨s.log ++ marks ++ stopMarks s.controller m.1 ++ queueMarks s.controller m.1, [], ?_, ?_,
    fun _ hm => absurd hm List.not_mem_nil⟩
  · simp only [Session.move, moveMarks, askMarks_eq, hasked, List.append_assoc]
    rfl
  · simp only [requests_append, hmarks, requests_stopMarks, requests_queueMarks, List.append_nil]
    exact hbefore

theorem resume_of_disconnecting {d : Discovery ε} {outcome : Except Fault Unit}
    (hphase : d.phase = .disconnecting outcome) (r : Reply) :
    (d.resume r).1 = { d with phase := .off } := by
  unfold resume
  rw [hphase]
  cases r <;> rfl

/-- The reply to a disconnection adds nothing that a run does. -/
theorem disconnectsLast_over {s : Session ε} {outcome : Except Fault Unit}
    (h : DisconnectsLast s.log) (hphase : s.controller.phase = .disconnecting outcome) (r : Reply) :
    DisconnectsLast (s.move (s.controller.replyMarks r) (s.controller.resume r)).log := by
  have hreply : s.controller.replyMarks r = [.answered .disconnect r] :=
    replyMarks_of_reply (by rw [pending, hphase]) r
  have hnone : moveMarks s.controller (s.controller.resume r).1 = [] := by
    rw [resume_of_disconnecting hphase]
    simp [moveMarks, stopMarks, queueMarks, askMarks, pending, Phase.stage]
  simp only [Session.move, hnone, hreply, List.append_nil]
  refine h.append fun m hm => ?_
  rw [List.mem_singleton.mp hm]
  rfl

/-! ## Sessions -/

theorem Resumed.running {d d' : Discovery ε} {reply : Reply}
    {result : Option (Except Fault Unit)} (h : Resumed d reply d' result)
    (hon : d'.phase.isOff = false) : result = none := by
  cases h with
  | unconnected f _ _ => cases hon
  | left outcome a _ _ => cases hon
  | torn outcome f _ _ => cases hon
  | _ => rfl

/-- The invariant of a session. -/
structure Accounted (settings : Settings) (s : Session ε) : Prop where
  settings_eq : s.controller.settings = settings
  law : RequestLaw settings s.controller (requests s.log) (answers s.log)
  last : .disconnect ∈ requests s.log → DisconnectsLast s.log
  running : s.controller.phase.isOff = false → s.result = none

/-- The law of requests speaks of the phase and the state only. -/
theorem RequestLaw.congr {d d' : Discovery ε} {rs : List Request} {xs : List (Request × Reply)}
    (h : RequestLaw settings d rs xs) (hphase : d'.phase = d.phase)
    (hstatus : d'.status = d.status) : RequestLaw settings d' rs xs := by
  unfold RequestLaw at h ⊢
  rw [hphase, hstatus]
  exact h

/-- What is put to a run from outside is no request. -/
theorem Accounted.put {s : Session ε} {d : Discovery ε} {m : Mark ε} (h : Accounted settings s)
    (hd : ∃ stopRequested queue,
      d = { s.controller with stopRequested := stopRequested, queue := queue })
    (hrequests : requests [m] = []) (hanswers : answers [m] = []) (hwork : m.isWork = false) :
    Accounted settings { s with controller := d, log := s.log ++ [m] } := by
  obtain ⟨stopRequested, queue, rfl⟩ := hd
  have hrequests' : requests (s.log ++ [m]) = requests s.log := by
    rw [requests_append, hrequests, List.append_nil]
  have hanswers' : answers (s.log ++ [m]) = answers s.log := by
    rw [answers_append, hanswers, List.append_nil]
  refine ⟨h.settings_eq, ?_, fun hmem => ?_, h.running⟩
  · rw [hrequests', hanswers']
    exact h.law.congr rfl rfl
  · rw [hrequests'] at hmem
    refine (h.last hmem).append fun m' hm' => ?_
    rw [List.mem_singleton.mp hm']
    exact hwork

theorem Accounted.reply {s : Session ε} (h : Accounted settings s)
    (htakes : s.controller.takesReply = true) (r : Reply) :
    Accounted settings (s.move (s.controller.replyMarks r) (s.controller.resume r)) := by
  have hmove := resumed_resume htakes r
  refine ⟨hmove.settings_eq.trans h.settings_eq, ?_, fun hmem => ?_, hmove.running⟩
  · simp only [Session.move, requests_append, answers_append, requests_replyMarks,
      requests_moveMarks, answers_moveMarks, List.append_nil]
    exact hmove.requestLaw h.settings_eq h.law
  · cases hphase : s.controller.phase with
    | off =>
      simp only [takesReply, pending, hphase] at htakes
      cases htakes
    | disconnecting outcome =>
      have hclosed := h.law.of_phase hphase
      exact disconnectsLast_over (h.last hclosed.disconnects) hphase r
    | _ =>
      refine disconnectsLast_move (h.law.disconnect_notMem fun hdone => ?_)
        (requests_replyMarks _ r) hmem
      rw [hphase] at hdone
      cases hdone

theorem Accounted.wake {s : Session ε} (h : Accounted settings s)
    (hitem : s.controller.hasItem = true) :
    Accounted settings (s.move s.controller.itemMarks s.controller.wake) := by
  obtain ⟨hmove, hresult⟩ := woken_wake hitem
  have hphase := phase_of_hasItem hitem
  obtain ⟨hanswers, -⟩ := s.controller.answers_itemMarks
  refine ⟨hmove.settings_eq.trans h.settings_eq, ?_, fun hmem => ?_, fun _ => hresult⟩
  · simp only [Session.move, requests_append, answers_append, requests_itemMarks, hanswers,
      requests_moveMarks, answers_moveMarks, List.append_nil]
    exact hmove.requestLaw hphase h.settings_eq h.law
  · refine disconnectsLast_move (h.law.disconnect_notMem fun hdone => ?_)
      (requests_itemMarks _) hmem
    rw [hphase] at hdone
    cases hdone

theorem accounted_start {s : Session ε} {d : Discovery ε} (h : Accounted settings s)
    (hstart : s.controller.start = .ok d) :
    Accounted settings { controller := d, log := [.asked .connect] } := by
  unfold start at hstart
  split at hstart
  · cases hstart
  · rename_i hidle
    rw [ne_eq, Decidable.not_not] at hidle
    split at hstart
    · cases hstart
      refine ⟨h.settings_eq, ⟨rfl, rfl, hidle⟩, fun hmem => ?_, fun _ => rfl⟩
      exact nomatch List.mem_singleton.mp hmem
    · cases hstart

namespace Session

/-- **Each step keeps the account of the requests.** -/
theorem accounted_perform {s : Session ε} (h : Accounted settings s) (happening : Happening ε) :
    Accounted settings (s.perform happening) := by
  cases happening with
  | start =>
    simp only [perform]
    split
    · rename_i hstart
      exact accounted_start h hstart
    · exact h
  | stop => exact h.put ⟨_, _, rfl⟩ rfl rfl rfl
  | post name e => exact h.put ⟨_, _, postItem_eq _ _ _⟩ rfl rfl rfl
  | adapterChange interface changed => exact h.put ⟨_, _, postItem_eq _ _ _⟩ rfl rfl rfl
  | reply r =>
    simp only [perform]
    split
    · rename_i htakes
      exact h.reply htakes r
    · exact h
  | wake =>
    simp only [perform]
    split
    · rename_i hitem
      exact h.wake hitem
    · exact h

theorem accounted_run {s : Session ε} (h : Accounted settings s)
    (happenings : List (Happening ε)) : Accounted settings (s.run happenings) := by
  induction happenings generalizing s with
  | nil => exact h
  | cons happening rest ih => exact ih (accounted_perform h happening)

theorem accounted_new (settings : Settings) :
    Accounted settings ({ controller := { settings } } : Session ε) :=
  ⟨rfl, Or.inl ⟨rfl, rfl⟩, nofun, fun _ => rfl⟩

/-! ## Stops -/

/-- A step in which the run begins a request that starts discovery. -/
def BeginsStart (settings : Settings) (s s' : Session ε) : Prop :=
  ∃ more, s'.log = s.log ++ more ∧ startRequest settings ∈ requests more

theorem beginsStart_move {s : Session ε} {marks : List (Mark ε)} {m : Move ε}
    (hmarks : requests marks = []) (h : BeginsStart settings s (s.move marks m)) :
    startRequest settings ∈ m.1.asked := by
  obtain ⟨more, hlog, hmem⟩ := h
  simp only [Session.move, List.append_assoc, List.append_cancel_left_eq] at hlog
  rw [← hlog, requests_append, hmarks, requests_moveMarks] at hmem
  exact hmem

theorem not_beginsStart_of_put {s s' : Session ε} {m : Mark ε} (hlog : s'.log = s.log ++ [m])
    (hm : requests [m] = []) : ¬BeginsStart settings s s' := by
  rintro ⟨more, hmore, hmem⟩
  rw [hlog, List.append_cancel_left_eq] at hmore
  rw [← hmore, hm] at hmem
  cases hmem

theorem not_beginsStart_self (s : Session ε) : ¬BeginsStart settings s s := by
  rintro ⟨more, hmore, hmem⟩
  rw [List.self_eq_append_right.mp hmore] at hmem
  cases hmem

/-- A start of discovery after a stop comes at the end of the setup. -/
theorem filtering_of_beginsStart {s : Session ε} (hstop : s.controller.stopRequested = true)
    {happening : Happening ε} (h : BeginsStart settings s (s.perform happening)) :
    s.controller.phase = .filtering := by
  cases happening with
  | start =>
    simp only [perform] at h
    split at h
    · obtain ⟨more, hlog, hmem⟩ := h
      have hconnect : startRequest settings ∈ requests (s.log ++ more) := by
        rw [requests_append]
        exact List.mem_append_right _ hmem
      rw [← hlog] at hconnect
      cases List.mem_singleton.mp hconnect
    · exact absurd h (not_beginsStart_self s)
  | stop => exact absurd h (not_beginsStart_of_put rfl rfl)
  | post name e => exact absurd h (not_beginsStart_of_put rfl rfl)
  | adapterChange interface changed => exact absurd h (not_beginsStart_of_put rfl rfl)
  | reply r =>
    simp only [perform] at h
    split at h
    · rename_i htakes
      have hstart := beginsStart_move (requests_replyMarks _ r) h
      exact (resumed_resume htakes r).filtering_of_start hstop hstart
    · exact absurd h (not_beginsStart_self s)
  | wake =>
    simp only [perform] at h
    split at h
    · rename_i hitem
      have hstart := beginsStart_move (requests_itemMarks _) h
      exact absurd hstart (woken_wake hitem).1.asks_no_start
    · exact absurd h (not_beginsStart_self s)

/-- **A step after a stop**: the stop remains, and a run that is not being set up never is. -/
theorem stopped_perform (s : Session ε) (hstop : s.controller.stopRequested = true)
    (happening : Happening ε) :
    (s.perform happening).controller.stopRequested = true ∧
      (IsPast s.controller → IsPast (s.perform happening).controller) := by
  cases happening with
  | start =>
    simp only [perform]
    split
    · rename_i hstart
      unfold start at hstart
      split at hstart
      · cases hstart
      · split at hstart
        · cases hstart
          exact ⟨hstop, fun _ => ⟨hstop, rfl⟩⟩
        · cases hstart
    · exact ⟨hstop, id⟩
  | stop => exact ⟨rfl, fun hpast => ⟨rfl, hpast.2⟩⟩
  | post name e =>
    simp only [perform, post, postItem_eq]
    exact ⟨hstop, id⟩
  | adapterChange interface changed =>
    simp only [perform, postAdapterChange, postItem_eq]
    exact ⟨hstop, id⟩
  | reply r =>
    simp only [perform]
    split
    · rename_i htakes
      have hmove := resumed_resume htakes r
      exact ⟨hmove.stopRequested hstop, hmove.isPast⟩
    · exact ⟨hstop, id⟩
  | wake =>
    simp only [perform]
    split
    · rename_i hitem
      obtain ⟨hmove, -⟩ := woken_wake hitem
      exact ⟨hmove.stopRequested hstop, hmove.isPast⟩
    · exact ⟨hstop, id⟩

theorem stopped_run (s : Session ε) (hstop : s.controller.stopRequested = true)
    (happenings : List (Happening ε)) :
    (s.run happenings).controller.stopRequested = true ∧
      (IsPast s.controller → IsPast (s.run happenings).controller) := by
  induction happenings generalizing s with
  | nil => exact ⟨hstop, id⟩
  | cons happening rest ih =>
    obtain ⟨hstop', hpast⟩ := s.stopped_perform hstop happening
    obtain ⟨hrest, hrestPast⟩ := ih (s.perform happening) hstop'
    exact ⟨hrest, fun h => hrestPast (hpast h)⟩

end Session

/-! ## Runs -/

/-- The requests of a run. -/
structure Balanced (settings : Settings) (s : Session ε) : Prop where
  /-- Without a connection nothing else is asked. -/
  unconnected : ∀ f, (.connect, .error f) ∈ answers s.log → requests s.log = [.connect]
  /-- A run that was connected has disconnected when it is over. -/
  disconnects : ∀ result a, s.result = some result → (.connect, .ok a) ∈ answers s.log →
    .disconnect ∈ requests s.log
  /-- A run that disconnects does so once and last. -/
  last : .disconnect ∈ requests s.log → DisconnectsLast s.log
  /-- Discovery is stopped at most once, after it was started for the last time. -/
  once : StopsOnce settings (requests s.log)
  /-- A run that is over has stopped discovery if some start succeeded and it has not failed. -/
  stops : ∀ result, s.result = some result →
    (stopRequest settings ∈ requests s.log ↔
      Started settings (answers s.log) ∧ s.controller.status ≠ .failed)

theorem RequestLaw.unconnected {d : Discovery ε} {rs : List Request}
    {xs : List (Request × Reply)} (h : RequestLaw settings d rs xs) {f : Fault}
    (hmem : (.connect, .error f) ∈ xs) : rs = [.connect] := by
  cases hphase : d.phase with
  | off =>
    rcases h.of_phase hphase with ⟨-, rfl⟩ | ⟨hrs, -⟩ | hclosed
    · cases hmem
    · exact hrs
    · exact absurd hmem (hclosed.connected f)
  | connecting => exact (h.of_phase hphase).1
  | disconnecting outcome => exact absurd hmem ((h.of_phase hphase).connected f)
  | _ => exact absurd hmem ((h.of_phase hphase).1.connected f)

theorem stopsOnce_of_notMem {rs : List Request} (h : stopRequest settings ∉ rs) :
    StopsOnce settings rs :=
  fun hmem => absurd hmem h

theorem stop_notMem_connect (settings : Settings) : stopRequest settings ∉ [.connect] :=
  fun hmem => nomatch List.mem_singleton.mp hmem

theorem RequestLaw.once {d : Discovery ε} {rs : List Request} {xs : List (Request × Reply)}
    (h : RequestLaw settings d rs xs) : StopsOnce settings rs := by
  cases hphase : d.phase with
  | off =>
    rcases h.of_phase hphase with ⟨rfl, -⟩ | ⟨rfl, -⟩ | hclosed
    · exact stopsOnce_of_notMem List.not_mem_nil
    · exact stopsOnce_of_notMem (stop_notMem_connect settings)
    · exact hclosed.once
  | connecting =>
    rw [(h.of_phase hphase).1]
    exact stopsOnce_of_notMem (stop_notMem_connect settings)
  | stopping =>
    obtain ⟨before, rfl, hbefore⟩ := (h.of_phase hphase).1.last
    exact fun _ => ⟨before, [], rfl, fun hmem => (hbefore _ hmem).2 rfl, nofun, nofun⟩
  | disconnecting outcome =>
    have hclosed : Closed settings d.status rs xs := h.of_phase hphase
    exact hclosed.once
  | _ => exact stopsOnce_of_notMem (h.of_phase hphase).1.stop_notMem

theorem RequestLaw.stops_of_off {d : Discovery ε} {rs : List Request}
    {xs : List (Request × Reply)} (h : RequestLaw settings d rs xs) (hphase : d.phase = .off) :
    stopRequest settings ∈ rs ↔ Started settings xs ∧ d.status ≠ .failed := by
  rcases h.of_phase hphase with ⟨rfl, rfl⟩ | ⟨rfl, f, rfl⟩ | hclosed
  · refine iff_of_false List.not_mem_nil ?_
    rintro ⟨⟨a, hmem⟩, -⟩
    cases hmem
  · refine iff_of_false (stop_notMem_connect settings) ?_
    rintro ⟨⟨a, hmem⟩, -⟩
    cases List.mem_singleton.mp hmem
  · exact hclosed.stops

theorem RequestLaw.disconnects_of_off {d : Discovery ε} {rs : List Request}
    {xs : List (Request × Reply)} (h : RequestLaw settings d rs xs) (hphase : d.phase = .off)
    {a : Answer} (hmem : (.connect, .ok a) ∈ xs) : .disconnect ∈ rs := by
  rcases h.of_phase hphase with ⟨-, rfl⟩ | ⟨-, f, rfl⟩ | hclosed
  · cases hmem
  · cases List.mem_singleton.mp hmem
  · exact hclosed.disconnects

theorem Accounted.off_of_result {s : Session ε} (h : Accounted settings s)
    {result : Except Fault Unit} (hresult : s.result = some result) :
    s.controller.phase = .off := by
  cases hphase : s.controller.phase with
  | off => rfl
  | _ =>
    have hnone := h.running (by rw [hphase]; rfl)
    rw [hresult] at hnone
    cases hnone

theorem balanced_of_accounted {s : Session ε} (h : Accounted settings s) : Balanced settings s where
  unconnected _ hmem := h.law.unconnected hmem
  disconnects _ _ hresult hmem := h.law.disconnects_of_off (h.off_of_result hresult) hmem
  last := h.last
  once := h.law.once
  stops _ hresult := h.law.stops_of_off (h.off_of_result hresult)

namespace Session

theorem run_append (s : Session ε) (early late : List (Happening ε)) :
    s.run (early ++ late) = (s.run early).run late :=
  List.foldl_append

/-- **Connections and starts are paired with their ends.** At any point of any session, whatever the
bus replies, the requests of the present run are balanced. Once a stop was requested, a start of
discovery is begun only at the end of the setup, with no start before it in the run, and only if the
run was being set up, connected already, when the stop came. -/
theorem balanced (settings : Settings) (happenings : List (Happening ε)) :
    let s := ({ controller := { settings } } : Session ε).run happenings
    Balanced settings s ∧
      ∀ early late next, happenings = early ++ .stop :: late →
        BeginsStart settings s (s.perform next) →
          (({ controller := { settings } } : Session ε).run early).controller.phase.isSetup = true ∧
            s.controller.phase = .filtering ∧ startRequest settings ∉ requests s.log := by
  intro s
  have haccount : Accounted settings s := accounted_run (accounted_new settings) happenings
  refine ⟨balanced_of_accounted haccount, fun early late next hsplit hbegins => ?_⟩
  let before := ({ controller := { settings } } : Session ε).run early
  have hrun : s = (before.perform .stop).run late := by
    show Session.run _ happenings = _
    rw [hsplit, run_append]
    rfl
  obtain ⟨hstop, hpast⟩ := (before.perform .stop).stopped_run rfl late
  rw [← hrun] at hstop hpast
  have hphase := filtering_of_beginsStart hstop hbegins
  have hlaw := haccount.law.of_phase hphase
  refine ⟨?_, hphase, hlaw.2.2⟩
  -- otherwise the run could not be at the end of its setup now
  refine Classical.byContradiction fun hnot => ?_
  have hnow := (hpast ⟨rfl, Bool.not_eq_true _ ▸ hnot⟩).2
  rw [hphase] at hnow
  cases hnow

/-- A stop comes while the setup of the caller is under way. -/
def stoppedInSetup : List (Happening Nat) :=
  [.start, .reply .done, .reply .done, .stop, .reply .done]

/-- Discovery is started nevertheless, and the run comes to its end. -/
def stoppedAfterStart : List (Happening Nat) :=
  stoppedInSetup ++ [.reply .done, .reply .done, .wake, .reply .done, .reply .done]

theorem stoppedInSetup_balanced :
    let s := ({ controller := {} } : Session Nat).run stoppedInSetup
    let ended := ({ controller := {} } : Session Nat).run stoppedAfterStart
    BeginsStart {} s (s.perform (.reply .done)) ∧ s.controller.phase = .filtering ∧
      startRequest {} ∉ requests s.log ∧
      DisconnectsLast ended.log ∧ stopRequest {} ∈ requests ended.log := by
  intro s ended
  have hbegins : BeginsStart {} s (s.perform (.reply .done)) :=
    ⟨_, rfl, List.mem_singleton.mpr rfl⟩
  obtain ⟨-, hphase, hnever⟩ := (balanced {} stoppedInSetup).2
    [.start, .reply .done, .reply .done] [.reply .done] (.reply .done) rfl hbegins
  have hended : Balanced {} ended := (balanced {} stoppedAfterStart).1
  have hresult : ended.result = some (.ok ()) := rfl
  have hconnected : (.connect, .ok {}) ∈ answers ended.log := List.mem_of_getElem? (i := 0) rfl
  have hstarted : Started {} (answers ended.log) := ⟨{}, List.mem_of_getElem? (i := 3) rfl⟩
  have hstops := (hended.stops _ hresult).mpr ⟨hstarted, nofun⟩
  exact ⟨hbegins, hphase, hnever, hended.last (hended.disconnects _ _ hresult hconnected), hstops⟩

end Session

end Discovery

end TagGateway
