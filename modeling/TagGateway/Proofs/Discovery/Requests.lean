import TagGateway.Proofs.Discovery.Lifecycle

/-!
# The requests of a run

What a run has asked of the bus by the time it is in a phase, whatever the bus replied.

* `Discovery.requests` — the requests of a log; `Discovery.asked` — what a controller waits for.
* `Discovery.Ongoing`, `Discovery.Stopping`, `Discovery.Closed` — the requests of a run that goes
  on, that stops discovery and that disconnects.
* `Discovery.RequestLaw` — which of them holds in each phase; **`Discovery.Resumed.requestLaw`** and
  **`Discovery.Woken.requestLaw`** — that each move keeps it.
-/

namespace TagGateway

open Bus

namespace Discovery

variable {ε : Type}

/-! ## Requests of logs -/

/-- The requests that were made, in order. -/
def requests (log : List (Mark ε)) : List Request :=
  log.filterMap fun
    | .asked q => some q
    | _ => none

@[simp] theorem requests_append (log more : List (Mark ε)) :
    requests (log ++ more) = requests log ++ requests more :=
  List.filterMap_append

/-- What a controller waits for, if that is a reply of the bus. -/
def asked (d : Discovery ε) : List Request :=
  match d.pending with
  | .reply q => [q]
  | _ => []

@[simp] theorem requests_replyMarks (d : Discovery ε) (r : Reply) :
    requests (d.replyMarks r) = [] := by
  rcases d.replyMarks_cases r with ⟨q, -, heq⟩ | ⟨-, heq⟩ | heq <;> rw [heq] <;> rfl

@[simp] theorem requests_itemMarks (d : Discovery ε) : requests d.itemMarks = [] := by
  unfold itemMarks
  cases d.queue with
  | nil => rfl
  | cons item rest => cases item <;> rfl

@[simp] theorem requests_stopMarks (d d' : Discovery ε) : requests (stopMarks d d') = [] := by
  rcases stopMarks_cases d d' with ⟨-, heq⟩ | ⟨-, heq⟩ <;> rw [heq] <;> rfl

@[simp] theorem requests_queueMarks (d d' : Discovery ε) : requests (queueMarks d d') = [] := by
  rcases queueMarks_cases d d' with ⟨-, heq⟩ | ⟨-, -, heq⟩ | ⟨-, -, heq⟩ <;> rw [heq] <;> rfl

/-- The entries for what is asked. -/
theorem askMarks_eq (d : Discovery ε) : askMarks d = d.asked.map .asked := by
  unfold askMarks asked
  cases d.pending <;> rfl

/-- A move asks what the controller waits for afterwards. -/
@[simp] theorem requests_moveMarks (d d' : Discovery ε) :
    requests (moveMarks d d') = d'.asked := by
  have hask : requests (askMarks d') = d'.asked := by
    unfold askMarks asked
    cases d'.pending <;> rfl
  simp only [moveMarks, requests_append, requests_stopMarks, requests_queueMarks, hask,
    List.nil_append]

/-- A reply answers what the controller waited for. -/
theorem mem_answers_replyMarks {d : Discovery ε} {r : Reply} {exchange : Request × Reply}
    (h : exchange ∈ answers (d.replyMarks r)) : d.pending = .reply exchange.1 ∧ exchange.2 = r := by
  rcases d.replyMarks_cases r with ⟨q, hpending, heq⟩ | ⟨-, heq⟩ | heq <;> rw [heq] at h
  · rw [List.mem_singleton.mp h]
    exact ⟨hpending, rfl⟩
  · cases h
  · cases h

theorem answers_replyMarks_of_reply {d : Discovery ε} {q : Request} (h : d.pending = .reply q)
    (r : Reply) : answers (d.replyMarks r) = [(q, r)] := by
  rw [replyMarks_of_reply h]
  rfl

/-! ## What has been asked -/

/-- The request that stops discovery. -/
def stopRequest (settings : Settings) : Request :=
  .call (adapterPath settings.adapter) adapterInterface "StopDiscovery" "" []

/-- Whether some start of discovery succeeded. -/
def Started (settings : Settings) (exchanges : List (Request × Reply)) : Prop :=
  ∃ a, (startRequest settings, .ok a) ∈ exchanges

/-- A request that neither stops discovery nor disconnects. -/
def IsPlain (settings : Settings) (q : Request) : Prop :=
  q ≠ .disconnect ∧ q ≠ stopRequest settings

/-- The requests of a run that is connected and goes on. -/
structure Ongoing (settings : Settings) (asked : List Request)
    (exchanges : List (Request × Reply)) : Prop where
  connected : ∀ f, (.connect, .error f) ∉ exchanges
  plain : ∀ q ∈ asked, IsPlain settings q

/-- Discovery is stopped at most once, and not started after that. -/
def StopsOnce (settings : Settings) (asked : List Request) : Prop :=
  stopRequest settings ∈ asked →
    ∃ before after, asked = before ++ stopRequest settings :: after ∧
      stopRequest settings ∉ before ∧ stopRequest settings ∉ after ∧
      startRequest settings ∉ after

/-- The requests of a run that has just asked to stop discovery. -/
structure Stopping (settings : Settings) (asked : List Request)
    (exchanges : List (Request × Reply)) : Prop where
  connected : ∀ f, (.connect, .error f) ∉ exchanges
  started : Started settings exchanges
  last : ∃ before, asked = before ++ [stopRequest settings] ∧ ∀ q ∈ before, IsPlain settings q

/-- The requests of a run that has disconnected, or is about to. -/
structure Closed (settings : Settings) (status : Status) (asked : List Request)
    (exchanges : List (Request × Reply)) : Prop where
  connected : ∀ f, (.connect, .error f) ∉ exchanges
  disconnects : .disconnect ∈ asked
  once : StopsOnce settings asked
  stops : stopRequest settings ∈ asked ↔ Started settings exchanges ∧ status ≠ .failed

/-- Discovery was not started yet. -/
def Quiet (settings : Settings) (status : Status) (exchanges : List (Request × Reply)) : Prop :=
  ¬Started settings exchanges ∧ status ≠ .discovering

/-- The state tells whether discovery was started, unless it failed. -/
def InStep (settings : Settings) (status : Status) (exchanges : List (Request × Reply)) : Prop :=
  (status = .discovering → Started settings exchanges) ∧
    (Started settings exchanges → status = .discovering ∨ status = .failed)

/-- What has been asked and answered by the time a run is in its phase. -/
def RequestLaw (settings : Settings) (d : Discovery ε) (asked : List Request)
    (exchanges : List (Request × Reply)) : Prop :=
  match d.phase with
  | .off =>
    (asked = [] ∧ exchanges = []) ∨
      (asked = [.connect] ∧ ∃ f, exchanges = [(.connect, .error f)]) ∨
        Closed settings d.status asked exchanges
  | .connecting => asked = [.connect] ∧ exchanges = [] ∧ d.status = .idle
  | .watching | .preparing | .filtering =>
    Ongoing settings asked exchanges ∧ Quiet settings d.status exchanges ∧
      startRequest settings ∉ asked
  | .starting | .retrying _ =>
    Ongoing settings asked exchanges ∧ Quiet settings d.status exchanges
  | .waiting | .handling _ _ | .recovering _ =>
    Ongoing settings asked exchanges ∧ InStep settings d.status exchanges
  | .stopping => Stopping settings asked exchanges ∧ d.status = .discovering
  | .disconnecting _ => Closed settings d.status asked exchanges

variable {settings : Settings} {rs : List Request} {xs ys : List (Request × Reply)}

theorem startRequest_ne_stopRequest (settings : Settings) :
    startRequest settings ≠ stopRequest settings := by
  intro h
  injection h with _ _ hmember
  exact absurd hmember (by decide)

theorem Started.append (h : Started settings xs) (ys : List (Request × Reply)) :
    Started settings (xs ++ ys) := by
  obtain ⟨a, hmem⟩ := h
  exact ⟨a, List.mem_append_left _ hmem⟩

theorem started_append :
    Started settings (xs ++ ys) ↔ Started settings xs ∨ Started settings ys := by
  unfold Started
  rw [← exists_or]
  exact exists_congr fun a => List.mem_append

theorem Quiet.inStep {status : Status} (h : Quiet settings status xs) :
    InStep settings status xs :=
  ⟨fun heq => absurd heq h.2, fun hstarted => absurd hstarted h.1⟩

theorem Quiet.append {status : Status} (h : Quiet settings status xs)
    (hys : ¬Started settings ys) : Quiet settings status (xs ++ ys) :=
  ⟨fun hstarted => (started_append.mp hstarted).elim h.1 hys, h.2⟩

theorem InStep.append {status : Status} (h : InStep settings status xs)
    (hys : ¬Started settings ys) : InStep settings status (xs ++ ys) :=
  ⟨fun heq => (h.1 heq).append ys,
    fun hstarted => (started_append.mp hstarted).elim h.2 fun hys' => absurd hys' hys⟩

/-- Discovery that has just been started or restarted. -/
theorem inStep_started (a : Answer) (xs : List (Request × Reply)) :
    InStep settings .discovering (xs ++ [(startRequest settings, .ok a)]) :=
  ⟨fun _ => ⟨a, List.mem_append_right _ (List.mem_singleton.mpr rfl)⟩, fun _ => Or.inl rfl⟩

theorem Ongoing.ask {more : List Request} (h : Ongoing settings rs xs)
    (hmore : ∀ q ∈ more, IsPlain settings q) : Ongoing settings (rs ++ more) xs := by
  refine ⟨h.connected, fun q hq => ?_⟩
  rcases List.mem_append.mp hq with hq | hq
  · exact h.plain q hq
  · exact hmore q hq

/-- A run that asks nothing. -/
theorem Ongoing.wait (h : Ongoing settings rs xs) : Ongoing settings (rs ++ []) xs := by
  rw [List.append_nil]
  exact h

theorem connected_append (h : ∀ f, (.connect, .error f) ∉ xs)
    (hys : ∀ exchange ∈ ys, exchange.1 ≠ .connect) : ∀ f, (.connect, .error f) ∉ xs ++ ys := by
  intro f hmem
  rcases List.mem_append.mp hmem with hmem | hmem
  · exact h f hmem
  · exact hys _ hmem rfl

theorem Ongoing.answer (h : Ongoing settings rs xs)
    (hys : ∀ exchange ∈ ys, exchange.1 ≠ .connect) : Ongoing settings rs (xs ++ ys) :=
  ⟨connected_append h.connected hys, h.plain⟩

theorem Ongoing.stop_notMem (h : Ongoing settings rs xs) : stopRequest settings ∉ rs :=
  fun hmem => (h.plain _ hmem).2 rfl

/-- A run that need not stop discovery disconnects. -/
theorem Ongoing.close {status : Status} (h : Ongoing settings rs xs)
    (hstate : Started settings xs → status = .failed) :
    Closed settings status (rs ++ [.disconnect]) xs := by
  have hnever : stopRequest settings ∉ rs ++ [.disconnect] := by
    intro hmem
    rcases List.mem_append.mp hmem with hmem | hmem
    · exact h.stop_notMem hmem
    · exact nomatch List.mem_singleton.mp hmem
  refine ⟨h.connected, List.mem_append_right _ (List.mem_singleton.mpr rfl),
    fun hmem => absurd hmem hnever, iff_of_false hnever ?_⟩
  rintro ⟨hstarted, hne⟩
  exact hne (hstate hstarted)

/-- A run that has stopped discovery disconnects. -/
theorem Stopping.close {status : Status} (h : Stopping settings rs xs) (hne : status ≠ .failed)
    (hys : ∀ exchange ∈ ys, exchange.1 ≠ .connect) :
    Closed settings status (rs ++ [.disconnect]) (xs ++ ys) := by
  obtain ⟨before, rfl, hplain⟩ := h.last
  have hmem : stopRequest settings ∈ before ++ [stopRequest settings] ++ [.disconnect] := by simp
  refine ⟨connected_append h.connected hys, by simp, fun _ => ?_,
    iff_of_true hmem ⟨h.started.append ys, hne⟩⟩
  refine ⟨before, [.disconnect], by simp, fun hbefore => (hplain _ hbefore).2 rfl, ?_, ?_⟩
  · exact fun hafter => nomatch List.mem_singleton.mp hafter
  · exact fun hafter => nomatch List.mem_singleton.mp hafter

theorem Closed.answer {status : Status} (h : Closed settings status rs xs)
    (hys : ∀ exchange ∈ ys, exchange.1 = .disconnect) : Closed settings status rs (xs ++ ys) := by
  have hconnect : ∀ exchange ∈ ys, exchange.1 ≠ .connect := by
    intro exchange hmem heq
    rw [hys exchange hmem] at heq
    cases heq
  have hstarted : ¬Started settings ys := by
    rintro ⟨a, hmem⟩
    cases hys _ hmem
  refine ⟨connected_append h.connected hconnect, h.disconnects, h.once, ?_⟩
  rw [started_append, or_iff_left hstarted]
  exact h.stops

/-! ## Moves -/

/-- The law of a suspended retry of either kind. -/
theorem requestLaw_retryPhase {d : Discovery ε} {inside : Bool} {r : Retry} :
    RequestLaw settings { d with phase := retryPhase inside r } rs xs ↔
      Ongoing settings rs xs ∧ InStep settings d.status xs ∧
        (inside = false → Quiet settings d.status xs) := by
  cases inside with
  | true => simp [RequestLaw, retryPhase]
  | false =>
    simp only [RequestLaw, retryPhase, Bool.false_eq_true, if_false, forall_const]
    exact ⟨fun h => ⟨h.1, h.2.inStep, h.2⟩, fun h => ⟨h.1, h.2.2⟩⟩

/-- The law of the present phase. -/
theorem RequestLaw.of_phase {d : Discovery ε} {phase : Phase ε} (h : RequestLaw settings d rs xs)
    (hphase : d.phase = phase) : RequestLaw settings { d with phase } rs xs := by
  rw [← hphase]
  exact h

/-- A retry that fails with a fault: of the first start, it ends the run. -/
theorem requestLaw_broken {d : Discovery ε} {inside : Bool} (f : Fault)
    (hongoing : Ongoing settings rs xs) (hstate : InStep settings d.status xs)
    (hquiet : inside = false → Quiet settings d.status xs) :
    RequestLaw settings (d.broken inside f) (rs ++ (d.broken inside f).asked) xs := by
  cases inside with
  | true => exact ⟨hongoing.wait, hstate⟩
  | false => exact hongoing.close fun hstarted => absurd hstarted (hquiet rfl).1

theorem isPlain_sleep (settings : Settings) (duration : Value) :
    IsPlain settings (.sleep duration) :=
  ⟨nofun, nofun⟩

theorem isPlain_startRequest (settings : Settings) : IsPlain settings (startRequest settings) :=
  ⟨nofun, startRequest_ne_stopRequest settings⟩

/-- A retry that goes on to its next attempt. -/
theorem Attempted.requestLaw {d d' : Discovery ε} {inside : Bool} {times backoff : Value}
    {attempt : Nat} (h : Attempted d inside times backoff attempt d')
    (hongoing : Ongoing settings rs xs) (hstate : InStep settings d.status xs)
    (hquiet : inside = false → Quiet settings d.status xs) :
    RequestLaw settings d' (rs ++ d'.asked) xs := by
  cases h with
  | unreadable f _ => exact requestLaw_broken f hongoing hstate hquiet
  | sleeps n _ _ =>
    refine requestLaw_retryPhase.mpr ⟨hongoing.ask ?_, hstate, hquiet⟩
    intro q hq
    have hsleep : q = .sleep backoff := by
      cases inside <;> exact List.mem_singleton.mp hq
    rw [hsleep]
    exact isPlain_sleep settings backoff
  | stopped n _ _ _ => exact ⟨hongoing.wait, hstate⟩
  | givenUp n _ _ _ => exact ⟨hongoing.wait, nofun, fun _ => Or.inr rfl⟩

theorem asked_of_reply {d : Discovery ε} {q : Request} (h : d.pending = .reply q) :
    d.asked = [q] := by
  unfold asked
  rw [h]

/-- The answers to a request other than a start that succeeded. -/
theorem not_started_replyMarks {d : Discovery ε} {reply : Reply}
    (h : d.pending ≠ .reply (startRequest settings) ∨ ∃ f, reply = .error f) :
    ¬Started settings (answers (d.replyMarks reply)) := by
  rintro ⟨a, hmem⟩
  obtain ⟨hpending, hreply⟩ := mem_answers_replyMarks hmem
  rcases h with hne | ⟨f, hf⟩
  · exact hne hpending
  · rw [hf] at hreply
    cases hreply

theorem connected_replyMarks {d : Discovery ε} (h : d.pending ≠ .reply .connect) (reply : Reply) :
    ∀ exchange ∈ answers (d.replyMarks reply), exchange.1 ≠ .connect := by
  intro exchange hmem heq
  rw [← heq] at h
  exact h (mem_answers_replyMarks hmem).1

/-- A retry that goes on after a reply. -/
theorem RetryResumed.requestLaw {d d' : Discovery ε} {inside : Bool} {r : Retry} {reply : Reply}
    (h : RetryResumed d inside r reply d') (hphase : d.phase = retryPhase inside r)
    (hsettings : d.settings = settings) (hlaw : RequestLaw settings d rs xs) :
    RequestLaw settings d' (rs ++ d'.asked) (xs ++ answers (d.replyMarks reply)) := by
  obtain ⟨hongoing, hstate, hquiet⟩ := requestLaw_retryPhase.mp (hlaw.of_phase hphase)
  have hpending := pending_of_retryPhase hphase
  have hconnect : d.pending ≠ .reply .connect := by
    rw [hpending, Retry.request]
    split <;> intro heq <;> cases heq
  have hongoing := hongoing.answer (connected_replyMarks hconnect reply)
  -- unless a start succeeds, nothing changes about whether one did
  have hkeeps : (r.calling = false ∨ ∃ f, reply = .error f) →
      InStep settings d.status (xs ++ answers (d.replyMarks reply)) ∧
        (inside = false → Quiet settings d.status (xs ++ answers (d.replyMarks reply))) := by
    intro hcase
    have hnot : ¬Started settings (answers (d.replyMarks reply)) := by
      refine not_started_replyMarks (hcase.imp_left fun hcalling => ?_)
      rw [hpending, Retry.request, hcalling]
      intro heq
      cases heq
    exact ⟨hstate.append hnot, fun hinside => (hquiet hinside).append hnot⟩
  cases h with
  | sleepFailed f hcalling hreply =>
    obtain ⟨hstate, hquiet⟩ := hkeeps (Or.inl hcalling)
    exact requestLaw_broken f hongoing hstate hquiet
  | abandoned a hcalling hreply hstop => exact ⟨hongoing.wait, (hkeeps (Or.inl hcalling)).1⟩
  | calls a hcalling hreply hstop =>
    obtain ⟨hstate, hquiet⟩ := hkeeps (Or.inl hcalling)
    refine requestLaw_retryPhase.mpr ⟨hongoing.ask ?_, hstate, hquiet⟩
    intro q hq
    have hstart : q = startRequest settings := by
      rw [← hsettings]
      cases inside <;> exact List.mem_singleton.mp hq
    rw [hstart]
    exact isPlain_startRequest settings
  | restarted a hcalling hreply =>
    refine ⟨hongoing.wait, ?_⟩
    rw [answers_replyMarks_of_reply hpending, Retry.request, if_pos hcalling, hreply, adapterCall,
      path, hsettings]
    exact inStep_started a xs
  | callFailed f _ hcalling hreply hf hattempted =>
    obtain ⟨hstate, hquiet⟩ := hkeeps (Or.inr ⟨f, hreply⟩)
    exact hattempted.requestLaw hongoing hstate hquiet
  | callBroken f hcalling hreply hf =>
    obtain ⟨hstate, hquiet⟩ := hkeeps (Or.inr ⟨f, hreply⟩)
    exact requestLaw_broken f hongoing hstate hquiet

/-- What is asked while discovery is being set up. -/
theorem isPlain_asked_of_setup (settings : Settings) {d : Discovery ε}
    (h : d.phase = .watching ∨ d.phase = .preparing ∨ d.phase = .filtering) :
    ∀ q ∈ d.asked, IsPlain settings q ∧ q ≠ startRequest settings := by
  intro q hq
  unfold asked pending at hq
  rcases h with hphase | hphase | hphase <;> rw [hphase] at hq
  · rw [List.mem_singleton.mp hq]
    exact ⟨⟨nofun, nofun⟩, nofun⟩
  · cases hq
  · rw [List.mem_singleton.mp hq]
    have hne (member : String) (hmember : "SetDiscoveryFilter" ≠ member) :
        Request.call d.path adapterInterface "SetDiscoveryFilter" "a\x7bsv\x7d"
          [.dict [(.text "DuplicateData", .bool true)]] ≠
          .call (adapterPath settings.adapter) adapterInterface member "" [] := by
      intro heq
      injection heq with _ _ hsame
      exact hmember hsame
    exact ⟨⟨nofun, hne _ (by decide)⟩, hne _ (by decide)⟩

/-- A run that goes on with setting discovery up. -/
theorem requestLaw_setup {d : Discovery ε}
    (hphase : d.phase = .watching ∨ d.phase = .preparing ∨ d.phase = .filtering)
    (hongoing : Ongoing settings rs xs) (hquiet : Quiet settings d.status xs)
    (hstart : startRequest settings ∉ rs) : RequestLaw settings d (rs ++ d.asked) xs := by
  have hasked := isPlain_asked_of_setup settings hphase
  have hnever : startRequest settings ∉ rs ++ d.asked := by
    intro hmem
    rcases List.mem_append.mp hmem with hmem | hmem
    · exact hstart hmem
    · exact (hasked _ hmem).2 rfl
  have hlaw : Ongoing settings (rs ++ d.asked) xs ∧ Quiet settings d.status xs ∧
      startRequest settings ∉ rs ++ d.asked :=
    ⟨hongoing.ask fun q hq => (hasked q hq).1, hquiet, hnever⟩
  unfold RequestLaw
  rcases hphase with heq | heq | heq <;> rw [heq] <;> exact hlaw

/-- A reply that is neither of the connection nor of a start that succeeded. -/
theorem Ongoing.reply {d : Discovery ε} {status : Status} (hongoing : Ongoing settings rs xs)
    (hquiet : Quiet settings status xs) (reply : Reply) (hconnect : d.pending ≠ .reply .connect)
    (hstart : d.pending ≠ .reply (startRequest settings) ∨ ∃ f, reply = .error f) :
    Ongoing settings rs (xs ++ answers (d.replyMarks reply)) ∧
      Quiet settings status (xs ++ answers (d.replyMarks reply)) :=
  ⟨hongoing.answer (connected_replyMarks hconnect _), hquiet.append (not_started_replyMarks hstart)⟩

/-- A run that is being set up stays so, whatever the reply. -/
theorem RequestLaw.reply_of_setup {d : Discovery ε} (h : RequestLaw settings d rs xs)
    (hphase : d.phase = .watching ∨ d.phase = .preparing ∨ d.phase = .filtering) (reply : Reply) :
    Ongoing settings rs (xs ++ answers (d.replyMarks reply)) ∧
      Quiet settings d.status (xs ++ answers (d.replyMarks reply)) ∧
        startRequest settings ∉ rs := by
  have hlaw : Ongoing settings rs xs ∧ Quiet settings d.status xs ∧
      startRequest settings ∉ rs := by
    rcases hphase with heq | heq | heq <;> exact h.of_phase heq
  obtain ⟨hongoing, hquiet, hnever⟩ := hlaw
  have hconnect : d.pending ≠ .reply .connect := by
    unfold pending
    rcases hphase with heq | heq | heq <;> rw [heq] <;> exact nofun
  have hstart : d.pending ≠ .reply (startRequest settings) := by
    intro heq
    have hmem : startRequest settings ∈ d.asked := by
      rw [asked_of_reply heq]
      exact List.mem_singleton.mpr rfl
    exact (isPlain_asked_of_setup settings hphase _ hmem).2 rfl
  obtain ⟨hongoing, hquiet⟩ := hongoing.reply hquiet reply hconnect (Or.inl hstart)
  exact ⟨hongoing, hquiet, hnever⟩

/-- A first start that has not succeeded, whatever the fault. -/
theorem RequestLaw.reply_of_starting {d : Discovery ε} {reply : Reply} {f : Fault}
    (h : RequestLaw settings d rs xs) (hphase : d.phase = .starting) (hreply : reply = .error f) :
    Ongoing settings rs (xs ++ answers (d.replyMarks reply)) ∧
      Quiet settings d.status (xs ++ answers (d.replyMarks reply)) := by
  obtain ⟨hongoing, hquiet⟩ := h.of_phase hphase
  refine hongoing.reply hquiet reply ?_ (Or.inr ⟨f, hreply⟩)
  unfold pending
  rw [hphase]
  exact nofun

theorem RequestLaw.close_of_stopping {d : Discovery ε} {status : Status}
    (h : RequestLaw settings d rs xs) (hphase : d.phase = .stopping) (hne : status ≠ .failed)
    (reply : Reply) :
    Closed settings status (rs ++ [.disconnect]) (xs ++ answers (d.replyMarks reply)) := by
  obtain ⟨hstopping, -⟩ := h.of_phase hphase
  refine hstopping.close hne (connected_replyMarks ?_ reply)
  unfold pending
  rw [hphase]
  exact nofun

/-- A connection that was made. -/
theorem ongoing_connected (settings : Settings) (a : Answer) :
    Ongoing settings [.connect] [(.connect, .ok a)] ∧ ¬Started settings [(.connect, .ok a)] := by
  refine ⟨⟨by simp, fun q hq => ?_⟩, ?_⟩
  · rw [List.mem_singleton.mp hq]
    exact ⟨nofun, nofun⟩
  · rintro ⟨a', hmem⟩
    cases List.mem_singleton.mp hmem

theorem Quiet.unstarted {status : Status} (h : Quiet settings status xs) :
    Started settings xs → status = .failed :=
  fun hstarted => absurd hstarted h.1

theorem closed_answer_replyMarks {d : Discovery ε} {outcome : Except Fault Unit} {status : Status}
    (h : Closed settings status rs xs) (hphase : d.phase = .disconnecting outcome) (reply : Reply) :
    Closed settings status (rs ++ []) (xs ++ answers (d.replyMarks reply)) := by
  rw [List.append_nil]
  refine h.answer fun exchange hmem => ?_
  have hpending := (mem_answers_replyMarks hmem).1
  unfold pending at hpending
  rw [hphase] at hpending
  exact (Pending.reply.inj hpending).symm

/-- **A reply keeps the law of requests.** -/
theorem Resumed.requestLaw {d d' : Discovery ε} {reply : Reply}
    {result : Option (Except Fault Unit)} (h : Resumed d reply d' result)
    (hsettings : d.settings = settings) (hlaw : RequestLaw settings d rs xs) :
    RequestLaw settings d' (rs ++ d'.asked) (xs ++ answers (d.replyMarks reply)) := by
  have hpending {q : Pending ε} (phase : Phase ε) (hphase : d.phase = phase)
      (hq : ({ d with phase } : Discovery ε).pending = q) : d.pending = q := by
    rw [← hq, ← hphase]
  cases h with
  | unconnected f hphase hreply =>
    obtain ⟨rfl, rfl, -⟩ := hlaw.of_phase hphase
    rw [answers_replyMarks_of_reply (hpending _ hphase rfl), hreply]
    exact Or.inr (Or.inl ⟨rfl, f, rfl⟩)
  | stoppedEarly a hphase hreply hstop =>
    obtain ⟨rfl, rfl, -⟩ := hlaw.of_phase hphase
    rw [answers_replyMarks_of_reply (hpending _ hphase rfl), hreply]
    obtain ⟨hongoing, hnot⟩ := ongoing_connected settings a
    exact hongoing.close fun hstarted => absurd hstarted hnot
  | connected a hphase hreply hstop =>
    obtain ⟨rfl, rfl, hidle⟩ := hlaw.of_phase hphase
    rw [answers_replyMarks_of_reply (hpending _ hphase rfl), hreply]
    obtain ⟨hongoing, hnot⟩ := ongoing_connected settings a
    refine requestLaw_setup (Or.inl rfl) hongoing ⟨hnot, ?_⟩ ?_
    · show d.status ≠ .discovering
      rw [show d.status = .idle from hidle]
      decide
    · intro hmem
      cases List.mem_singleton.mp hmem
  | watched hphase hreply =>
    obtain ⟨hongoing, hquiet, hnever⟩ := hlaw.reply_of_setup (Or.inl hphase) reply
    exact requestLaw_setup (Or.inr (Or.inl rfl)) hongoing hquiet hnever
  | prepared a hphase hreply =>
    obtain ⟨hongoing, hquiet, hnever⟩ := hlaw.reply_of_setup (Or.inr (Or.inl hphase)) reply
    exact requestLaw_setup (Or.inr (Or.inr rfl)) hongoing hquiet hnever
  | filtered hphase hreply =>
    obtain ⟨hongoing, hquiet, -⟩ := hlaw.reply_of_setup (Or.inr (Or.inr hphase)) reply
    refine ⟨hongoing.ask fun q hq => ?_, hquiet⟩
    rw [List.mem_singleton.mp hq, adapterCall, path, hsettings]
    exact isPlain_startRequest settings
  | started a hphase hreply =>
    obtain ⟨hongoing, -⟩ := hlaw.of_phase hphase
    have hstart : answers (d.replyMarks reply) = [(startRequest settings, .ok a)] := by
      rw [answers_replyMarks_of_reply (hpending _ hphase rfl), hreply, ← hsettings]
      rfl
    rw [hstart]
    refine ⟨(hongoing.answer fun exchange hmem heq => ?_).wait, inStep_started a xs⟩
    rw [List.mem_singleton.mp hmem] at heq
    cases heq
  | refused f _ hphase hreply hf hattempted =>
    obtain ⟨hongoing, hquiet⟩ := hlaw.reply_of_starting hphase hreply
    exact hattempted.requestLaw hongoing hquiet.inStep fun _ => hquiet
  | unprepared f hphase hreply =>
    obtain ⟨hongoing, hquiet, -⟩ := hlaw.reply_of_setup (Or.inr (Or.inl hphase)) reply
    exact hongoing.close hquiet.unstarted
  | aborted f hphase hreply hf =>
    rcases hphase with hphase | hphase | hphase | hphase
    · obtain ⟨hongoing, hquiet, -⟩ := hlaw.reply_of_setup (Or.inl hphase) reply
      exact hongoing.close hquiet.unstarted
    · obtain ⟨hongoing, hquiet, -⟩ := hlaw.reply_of_setup (Or.inr (Or.inr hphase)) reply
      exact hongoing.close hquiet.unstarted
    · obtain ⟨hongoing, hquiet⟩ := hlaw.reply_of_starting hphase hreply
      exact hongoing.close hquiet.unstarted
    · refine hlaw.close_of_stopping hphase ?_ reply
      show d.status ≠ .failed
      rw [show d.status = .discovering from (hlaw.of_phase hphase).2]
      decide
  | retried inside r _ hphase hretry => exact hretry.requestLaw hphase hsettings hlaw
  | handled name e hphase =>
    obtain ⟨hongoing, hstate⟩ := hlaw.of_phase hphase
    have hnone : answers (d.replyMarks reply) = [] := by
      unfold replyMarks pending
      rw [hphase]
      rfl
    rw [hnone, List.append_nil]
    exact ⟨hongoing.wait, hstate⟩
  | finished hphase hreply =>
    refine hlaw.close_of_stopping hphase ?_ reply
    show (if d.status = .failed then Status.failed else .stopped) ≠ .failed
    rw [show d.status = .discovering from (hlaw.of_phase hphase).2]
    decide
  | left outcome a hphase hreply =>
    exact Or.inr (Or.inr (closed_answer_replyMarks (hlaw.of_phase hphase) hphase reply))
  | torn outcome f hphase hreply =>
    exact Or.inr (Or.inr (closed_answer_replyMarks (hlaw.of_phase hphase) hphase reply))

/-- **Taking an item keeps the law of requests.** -/
theorem Woken.requestLaw {d d' : Discovery ε} (h : Woken d d') (hphase : d.phase = .waiting)
    (hsettings : d.settings = settings) (hlaw : RequestLaw settings d rs xs) :
    RequestLaw settings d' (rs ++ d'.asked) xs := by
  obtain ⟨hongoing, hstate⟩ := hlaw.of_phase hphase
  cases h with
  | stops rest hqueue hstatus =>
    refine ⟨⟨hongoing.connected, hstate.1 hstatus, rs, ?_, hongoing.plain⟩, hstatus⟩
    rw [stopRequest, ← hsettings]
    rfl
  | ends rest hqueue hstatus =>
    refine hongoing.close fun hstarted => ?_
    have hfailed : d.status = .failed := (hstate.2 hstarted).resolve_left hstatus
    show (if d.status = .failed then Status.failed else .stopped) = .failed
    rw [if_pos hfailed]
  | ignored interface changed rest hqueue => exact ⟨hongoing.wait, hstate⟩
  | lost interface changed rest _ hqueue hwanted hattempted =>
    exact hattempted.requestLaw hongoing hstate nofun
  | handles name e rest hqueue => exact ⟨hongoing.wait, hstate⟩

end Discovery

end TagGateway
