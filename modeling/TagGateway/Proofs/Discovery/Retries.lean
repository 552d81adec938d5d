import TagGateway.Proofs.Discovery.Lifecycle

/-!
# Retries by themselves

A retry pauses and calls, a bounded number of times, and notices a stop when a pause has ended. It
is run here by itself, with any number of attempts and any pause; the bus may reply anything, and a
stop may be requested at any time.

* `Discovery.Retry.Run` — a retry with what was asked and answered and with its effects;
  `Retry.Run.perform` — one happening, `Retry.Run.run` — a sequence of them.
* `Discovery.Retry.Stands` — the invariant: how many rounds there were, all of them refused, and
  what comes behind them; `Retry.Stands.perform` — one happening keeps it.
* `Discovery.Retry.Law` — what holds of a retry that has ended; **`Discovery.retry_rounds`** — every
  retry that ends obeys it, and every retry does end.
-/

namespace TagGateway

open Bus

/-- Whether an effect is a notice of an error. -/
def Bus.Effect.isError : Effect → Bool
  | .notice n => n.level = .error
  | .unsubscribe _ => false

namespace Discovery

variable {ε : Type}

namespace Retry

/-! ## Runs -/

/-- What may happen while a retry is under way. -/
inductive Happening
  | stop
  /-- What the retry waits for has arrived. -/
  | reply (r : Reply)

/-- Whether something arrives. -/
def Happening.isReply : Happening → Bool
  | stop => false
  | reply _ => true

/-- A retry by itself: the controller, how the retry goes on, the requests that were answered and
all effects. -/
structure Run (ε : Type) where
  controller : Discovery ε
  next : Next
  exchanges : List (Request × Reply) := []
  effects : List Effect := []

namespace Run

/-- The beginning of a retry. -/
def begin (d : Discovery ε) (times backoff : Option Value) : Run ε where
  controller := d
  next := (d.startRetry times backoff).2
  effects := (d.startRetry times backoff).1

/-- Something happens. A retry that is over waits for nothing. -/
def perform (s : Run ε) : Happening → Run ε
  | .stop => { s with controller := s.controller.stop }
  | .reply reply =>
    match s.next with
    | .wait r =>
      let m := s.controller.resumeRetry r reply
      { controller := m.1
        next := m.2.2
        exchanges := s.exchanges ++ [(r.request s.controller, reply)]
        effects := s.effects ++ m.2.1 }
    | .ended _ | .failed _ => s

/-- All that happens, in order. -/
def run (s : Run ε) (happenings : List Happening) : Run ε := happenings.foldl perform s

/-- Whether a reply is waited for. -/
def waits (s : Run ε) : Bool :=
  match s.next with
  | .wait _ => true
  | .ended _ | .failed _ => false

/-- The errors that were noticed. -/
def errors (s : Run ε) : List Effect := s.effects.filter Effect.isError

end Run

/-- Whether the bus replies to a request as documented: a pause does not fail, and a call fails by
refusal only. -/
def isDocumented : Request × Reply → Bool
  | (.sleep _, .error _) => false
  | (_, .error f) => f.isCallFailure
  | (_, .ok _) => true

/-- Whether a request is a call. -/
def isCall : Request × Reply → Bool
  | (.call .., _) => true
  | _ => false

/-- Whether a retry goes on with a call. -/
def Next.calls : Next → Bool
  | .wait r => r.calling
  | .ended _ | .failed _ => false

/-- The calls that were made: those that were replied to and the one under way. -/
def Run.callCount (s : Run ε) : Nat := s.exchanges.countP isCall + s.next.calls.toNat

/-- The request and the reply of a pause. -/
def paused (pause : Value) (a : Answer) : Request × Reply := (.sleep pause, .ok a)

/-- The requests and replies of rounds: of each, a pause and then the start of discovery. -/
def exchangesOf (settings : Settings) (pause : Value) (rounds : List (Answer × Reply)) :
    List (Request × Reply) :=
  rounds.flatMap fun x => [paused pause x.1, (startRequest settings, x.2)]

/-- The start of discovery was refused in a round. -/
def IsRefused (x : Answer × Reply) : Prop := ∃ f, f.isCallFailure = true ∧ x.2 = .error f

/-- The notice that a retry has run out of attempts. -/
def exhausted (settings : Settings) (times : Value) : Effect :=
  .say .error ("Could not restart discovery on " ++ settings.adapter ++ " after " ++
    times.display ++ " attempts")

/-! ## Single moves -/

theorem nextAttempt_of_le {d : Discovery ε} {times : Value} {n : Int}
    (hn : attemptsOf times = .ok n) (pause : Value) {attempt : Nat} (h : (attempt : Int) ≤ n) :
    d.nextAttempt times pause attempt = ([], .wait ⟨times, pause, attempt, false⟩) := by
  simp only [nextAttempt, hn, if_pos h]

theorem nextAttempt_of_lt {d : Discovery ε} {times : Value} {n : Int}
    (hn : attemptsOf times = .ok n) (pause : Value) {attempt : Nat} (h : n < attempt) :
    d.nextAttempt times pause attempt = ([exhausted d.settings times], .ended false) := by
  have hnot : ¬(attempt : Int) ≤ n := by omega
  simp only [nextAttempt, hn, if_neg hnot, exhausted]

/-- A retry changes nothing of the controller but its state. -/
theorem stopRequested_resumeRetry (d : Discovery ε) (r : Retry) (reply : Reply) :
    (d.resumeRetry r reply).1.stopRequested = d.stopRequested := by
  unfold resumeRetry
  split
  · rfl
  · split <;> rfl
  · rfl
  · split <;> rfl

theorem request_sleeping {d : Discovery ε} {r : Retry} (h : r.calling = false) :
    r.request d = .sleep r.backoff := by
  rw [Retry.request, h, if_neg Bool.false_ne_true]

theorem request_calling {d : Discovery ε} {r : Retry} (h : r.calling = true) :
    r.request d = startRequest d.settings := by
  rw [Retry.request, h, if_pos rfl]
  rfl

theorem errors_setStatus (d : Discovery ε) (status : Status) :
    (d.setStatus status).2.filter Effect.isError = [] := by
  unfold setStatus
  split <;> rfl

/-- An attempt begins with a pause. -/
theorem calls_nextAttempt (d : Discovery ε) (times pause : Value) (attempt : Nat) :
    (d.nextAttempt times pause attempt).2.calls = false := by
  unfold nextAttempt
  split
  · rfl
  · split <;> rfl

/-- After a stop was requested a retry goes on with no call. -/
theorem calls_resumeRetry {d : Discovery ε} (hstop : d.stopRequested = true) (r : Retry)
    (reply : Reply) : (d.resumeRetry r reply).2.2.calls = false := by
  unfold resumeRetry
  split
  · rfl
  · rw [if_pos hstop]
    rfl
  · rfl
  · split
    · exact calls_nextAttempt d r.times r.backoff (r.attempt + 1)
    · rfl

theorem exchangesOf_append (settings : Settings) (pause : Value) (rounds : List (Answer × Reply))
    (a : Answer) (reply : Reply) :
    exchangesOf settings pause (rounds ++ [(a, reply)]) =
      exchangesOf settings pause rounds ++ [paused pause a] ++
        [(startRequest settings, reply)] := by
  rw [exchangesOf, List.flatMap_append, List.append_assoc]
  rfl

theorem length_exchangesOf (settings : Settings) (pause : Value)
    (rounds : List (Answer × Reply)) :
    (exchangesOf settings pause rounds).length = 2 * rounds.length := by
  induction rounds with
  | nil => rfl
  | cons x rest ih =>
    have hcons : (exchangesOf settings pause (x :: rest)).length =
        (exchangesOf settings pause rest).length + 2 := by
      rw [exchangesOf, List.flatMap_cons]
      exact List.length_append.trans (Nat.add_comm 2 _)
    rw [hcons, ih, List.length_cons]
    omega

/-! ## The invariant -/

/-- Rounds were all refused, and so the controller is as it was. -/
structure Spent (d : Discovery ε) (s : Run ε) (rounds : List (Answer × Reply)) : Prop where
  refused : ∀ x ∈ rounds, IsRefused x
  settings : s.controller.settings = d.settings
  status : s.controller.status = d.status

/-- How a retry stands that began on a controller with so many attempts: rounds that were all
refused, and then a pause or a call under way, the end, or a fault that the bus should not reply. -/
inductive Stands (d : Discovery ε) (times pause : Value) (n : Int) (s : Run ε) : Prop
  | sleeping (rounds : List (Answer × Reply)) (hspent : Spent d s rounds)
      (hnext : s.next = .wait ⟨times, pause, rounds.length + 1, false⟩)
      (hlength : (rounds.length : Int) < n)
      (hexchanges : s.exchanges = exchangesOf d.settings pause rounds) (herrors : s.errors = [])
  | calling (rounds : List (Answer × Reply)) (a : Answer) (hspent : Spent d s rounds)
      (hnext : s.next = .wait ⟨times, pause, rounds.length + 1, true⟩)
      (hlength : (rounds.length : Int) < n)
      (hexchanges : s.exchanges = exchangesOf d.settings pause rounds ++ [paused pause a])
      (herrors : s.errors = [])
  | restarted (rounds : List (Answer × Reply)) (a a' : Answer)
      (hrefused : ∀ x ∈ rounds, IsRefused x) (hnext : s.next = .ended true)
      (hlength : (rounds.length : Int) < n) (hstatus : s.controller.status = .discovering)
      (hexchanges : s.exchanges = exchangesOf d.settings pause (rounds ++ [(a, .ok a')]))
      (herrors : s.errors = [])
  | ranOut (rounds : List (Answer × Reply)) (hspent : Spent d s rounds)
      (hnext : s.next = .ended false) (hlength : (rounds.length : Int) = max n 0)
      (hexchanges : s.exchanges = exchangesOf d.settings pause rounds)
      (herrors : s.errors = [exhausted d.settings times])
  | stopped (rounds : List (Answer × Reply)) (a : Answer) (hspent : Spent d s rounds)
      (hnext : s.next = .ended false) (hlength : (rounds.length : Int) < n)
      (hstop : s.controller.stopRequested = true)
      (hexchanges : s.exchanges = exchangesOf d.settings pause rounds ++ [paused pause a])
      (herrors : s.errors = [])
  | broken (f : Fault) (hnext : s.next = .failed f)
      (hexchanges : ∃ x ∈ s.exchanges, isDocumented x = false)

variable {d : Discovery ε} {times pause : Value} {n : Int} {s : Run ε}

/-- Before an attempt: there are attempts left to pause for, or the retry has run out of them. -/
theorem Stands.attempt (hn : attemptsOf times = .ok n) {rounds : List (Answer × Reply)}
    (hspent : Spent d s rounds) (hbound : (rounds.length : Int) ≤ max n 0)
    (hnext : s.next = (s.controller.nextAttempt times pause (rounds.length + 1)).2)
    (hexchanges : s.exchanges = exchangesOf d.settings pause rounds)
    (herrors : s.errors =
      (s.controller.nextAttempt times pause (rounds.length + 1)).1.filter Effect.isError) :
    Stands d times pause n s := by
  rcases Int.lt_or_le (rounds.length : Int) n with hleft | hnone
  · have hle : ((rounds.length + 1 : Nat) : Int) ≤ n := by omega
    rw [nextAttempt_of_le hn pause hle] at hnext herrors
    exact .sleeping rounds hspent hnext hleft hexchanges herrors
  · have hlt : n < ((rounds.length + 1 : Nat) : Int) := by omega
    have hall : (rounds.length : Int) = max n 0 := by omega
    rw [nextAttempt_of_lt hn pause hlt] at hnext herrors
    rw [hspent.settings] at herrors
    exact .ranOut rounds hspent hnext hall hexchanges herrors

theorem Spent.stop {rounds : List (Answer × Reply)} (h : Spent d s rounds) :
    Spent d (s.perform .stop) rounds :=
  ⟨h.refused, h.settings, h.status⟩

/-- A stop changes nothing of how a retry stands. -/
theorem Stands.stop (h : Stands d times pause n s) : Stands d times pause n (s.perform .stop) := by
  cases h with
  | sleeping rounds hspent hnext hlength hexchanges herrors =>
    exact .sleeping rounds hspent.stop hnext hlength hexchanges herrors
  | calling rounds a hspent hnext hlength hexchanges herrors =>
    exact .calling rounds a hspent.stop hnext hlength hexchanges herrors
  | restarted rounds a a' hrefused hnext hlength hstatus hexchanges herrors =>
    exact .restarted rounds a a' hrefused hnext hlength hstatus hexchanges herrors
  | ranOut rounds hspent hnext hlength hexchanges herrors =>
    exact .ranOut rounds hspent.stop hnext hlength hexchanges herrors
  | stopped rounds a hspent hnext hlength _ hexchanges herrors =>
    exact .stopped rounds a hspent.stop hnext hlength rfl hexchanges herrors
  | broken f hnext hexchanges => exact .broken f hnext hexchanges

theorem perform_reply_of_wait {r : Retry} (h : s.next = .wait r) (reply : Reply) :
    s.perform (.reply reply) =
      { controller := (s.controller.resumeRetry r reply).1
        next := (s.controller.resumeRetry r reply).2.2
        exchanges := s.exchanges ++ [(r.request s.controller, reply)]
        effects := s.effects ++ (s.controller.resumeRetry r reply).2.1 } := by
  simp only [Run.perform, h]

theorem perform_reply_of_not_waits (h : s.waits = false) (reply : Reply) :
    s.perform (.reply reply) = s := by
  unfold Run.waits at h
  unfold Run.perform
  cases hnext : s.next with
  | wait r =>
    rw [hnext] at h
    cases h
  | ended restarted => rfl
  | failed f => rfl

/-- What a pause that ends leads to. -/
theorem Stands.reply_sleeping {rounds : List (Answer × Reply)} (hspent : Spent d s rounds)
    (hnext : s.next = .wait ⟨times, pause, rounds.length + 1, false⟩)
    (hlength : (rounds.length : Int) < n)
    (hexchanges : s.exchanges = exchangesOf d.settings pause rounds) (herrors : s.errors = [])
    (reply : Reply) : Stands d times pause n (s.perform (.reply reply)) := by
  have hrequest : Retry.request s.controller ⟨times, pause, rounds.length + 1, false⟩ =
      .sleep pause := request_sleeping rfl
  rw [perform_reply_of_wait hnext, hrequest]
  cases reply with
  | error f =>
    exact .broken f rfl ⟨(.sleep pause, .error f), List.mem_append_right _ List.mem_cons_self, rfl⟩
  | ok a =>
    have hexchanges' : s.exchanges ++ [paused pause a] =
        exchangesOf d.settings pause rounds ++ [paused pause a] := by
      rw [hexchanges]
    by_cases hstop : s.controller.stopRequested = true
    · simp only [resumeRetry, if_pos hstop]
      refine .stopped rounds a ⟨hspent.refused, hspent.settings, hspent.status⟩ rfl hlength hstop
        hexchanges' ?_
      rw [Run.errors, List.append_nil]
      exact herrors
    · simp only [resumeRetry, if_neg hstop]
      refine .calling rounds a ⟨hspent.refused, hspent.settings, hspent.status⟩ rfl hlength
        hexchanges' ?_
      rw [Run.errors, List.filter_append]
      exact (List.append_nil _).trans herrors

/-- What a call that was replied to leads to. -/
theorem Stands.reply_calling (hn : attemptsOf times = .ok n) {rounds : List (Answer × Reply)}
    {a : Answer} (hspent : Spent d s rounds)
    (hnext : s.next = .wait ⟨times, pause, rounds.length + 1, true⟩)
    (hlength : (rounds.length : Int) < n)
    (hexchanges : s.exchanges = exchangesOf d.settings pause rounds ++ [paused pause a])
    (herrors : s.errors = []) (reply : Reply) :
    Stands d times pause n (s.perform (.reply reply)) := by
  have hrequest : Retry.request s.controller ⟨times, pause, rounds.length + 1, true⟩ =
      startRequest d.settings := by
    rw [request_calling rfl, hspent.settings]
  have hexchanges' : s.exchanges ++ [(startRequest d.settings, reply)] =
      exchangesOf d.settings pause (rounds ++ [(a, reply)]) := by
    rw [hexchanges, exchangesOf_append]
  rw [perform_reply_of_wait hnext, hrequest]
  cases reply with
  | ok a' =>
    refine .restarted rounds a a' hspent.refused rfl hlength rfl hexchanges' ?_
    rw [Run.errors, List.filter_append]
    simp only [resumeRetry, errors_setStatus, List.append_nil]
    exact herrors
  | error f =>
    cases hf : f.isCallFailure with
    | false =>
      simp only [resumeRetry, hf, Bool.false_eq_true, if_false]
      exact .broken f rfl ⟨(startRequest d.settings, .error f),
        List.mem_append_right _ List.mem_cons_self, hf⟩
    | true =>
      have hrefused : ∀ x ∈ rounds ++ [(a, .error f)], IsRefused x := by
        intro x hx
        rcases List.mem_append.mp hx with hx | hx
        · exact hspent.refused x hx
        · rw [List.mem_singleton.mp hx]
          exact ⟨f, hf, rfl⟩
      have hcount : (rounds ++ [(a, (.error f : Reply))]).length = rounds.length + 1 :=
        List.length_append
      simp only [resumeRetry, hf, if_true]
      refine Stands.attempt hn ⟨hrefused, hspent.settings, hspent.status⟩ (by omega) ?_
        hexchanges' ?_
      · rw [hcount]
      · have hnone : s.effects.filter Effect.isError = [] := herrors
        rw [hcount, Run.errors, List.filter_append, hnone]
        rfl

theorem Stands.waits_cases (h : Stands d times pause n s) (hwaits : s.waits = true) :
    ∃ rounds : List (Answer × Reply), (rounds.length : Int) < n ∧
      s.exchanges.length ≤ 2 * rounds.length + 1 := by
  cases h with
  | sleeping rounds _ _ hlength hexchanges =>
    refine ⟨rounds, hlength, ?_⟩
    rw [hexchanges, length_exchangesOf]
    omega
  | calling rounds a _ _ hlength hexchanges =>
    refine ⟨rounds, hlength, ?_⟩
    rw [hexchanges, List.length_append, length_exchangesOf]
    exact Nat.le_refl _
  | restarted _ _ _ _ hnext | ranOut _ _ hnext | stopped _ _ _ hnext | broken _ hnext =>
    unfold Run.waits at hwaits
    rw [hnext] at hwaits
    cases hwaits

/-- **One happening leaves a retry standing in one of these ways.** -/
theorem Stands.perform (hn : attemptsOf times = .ok n) (h : Stands d times pause n s)
    (happening : Happening) : Stands d times pause n (s.perform happening) := by
  cases happening with
  | stop => exact h.stop
  | reply reply =>
    cases hwaits : s.waits with
    | false =>
      rw [perform_reply_of_not_waits hwaits]
      exact h
    | true =>
      cases h with
      | sleeping rounds hspent hnext hlength hexchanges herrors =>
        exact .reply_sleeping hspent hnext hlength hexchanges herrors reply
      | calling rounds a hspent hnext hlength hexchanges herrors =>
        exact .reply_calling hn hspent hnext hlength hexchanges herrors reply
      | restarted _ _ _ _ hnext | ranOut _ _ hnext | stopped _ _ _ hnext | broken _ hnext =>
        unfold Run.waits at hwaits
        rw [hnext] at hwaits
        cases hwaits

theorem Stands.run (hn : attemptsOf times = .ok n) (h : Stands d times pause n s)
    (happenings : List Happening) : Stands d times pause n (s.run happenings) := by
  induction happenings generalizing s with
  | nil => exact h
  | cons happening rest ih => exact ih (h.perform hn happening)

theorem stands_begin (d : Discovery ε) (times backoff : Option Value) {n : Int}
    (hn : attemptsOf (times.getD d.settings.attempts) = .ok n) :
    Stands d (times.getD d.settings.attempts) (backoff.getD d.settings.delay) n
      (Run.begin d times backoff) := by
  have hspent : Spent d (Run.begin d times backoff) [] := ⟨fun _ h => (nomatch h), rfl, rfl⟩
  have hbound : (0 : Int) ≤ max n 0 := by omega
  exact Stands.attempt hn hspent hbound rfl rfl rfl

/-! ## Stops and replies -/

/-- The three ways in which something happens: a stop, a reply that is waited for, and one that is
not. -/
theorem perform_cases (s : Run ε) (happening : Happening) :
    (happening = .stop) ∨
    (∃ r reply, happening = .reply reply ∧ s.next = .wait r) ∨
    (happening.isReply = true ∧ s.waits = false ∧ s.perform happening = s) := by
  cases happening with
  | stop => exact Or.inl rfl
  | reply reply =>
    refine Or.inr ?_
    cases hnext : s.next with
    | wait r => exact Or.inl ⟨r, reply, rfl, rfl⟩
    | ended _ | failed _ =>
      have hwaits : s.waits = false := by rw [Run.waits, hnext]
      exact Or.inr ⟨rfl, hwaits, perform_reply_of_not_waits hwaits reply⟩

/-- A stop that is noticed was requested before the retry or while it was under way. -/
theorem stopRequested_run (s : Run ε) (happenings : List Happening)
    (h : (s.run happenings).controller.stopRequested = true) :
    s.controller.stopRequested = true ∨ .stop ∈ happenings := by
  induction happenings generalizing s with
  | nil => exact Or.inl h
  | cons happening rest ih =>
    rcases ih (s.perform happening) h with hstop | hmem
    · rcases perform_cases s happening with rfl | ⟨r, reply, rfl, hnext⟩ | ⟨-, -, hsame⟩
      · exact Or.inr List.mem_cons_self
      · rw [perform_reply_of_wait hnext] at hstop
        exact Or.inl ((stopRequested_resumeRetry s.controller r reply).symm.trans hstop)
      · rw [hsame] at hstop
        exact Or.inl hstop
    · exact Or.inr (List.mem_cons_of_mem _ hmem)

/-- Once a stop is requested one happening makes no call. -/
theorem callCount_perform {s : Run ε} (hstop : s.controller.stopRequested = true)
    (happening : Happening) :
    (s.perform happening).controller.stopRequested = true ∧
      (s.perform happening).callCount ≤ s.callCount := by
  rcases perform_cases s happening with rfl | ⟨r, reply, rfl, hnext⟩ | ⟨-, -, hsame⟩
  · exact ⟨rfl, Nat.le_refl _⟩
  · rw [perform_reply_of_wait hnext]
    refine ⟨(stopRequested_resumeRetry _ r reply).trans hstop, ?_⟩
    have hcall : [(r.request s.controller, reply)].countP isCall = r.calling.toNat := by
      cases hcalling : r.calling with
      | false =>
        rw [request_sleeping hcalling]
        rfl
      | true =>
        rw [request_calling hcalling]
        rfl
    have hcalls : s.next.calls = r.calling := by rw [hnext, Next.calls]
    simp only [Run.callCount]
    rw [calls_resumeRetry hstop, List.countP_append, hcall, hcalls]
    exact Nat.le_refl _
  · rw [hsame]
    exact ⟨hstop, Nat.le_refl _⟩

/-- Once a stop is requested no call is made. -/
theorem callCount_run {s : Run ε} (hstop : s.controller.stopRequested = true)
    (happenings : List Happening) : (s.run happenings).callCount ≤ s.callCount := by
  induction happenings generalizing s with
  | nil => exact Nat.le_refl _
  | cons happening rest ih =>
    obtain ⟨hstop', hcount⟩ := callCount_perform hstop happening
    exact Nat.le_trans (ih hstop') hcount

theorem waits_run_of_not_waits {s : Run ε} (h : s.waits = false) (happenings : List Happening) :
    (s.run happenings).waits = false := by
  induction happenings generalizing s with
  | nil => exact h
  | cons happening rest ih =>
    refine ih ?_
    cases happening with
    | stop => exact h
    | reply reply =>
      rw [perform_reply_of_not_waits h]
      exact h

/-- As long as a retry waits, each reply is one that it has waited for. -/
theorem length_exchanges_run {s : Run ε} {happenings : List Happening}
    (h : (s.run happenings).waits = true) :
    (s.run happenings).exchanges.length =
      s.exchanges.length + happenings.countP Happening.isReply := by
  induction happenings generalizing s with
  | nil => rfl
  | cons happening rest ih =>
    have hrest : (s.run (happening :: rest)).exchanges.length =
        (s.perform happening).exchanges.length + rest.countP Happening.isReply := ih h
    rw [hrest, List.countP_cons]
    rcases perform_cases s happening with rfl | ⟨r, reply, rfl, hnext⟩ | ⟨-, hwaits, hsame⟩
    · rfl
    · rw [perform_reply_of_wait hnext]
      simp only [List.length_append, List.length_singleton, Happening.isReply, if_true]
      omega
    · have hrun : ((s.perform happening).run rest).waits = true := h
      rw [hsame, waits_run_of_not_waits hwaits] at hrun
      cases hrun

/-! ## The law -/

/-- What holds of a retry that has ended: rounds of one pause and one start of discovery each, and
pauses behind them after which a stop was noticed. -/
structure Law (d : Discovery ε) (times pause : Value) (n : Int) (s : Run ε) (restarted : Bool)
    (rounds : List (Answer × Reply)) (further : List Answer) : Prop where
  exchanges : s.exchanges = exchangesOf d.settings pause rounds ++ further.map (paused pause)
  rounds_le : (rounds.length : Int) ≤ max n 0
  further_le : further.length ≤ 1
  /-- Only a stop leads to a pause behind the rounds, and there were attempts left then. -/
  stopped : further ≠ [] → s.controller.stopRequested = true ∧ (rounds.length : Int) < n
  /-- Discovery runs again exactly if the last start succeeded. -/
  restarted_iff : restarted = true ↔ ∃ early a a', rounds = early ++ [(a, .ok a')]
  /-- Then all others were refused, nothing follows, and the state tells it. -/
  success : restarted = true → (∀ x ∈ rounds.dropLast, IsRefused x) ∧ further = [] ∧
    s.controller.status = .discovering
  /-- Otherwise all were refused, and the state is as it was. -/
  failure : restarted = false → (∀ x ∈ rounds, IsRefused x) ∧ s.controller.status = d.status
  /-- Without a pause behind them these were all attempts. -/
  all : restarted = false → further = [] → (rounds.length : Int) = max n 0
  /-- The one error is that of having run out of attempts. -/
  errors : s.errors = if restarted = false ∧ further = [] then [exhausted d.settings times] else []

theorem not_exists_success {rounds : List (Answer × Reply)} (h : ∀ x ∈ rounds, IsRefused x) :
    (false = true) ↔ ∃ early a a', rounds = early ++ [(a, (.ok a' : Reply))] := by
  refine ⟨nofun, ?_⟩
  rintro ⟨early, a, a', rfl⟩
  obtain ⟨f, -, hf⟩ := h (a, .ok a') (List.mem_append_right _ List.mem_cons_self)
  cases hf

/-- A retry that has ended obeys the law. -/
theorem Stands.law {restarted : Bool} (h : Stands d times pause n s)
    (hended : s.next = .ended restarted) :
    ∃ rounds further, Law d times pause n s restarted rounds further := by
  cases h with
  | sleeping _ _ hnext | calling _ _ _ hnext | broken _ hnext =>
    rw [hended] at hnext
    cases hnext
  | restarted rounds a a' hrefused hnext hlength hstatus hexchanges herrors =>
    rw [hended] at hnext
    cases hnext
    refine ⟨rounds ++ [(a, .ok a')], [], ?_⟩
    exact {
      exchanges := by rw [hexchanges, List.map_nil, List.append_nil]
      rounds_le := by
        rw [List.length_append, List.length_singleton]
        omega
      further_le := Nat.zero_le 1
      stopped := fun h => absurd rfl h
      restarted_iff := ⟨fun _ => ⟨rounds, a, a', rfl⟩, fun _ => rfl⟩
      success := by
        intro _
        rw [List.dropLast_concat]
        exact ⟨hrefused, rfl, hstatus⟩
      failure := nofun
      all := nofun
      errors := herrors }
  | ranOut rounds hspent hnext hlength hexchanges herrors =>
    rw [hended] at hnext
    cases hnext
    refine ⟨rounds, [], ?_⟩
    exact {
      exchanges := by rw [hexchanges, List.map_nil, List.append_nil]
      rounds_le := Int.le_of_eq hlength
      further_le := Nat.zero_le 1
      stopped := fun h => absurd rfl h
      restarted_iff := not_exists_success hspent.refused
      success := nofun
      failure := fun _ => ⟨hspent.refused, hspent.status⟩
      all := fun _ _ => hlength
      errors := herrors }
  | stopped rounds a hspent hnext hlength hstop hexchanges herrors =>
    rw [hended] at hnext
    cases hnext
    refine ⟨rounds, [a], ?_⟩
    exact {
      exchanges := hexchanges
      rounds_le := by omega
      further_le := Nat.le_refl 1
      stopped := fun _ => ⟨hstop, hlength⟩
      restarted_iff := not_exists_success hspent.refused
      success := nofun
      failure := fun _ => ⟨hspent.refused, hspent.status⟩
      all := nofun
      errors := by
        rw [herrors, if_neg]
        rintro ⟨-, hnone⟩
        cases hnone }

/-- Enough replies end a retry, in one way or the other. -/
theorem Stands.not_waits (h : Stands d times pause n s)
    (henough : 2 * max n 0 ≤ (s.exchanges.length : Int)) : s.waits = false := by
  cases hwaits : s.waits with
  | false => rfl
  | true =>
    obtain ⟨rounds, hlength, hexchanges⟩ := h.waits_cases hwaits
    omega

/-- A retry fails only by what the bus should not reply. -/
theorem Stands.ended (h : Stands d times pause n s) (hwaits : s.waits = false)
    (hdocumented : ∀ x ∈ s.exchanges, isDocumented x = true) :
    ∃ restarted, s.next = .ended restarted := by
  cases h with
  | sleeping _ _ hnext | calling _ _ _ hnext =>
    rw [Run.waits, hnext] at hwaits
    cases hwaits
  | restarted _ _ _ _ hnext => exact ⟨true, hnext⟩
  | ranOut _ _ hnext => exact ⟨false, hnext⟩
  | stopped _ _ _ hnext => exact ⟨false, hnext⟩
  | broken f hnext hexchanges =>
    obtain ⟨x, hx, hundocumented⟩ := hexchanges
    rw [hdocumented x hx] at hundocumented
    cases hundocumented

end Retry

open Retry (Law)

/-- **What a retry does.** Whatever the bus replies and whenever a stop is requested, a retry that
has ended made rounds of one pause and one start of discovery each, at most as many as it was to
make, and behind them at most one pause, after which it noticed a stop. It tells that discovery runs
exactly if the last start succeeded; otherwise all were refused, and without a stop these were all
attempts. Once a stop is requested no call is made. As long as the bus replies as documented, the
retry does end. -/
theorem retry_rounds (d : Discovery ε) (times backoff : Option Value) {n : Int}
    (hn : attemptsOf (times.getD d.settings.attempts) = .ok n)
    (happenings : List Retry.Happening) :
    let s := (Retry.Run.begin d times backoff).run happenings
    (∀ restarted, s.next = .ended restarted → ∃ rounds further,
      Law d (times.getD d.settings.attempts) (backoff.getD d.settings.delay) n s restarted rounds
        further ∧
      (d.stopRequested = false → .stop ∉ happenings →
        further = [] ∧ (restarted = false → (rounds.length : Int) = max n 0))) ∧
    (∀ early late, happenings = early ++ late →
      ((Retry.Run.begin d times backoff).run early).controller.stopRequested = true →
      s.callCount ≤ ((Retry.Run.begin d times backoff).run early).callCount) ∧
    ((∀ x ∈ s.exchanges, Retry.isDocumented x = true) →
      2 * max n 0 ≤ (happenings.countP Retry.Happening.isReply : Int) →
      ∃ restarted, s.next = .ended restarted) := by
  intro s
  have hstands : Retry.Stands d (times.getD d.settings.attempts)
      (backoff.getD d.settings.delay) n s :=
    (Retry.stands_begin d times backoff hn).run hn happenings
  refine ⟨?ended, ?stopped, ?ends⟩
  case ended =>
    intro restarted hended
    obtain ⟨rounds, further, hlaw⟩ := hstands.law hended
    refine ⟨rounds, further, hlaw, ?_⟩
    intro hfresh hnone
    have hfurther : further = [] := by
      by_cases hfurther : further = []
      · exact hfurther
      · rcases Retry.stopRequested_run _ happenings (hlaw.stopped hfurther).1 with hstop | hmem
        · have hstop' : d.stopRequested = true := hstop
          rw [hfresh] at hstop'
          cases hstop'
        · exact absurd hmem hnone
    exact ⟨hfurther, fun hfailed => hlaw.all hfailed hfurther⟩
  case stopped =>
    intro early late hsplit hstop
    have hrun : s = ((Retry.Run.begin d times backoff).run early).run late := by
      simp only [s, Retry.Run.run]
      rw [hsplit, List.foldl_append]
    rw [hrun]
    exact Retry.callCount_run hstop late
  case ends =>
    intro hdocumented henough
    refine hstands.ended ?_ hdocumented
    cases hwaits : s.waits with
    | false => rfl
    | true =>
      have hlength : s.exchanges.length = 0 + happenings.countP Retry.Happening.isReply :=
        Retry.length_exchanges_run hwaits
      have hover : s.waits = false := hstands.not_waits (by omega)
      rw [← hwaits, hover]

/-- A start that is refused, then a stop during the second pause. -/
def stoppedInPause : List Retry.Happening :=
  [.reply .done, .reply (.error (.callFailed "busy" none)), .stop, .reply .done]

/-- Of three attempts one is made, a pause follows, and nothing is reported as exhausted. -/
theorem stoppedInPause_rounds :
    let d : Discovery Nat := { settings := { attempts := .int 3 } }
    let s := (Retry.Run.begin d none (some (.float 0.5))).run stoppedInPause
    s.next = .ended false ∧ s.errors = [] ∧ ∃ rounds further,
      Law d (.int 3) (.float 0.5) 3 s false rounds further ∧
      rounds.length = 1 ∧ further.length = 1 := by
  intro d s
  have hn : attemptsOf ((none : Option Value).getD d.settings.attempts) = .ok 3 := rfl
  have hended : s.next = .ended false := rfl
  have hcount : s.exchanges.length = 3 := rfl
  obtain ⟨rounds, further, hlaw, -⟩ :=
    (retry_rounds d none (some (.float 0.5)) hn stoppedInPause).1 false hended
  have hlength := hlaw.further_le
  rw [hlaw.exchanges, List.length_append, Retry.length_exchangesOf, List.length_map] at hcount
  exact ⟨hended, rfl, rounds, further, hlaw, by omega, by omega⟩

end Discovery

end TagGateway
