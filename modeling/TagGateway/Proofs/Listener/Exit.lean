import TagGateway.Proofs.Listener.RefusedStart

/-!
# How a run is left

A run ends with the answer to its disconnection, or when it could not connect, and in no other way.
Whatever led there, the session is over then: no device is tracked, no subscription is active, and
until another run begins nothing that happens has any effect but for what a stop and a ban write
down.

* `Session.outcome?` — how the start of a run returns with a happening;
  `Listener.result_resume_of_task`, `Listener.result_wake` — that it does not while a task lasts or
  with an item of the queue.
* `Session.Over` — that a session is over; `Session.Held.over_of_outcome` — that it is when the
  start has returned, and `Session.Held.off_iff` that it is not before.
* `Session.Over.perform`, `Session.Over.run` — what happens then.
* **`Session.exit_is_final`** — all ways out of a run, and all that may come after.
-/

namespace TagGateway

open Bus

namespace Listener

variable {κ : Type} {l : Listener κ}

/-! ## Results -/

theorem result_ofDiscovery (l : Listener κ) (m : Discovery.Move (Event κ)) :
    (l.ofDiscovery m).2.2 = m.2.2 := by
  obtain ⟨d, effects, result⟩ := m
  cases result <;> rfl

/-- A task that ends does not end the run. -/
theorem result_conclude (h : l.discovery.phase = .preparing ∨
    ∃ name e, l.discovery.phase = .handling name e) (effects : List Effect)
    (outcome : Except Fault Unit) : (l.conclude effects outcome).2.2 = none := by
  have hresult (reply : Reply) : (l.discovery.resume reply).2.2 = none := by
    unfold Discovery.resume
    rcases h with h | ⟨name, e, h⟩ <;> rw [h] <;> cases reply <;> rfl
  simp only [conclude, result_ofDiscovery, hresult]

theorem result_continueEmission (h : l.discovery.phase = .preparing ∨
    ∃ name e, l.discovery.phase = .handling name e) (effects : List Effect)
    (next : Emission.Next) : (l.continueEmission effects next).2.2 = none := by
  cases next with
  | wait e => rfl
  | ended passed => exact result_conclude h effects _
  | failed f => exact result_conclude h effects _

theorem result_continueAdmission (h : l.discovery.phase = .preparing ∨
    ∃ name e, l.discovery.phase = .handling name e) (effects : List Effect)
    (next : Admission.Next) : (l.continueAdmission effects next).2.2 = none := by
  cases next with
  | wait a => rfl
  | admitted path => exact result_continueEmission h effects _
  | refused => exact result_conclude h effects _
  | failed f => exact result_conclude h effects _

theorem result_resumeSetup (h : l.discovery.phase = .preparing) (s : Setup) (r : Reply) :
    (l.resumeSetup s r).2.2 = none := by
  have hlive : l.discovery.isLive = true := by
    unfold Discovery.isLive
    rw [h]
  cases r with
  | ok a =>
    cases s with
    | listing =>
      have hposted : (l.postListed (listed a).1).1.discovery.phase = .preparing := by
        rw [(l.postListed_eq hlive (listed a).1).1]
        exact h
      exact result_conclude (Or.inl hposted) _ _
    | _ => rfl
  | error f =>
    cases s with
    | listing =>
      simp only [resumeSetup]
      split <;> exact result_conclude (Or.inl h) _ _
    | _ => exact result_conclude (Or.inl h) _ _

/-- While a task lasts no reply ends the run. -/
theorem result_resume_of_task (hfits : l.Fits) {task : Task} (htask : l.task = some task)
    (r : Reply) : (l.resume r).2.2 = none := by
  have hphase := hfits.phase_of_task htask
  unfold resume
  rw [htask]
  cases task with
  | setup s => exact result_resumeSetup (hfits.preparing htask) s r
  | admission a =>
    exact result_continueAdmission (l := { l with roster := (l.roster.resume a r).1 }) hphase _ _
  | emission e => exact result_continueEmission hphase _ _
  | foreign => exact result_conclude hphase _ _

/-- The handler of an event does not end the run when it begins. -/
theorem result_handle {name : String} {e : Event κ} (h : l.discovery.phase = .handling name e)
    (effects : List Effect) : (l.handle e effects).2.2 = none := by
  have hphase : l.discovery.phase = .preparing ∨ ∃ name e, l.discovery.phase = .handling name e :=
    Or.inr ⟨name, e, h⟩
  cases e with
  | appeared path interfaces => exact result_continueAdmission hphase _ _
  | disappeared path interfaces =>
    unfold handle
    simp only
    split
    · exact result_conclude hphase _ _
    · rename_i roster _ _ _
      exact result_conclude (l := { l with roster }) hphase _ _
  | changed path names => exact result_continueEmission hphase _ _
  | foreign handler => rfl

/-- No item of the queue ends the run. -/
theorem result_wake (h : l.hasItem = true) : l.wake.2.2 = none := by
  obtain ⟨-, hitem⟩ := phase_of_hasItem h
  have hnone : (l.ofDiscovery l.discovery.wake).2.2 = none := by
    rw [result_ofDiscovery]
    exact (Discovery.woken_wake hitem).2
  unfold wake
  simp only
  split
  · rename_i hphase _ _
    exact result_handle hphase _
  · exact hnone

namespace Session

variable {x : Session κ}

/-! ## The way out -/

/-- How the start of a run returns with a happening, if it does: with the answer that ends the run,
or at once because it is refused. A start while a run lasts is not meant. -/
def outcome? (x : Session κ) : Happening κ → Option (Except Fault Unit)
  | .start =>
    match x.listener.discovery.phase with
    | .off =>
      match x.listener.start.2.2 with
      | .error f => some (.error f)
      | .ok _ => none
    | _ => none
  | .reply r =>
    if x.listener.takesReply then (x.listener.resume (x.answered r).2).2.2 else none
  | .wake => if x.listener.hasItem then x.listener.wake.2.2 else none
  | _ => none

/-- The session is over: the listener waits for nothing, and nothing reaches it. -/
structure Over (x : Session κ) : Prop where
  phase : x.listener.discovery.phase = .off
  task : x.listener.task = none
  entries : x.listener.roster.entries = []
  silent : ∀ t, x.router.isActive t = false

theorem listener_reply (htakes : x.listener.takesReply = true) (r : Reply) :
    (x.perform (.reply r)).listener = (x.listener.resume (x.answered r).2).1 := by
  rw [← listener_resume]
  exact congrArg Session.listener (if_pos htakes)

theorem Held.over (h : Held x) (hoff : x.listener.discovery.phase = .off) : Over x := by
  obtain ⟨hentries, hsilent⟩ := h.unlinked (Or.inl hoff)
  refine ⟨hoff, ?_, hentries, hsilent⟩
  cases htask : x.listener.task with
  | none => rfl
  | some task =>
    rcases h.fits.phase_of_task htask with hphase | ⟨name, e, hphase⟩ <;>
      rw [hoff] at hphase <;> cases hphase

/-- A reply ends the run just if nothing is left to wait for. -/
theorem Held.reply_outcome (h : Held x) (htakes : x.listener.takesReply = true) (r : Reply) :
    (x.outcome? (.reply r)).isSome = true ↔
      (x.perform (.reply r)).listener.discovery.phase = .off := by
  have hout : x.outcome? (.reply r) = (x.listener.resume (x.answered r).2).2.2 := if_pos htakes
  rw [hout, listener_reply htakes]
  cases htask : x.listener.task with
  | some task =>
    rw [result_resume_of_task h.fits htask]
    have hresumed := resumed_resume h.fits htakes (x.answered r).2
    refine iff_of_false nofun fun hoff => ?_
    rw [(hresumed.unlinked h.fits (Or.inl hoff)).1] at htask
    cases htask
  | none =>
    have hmove : x.listener.resume (x.answered r).2 =
        x.listener.ofDiscovery (x.listener.discovery.resume (x.answered r).2) := by
      unfold Listener.resume
      rw [htask]
    have hresumed := Discovery.resumed_resume (takesReply_discovery htask htakes) (x.answered r).2
    rw [hmove, result_ofDiscovery]
    cases hresult : (x.listener.discovery.resume (x.answered r).2).2.2 with
    | none =>
      rw [hresult] at hresumed
      rw [ofDiscovery_eq x.listener hresult]
      exact iff_of_false nofun hresumed.phase_running.1
    | some outcome =>
      rw [hresult] at hresumed
      rw [(x.listener.ofDiscovery_off hresult hresumed.phase_off).1]
      exact iff_of_true rfl hresumed.phase_off

/-- A start that is refused without a run changes nothing. -/
theorem Held.start_outcome (h : Held x) (hout : (x.outcome? .start).isSome = true) :
    x.listener.discovery.phase = .off ∧ x.perform .start = x := by
  unfold outcome? at hout
  simp only at hout
  split at hout
  · rename_i hoff
    refine ⟨hoff, ?_⟩
    cases hstart : x.listener.discovery.start with
    | ok d =>
      simp only [Listener.start, hstart] at hout
      cases hout
    | error f => exact perform_refused_of_untracked hstart (h.over hoff).entries
  · cases hout

/-- **When the start returns the session is over**, and the blacklist is as it was. -/
theorem Held.over_of_outcome (h : Held x) {last : Happening κ}
    (hout : (x.outcome? last).isSome = true) :
    Over (x.perform last) ∧
      (x.perform last).listener.roster.blacklist = x.listener.roster.blacklist := by
  cases last with
  | start =>
    obtain ⟨hoff, hsame⟩ := h.start_outcome hout
    rw [hsame]
    exact ⟨h.over hoff, rfl⟩
  | reply r =>
    have htakes : x.listener.takesReply = true := by
      refine Bool.of_not_eq_false fun hidle => ?_
      simp only [outcome?, hidle, Bool.false_eq_true, if_false] at hout
      cases hout
    refine ⟨(h.perform (.reply r)).over ((h.reply_outcome htakes r).mp hout), ?_⟩
    rw [listener_reply htakes, blacklist_resume]
  | wake =>
    simp only [outcome?] at hout
    split at hout
    · rename_i hitem
      rw [result_wake hitem] at hout
      cases hout
    · cases hout
  | _ => cases hout

/-- **A run that has begun is over just when its start returns.** -/
theorem Held.off_iff (h : Held x) (hrunning : x.listener.discovery.phase ≠ .off)
    (happening : Happening κ) :
    (x.perform happening).listener.discovery.phase = .off ↔
      (x.outcome? happening).isSome = true := by
  refine ⟨fun hoff => ?_, fun hout => (h.over_of_outcome hout).1.phase⟩
  have hbegins : x.begins happening = false := by
    refine Bool.eq_false_iff.mpr fun hbegins => hrunning ?_
    exact (begins_eq_true hbegins).2.1
  have hbeside (hreply : ∀ r, happening ≠ .reply r) (hwake : happening ≠ .wake) : False := by
    rw [(beside_perform hbegins hreply hwake).phase] at hoff
    exact hrunning hoff
  cases happening with
  | reply r =>
    have htakes : x.listener.takesReply = true := by
      refine Bool.of_not_eq_false fun hidle => hrunning ?_
      rw [show x.perform (.reply r) = x from if_neg (ne_true_of_eq_false hidle)] at hoff
      exact hoff
    exact (h.reply_outcome htakes r).mpr hoff
  | wake =>
    rcases x.wake_cases with ⟨-, _, hwoken⟩ | ⟨-, hsame⟩
    · exact absurd (Or.inl hoff) hwoken.linked
    · rw [hsame] at hoff
      exact absurd hoff hrunning
  | _ => exact (hbeside nofun nofun).elim

/-! ## After the end -/

/-- The session but for whether a stop was asked for and what is on the blacklist. -/
def apartFrom (x : Session κ) (stopRequested : Bool) (blacklist : Blacklist) : Session κ :=
  { x with
    listener := { x.listener with
      discovery := { x.listener.discovery with stopRequested }
      roster := { x.listener.roster with blacklist } } }

/-- A signal that reaches no active subscription is no matter. -/
theorem deliver_of_silent (h : ∀ t, x.router.isActive t = false) (route : Route) (body : Value) :
    receivers.deliver route body x = x := by
  unfold Receivers.deliver
  generalize (receivers.router x).targets route = ts
  induction ts with
  | nil => rfl
  | cons t rest ih =>
    have hskip : (receivers.router x).isActive t = false := h t
    rw [List.foldl_cons, if_neg (ne_true_of_eq_false hskip)]
    exact ih

theorem Over.idle (h : Over x) : x.listener.takesReply = false ∧ x.listener.hasItem = false := by
  unfold takesReply pending Discovery.pending hasItem
  rw [h.task, h.phase]
  exact ⟨rfl, rfl⟩

theorem Over.made_eq_none (h : Over x) (happening : Happening κ) : x.made happening = none := by
  obtain ⟨htakes, hitem⟩ := h.idle
  cases happening <;> simp [made, htakes, hitem]

theorem Over.isLive (h : Over x) : x.listener.discovery.isLive = false := by
  unfold Discovery.isLive
  rw [h.phase]

theorem Over.post (h : Over x) (name : String) (e : Event κ) :
    x.listener.post name e = (x.listener,
      [.say .debug ("Dropping event for " ++ name ++ ", loop not running")]) := by
  simp only [Listener.post, Discovery.post, Discovery.postItem, h.isLive, Bool.false_eq_true,
    if_false]

theorem Over.stop (h : Over x) :
    x.perform .stop = x.apartFrom true x.listener.roster.blacklist := by
  simp only [perform, Listener.stop, Discovery.stop, h.isLive, Bool.false_eq_true, if_false,
    apartFrom]

theorem Over.apartFrom (h : Over x) (stopRequested : Bool) (blacklist : Blacklist) :
    Over (x.apartFrom stopRequested blacklist) :=
  ⟨h.phase, h.task, h.entries, h.silent⟩

/-- **Unless a run begins, all that a session which is over takes note of are stops and bans.** -/
theorem Over.perform (h : Over x) {happening : Happening κ} (hbegins : x.begins happening = false) :
    ∃ stopRequested blacklist,
      x.perform happening = x.apartFrom stopRequested blacklist := by
  have hsame (heq : x.perform happening = x) : ∃ stopRequested blacklist,
      x.perform happening = x.apartFrom stopRequested blacklist := ⟨_, _, heq⟩
  obtain ⟨htakes, hitem⟩ := h.idle
  cases happening with
  | start =>
    cases hstart : x.listener.discovery.start with
    | ok d =>
      simp only [begins, hstart] at hbegins
      cases hbegins
    | error f => exact hsame (perform_refused_of_untracked hstart h.entries)
  | stop => exact ⟨_, _, h.stop⟩
  | ban mac =>
    simp only [Session.perform]
    split
    · rename_i hban
      obtain ⟨mac, -, rfl, htickets⟩ := ban_eq_ok hban
      have hkept : x.listener.roster.entries.filter (·.mac ≠ mac) = x.listener.roster.entries := by
        rw [h.entries, List.filter_nil]
      rw [h.entries, List.filter_nil, List.map_nil] at htickets
      rw [moved_of_tickets_nil htickets, hkept]
      exact ⟨x.listener.discovery.stopRequested, x.listener.roster.blacklist.insert mac, rfl⟩
    · exact ⟨_, _, rfl⟩
  | remove path interfaces =>
    simp only [Session.perform]
    split
    · rename_i hremove
      rcases Roster.remove_eq_ok hremove with ⟨rfl, htickets⟩ | ⟨e, he, -⟩
      · rw [moved_of_tickets_nil htickets]
        exact ⟨_, _, rfl⟩
      · rw [h.entries] at he
        cases he
    · exact ⟨_, _, rfl⟩
  | post name handler =>
    refine hsame ?_
    simp only [Session.perform, h.post]
  | signal route body => exact hsame (deliver_of_silent h.silent route body)
  | reply r => exact hsame (if_neg (ne_true_of_eq_false htakes))
  | wake => exact hsame (if_neg (ne_true_of_eq_false hitem))

/-- No run begins with any of some happenings. -/
def beginsNone (x : Session κ) : List (Happening κ) → Bool
  | [] => true
  | happening :: rest => !x.begins happening && (x.perform happening).beginsNone rest

/-- The calls of the receiver that happenings make, in order. -/
def calls (x : Session κ) : List (Happening κ) → List Delivery
  | [] => []
  | happening :: rest => (x.made happening).toList ++ (x.perform happening).calls rest

/-- Whatever happens then but the beginning of a run, the session stays over, and the receiver is
not called. -/
theorem Over.run (h : Over x) {later : List (Happening κ)} (hnone : x.beginsNone later = true) :
    x.calls later = [] ∧
      ∃ stopRequested blacklist, x.run later = x.apartFrom stopRequested blacklist := by
  induction later generalizing x with
  | nil => exact ⟨rfl, x.listener.discovery.stopRequested, x.listener.roster.blacklist, rfl⟩
  | cons happening rest ih =>
    rw [beginsNone, Bool.and_eq_true, Bool.not_eq_true'] at hnone
    obtain ⟨stopRequested, blacklist, hperform⟩ := h.perform hnone.1
    have hover : Over (x.perform happening) := by
      rw [hperform]
      exact h.apartFrom _ _
    obtain ⟨hcalls, stopRequested', blacklist', hrun⟩ := ih hover hnone.2
    refine ⟨?_, stopRequested', blacklist', ?_⟩
    · rw [calls, h.made_eq_none, hcalls]
      rfl
    · show (x.perform happening).run rest = _
      rw [hrun, hperform]
      rfl

/-- **The end of a run is final.** A run that has begun is over with the happening by which its
start returns or fails, and not before; likewise a start that fails at once. No device is tracked
then, no subscription is active, discovery has no queue that is worked off, and the blacklist is as
before that happening. Until another run begins, whatever comes, all of this stays and the receiver
is not called: what is posted is dropped, signals reach nobody, a stop does no more than be
remembered, and only bans change the blacklist. -/
theorem exit_is_final (settings : Discovery.Settings) (before : List (Happening κ)) :
    let x : Session κ := (ofSettings settings).run before
    (x.listener.discovery.phase ≠ .off → ∀ last,
      (x.outcome? last).isSome = true ↔ (x.perform last).listener.discovery.phase = .off) ∧
    ∀ last, (x.outcome? last).isSome = true →
      let y := x.perform last
      y.Over ∧ y.listener.discovery.isLive = false ∧
      y.listener.roster.blacklist = x.listener.roster.blacklist ∧
      ∀ later, y.beginsNone later = true →
        y.calls later = [] ∧
        (∃ stopRequested blacklist, y.run later = y.apartFrom stopRequested blacklist) ∧
        (∀ name e, (y.run later).listener.post name e = ((y.run later).listener,
          [.say .debug ("Dropping event for " ++ name ++ ", loop not running")])) ∧
        (∀ route body, (y.run later).perform (.signal route body) = y.run later) ∧
        (y.run later).perform .stop =
          (y.run later).apartFrom true (y.run later).listener.roster.blacklist := by
  intro x
  have hheld : Held x := held_run settings before
  refine ⟨fun hrunning last => (hheld.off_iff hrunning last).symm, fun last hout => ?_⟩
  intro y
  obtain ⟨hover, hblacklist⟩ := hheld.over_of_outcome hout
  refine ⟨hover, hover.isLive, hblacklist, fun later hnone => ?_⟩
  obtain ⟨hcalls, stopRequested, blacklist, hrun⟩ := Over.run hover hnone
  have hstill : Over (y.run later) := by
    rw [hrun]
    exact hover.apartFrom _ _
  exact ⟨hcalls, ⟨stopRequested, blacklist, hrun⟩, fun name e => hstill.post name e,
    fun route body => deliver_of_silent hstill.silent route body, hstill.stop⟩

/-- A listener that has lost discovery while it tracks a device, up to its disconnection. -/
def losing : List (Happening Unit) :=
  tracking ++
  [.signal ⟨adapterPath "hci0", propertiesInterface, propertiesChanged⟩
      (.list [.text adapterInterface, .dict [(.text discoveringProperty, .bool false)], .list []]),
    .wake, .reply .done, .reply (.error (.callFailed "" none)), .reply .done,
    .reply (.error (.callFailed "" none)), .wake]

theorem losing_exits :
    let x : Session Unit := (ofSettings {}).run losing
    let later : List (Happening Unit) :=
      [.stop, .signal (deviceRoute "/org/bluez/hci0/dev_1") payloadChange, .post "" (), .wake,
        .start]
    x.listener.status = .failed ∧ x.listener.roster.entries.length = 1 ∧
      (x.outcome? (.reply .done)).isSome = true ∧
      (x.perform (.reply .done)).Over ∧ (x.perform (.reply .done)).calls later = [] := by
  intro x later
  have hout : (x.outcome? (.reply .done)).isSome = true := by decide +kernel
  have hnone : (x.perform (.reply .done)).beginsNone later = true := by decide +kernel
  obtain ⟨-, hexit⟩ := exit_is_final {} losing
  obtain ⟨hover, -, -, hlater⟩ := hexit (.reply .done) hout
  exact ⟨by decide +kernel, by decide +kernel, hout, hover, (hlater later hnone).1⟩

end Session

end Listener

end TagGateway
