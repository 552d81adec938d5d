import Mathlib.Data.List.Induction
import TagGateway.Proofs.Discovery.Moves
import TagGateway.Proofs.Listener.Delivery

/-!
# What one move of a listener does

Each way in which a listener goes on, with its guards, the listener that it leaves and the tickets
that it gives back. Later arguments split on these cases and need not open the moves again.

* `Listener.Fits` — that the task under way is the one that discovery waits for.
* `Listener.Resumed` — the moves on a reply; `Listener.resumed_resume` shows that there are no
  others.
* `Listener.Woken` — the moves on an item of the queue; `Listener.woken_wake` likewise.
-/

namespace TagGateway

open Bus

namespace Listener

variable {κ : Type} {l : Listener κ}

/-! ## States -/

/-- The task under way is the one that discovery waits for. -/
def Fits (l : Listener κ) : Prop :=
  match l.task with
  | none => l.discovery.phase ≠ .preparing ∧ ∀ name e, l.discovery.phase ≠ .handling name e
  | some (.setup _) => l.discovery.phase = .preparing
  | some _ => ∃ name e, l.discovery.phase = .handling name e

/-- The listener with another controller, waiting for what that one waits for. -/
def following (l : Listener κ) (d : Discovery (Event κ)) : Listener κ :=
  { l with
    discovery := d
    task := match d.phase with
      | .preparing => some (.setup .watchingAppeared)
      | _ => none }

/-- The listener that has handled its event. -/
def released (l : Listener κ) : Listener κ :=
  { l with discovery := { l.discovery with phase := .waiting }, task := none }

/-- The listener that begins to handle an event, with the rest of the queue. -/
def taking (l : Listener κ) (name : String) (e : Event κ)
    (rest : List (Discovery.Item (Event κ))) : Listener κ :=
  { l with
    discovery := { l.discovery with phase := .handling name e, queue := rest }
    task := none }

/-- The listener with all objects of a list in its queue. -/
def queued (l : Listener κ) (objects : List (Value × Value)) : Listener κ :=
  { l with
    discovery := { l.discovery with
      queue := l.discovery.queue ++ objects.map fun object =>
        .event appearedHandler (.appeared object.1 object.2) } }

/-- The listener at the end of its setup. -/
def prepared (l : Listener κ) : Listener κ :=
  { l with discovery := { l.discovery with phase := .filtering }, task := none }

/-- The listener whose setup has failed. -/
def unprepared (l : Listener κ) (f : Fault) : Listener κ :=
  { l with
    discovery := { l.discovery with wanted := false, phase := .disconnecting (.error f) }
    task := none }

theorem fits_following (l : Listener κ) {d : Discovery (Event κ)}
    (h : ∀ name e, d.phase ≠ .handling name e) : (l.following d).Fits := by
  cases hphase : d.phase with
  | preparing => simp [Fits, following, hphase]
  | handling name e => exact absurd hphase (h name e)
  | _ => simp [Fits, following, hphase]

theorem Fits.preparing {s : Setup} (h : l.Fits) (htask : l.task = some (.setup s)) :
    l.discovery.phase = .preparing := by
  unfold Fits at h
  rw [htask] at h
  exact h

theorem Fits.handling {task : Task} (h : l.Fits) (htask : l.task = some task)
    (hevent : ∀ s, task ≠ .setup s) : ∃ name e, l.discovery.phase = .handling name e := by
  unfold Fits at h
  rw [htask] at h
  cases task with
  | setup s => exact absurd rfl (hevent s)
  | admission a => exact h
  | emission e => exact h
  | foreign => exact h

/-- A listener that waits for an item of the queue has no task under way. -/
theorem Fits.task_eq_none (h : l.Fits) (hphase : l.discovery.phase = .waiting) :
    l.task = none := by
  cases htask : l.task with
  | none => rfl
  | some task =>
    cases task with
    | setup s =>
      have hpreparing := h.preparing htask
      rw [hphase] at hpreparing
      cases hpreparing
    | _ =>
      obtain ⟨name, e, hhandling⟩ := h.handling htask nofun
      rw [hphase] at hhandling
      cases hhandling

/-- A task is under way only while a run lasts. -/
theorem Fits.phase_of_task {task : Task} (h : l.Fits) (htask : l.task = some task) :
    l.discovery.phase = .preparing ∨ ∃ name e, l.discovery.phase = .handling name e := by
  cases task with
  | setup s => exact Or.inl (h.preparing htask)
  | _ => exact Or.inr (h.handling htask nofun)

theorem Fits.linked_of_task {task : Task} (h : l.Fits) (htask : l.task = some task)
    (outcome : Except Fault Unit) : l.discovery.phase ≠ .disconnecting outcome := by
  rcases h.phase_of_task htask with hphase | ⟨name, e, hphase⟩ <;> rw [hphase] <;> nofun

/-! ## The end of a task -/

/-- A move of discovery that gives no result. -/
theorem ofDiscovery_eq (l : Listener κ) {m : Discovery.Move (Event κ)} (h : m.2.2 = none) :
    l.ofDiscovery m = (l.following m.1, m.2.1, none) := by
  obtain ⟨d, effects, result⟩ := m
  cases h
  rfl

/-- A move of discovery that ends the run takes all devices off. -/
theorem ofDiscovery_off (l : Listener κ) {m : Discovery.Move (Event κ)}
    {outcome : Except Fault Unit} (h : m.2.2 = some outcome) (hoff : m.1.phase = .off) :
    (l.ofDiscovery m).1 = ⟨m.1, { l.roster with entries := [] }, none⟩ ∧
      Effect.tickets (l.ofDiscovery m).2.1 =
        Effect.tickets m.2.1 ++ l.roster.entries.map (·.ticket) := by
  obtain ⟨d, effects, result⟩ := m
  cases h
  have hoff : d.phase = .off := hoff
  have htickets : Effect.tickets l.roster.clear.2 = l.roster.entries.map (·.ticket) := by
    simp [Roster.clear, Effect.tickets, Effect.ticket?, Function.comp_def]
  unfold ofDiscovery
  simp only [hoff, Effect.tickets_append, htickets]
  exact ⟨rfl, trivial⟩

/-- A task that ends, in whatever way, moves discovery by a reply. -/
theorem conclude_eq (effects : List Effect) (outcome : Except Fault Unit) {d : Discovery (Event κ)}
    (h : ∀ reply : Reply, reply = outcome.map (fun _ => {}) →
      (l.discovery.resume reply).1 = d ∧ (l.discovery.resume reply).2.2 = none) :
    (l.conclude effects outcome).1 = l.following d ∧
      Effect.tickets (l.conclude effects outcome).2.1 = Effect.tickets effects := by
  obtain ⟨hd, hresult⟩ := h _ rfl
  have htickets := l.discovery.resume_tickets (outcome.map fun _ => {})
  unfold conclude
  rw [ofDiscovery_eq l hresult, hd]
  exact ⟨rfl, by simp [htickets]⟩

/-- A handler that has ended leaves the listener to wait for the next event. -/
theorem conclude_handling {name : String} {e : Event κ}
    (h : l.discovery.phase = .handling name e) (effects : List Effect)
    (outcome : Except Fault Unit) :
    (l.conclude effects outcome).1 = l.released ∧
      Effect.tickets (l.conclude effects outcome).2.1 = Effect.tickets effects := by
  refine l.conclude_eq effects outcome fun reply _ => ?_
  unfold Discovery.resume
  rw [h]
  cases reply <;> exact ⟨rfl, rfl⟩

theorem conclude_preparing_ok (h : l.discovery.phase = .preparing) (effects : List Effect) :
    (l.conclude effects (.ok ())).1 = l.prepared ∧
      Effect.tickets (l.conclude effects (.ok ())).2.1 = Effect.tickets effects := by
  refine l.conclude_eq effects _ fun reply hreply => ?_
  unfold Discovery.resume
  rw [h, hreply]
  exact ⟨rfl, rfl⟩

theorem conclude_preparing_error (h : l.discovery.phase = .preparing) (effects : List Effect)
    (f : Fault) :
    (l.conclude effects (.error f)).1 = l.unprepared f ∧
      Effect.tickets (l.conclude effects (.error f)).2.1 = Effect.tickets effects := by
  refine l.conclude_eq effects _ fun reply hreply => ?_
  unfold Discovery.resume
  rw [h, hreply]
  exact ⟨rfl, rfl⟩

/-- While a run lasts all objects of a list get into the queue. -/
theorem postListed_eq (hlive : l.discovery.isLive = true) (objects : List (Value × Value)) :
    (l.postListed objects).1 = l.queued objects ∧
      Effect.tickets (l.postListed objects).2 = [] := by
  unfold postListed queued
  induction objects using List.reverseRecOn with
  | nil => simp
  | append_singleton objects object ih =>
    obtain ⟨hl, htickets⟩ := ih
    rw [List.foldl_append]
    have hpost (queue : List (Discovery.Item (Event κ))) :
        ({ l.discovery with queue } : Discovery (Event κ)).isLive = true := hlive
    simp only [List.foldl_cons, List.foldl_nil, Effect.tickets_append, htickets, hl]
    simp [post, Discovery.post, Discovery.postItem, hpost]

/-! ## The moves -/

/-- How a listener goes on after a reply, and the tickets that it gives back. -/
inductive Resumed (l : Listener κ) (r : Reply) : Listener κ → List Ticket → Prop
  | moved (d : Discovery (Event κ)) : l.task = none → l.discovery.Moves d →
      Resumed l r (l.following d) []
  | ended (d : Discovery (Event κ)) : l.task = none →
      l.discovery.phase = .connecting ∨ (∃ o, l.discovery.phase = .disconnecting o) →
      d.events = l.discovery.events → d.phase = .off →
      Resumed l r ⟨d, { l.roster with entries := [] }, none⟩ (l.roster.entries.map (·.ticket))
  | watching (a : Answer) : l.task = some (.setup .watchingAppeared) → r = .ok a →
      Resumed l r { l with task := some (.setup .watchingDisappeared) } []
  | listing (a : Answer) : l.task = some (.setup .watchingDisappeared) → r = .ok a →
      Resumed l r { l with task := some (.setup .listing) } []
  | listed (a : Answer) : l.task = some (.setup .listing) → r = .ok a → (listed a).2 = .ok () →
      Resumed l r (l.queued (listed a).1).prepared []
  | mislisted (a : Answer) (f : Fault) : l.task = some (.setup .listing) → r = .ok a →
      (listed a).2 = .error f → Resumed l r ((l.queued (listed a).1).unprepared f) []
  | unlisted (f : Fault) : l.task = some (.setup .listing) → r = .error f →
      f.isCallFailure = true → Resumed l r l.prepared []
  | unprepared (s : Setup) (f : Fault) : l.task = some (.setup s) → r = .error f →
      Resumed l r (l.unprepared f) []
  | addressed (path mac : String) (a : Answer) : l.task = some (.admission (.addressing path)) →
      r = .ok a → a.address = .ok mac → l.roster.blacklist.contains mac = false →
      Resumed l r { l with task := some (.admission (.subscribing path mac)) } []
  | ignored (path mac : String) (a : Answer) : l.task = some (.admission (.addressing path)) →
      r = .ok a → a.address = .ok mac → l.roster.blacklist.contains mac = true →
      Resumed l r l.released []
  | unaddressed (path : String) (a : Answer) (f : Fault) :
      l.task = some (.admission (.addressing path)) → r = .ok a → a.address = .error f →
      Resumed l r l.released []
  | unadmitted (a : Admission) (f : Fault) : l.task = some (.admission a) → r = .error f →
      Resumed l r l.released []
  | returned (path mac : String) (a : Answer) : l.task = some (.admission (.subscribing path mac)) →
      r = .ok a → l.roster.contains path = true ∨ l.roster.blacklist.contains mac = true →
      Resumed l r l.released [a.ticket]
  | admitted (path mac : String) (a : Answer) : l.task = some (.admission (.subscribing path mac)) →
      r = .ok a → l.roster.contains path = false → l.roster.blacklist.contains mac = false →
      Resumed l r { l with
        roster := { l.roster with entries := l.roster.entries ++ [⟨path, mac, a.ticket⟩] }
        task := some (.emission (.reading path)) } []
  | delivering (path : String) (answer : Answer) (a : Advertisement) (notices : List Notice) :
      l.task = some (.emission (.reading path)) → r = .ok answer →
      (answer.properties >>= Advertisement.ofProperties) = .ok (a, notices) →
      l.roster.tracks path = true →
      Resumed l r { l with task := some (.emission (.delivering path a)) } []
  | dropped (path : String) : l.task = some (.emission (.reading path)) →
      (∀ answer a notices, r = .ok answer →
        (answer.properties >>= Advertisement.ofProperties) = .ok (a, notices) →
        l.roster.tracks path = false) →
      Resumed l r l.released []
  | delivered (path : String) (a : Advertisement) :
      l.task = some (.emission (.delivering path a)) → Resumed l r l.released []
  | served : l.task = some .foreign → Resumed l r l.released []

/-- How a listener goes on with the next item of the queue. -/
inductive Woken (l : Listener κ) : Listener κ → List Ticket → Prop
  | moved (d : Discovery (Event κ)) :
      (∀ name e rest, l.discovery.queue ≠ .event name e :: rest) → l.discovery.Moves d →
      Woken l (l.following d) []
  | addressing (name path : String) (interfaces : Value)
      (rest : List (Discovery.Item (Event κ))) :
      l.discovery.queue = .event name (.appeared (.text path) interfaces) :: rest →
      l.roster.contains path = false → interfaces.holds deviceInterface = .ok true →
      l.roster.covers path = true →
      Woken l { l.taking name (.appeared (.text path) interfaces) rest with
        task := some (.admission (.addressing path)) } []
  | refused (name : String) (path interfaces : Value) (rest : List (Discovery.Item (Event κ))) :
      l.discovery.queue = .event name (.appeared path interfaces) :: rest →
      (∀ p, path = .text p → interfaces.holds deviceInterface = .ok true →
        l.roster.covers p = true → l.roster.contains p = true) →
      Woken l (l.taking name (.appeared path interfaces) rest).released []
  | removed (name : String) (path interfaces : Value) (e : Entry)
      (rest : List (Discovery.Item (Event κ))) :
      l.discovery.queue = .event name (.disappeared path interfaces) :: rest →
      e ∈ l.roster.entries →
      Woken l { (l.taking name (.disappeared path interfaces) rest).released with
        roster := { l.roster with entries := l.roster.entries.filter (·.path ≠ e.path) } }
        [e.ticket]
  | unremoved (name : String) (path interfaces : Value) (rest : List (Discovery.Item (Event κ))) :
      l.discovery.queue = .event name (.disappeared path interfaces) :: rest →
      Woken l (l.taking name (.disappeared path interfaces) rest).released []
  | reading (name path : String) (names : List Value) (rest : List (Discovery.Item (Event κ))) :
      l.discovery.queue = .event name (.changed path names) :: rest →
      Emission.isDue (.list names) = .ok true → l.roster.tracks path = true →
      Woken l { l.taking name (.changed path names) rest with
        task := some (.emission (.reading path)) } []
  | passed (name path : String) (names : List Value) (rest : List (Discovery.Item (Event κ))) :
      l.discovery.queue = .event name (.changed path names) :: rest →
      (Emission.isDue (.list names) = .ok true → l.roster.tracks path = false) →
      Woken l (l.taking name (.changed path names) rest).released []
  | foreign (name : String) (handler : κ) (rest : List (Discovery.Item (Event κ))) :
      l.discovery.queue = .event name (.foreign handler) :: rest →
      Woken l { l.taking name (.foreign handler) rest with task := some .foreign } []

/-! ## Replies -/

/-- A device that was just admitted may have its packets passed on. -/
theorem tracks_admitted {r : Roster} {path mac : String} (hpath : r.contains path = false)
    (hmac : r.blacklist.contains mac = false) (t : Ticket) :
    ({ r with entries := r.entries ++ [⟨path, mac, t⟩] } : Roster).tracks path = true := by
  have hfind : r.entries.find? (·.path = path) = none := by
    rw [List.find?_eq_none]
    intro e he hpath'
    exact Roster.contains_eq_false hpath
      (List.mem_map.mpr ⟨e, he, by simpa using hpath'⟩)
  unfold Roster.tracks Roster.find?
  simp only [List.find?_append, hfind, Option.none_or, List.find?_cons_of_pos, decide_true]
  simp [hmac]

theorem resumed_setup {s : Setup} (htask : l.task = some (.setup s))
    (hphase : l.discovery.phase = .preparing) (r : Reply) :
    Resumed l r (l.resumeSetup s r).1 (Effect.tickets (l.resumeSetup s r).2.1) := by
  have hlive : l.discovery.isLive = true := by
    unfold Discovery.isLive
    rw [hphase]
  cases r with
  | ok a =>
    cases s with
    | watchingAppeared => exact .watching a htask rfl
    | watchingDisappeared => exact .listing a htask rfl
    | listing =>
      obtain ⟨hposted, htickets⟩ := l.postListed_eq hlive (listed a).1
      have hphase' : (l.queued (listed a).1).discovery.phase = .preparing := hphase
      simp only [resumeSetup, hposted]
      cases houtcome : (listed a).2 with
      | ok _ =>
        obtain ⟨hl, hmore⟩ := conclude_preparing_ok hphase' (l.postListed (listed a).1).2
        rw [hl, hmore, htickets]
        exact .listed a htask rfl houtcome
      | error f =>
        obtain ⟨hl, hmore⟩ := conclude_preparing_error hphase' (l.postListed (listed a).1).2 f
        rw [hl, hmore, htickets]
        exact .mislisted a f htask rfl houtcome
  | error f =>
    cases s with
    | watchingAppeared | watchingDisappeared =>
      obtain ⟨hl, hmore⟩ := conclude_preparing_error hphase [] f
      simp only [resumeSetup, hl, hmore]
      exact .unprepared _ f htask rfl
    | listing =>
      simp only [resumeSetup]
      cases hf : f.isCallFailure with
      | true =>
        obtain ⟨hl, hmore⟩ := conclude_preparing_ok hphase
          [.say .warning ("Could not list known devices: " ++ f.message)]
        simp only [if_true, hl, hmore]
        exact .unlisted f htask rfl hf
      | false =>
        obtain ⟨hl, hmore⟩ := conclude_preparing_error hphase [] f
        simp only [Bool.false_eq_true, if_false, hl, hmore]
        exact .unprepared _ f htask rfl

/-- An admission that is over leaves the listener released. -/
theorem continueAdmission_isOver {name : String} {e : Event κ}
    (hphase : l.discovery.phase = .handling name e) (effects : List Effect) {next : Admission.Next}
    (hover : next.IsOver) :
    (l.continueAdmission effects next).1 = l.released ∧
      Effect.tickets (l.continueAdmission effects next).2.1 = Effect.tickets effects := by
  cases hover with
  | refused => exact conclude_handling hphase effects _
  | failed f => exact conclude_handling hphase effects _

theorem resumed_addressing {path name : String} {e : Event κ}
    (htask : l.task = some (.admission (.addressing path)))
    (hphase : l.discovery.phase = .handling name e) (r : Reply) :
    Resumed l r (l.continueAdmission (l.roster.addressed path r).1 (l.roster.addressed path r).2).1
      (Effect.tickets (l.continueAdmission (l.roster.addressed path r).1
        (l.roster.addressed path r).2).2.1) := by
  -- without an address the admission ends, whether the call failed or its answer is empty
  have hover {f : Fault} (hf : (r >>= Answer.address) = .error f)
      (hreleased : Resumed l r l.released []) :
      Resumed l r (l.continueAdmission (l.roster.addressed path r).1
          (l.roster.addressed path r).2).1
        (Effect.tickets (l.continueAdmission (l.roster.addressed path r).1
          (l.roster.addressed path r).2).2.1) := by
    obtain ⟨htickets, hnext⟩ := l.roster.addressed_error path hf
    obtain ⟨hl, hmore⟩ := continueAdmission_isOver hphase (l.roster.addressed path r).1 hnext
    rw [hl, hmore, htickets]
    exact hreleased
  cases r with
  | error f => exact hover rfl (.unadmitted _ f htask rfl)
  | ok a =>
    cases haddress : a.address with
    | error f => exact hover haddress (.unaddressed path a f htask rfl haddress)
    | ok mac =>
      rcases l.roster.addressed_ok path haddress with
        ⟨hbanned, effects, heq, htickets⟩ | ⟨hfree, heq⟩
      · obtain ⟨hl, hmore⟩ := continueAdmission_isOver hphase effects .refused
        rw [heq, hl, hmore, htickets]
        exact .ignored path mac a htask rfl haddress hbanned
      · rw [heq]
        exact .addressed path mac a htask rfl haddress hfree

theorem resumed_subscribing {path mac name : String} {e : Event κ}
    (htask : l.task = some (.admission (.subscribing path mac)))
    (hphase : l.discovery.phase = .handling name e) (r : Reply) :
    let s := l.roster.subscribed path mac r
    Resumed l r ({ l with roster := s.1 }.continueAdmission s.2.1 s.2.2).1
      (Effect.tickets ({ l with roster := s.1 }.continueAdmission s.2.1 s.2.2).2.1) := by
  intro s
  cases r with
  | ok a =>
    by_cases hrefused : l.roster.contains path = true ∨ l.roster.blacklist.contains mac = true
    · have hs : s = (l.roster, [.unsubscribe a.ticket], .refused) := by
        have hcond : (l.roster.contains path || l.roster.blacklist.contains mac) = true :=
          Bool.or_eq_true_iff.mpr hrefused
        simp only [s, Roster.subscribed, hcond, if_true]
      obtain ⟨hl, hmore⟩ := continueAdmission_isOver hphase [.unsubscribe a.ticket]
        Admission.Next.IsOver.refused
      rw [hs, hl, hmore]
      exact .returned path mac a htask rfl hrefused
    · rw [not_or, Bool.not_eq_true, Bool.not_eq_true] at hrefused
      obtain ⟨hpath, hmac⟩ := hrefused
      have hs : s.1 = { l.roster with entries := l.roster.entries ++ [⟨path, mac, a.ticket⟩] } ∧
          s.2.2 = .admitted path ∧ Effect.tickets s.2.1 = [] := by
        have hcond : (l.roster.contains path || l.roster.blacklist.contains mac) = false := by
          rw [hpath, hmac]
          rfl
        simp only [s, Roster.subscribed, hcond, Bool.false_eq_true, if_false]
        exact ⟨trivial, trivial, rfl⟩
      obtain ⟨hroster, hnext, htickets⟩ := hs
      rw [hroster, hnext]
      simp only [continueAdmission, Emission.start, tracks_admitted hpath hmac, if_true,
        continueEmission, await, htickets]
      exact .admitted path mac a htask rfl hpath hmac
  | error f =>
    obtain ⟨effects, next, hs, htickets, hover⟩ := l.roster.subscribed_error path mac f
    obtain ⟨hl, hmore⟩ := continueAdmission_isOver hphase effects hover
    have hs : s = (l.roster, effects, next) := hs
    rw [hs, hl, hmore, htickets]
    exact .unadmitted _ f htask rfl

/-- What is passed on of a reply that was read gives nothing back. -/
theorem tickets_read {r : Reply} {a : Advertisement} {effects : List Effect}
    (h : Emission.read r = .ok (a, effects)) :
    Effect.tickets effects = [] ∧
      ∃ answer notices, r = .ok answer ∧
        (answer.properties >>= Advertisement.ofProperties) = .ok (a, notices) := by
  obtain ⟨answer, notices, hreply, hmade, rfl⟩ := Emission.read_eq_ok.mp h
  refine ⟨List.filterMap_eq_nil_iff.mpr fun effect heffect => ?_, answer, notices, hreply, hmade⟩
  obtain ⟨n, -, rfl⟩ := List.mem_map.mp heffect
  rfl

theorem resumed_reading {path name : String} {e : Event κ}
    (htask : l.task = some (.emission (.reading path)))
    (hphase : l.discovery.phase = .handling name e) (r : Reply) :
    let s := (Emission.reading path).resume (l.roster.tracks path) r
    Resumed l r (l.continueEmission s.1 s.2).1
      (Effect.tickets (l.continueEmission s.1 s.2).2.1) := by
  intro s
  cases hread : Emission.read r with
  | error f =>
    have hs : s = ([], .failed f) := by simp only [s, Emission.resume, hread]
    obtain ⟨hl, hmore⟩ := conclude_handling hphase [] (.error f)
    rw [hs]
    simp only [continueEmission, hl, hmore]
    refine .dropped path htask fun answer a notices hr ha => ?_
    rw [Emission.read_eq_ok.mpr ⟨answer, notices, hr, ha, rfl⟩] at hread
    cases hread
  | ok found =>
    obtain ⟨a, effects⟩ := found
    obtain ⟨htickets, answer, notices, rfl, ha⟩ := tickets_read hread
    cases htracks : l.roster.tracks path with
    | true =>
      have hs : s = (effects ++ [], .wait (.delivering path a)) := by
        simp only [s, Emission.resume, hread, Emission.passOn, htracks, if_true]
      rw [hs]
      simp only [continueEmission, await, Effect.tickets_append, htickets]
      exact .delivering path answer a notices htask rfl ha htracks
    | false =>
      obtain ⟨said, hsaid, hquiet⟩ : ∃ said, Emission.passOn path a false = (said, .ended false) ∧
          Effect.tickets said = [] := ⟨_, rfl, rfl⟩
      have hs : s = (effects ++ said, .ended false) := by
        simp only [s, Emission.resume, hread, htracks, hsaid]
      obtain ⟨hl, hmore⟩ := conclude_handling hphase (effects ++ said) (.ok ())
      rw [hs]
      simp only [continueEmission, hl, hmore, Effect.tickets_append, htickets, hquiet]
      exact .dropped path htask fun _ _ _ _ _ => htracks

theorem resumed_delivering {path name : String} {a : Advertisement} {e : Event κ}
    (htask : l.task = some (.emission (.delivering path a)))
    (hphase : l.discovery.phase = .handling name e) (r : Reply) :
    Resumed l r (l.continueEmission [] (Emission.delivered r)).1
      (Effect.tickets (l.continueEmission [] (Emission.delivered r)).2.1) := by
  cases r with
  | ok answer =>
    obtain ⟨hl, hmore⟩ := conclude_handling hphase [] (.ok ())
    simp only [Emission.delivered, continueEmission, hl, hmore]
    exact .delivered path a htask
  | error f =>
    obtain ⟨hl, hmore⟩ := conclude_handling hphase [] (.error f)
    simp only [Emission.delivered, continueEmission, hl, hmore]
    exact .delivered path a htask

/-- A listener without a task waits for the reply that discovery waits for. -/
theorem takesReply_discovery (htask : l.task = none) (h : l.takesReply = true) :
    l.discovery.takesReply = true := by
  unfold takesReply pending at h
  rw [htask] at h
  unfold Discovery.takesReply
  cases hpending : l.discovery.pending <;> rw [hpending] at h <;> first | rfl | cases h

theorem resumed_following (htask : l.task = none) (h : l.takesReply = true) (r : Reply) :
    Resumed l r (l.ofDiscovery (l.discovery.resume r)).1
      (Effect.tickets (l.ofDiscovery (l.discovery.resume r)).2.1) := by
  have hresumed := Discovery.resumed_resume (takesReply_discovery htask h) r
  have htickets := l.discovery.resume_tickets r
  cases hresult : (l.discovery.resume r).2.2 with
  | none =>
    rw [ofDiscovery_eq l hresult, htickets]
    rw [hresult] at hresumed
    exact .moved _ htask
      ⟨hresumed.events, hresumed.live, hresumed.phase_ne_handling, hresumed.phase_running,
        hresumed.linked, hresumed.setUp⟩
  | some outcome =>
    rw [hresult] at hresumed
    obtain ⟨hl, hmore⟩ := l.ofDiscovery_off hresult hresumed.phase_off
    rw [hl, hmore, htickets]
    exact .ended _ htask hresumed.ending hresumed.events hresumed.phase_off

/-- **A reply moves a listener in one of these ways.** -/
theorem resumed_resume (hfits : l.Fits) (h : l.takesReply = true) (r : Reply) :
    Resumed l r (l.resume r).1 (Effect.tickets (l.resume r).2.1) := by
  unfold resume
  cases htask : l.task with
  | none => exact resumed_following htask h r
  | some task =>
    cases task with
    | setup s => exact resumed_setup htask (hfits.preparing htask) r
    | admission a =>
      obtain ⟨name, e, hphase⟩ := hfits.handling htask nofun
      cases a with
      | addressing path => exact resumed_addressing htask hphase r
      | subscribing path mac => exact resumed_subscribing htask hphase r
    | emission emission =>
      obtain ⟨name, e, hphase⟩ := hfits.handling htask nofun
      cases emission with
      | reading path => exact resumed_reading htask hphase r
      | delivering path a => exact resumed_delivering htask hphase r
    | foreign =>
      obtain ⟨name, e, hphase⟩ := hfits.handling htask nofun
      obtain ⟨hl, hmore⟩ := conclude_handling hphase [] (r.map fun _ => ())
      simp only [hl, hmore]
      exact .served htask

/-! ## Events -/

theorem phase_of_hasItem (h : l.hasItem = true) :
    l.discovery.phase = .waiting ∧ l.discovery.hasItem = true := by
  unfold hasItem at h
  unfold Discovery.hasItem
  split at h
  · rename_i hphase
    exact ⟨hphase, by rw [hphase]; exact h⟩
  · cases h

/-- The first event of the queue is handled. -/
theorem wake_event (hphase : l.discovery.phase = .waiting) {name : String} {e : Event κ}
    {rest : List (Discovery.Item (Event κ))} (hqueue : l.discovery.queue = .event name e :: rest) :
    l.wake = (l.taking name e rest).handle e [] := by
  have hwake : l.discovery.wake =
      ({ l.discovery with phase := .handling name e, queue := rest }, [], none) := by
    unfold Discovery.wake
    rw [hphase, hqueue]
    rfl
  unfold wake
  rw [hwake]
  rfl

/-- An item that is no event moves discovery alone. -/
theorem wake_moves (hnone : l.discovery.wake.2.2 = none)
    (hphase : ∀ name e, l.discovery.wake.1.phase ≠ .handling name e) :
    l.wake.1 = l.following l.discovery.wake.1 ∧ Effect.tickets l.wake.2.1 = [] := by
  have hne (name : String) (e : Event κ) :
      (l.following l.discovery.wake.1).discovery.phase ≠ .handling name e := hphase name e
  unfold wake
  rw [ofDiscovery_eq l hnone]
  simp only
  split
  · rename_i hhandling _ _
    exact absurd hhandling (hne _ _)
  · exact ⟨rfl, l.discovery.wake_tickets⟩

theorem woken_handle {name : String} {e : Event κ}
    {rest : List (Discovery.Item (Event κ))} (hqueue : l.discovery.queue = .event name e :: rest) :
    Woken l ((l.taking name e rest).handle e []).1
      (Effect.tickets ((l.taking name e rest).handle e []).2.1) := by
  have htaking : (l.taking name e rest).discovery.phase = .handling name e := rfl
  cases e with
  | appeared path interfaces =>
    obtain ⟨htickets, hnext⟩ := l.roster.announce_cases path interfaces
    have hhandle : (l.taking name (.appeared path interfaces) rest).handle
          (.appeared path interfaces) [] =
        (l.taking name (.appeared path interfaces) rest).continueAdmission
          (l.roster.announce path interfaces).1 (l.roster.announce path interfaces).2 := rfl
    rw [hhandle]
    rcases hnext with hover | ⟨p, hwait, -⟩
    · obtain ⟨hl, hmore⟩ := continueAdmission_isOver htaking
        (l.roster.announce path interfaces).1 hover
      rw [hl, hmore, htickets]
      refine .refused name path interfaces rest hqueue fun p hp hholds hcovers => ?_
      -- otherwise the admission would have begun
      cases hcontains : l.roster.contains p with
      | true => rfl
      | false =>
        rw [Roster.announce_addressing.mpr ⟨hp, hcontains, hholds, hcovers⟩] at hover
        cases hover
    · obtain ⟨rfl, hcontains, hholds, hcovers⟩ := Roster.announce_addressing.mp hwait
      rw [hwait]
      simp only [continueAdmission, await, htickets]
      exact .addressing name p interfaces rest hqueue hcontains hholds hcovers
  | disappeared path interfaces =>
    unfold handle
    simp only [List.nil_append]
    split
    · rename_i f _
      obtain ⟨hl, hmore⟩ := conclude_handling htaking [] (.error f)
      rw [hl, hmore]
      exact .unremoved name path interfaces rest hqueue
    · rename_i roster more b hremove
      have hphase' : ({ l.taking name (.disappeared path interfaces) rest with roster } :
          Listener κ).discovery.phase = .handling name (.disappeared path interfaces) := rfl
      obtain ⟨hl, hmore⟩ := conclude_handling hphase' more (.ok ())
      rw [hl, hmore]
      rcases Roster.remove_eq_ok hremove with ⟨rfl, htickets⟩ | ⟨e, he, rfl, htickets⟩
      · rw [htickets]
        exact .unremoved name path interfaces rest hqueue
      · rw [htickets]
        exact .removed name path interfaces e rest hqueue he
  | changed path names =>
    have hhandle : (l.taking name (.changed path names) rest).handle (.changed path names) [] =
        (l.taking name (.changed path names) rest).continueEmission []
          (Emission.startIfDue path (.list names) (l.roster.tracks path)) := rfl
    rw [hhandle]
    cases hdue : Emission.isDue (.list names) with
    | error f =>
      obtain ⟨hl, hmore⟩ := conclude_handling htaking [] (.error f)
      simp only [Emission.startIfDue, hdue, continueEmission, hl, hmore]
      exact .passed name path names rest hqueue (by simp [hdue])
    | ok due =>
      cases due with
      | false =>
        obtain ⟨hl, hmore⟩ := conclude_handling htaking [] (.ok ())
        simp only [Emission.startIfDue, hdue, Bool.false_eq_true, if_false, continueEmission, hl,
          hmore]
        exact .passed name path names rest hqueue (by simp [hdue])
      | true =>
        cases htracks : l.roster.tracks path with
        | true =>
          simp only [Emission.startIfDue, hdue, if_true, Emission.start, continueEmission, await]
          exact .reading name path names rest hqueue hdue htracks
        | false =>
          obtain ⟨hl, hmore⟩ := conclude_handling htaking [] (.ok ())
          simp only [Emission.startIfDue, hdue, if_true, Emission.start, Bool.false_eq_true,
            if_false, continueEmission, hl, hmore]
          exact .passed name path names rest hqueue fun _ => htracks
  | foreign handler => exact .foreign name handler rest hqueue

/-- **An item of the queue moves a listener in one of these ways.** -/
theorem woken_wake (h : l.hasItem = true) : Woken l l.wake.1 (Effect.tickets l.wake.2.1) := by
  obtain ⟨hphase, hitem⟩ := phase_of_hasItem h
  have hlive : l.discovery.isLive = true := by
    unfold Discovery.isLive
    rw [hphase]
  obtain ⟨hwoken, hnone⟩ := Discovery.woken_wake hitem
  have hsetUp : l.discovery.phase.isSetUp = true := by
    rw [hphase]
    rfl
  have hmoves : (∀ name e rest, l.discovery.queue ≠ .event name e :: rest) →
      (∀ name e, l.discovery.wake.1.phase ≠ .handling name e) →
      l.discovery.wake.1.phase ≠ .off ∧ l.discovery.wake.1.phase ≠ .connecting →
      l.discovery.wake.1.events = l.discovery.events →
      Woken l l.wake.1 (Effect.tickets l.wake.2.1) := by
    intro hqueue hhandling hrunning hevents
    obtain ⟨hl, htickets⟩ := wake_moves hnone hhandling
    rw [hl, htickets]
    exact .moved _ hqueue ⟨hevents, fun _ => hlive, hhandling, hrunning, by simp [hphase],
      fun _ => Or.inl hsetUp⟩
  generalize hd : l.discovery.wake.1 = d at hwoken hmoves
  cases hwoken with
  | stops rest hqueue hstatus =>
    exact hmoves (by simp [hqueue]) (by simp) ⟨by simp, by simp⟩
      (by rw [Discovery.events, Discovery.events, hqueue]; rfl)
  | ends rest hqueue hstatus =>
    exact hmoves (by simp [hqueue]) (by simp [Discovery.finished])
      ⟨by simp [Discovery.finished], by simp [Discovery.finished]⟩
      (by rw [Discovery.events, Discovery.events, hqueue]; rfl)
  | ignored interface changed rest hqueue =>
    exact hmoves (by simp [hqueue]) (by simp) ⟨by simp, by simp⟩
      (by rw [Discovery.events, Discovery.events, hqueue]; rfl)
  | lost interface changed rest d' hqueue hwanted hattempted =>
    refine hmoves (by simp [hqueue]) hattempted.phase_ne_handling hattempted.phase_running ?_
    rw [hattempted.events, Discovery.events, Discovery.events, hqueue]
    rfl
  | handles name e rest hqueue =>
    rw [wake_event hphase hqueue]
    exact woken_handle hqueue

/-! ## The task fits -/

variable {l' : Listener κ} {tickets : List Ticket}

theorem fits_released (l : Listener κ) : l.released.Fits := ⟨nofun, nofun⟩

theorem Resumed.fits {r : Reply} (hfits : l.Fits) (h : Resumed l r l' tickets) : l'.Fits := by
  cases h with
  | moved d htask hmoves => exact l.fits_following hmoves.handling
  | ended d htask hending hevents hphase =>
    refine ⟨?_, fun name e => ?_⟩ <;> simp [hphase]
  | watching a htask hr => exact hfits.preparing htask
  | listing a htask hr => exact hfits.preparing htask
  | listed a htask hr hall
  | mislisted a f htask hr hf => exact ⟨nofun, nofun⟩
  | unlisted f htask hr hf => exact ⟨nofun, nofun⟩
  | unprepared s f htask hr => exact ⟨nofun, nofun⟩
  | addressed path mac a htask hr haddress hmac => exact hfits.handling htask nofun
  | admitted path mac a htask hr hpath hmac => exact hfits.handling htask nofun
  | delivering path answer a notices htask hr ha htracks => exact hfits.handling htask nofun
  | _ => exact fits_released l

theorem Woken.fits (h : Woken l l' tickets) : l'.Fits := by
  cases h with
  | moved d hqueue hmoves => exact l.fits_following hmoves.handling
  | addressing name path interfaces rest => exact ⟨_, _, rfl⟩
  | reading name path names rest => exact ⟨_, _, rfl⟩
  | foreign name handler rest => exact ⟨_, _, rfl⟩
  | _ => exact ⟨nofun, nofun⟩

end Listener

end TagGateway
