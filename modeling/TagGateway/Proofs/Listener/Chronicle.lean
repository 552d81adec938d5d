import TagGateway.Proofs.Listener.Session

/-!
# Which events earn a call of the receiver

A run is written down next to its session: the events that were put into the queue, how each that
was taken was handled, and the calls of the receiver. The handlings say nothing of those calls.

* `Listener.Handling` — how an event was handled: the roster when it was taken, the device that it
  admitted, and the replies to requests for all properties.
* `Handling.Earns` — that a handling earns a call; `Handling.earned?` — the call, computed.
* `Listener.Chronicle` — a session with what is written down of its run.
* `Handling.Passes` — the gate that a device passes twice.
* `Listener.Standing` — what the task under way says about the last handling;
  `Standing.resumed` — one reply carries it on, and calls the receiver if that is earned then.
* `Chronicle.mem_posted_run` — where the events of a run come from; `Session.changed_mem_arrivals` —
  which signals bring changes.
* **`Chronicle.calls_earned`** — the calls of every run are those that its handlings earned.
-/

namespace TagGateway

open Bus

namespace Listener

variable {κ : Type}

/-- How an event was handled, as far as that has come. -/
structure Handling (κ : Type) where
  event : Event κ
  /-- The roster when the event was taken. -/
  begun : Roster
  /-- The path that was admitted, and the roster then. -/
  admitted : Option (String × Roster) := none
  /-- The replies to requests for all properties of a path, with the roster when they arrived. -/
  reads : List (String × Reply × Roster) := []

namespace Handling

/-- The device that a handling is to emit a packet of, and the roster at the first check: one that
was admitted, or one whose payloads changed. -/
def cause? (h : Handling κ) : Option (String × Roster) :=
  match h.event with
  | .appeared _ _ => h.admitted
  | .changed path names =>
    if names.contains (.text "ManufacturerData") then some (path, h.begun) else none
  | .disappeared _ _ | .foreign _ => none

/-- Packets of a device may pass: it is tracked, and the address that it was admitted with is not
ignored. -/
def Passes (path : String) (r : Roster) : Prop :=
  ∃ e, r.find? path = some e ∧ r.blacklist.contains e.mac = false

theorem passes_iff {path : String} {r : Roster} : Passes path r ↔ r.tracks path = true :=
  Roster.tracks_iff.symm

instance (path : String) (r : Roster) : Decidable (Passes path r) :=
  decidable_of_iff _ passes_iff.symm

/-- A handling earns a call of the receiver: there is a device to emit a packet of, it is tracked
and not ignored at both checks, and the one reply with its properties makes the advertisement. -/
structure Earns (h : Handling κ) (d : Delivery) : Prop where
  caused : ∃ first, h.cause? = some (d.path, first) ∧ Passes d.path first
  read : ∃ answer notices, h.reads = [(d.path, .ok answer, d.roster)] ∧
    (answer.properties >>= Advertisement.ofProperties) = .ok (d.advertisement, notices)
  passed : Passes d.path d.roster

/-- The call of the receiver that a handling earns. -/
def earned? (h : Handling κ) : Option Delivery :=
  match h.cause?, h.reads with
  | some (path, first), [(path', .ok answer, second)] =>
    if path' = path ∧ Passes path first ∧ Passes path second then
      match (answer.properties >>= Advertisement.ofProperties) with
      | .ok (a, _) => some ⟨path, a, second⟩
      | .error _ => none
    else none
  | _, _ => none

theorem earned?_eq_some {h : Handling κ} {d : Delivery} : h.earned? = some d ↔ h.Earns d := by
  constructor
  · intro hd
    unfold earned? at hd
    split at hd
    · rename_i path first path' answer second hcause hreads
      split at hd
      · rename_i hchecks
        obtain ⟨rfl, hfirst, hsecond⟩ := hchecks
        split at hd
        · rename_i a notices ha
          cases hd
          exact ⟨⟨first, hcause, hfirst⟩, ⟨answer, notices, hreads, ha⟩, hsecond⟩
        · cases hd
      · cases hd
    · cases hd
  · rintro ⟨⟨first, hcause, hfirst⟩, ⟨answer, notices, hreads, ha⟩, hsecond⟩
    unfold earned?
    rw [hcause, hreads]
    simp only [hfirst, hsecond, and_self, if_true, ha]

theorem earned?_of_reads_nil {h : Handling κ} (hreads : h.reads = []) : h.earned? = none := by
  unfold earned?
  rw [hreads]
  cases h.cause? <;> rfl

/-- What a reply adds to a handling: the device that the listener admits on it, or that it brings
the properties of one. -/
def noted (h : Handling κ) (l : Listener κ) (r : Reply) (after : Roster) : Handling κ :=
  match l.task with
  | some (.admission (.subscribing path _)) =>
    if l.roster.contains path = false ∧ after.contains path = true then
      { h with admitted := some (path, after) }
    else h
  | some (.emission (.reading path)) => { h with reads := h.reads ++ [(path, r, l.roster)] }
  | _ => h

/-- All properties were asked for as often as they had to be: once, if there is a device to emit a
packet of that passes the first check, and else not at all. -/
def IsRead (h : Handling κ) : Prop :=
  (∃ path first r second, h.cause? = some (path, first) ∧ Passes path first ∧
    h.reads = [(path, r, second)]) ∨
  (∀ path first, h.cause? = some (path, first) → ¬Passes path first) ∧ h.reads = []

/-- A device that was admitted is the one to emit a packet of, and it passes the first check. -/
def IsGrounded (h : Handling κ) : Prop :=
  ∀ path first, h.admitted = some (path, first) →
    h.cause? = some (path, first) ∧ Passes path first

end Handling

/-- What the task under way says about the last handling. -/
structure Standing (l : Listener κ) (last : Option (Handling κ)) : Prop where
  /-- An object that appeared is still to be admitted. -/
  admitting : ∀ a, l.task = some (.admission a) → ∃ h, last = some h ∧
    (∃ path interfaces, h.event = .appeared path interfaces) ∧ h.admitted = none ∧ h.reads = []
  /-- The properties of a device are still to be read. -/
  reading : ∀ path, l.task = some (.emission (.reading path)) → ∃ h first, last = some h ∧
    h.cause? = some (path, first) ∧ Handling.Passes path first ∧ h.reads = []
  /-- Else nothing more is to be read. -/
  settled : (∀ path, l.task ≠ some (.emission (.reading path))) → ∀ h, last = some h → h.IsRead
  grounded : ∀ h, last = some h → h.IsGrounded

variable {l l' : Listener κ} {last : Option (Handling κ)} {r : Reply} {tickets : List Ticket}

theorem Handling.noted_eq_self (h : Handling κ) {after : Roster}
    (hreading : ∀ path, l.task ≠ some (.emission (.reading path)))
    (hadmitted : ∀ path mac, l.task = some (.admission (.subscribing path mac)) →
      l.roster.contains path = false → after.contains path = false) :
    h.noted l r after = h := by
  unfold noted
  split
  · rename_i path mac htask
    refine if_neg fun hboth => ?_
    rw [hadmitted path mac htask hboth.1] at hboth
    cases hboth.2
  · rename_i path htask
    exact absurd htask (hreading path)
  · rfl

theorem Handling.noted_reading (h : Handling κ) {path : String}
    (htask : l.task = some (.emission (.reading path))) (hreads : h.reads = []) (r : Reply)
    (after : Roster) : h.noted l r after = { h with reads := [(path, r, l.roster)] } := by
  unfold noted
  rw [htask]
  simp only [hreads, List.nil_append]

theorem Handling.noted_subscribing (h : Handling κ) {path mac : String}
    (htask : l.task = some (.admission (.subscribing path mac)))
    (hpath : l.roster.contains path = false) (r : Reply) {after : Roster}
    (hafter : after.contains path = true) :
    h.noted l r after = { h with admitted := some (path, after) } := by
  unfold noted
  rw [htask]
  exact if_pos ⟨hpath, hafter⟩

theorem Handling.event_noted (h : Handling κ) (l : Listener κ) (r : Reply) (after : Roster) :
    (h.noted l r after).event = h.event := by
  unfold noted
  split
  · split <;> rfl
  · rfl
  · rfl

theorem delivery?_eq_none (h : ∀ e, l.task ≠ some (.emission e)) : l.delivery? = none := by
  unfold delivery?
  split
  · rename_i htask
    exact absurd htask (h _)
  · rfl

theorem task_following {d : Discovery (Event κ)} {task : Task}
    (h : (l.following d).task = some task) : task = .setup .watchingAppeared := by
  simp only [following] at h
  split at h
  · exact (Option.some.inj h).symm
  · cases h

/-- A reply keeps what the task under way says about the last handling, and calls the receiver for
what that has come to earn. -/
structure Carried (l l' : Listener κ) (last : Option (Handling κ)) (r : Reply) (after : Roster) :
    Prop where
  standing : Standing l' (last.map fun h => h.noted l r after)
  calls : ((last.map fun h => h.noted l r after).bind Handling.earned?).toList =
    (last.bind Handling.earned?).toList ++ l'.delivery?.toList

/-- A move that neither brings properties nor begins an emission adds nothing. -/
theorem Standing.quiet (hs : Standing l last) {after : Roster}
    (hreading : ∀ path, l.task ≠ some (.emission (.reading path)))
    (hadmitted : ∀ path mac, l.task = some (.admission (.subscribing path mac)) →
      l.roster.contains path = false → after.contains path = false)
    (hadmission : ∀ a, l'.task = some (.admission a) → ∃ a', l.task = some (.admission a'))
    (hemission : ∀ e, l'.task ≠ some (.emission e)) : Carried l l' last r after := by
  have hsame : (last.map fun h => h.noted l r after) = last := by
    cases last with
    | none => rfl
    | some h => exact congrArg some (h.noted_eq_self hreading hadmitted)
  constructor
  · rw [hsame]
    refine ⟨fun a htask => ?_, fun path htask => absurd htask (hemission _), fun _ => ?_,
      hs.grounded⟩
    · obtain ⟨a', htask'⟩ := hadmission a htask
      exact hs.admitting a' htask'
    · exact hs.settled hreading
  · rw [hsame, delivery?_eq_none hemission]
    exact (List.append_nil _).symm

/-- A device that is admitted is the one to emit a packet of. -/
theorem Standing.admitted (hs : Standing l last) {path mac : String}
    (htask : l.task = some (.admission (.subscribing path mac)))
    (hpath : l.roster.contains path = false) (hmac : l.roster.blacklist.contains mac = false)
    (t : Ticket) (r : Reply) :
    let after : Roster := { l.roster with entries := l.roster.entries ++ [⟨path, mac, t⟩] }
    Carried l { l with roster := after, task := some (.emission (.reading path)) } last r
      after := by
  intro after
  obtain ⟨h, rfl, ⟨p, interfaces, hevent⟩, hadmitted, hreads⟩ := hs.admitting _ htask
  have hcontains : after.contains path = true := by simp [after, Roster.contains]
  have hpasses : Handling.Passes path after :=
    Handling.passes_iff.mpr (tracks_admitted hpath hmac t)
  have hnoted := h.noted_subscribing htask hpath r hcontains
  have hcause : ({ h with admitted := some (path, after) } : Handling κ).cause? =
      some (path, after) := by
    unfold Handling.cause?
    simp only [hevent]
  have hnone : Handling.earned? { h with admitted := some (path, after) } = none :=
    Handling.earned?_of_reads_nil hreads
  constructor
  · simp only [Option.map_some, hnoted]
    refine ⟨?_, ?_, fun hsettled => absurd rfl (hsettled path), ?_⟩
    · intro a hadmission
      cases hadmission
    · rintro _ ⟨⟩
      exact ⟨_, after, rfl, hcause, hpasses, hreads⟩
    · rintro _ ⟨⟩ _ _ ⟨⟩
      exact ⟨hcause, hpasses⟩
  · simp only [Option.map_some, Option.bind_some, hnoted, hnone,
      Handling.earned?_of_reads_nil hreads]
    rfl

/-- Properties that are read settle what a handling earns. -/
theorem Standing.read (hs : Standing l last) {path : String}
    (htask : l.task = some (.emission (.reading path)))
    (hadmission : ∀ a, l'.task ≠ some (.admission a))
    (hreading : ∀ p, l'.task ≠ some (.emission (.reading p)))
    (hearned : ∀ (h : Handling κ) first, h.cause? = some (path, first) →
      Handling.Passes path first →
        Handling.earned? { h with reads := [(path, r, l.roster)] } = l'.delivery?) :
    Carried l l' last r l.roster := by
  obtain ⟨h, first, rfl, hcause, hfirst, hreads⟩ := hs.reading path htask
  have hnoted := h.noted_reading htask hreads r l.roster
  constructor
  · simp only [Option.map_some, hnoted]
    refine ⟨fun a ha => absurd ha (hadmission a), fun p hp => absurd hp (hreading p),
      fun _ h' hh' => ?_, fun h' hh' => ?_⟩
    · cases hh'
      exact Or.inl ⟨path, first, _, _, hcause, hfirst, rfl⟩
    · cases hh'
      exact hs.grounded h rfl
  · simp only [Option.map_some, Option.bind_some, hnoted, hearned h first hcause hfirst,
      Handling.earned?_of_reads_nil hreads]
    rfl

/-- **A reply calls the receiver if that is earned then.** -/
theorem Standing.resumed (hs : Standing l last) {r' : Reply} (h : Resumed l r' l' tickets)
    (hsame : ∀ path, l.task = some (.emission (.reading path)) → r' = r) :
    Carried l l' last r l'.roster := by
  cases h with
  | moved d htask hmoves =>
    refine hs.quiet (by rw [htask]; nofun) (by rw [htask]; nofun) (fun a ha => ?_) fun e he => ?_
    · cases task_following ha
    · cases task_following he
  | ended d htask hending hevents hphase =>
    exact hs.quiet (by rw [htask]; nofun) (by rw [htask]; nofun) nofun nofun
  | watching a htask hr
  | listing a htask hr
  | listed a htask hr hall
  | mislisted a f htask hr hf
  | unlisted f htask hr hf
  | unprepared s f htask hr
  | delivered path a htask
  | served htask =>
    exact hs.quiet (by rw [htask]; nofun) (by rw [htask]; nofun) nofun nofun
  | addressed path mac a htask hr haddress hmac =>
    exact hs.quiet (by rw [htask]; nofun) (by rw [htask]; nofun) (fun _ _ => ⟨_, htask⟩) nofun
  | ignored path mac a htask hr haddress hmac
  | unaddressed path a f htask hr hf
  | unadmitted a f htask hr
  | returned path mac a htask hr hrefused =>
    exact hs.quiet (by rw [htask]; nofun) (fun _ _ _ hfree => hfree) nofun nofun
  | admitted path mac a htask hr hpath hmac => exact hs.admitted htask hpath hmac a.ticket r
  | delivering path answer a notices htask hr ha htracks =>
    rw [hsame path htask] at hr
    subst hr
    refine hs.read htask nofun nofun fun h first hcause hfirst => ?_
    exact Handling.earned?_eq_some.mpr
      ⟨⟨first, hcause, hfirst⟩, ⟨answer, notices, rfl, ha⟩, Handling.passes_iff.mpr htracks⟩
  | dropped path htask hdropped =>
    rw [hsame path htask] at hdropped
    refine hs.read htask nofun nofun fun h first _ _ => ?_
    show _ = none
    rw [Option.eq_none_iff_forall_ne_some]
    rintro ⟨_, a, _⟩ hd
    obtain ⟨-, ⟨answer, notices, hreads, ha⟩, hpasses⟩ := Handling.earned?_eq_some.mp hd
    cases hreads
    rw [Handling.passes_iff, hdropped answer _ notices rfl ha] at hpasses
    cases hpasses

/-- An event that is taken is the last of those handled from then on. -/
theorem Standing.woken {x : Session κ} (hs : Standing x.listener last)
    (hitem : x.listener.hasItem = true) (hfits : x.listener.Fits)
    (h : Woken x.listener l' tickets) :
    Standing l' (match x.taken? .wake with
      | some e => some { event := e, begun := x.listener.roster }
      | none => last) := by
  have htask := hfits.task_eq_none (phase_of_hasItem hitem).1
  have hnew (e : Event κ) (h : Handling κ)
      (hh : some { event := e, begun := x.listener.roster } = some h) : h.IsGrounded := by
    cases hh
    exact nofun
  cases h with
  | moved d hqueue hmoves =>
    rw [Session.taken_none hqueue]
    refine ⟨fun a ha => ?_, fun path hpath => ?_, fun _ => hs.settled (by rw [htask]; nofun),
      hs.grounded⟩
    · cases task_following ha
    · cases task_following hpath
  | addressing name path interfaces rest hqueue hpath hholds hcovers =>
    rw [(Session.taken_event hitem hqueue).1]
    refine ⟨fun a ha => ?_, nofun, fun _ h hh => ?_, hnew _⟩
    · exact ⟨_, rfl, ⟨_, _, rfl⟩, rfl, rfl⟩
    · cases hh
      exact Or.inr ⟨nofun, rfl⟩
  | reading name path names rest hqueue hdue htracks =>
    rw [(Session.taken_event hitem hqueue).1]
    refine ⟨nofun, ?_, fun hover => absurd rfl (hover path), hnew _⟩
    rintro _ ⟨⟩
    exact ⟨_, x.listener.roster, rfl, if_pos (Except.ok.inj hdue),
      Handling.passes_iff.mpr htracks, rfl⟩
  | refused name path interfaces rest hqueue hrefused
  | removed name path interfaces e rest hqueue he
  | unremoved name path interfaces rest hqueue
  | foreign name handler rest hqueue =>
    rw [(Session.taken_event hitem hqueue).1]
    refine ⟨nofun, nofun, fun _ h hh => ?_, hnew _⟩
    cases hh
    exact Or.inr ⟨nofun, rfl⟩
  | passed name path names rest hqueue hpassed =>
    rw [(Session.taken_event hitem hqueue).1]
    refine ⟨nofun, nofun, fun _ h hh => ?_, hnew _⟩
    cases hh
    refine Or.inr ⟨fun p first hcause => ?_, rfl⟩
    simp only [Handling.cause?] at hcause
    split at hcause
    · rename_i hcontains
      cases hcause
      rw [Handling.passes_iff, Bool.not_eq_true]
      exact hpassed (congrArg Except.ok hcontains)
    · cases hcause

/-! ## Chronicles -/

/-- A session, with what is written down of its run. -/
structure Chronicle (κ : Type) where
  session : Session κ
  /-- The events that were put into the queue. -/
  posted : List (Event κ) := []
  /-- How events were handled before the last that was taken. -/
  past : List (Handling κ) := []
  last : Option (Handling κ) := none
  /-- The calls of the receiver. -/
  calls : List Delivery := []

namespace Session

/-- The call of the receiver that a happening makes. -/
def made (x : Session κ) : Happening κ → Option Delivery
  | .reply r => if x.listener.takesReply then (x.resume r).listener.delivery? else none
  | .wake => if x.listener.hasItem then x.listener.wake.1.delivery? else none
  | _ => none

/-- The last handling after a happening: that of the event which it takes, or the one before with
what a reply adds to it. -/
def noted (x : Session κ) (happening : Happening κ) (last : Option (Handling κ)) :
    Option (Handling κ) :=
  match happening, x.taken? happening with
  | .reply r, _ =>
    last.map fun h => h.noted x.listener r (x.perform (.reply r)).listener.roster
  | _, some e => some { event := e, begun := x.listener.roster }
  | _, none => last

end Session

namespace Chronicle

/-- How the events that were taken were handled, in order. -/
def handled (c : Chronicle κ) : List (Handling κ) := c.past ++ c.last.toList

/-- Something happens. A run that begins is written down anew. -/
def perform (c : Chronicle κ) (happening : Session.Happening κ) : Chronicle κ :=
  if c.session.begins happening then { session := c.session.perform happening }
  else
    { session := c.session.perform happening
      posted := c.posted ++ c.session.arrivals happening
      past := if (c.session.taken? happening).isSome then c.handled else c.past
      last := c.session.noted happening c.last
      calls := c.calls ++ (c.session.made happening).toList }

/-- All that happens, in order. -/
def run (c : Chronicle κ) (happenings : List (Session.Happening κ)) : Chronicle κ :=
  happenings.foldl perform c

/-- The chronicle of a listener that was never used. -/
def ofSettings (s : Discovery.Settings) : Chronicle κ := { session := Session.ofSettings s }

/-- The invariant of a run: what was put into the queue has been handled or waits, and the calls of
the receiver are those that were earned. -/
structure Kept (c : Chronicle κ) : Prop where
  fits : c.session.listener.Fits
  events : c.posted = c.handled.map (·.event) ++ c.session.listener.discovery.events
  calls : c.calls = c.handled.filterMap Handling.earned?
  standing : Standing c.session.listener c.last
  past : ∀ h ∈ c.past, h.IsRead ∧ h.IsGrounded

variable {c : Chronicle κ}

theorem calls_handled (c : Chronicle κ) :
    c.handled.filterMap Handling.earned? =
      c.past.filterMap Handling.earned? ++ (c.last.bind Handling.earned?).toList := by
  unfold handled
  rw [List.filterMap_append]
  cases c.last with
  | none => rfl
  | some h =>
    simp only [Option.toList_some, Option.bind_some, List.filterMap_cons, List.filterMap_nil]
    cases h.earned? <;> rfl

theorem kept_ofSettings (s : Discovery.Settings) : Kept (ofSettings s : Chronicle κ) where
  fits := ⟨nofun, nofun⟩
  events := rfl
  calls := rfl
  standing := ⟨nofun, nofun, nofun, nofun⟩
  past := nofun

theorem kept_begun {x : Session κ} {happening : Session.Happening κ} (hfits : x.listener.Fits)
    (h : x.begins happening = true) : Kept { session := x.perform happening } := by
  have hfits' := Session.fits_perform hfits happening
  obtain ⟨-, -, heq⟩ := Session.begins_eq_true h
  refine ⟨hfits', ?_, rfl, ?_, nofun⟩
  · rw [heq]
    rfl
  · rw [heq]
    exact ⟨nofun, nofun, nofun, nofun⟩

/-- What happens beside the moves of a listener takes no event and calls nobody. -/
theorem perform_beside {happening : Session.Happening κ}
    (hbegins : c.session.begins happening = false) (hreply : ∀ r, happening ≠ .reply r)
    (hwake : happening ≠ .wake) :
    c.session.taken? happening = none ∧ c.perform happening = { c with
      session := c.session.perform happening
      posted := c.posted ++ c.session.arrivals happening } := by
  have htaken : c.session.taken? happening = none := by
    cases happening with
    | wake => exact absurd rfl hwake
    | _ => rfl
  have hmade : c.session.made happening = none := by
    cases happening with
    | reply r => exact absurd rfl (hreply r)
    | wake => exact absurd rfl hwake
    | _ => rfl
  have hlast : c.session.noted happening c.last = c.last := by
    unfold Session.noted
    rw [htaken]
    cases happening with
    | reply r => exact absurd rfl (hreply r)
    | _ => rfl
  refine ⟨htaken, ?_⟩
  unfold Chronicle.perform
  rw [if_neg (by rw [hbegins]; nofun)]
  simp only [htaken, hmade, hlast, Option.isSome_none, Bool.false_eq_true, if_false,
    Option.toList_none, List.append_nil]

theorem Kept.beside (h : Kept c) {happening : Session.Happening κ}
    (hbegins : c.session.begins happening = false) (hreply : ∀ r, happening ≠ .reply r)
    (hwake : happening ≠ .wake) : Kept (c.perform happening) := by
  have htask := (Session.beside_perform hbegins hreply hwake).task
  have hevents := Session.events_perform h.fits hbegins
  obtain ⟨htaken, hperform⟩ := perform_beside hbegins hreply hwake
  rw [hperform]
  refine ⟨Session.fits_perform h.fits happening, ?_, h.calls, ?_, h.past⟩
  · simp only
    rw [h.events, List.append_assoc, ← hevents, htaken]
    rfl
  · exact ⟨fun a ha => h.standing.admitting a (htask ▸ ha),
      fun path hpath => h.standing.reading path (htask ▸ hpath),
      fun hover => h.standing.settled (htask ▸ hover), h.standing.grounded⟩

/-- A reply adds to the last handling what it earns, and calls the receiver for it. -/
theorem standing_reply {x : Session κ} {last : Option (Handling κ)} (hfits : x.listener.Fits)
    (hs : Standing x.listener last) (r : Reply) :
    Standing (x.perform (.reply r)).listener (x.noted (.reply r) last) ∧
      ((x.noted (.reply r) last).bind Handling.earned?).toList =
        (last.bind Handling.earned?).toList ++ (x.made (.reply r)).toList := by
  simp only [Session.noted, Session.made, Session.perform]
  split
  · rename_i htakes
    have hreading (path : String)
        (hpath : x.listener.task = some (.emission (.reading path))) : (x.answered r).2 = r := by
      rw [Session.answered_reading hpath]
    have hcarried := hs.resumed (resumed_resume hfits htakes _) hreading
    rw [Session.listener_resume]
    exact ⟨hcarried.standing, hcarried.calls⟩
  · -- no task under way waits for a reply, so that there is nothing to add
    rename_i hidle
    have htask {task : Task} (h : task ≠ .foreign) : x.listener.task ≠ some task :=
      fun htask => hidle (takesReply_of_task htask h)
    have hcall : x.listener.delivery? = none := delivery?_eq_none fun e => htask (by simp)
    have hcarried : Carried x.listener x.listener last r x.listener.roster :=
      hs.quiet (fun path => htask (by simp)) (fun path mac ha => absurd ha (htask (by simp)))
        (fun a ha => absurd ha (htask (by simp))) (fun e => htask (by simp))
    rw [← hcall]
    exact ⟨hcarried.standing, hcarried.calls⟩

theorem Kept.reply (h : Kept c) (r : Reply) : Kept (c.perform (.reply r)) := by
  have hsame : c.session.begins (.reply r) = false := rfl
  have hevents := Session.events_perform h.fits hsame
  obtain ⟨hstanding, hcalls⟩ := standing_reply h.fits h.standing r
  have hmap : (c.session.noted (.reply r) c.last).toList.map (·.event) =
      c.last.toList.map (·.event) := by
    unfold Session.noted
    cases c.last with
    | none => rfl
    | some last => simp [Handling.event_noted]
  refine ⟨Session.fits_perform h.fits _, ?_, ?_, hstanding, h.past⟩
  · show c.posted ++ _ = (c.past ++ (c.session.noted (.reply r) c.last).toList).map (·.event) ++ _
    rw [List.map_append, hmap, ← List.map_append]
    show _ = c.handled.map (·.event) ++ _
    rw [h.events, List.append_assoc, ← hevents]
    rfl
  · show c.calls ++ _ = _
    rw [h.calls, calls_handled, calls_handled, List.append_assoc]
    exact congrArg _ hcalls.symm

/-- An item that is taken leaves what is still to be done to its handling. -/
theorem standing_wake {x : Session κ} {last : Option (Handling κ)} (hfits : x.listener.Fits)
    (hs : Standing x.listener last) :
    Standing (x.perform .wake).listener (x.noted .wake last) := by
  have hnoted : x.noted .wake last = (match x.taken? .wake with
      | some e => some { event := e, begun := x.listener.roster }
      | none => last) := by
    unfold Session.noted
    cases x.taken? .wake <;> rfl
  rw [hnoted]
  rcases x.wake_cases with ⟨hitem, _, hwoken⟩ | ⟨hitem, hsame⟩
  · exact hs.woken hitem hfits hwoken
  · rw [hsame, Session.taken_of_hasItem_eq_false hitem]
    exact hs

theorem hasItem_of_taken {x : Session κ} {e : Event κ} (h : x.taken? .wake = some e) :
    x.listener.hasItem = true := by
  refine Bool.not_eq_false _ |>.mp fun hitem => ?_
  rw [Session.taken_of_hasItem_eq_false hitem] at h
  cases h

theorem Kept.wake (h : Kept c) : Kept (c.perform .wake) := by
  have hsame : c.session.begins .wake = false := rfl
  have hevents := Session.events_perform h.fits hsame
  have harrivals : c.session.arrivals .wake = [] := ite_self _
  have hmade : c.session.made .wake = none := by
    simp only [Session.made, delivery?_wake, ite_self]
  have hstanding := standing_wake h.fits h.standing
  have hfits := Session.fits_perform h.fits .wake
  unfold Chronicle.perform
  rw [if_neg nofun]
  unfold Session.noted at hstanding ⊢
  rw [harrivals, List.append_nil] at hevents
  cases htaken : c.session.taken? .wake with
  | none =>
    rw [htaken] at hstanding hevents
    simp only [harrivals, hmade, Option.isSome_none, Bool.false_eq_true, if_false,
      Option.toList_none, List.append_nil]
    refine ⟨hfits, ?_, h.calls, hstanding, h.past⟩
    exact h.events.trans (congrArg _ hevents.symm)
  | some e =>
    rw [htaken] at hstanding hevents
    simp only [harrivals, hmade, Option.isSome_some, if_true, Option.toList_none,
      List.append_nil]
    refine ⟨hfits, ?_, ?_, hstanding, ?_⟩
    · rw [h.events, ← hevents]
      simp [handled]
    · have hnone : Handling.earned?
          { event := e, begun := c.session.listener.roster : Handling κ } = none :=
        Handling.earned?_of_reads_nil rfl
      rw [calls_handled, h.calls]
      simp only [Option.bind_some, hnone, Option.toList_none, List.append_nil]
    · intro handling hmem
      rcases List.mem_append.mp hmem with hpast | hlast
      · exact h.past handling hpast
      · -- the event is taken when no task is under way
        have htask := h.fits.task_eq_none (phase_of_hasItem (hasItem_of_taken htaken)).1
        have hlast := Option.mem_toList.mp hlast
        exact ⟨h.standing.settled (by rw [htask]; nofun) handling hlast,
          h.standing.grounded handling hlast⟩

/-- **Each happening keeps the invariant.** -/
theorem Kept.perform (h : Kept c) (happening : Session.Happening κ) :
    Kept (c.perform happening) := by
  cases hbegins : c.session.begins happening with
  | true =>
    unfold Chronicle.perform
    rw [if_pos hbegins]
    exact kept_begun h.fits hbegins
  | false =>
    cases happening with
    | reply r => exact h.reply r
    | wake => exact h.wake
    | _ => exact h.beside hbegins nofun nofun

theorem kept_run (s : Discovery.Settings) (happenings : List (Session.Happening κ)) :
    Kept ((ofSettings s).run happenings) := by
  refine List.foldlRecOn (motive := Kept) happenings _ (kept_ofSettings s) ?_
  exact fun c h happening _ => h.perform happening

end Chronicle

/-! ## Where events come from -/

theorem event?_eq_changed {topic : Topic} {values : List Value} {path : String}
    {names : List Value} :
    (event? topic values : Option (Event κ)) = some (.changed path names) ↔
      topic = .device path ∧ ∃ changed invalidated,
        values = [.text deviceInterface, changed, invalidated] ∧ changed.elements = .ok names := by
  constructor
  · intro h
    unfold event? at h
    split at h
    · cases h
    · cases h
    · rename_i interface changed invalidated
      split at h
      · cases h
      · rename_i hdevice
        rw [Bool.not_eq_true, Value.bne_text] at hdevice
        subst hdevice
        split at h
        · rename_i hnames
          cases h
          exact ⟨rfl, changed, invalidated, rfl, hnames⟩
        · cases h
    · cases h
  · rintro ⟨rfl, changed, invalidated, rfl, hnames⟩
    simp only [event?, Value.bne_text.mpr rfl, Bool.false_eq_true, if_false, hnames]

namespace Session

variable {x : Session κ}

/-- A signal carries a change of a device: it reaches an active subscription to the changes of the
device and is about its interface. -/
def CarriesChange (x : Session κ) (route : Route) (body : Value) (path : String)
    (names : List Value) : Prop :=
  ∃ t ∈ x.router.targets route, x.router.isActive t = true ∧ x.topics[t]? = some (.device path) ∧
    ∃ changed invalidated,
      body.unwrap.elements = .ok [.text deviceInterface, changed, invalidated] ∧
        changed.elements = .ok names

theorem arguments_eq_ok {topic : Topic} {body : Value} {values : List Value} :
    topic.arguments body = .ok values ↔ body.elements = .ok values := by
  unfold Topic.arguments
  cases body.elements with
  | ok items => rfl
  | error f => exact iff_of_false nofun nofun

/-- A signal brings what its active subscriptions make of its values. -/
theorem mem_brought {route : Route} {body : Value} {e : Event κ} :
    e ∈ x.brought route body ↔ ∃ t ∈ x.router.targets route, x.router.isActive t = true ∧
      ∃ topic values, x.topics[t]? = some topic ∧ body.unwrap.elements = .ok values ∧
        event? topic values = some e := by
  unfold brought
  rw [List.mem_filterMap]
  refine exists_congr fun t => ?_
  rw [List.mem_filter, and_assoc]
  refine and_congr_right fun _ => and_congr_right fun _ => ?_
  unfold through
  cases x.topics[t]? with
  | none => exact iff_of_false nofun nofun
  | some topic =>
    simp only [Option.some.injEq, ← @arguments_eq_ok topic]
    cases topic.arguments body.unwrap with
    | error f => exact iff_of_false nofun (by rintro ⟨_, _, -, hvalues, -⟩; cases hvalues)
    | ok values => simp

/-- A signal brings the changes that it carries. -/
theorem changed_mem_brought {route : Route} {body : Value} {path : String} {names : List Value} :
    .changed path names ∈ x.brought route body ↔ x.CarriesChange route body path names := by
  rw [mem_brought]
  unfold CarriesChange
  simp only [event?_eq_changed]
  refine exists_congr fun t => and_congr_right fun _ => and_congr_right fun _ => ?_
  constructor
  · rintro ⟨_, _, htopic, hvalues, rfl, changed, invalidated, rfl, hnames⟩
    exact ⟨htopic, changed, invalidated, hvalues, hnames⟩
  · rintro ⟨htopic, changed, invalidated, hvalues, hnames⟩
    exact ⟨_, _, htopic, hvalues, rfl, changed, invalidated, rfl, hnames⟩

/-- Changes come from signals alone, and only while a run lasts. -/
theorem changed_mem_arrivals {happening : Happening κ} {path : String} {names : List Value} :
    .changed path names ∈ x.arrivals happening ↔ x.listener.discovery.isLive = true ∧
      ∃ route body, happening = .signal route body ∧ x.CarriesChange route body path names := by
  unfold arrivals
  split
  · rename_i hlive
    rw [and_iff_right hlive]
    constructor
    · intro h
      cases happening with
      | signal route body => exact ⟨route, body, rfl, changed_mem_brought.mp h⟩
      | reply r =>
        simp only [arrived] at h
        split at h
        · obtain ⟨object, -, heq⟩ := List.mem_map.mp h
          cases heq
        · cases h
      | post name handler => cases List.mem_singleton.mp h
      | _ => cases h
    · rintro ⟨route, body, rfl, hcarries⟩
      exact changed_mem_brought.mpr hcarries
  · rename_i hdead
    exact iff_of_false List.not_mem_nil fun h => hdead h.1

/-- No run begins in the course of some happenings. -/
def Unbroken (x : Session κ) : List (Happening κ) → Prop
  | [] => True
  | happening :: rest => x.begins happening = false ∧ (x.perform happening).Unbroken rest

end Session

namespace Chronicle

@[simp] theorem session_perform (c : Chronicle κ) (happening : Session.Happening κ) :
    (c.perform happening).session = c.session.perform happening := by
  unfold perform
  split <;> rfl

theorem mem_posted_perform {c : Chronicle κ} {happening : Session.Happening κ} {e : Event κ} :
    e ∈ (c.perform happening).posted ↔ c.session.begins happening = false ∧
      (e ∈ c.posted ∨ e ∈ c.session.arrivals happening) := by
  unfold perform
  split
  · rename_i hbegins
    exact iff_of_false List.not_mem_nil fun h => by simp [hbegins] at h
  · rename_i hsame
    rw [and_iff_right (Bool.not_eq_true _ ▸ hsame), List.mem_append]

/-- What is written down after some happenings came before them or with one of them, and no run has
begun since. -/
theorem mem_posted_run {c : Chronicle κ} {happenings : List (Session.Happening κ)} {e : Event κ} :
    e ∈ (c.run happenings).posted ↔ e ∈ c.posted ∧ c.session.Unbroken happenings ∨
      ∃ before happening after, happenings = before ++ happening :: after ∧
        e ∈ (c.session.run before).arrivals happening ∧
        (c.session.run before).Unbroken (happening :: after) := by
  induction happenings generalizing c with
  | nil => simp [run, Session.Unbroken]
  | cons first rest ih =>
    show e ∈ ((c.perform first).run rest).posted ↔ _
    rw [ih, mem_posted_perform, session_perform]
    constructor
    · rintro (⟨⟨hsame, hold | hnew⟩, hrest⟩ | ⟨before, happening, after, rfl, hmem, hafter⟩)
      · exact Or.inl ⟨hold, hsame, hrest⟩
      · exact Or.inr ⟨[], first, rest, rfl, hnew, hsame, hrest⟩
      · exact Or.inr ⟨first :: before, happening, after, rfl, hmem, hafter⟩
    · rintro (⟨hold, hsame, hrest⟩ | ⟨before, happening, after, hsplit, hmem, hafter⟩)
      · exact Or.inl ⟨⟨hsame, Or.inl hold⟩, hrest⟩
      · cases before with
        | nil =>
          cases hsplit
          exact Or.inl ⟨⟨hafter.1, Or.inr hmem⟩, hafter.2⟩
        | cons _ before =>
          cases hsplit
          exact Or.inr ⟨before, happening, after, rfl, hmem, hafter⟩

/-- **The receiver is called once for each event that earns it, in their order, and for no other.**
An event earns a call if it is an object that is admitted, or a change of payloads carried by an
active subscription; if the device is tracked and not ignored when its properties are asked for and
when they arrive; and if they make an advertisement, which the receiver gets. All events that were
put into the queue are handled in their order or wait, and for each that is handled properties are
asked for once or, without such a device, not at all. The changes among them are those that signals
have carried since the run began, and none is lost. This holds whatever the receiver does. -/
theorem calls_earned (settings : Discovery.Settings) (happenings : List (Session.Happening κ)) :
    let c := (ofSettings settings).run happenings
    c.calls = c.handled.filterMap Handling.earned? ∧
      (∀ (h : Handling κ) (d : Delivery), h.earned? = some d ↔ h.Earns d) ∧
      c.posted = c.handled.map (·.event) ++ c.session.listener.discovery.events ∧
      (∀ h ∈ c.handled, h.IsRead ∨ c.last = some h ∧ h.reads = [] ∧
        ∃ path, c.session.listener.task = some (.emission (.reading path))) ∧
      ∀ path names, .changed path names ∈ c.posted ↔ ∃ before route body after,
        happenings = before ++ .signal route body :: after ∧
          ((Session.ofSettings settings).run before).listener.discovery.isLive = true ∧
          ((Session.ofSettings settings).run before).CarriesChange route body path names ∧
          ((Session.ofSettings settings).run before).Unbroken (.signal route body :: after) := by
  intro c
  have hkept : Kept c := kept_run settings happenings
  refine ⟨hkept.calls, fun h d => Handling.earned?_eq_some, hkept.events, fun h hmem => ?_,
    fun path names => mem_posted_run.trans ?_⟩
  · rcases List.mem_append.mp hmem with hpast | hlast
    · exact Or.inl (hkept.past h hpast).1
    · have hlast := Option.mem_toList.mp hlast
      by_cases hreading : ∃ path, c.session.listener.task = some (.emission (.reading path))
      · obtain ⟨path, hpath⟩ := hreading
        obtain ⟨h', first, hlast', -, -, hreads⟩ := hkept.standing.reading path hpath
        cases hlast.symm.trans hlast'
        exact Or.inr ⟨hlast, hreads, path, hpath⟩
      · exact Or.inl (hkept.standing.settled (fun path hpath => hreading ⟨path, hpath⟩) h hlast)
  · constructor
    · rintro (⟨hnone, -⟩ | ⟨before, happening, after, rfl, hmem, hafter⟩)
      · cases hnone
      · obtain ⟨hlive, route, body, rfl, hcarries⟩ := Session.changed_mem_arrivals.mp hmem
        exact ⟨before, route, body, after, rfl, hlive, hcarries, hafter⟩
    · rintro ⟨before, route, body, after, rfl, hlive, hcarries, hafter⟩
      exact Or.inr ⟨before, _, after, rfl,
        Session.changed_mem_arrivals.mpr ⟨hlive, route, body, rfl, hcarries⟩, hafter⟩

/-- An object is admitted, but its properties cannot be read. Of two changes only that of payloads
has the receiver called. -/
example :
    let path := "/org/bluez/hci0/dev_1"
    let change (name : String) : Session.Happening Unit :=
      .signal ⟨path, propertiesInterface, propertiesChanged⟩
        (.list [.text deviceInterface, .dict [(.text name, .dict [])], .list []])
    let c := (ofSettings {} : Chronicle Unit).run
      [.start, .reply .done, .reply .done, .reply .done, .reply .done,
        .reply (.ok { body := [.dict [(.text path, .dict [(.text deviceInterface, .dict [])])]] }),
        .reply .done, .reply .done,
        .wake, .reply (.ok { body := [.text "AA:BB:CC:DD:EE:01"] }), .reply .done,
        .reply (.error (.callFailed "" none)),
        change "RSSI", change payloadProperty, .wake, .wake, .reply (.ok { body := [.dict []] })]
    c.calls.map (·.path) = [path] ∧ c.handled.map (·.reads.length) = [1, 0, 1] := by
  decide +kernel

end Chronicle

end Listener

end TagGateway
