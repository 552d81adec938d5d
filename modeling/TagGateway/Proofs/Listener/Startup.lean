import TagGateway.Proofs.Listener.Announcements
import TagGateway.Proofs.Listener.Subscriptions

/-!
# No device is lost or doubled when a run begins

The setup subscribes to the objects that appear before it asks for those that there are. Hence a
device is known from a signal or from the list, whenever it comes up, and a check at its admission
makes up for those known from both.

* `Session.Undisturbed` — that a happening takes no device off, turns none away and begins no other
  run; `Session.Calm` — that all of some happenings are such.
* `Chronicle.Complete` — the invariant of a calm run; `Complete.perform` — one step;
  `Chronicle.complete_run` — all of them.
* `Session.Drained` — that all events are handled and the run lasts.
* **`Chronicle.tracked_of_announced`** — what is tracked then.
-/

namespace TagGateway

open Bus

namespace Listener

variable {κ : Type}

/-! ## What moves leave -/

section

variable {l l' : Listener κ} {r : Reply} {tickets : List Ticket}

theorem Resumed.adapterPath (h : Resumed l r l' tickets) :
    l'.roster.adapterPath = l.roster.adapterPath := by
  cases h <;> rfl

theorem Woken.adapterPath (h : Woken l l' tickets) :
    l'.roster.adapterPath = l.roster.adapterPath := by
  cases h <;> rfl

/-- A reply brings no run to life. -/
theorem Resumed.live (hfits : l.Fits) (h : Resumed l r l' tickets)
    (hlive : l'.discovery.isLive = true) : l.discovery.isLive = true := by
  have hbusy {task : Task} (htask : l.task = some task) : l.discovery.isLive = true := by
    unfold Discovery.isLive
    rcases hfits.phase_of_task htask with hphase | ⟨name, e, hphase⟩ <;> rw [hphase]
  cases h with
  | moved d htask hmoves => exact hmoves.live hlive
  | ended d htask hending hevents hphase =>
    unfold Discovery.isLive at hlive
    rw [hphase] at hlive
    cases hlive
  | watching a htask hr
  | listing a htask hr
  | listed a htask hr hall
  | mislisted a f htask hr hf
  | unlisted f htask hr hf
  | unprepared s f htask hr
  | addressed path mac a htask hr haddress hmac
  | ignored path mac a htask hr haddress hmac
  | unaddressed path a f htask hr hf
  | unadmitted a f htask hr
  | returned path mac a htask hr hrefused
  | admitted path mac a htask hr hpath hmac
  | delivering path answer a notices htask hr ha htracks
  | dropped path htask hdropped
  | delivered path a htask
  | served htask =>
    exact hbusy htask

end

namespace Session

/-! ## Calm runs -/

/-- The reply that happens, if it is one, does not turn the device under admission away. -/
def welcomes (x : Session κ) : Happening κ → Bool
  | .reply r => x.listener.welcomes r
  | _ => true

/-- A happening takes no device off, turns none away and begins no other run. -/
structure Undisturbed (x : Session κ) (happening : Happening κ) : Prop where
  kept : x.listener.roster.entries ⊆ (x.perform happening).listener.roster.entries
  welcome : x.welcomes happening = true
  same : x.begins happening = false

instance (x : Session κ) (happening : Happening κ) : Decidable (x.Undisturbed happening) :=
  decidable_of_iff
    (x.listener.roster.entries ⊆ (x.perform happening).listener.roster.entries ∧
      x.welcomes happening = true ∧ x.begins happening = false)
    ⟨fun ⟨hkept, hwelcome, hsame⟩ => ⟨hkept, hwelcome, hsame⟩,
      fun h => ⟨h.kept, h.welcome, h.same⟩⟩

/-- All that happens leaves the session undisturbed. -/
def Calm (x : Session κ) : List (Happening κ) → Prop
  | [] => True
  | happening :: rest => x.Undisturbed happening ∧ (x.perform happening).Calm rest

instance decidableCalm (x : Session κ) : (happenings : List (Happening κ)) →
    Decidable (x.Calm happenings)
  | [] => .isTrue trivial
  | happening :: rest =>
    have := decidableCalm (x.perform happening) rest
    inferInstanceAs (Decidable (x.Undisturbed happening ∧ (x.perform happening).Calm rest))

/-- All events are handled, and the run lasts. -/
structure Drained (x : Session κ) : Prop where
  lasts : x.listener.discovery.isLive = true
  idle : x.listener.task = none
  empty : x.listener.discovery.events = []

variable {x : Session κ}

theorem calm_append {before after : List (Happening κ)} :
    x.Calm (before ++ after) ↔ x.Calm before ∧ (x.run before).Calm after := by
  induction before generalizing x with
  | nil => exact (and_iff_right trivial).symm
  | cons happening rest ih =>
    show x.Undisturbed happening ∧ (x.perform happening).Calm (rest ++ after) ↔ _
    rw [ih, ← and_assoc]
    rfl

theorem Calm.unbroken {happenings : List (Happening κ)} (h : x.Calm happenings) :
    x.Unbroken happenings := by
  induction happenings generalizing x with
  | nil => trivial
  | cons happening rest ih => exact ⟨h.1.same, ih h.2⟩

/-- A run that lasts has lasted. -/
theorem isLive_of_perform (hfits : x.listener.Fits) {happening : Happening κ}
    (hsame : x.begins happening = false)
    (hlive : (x.perform happening).listener.discovery.isLive = true) :
    x.listener.discovery.isLive = true := by
  cases happening with
  | reply r =>
    rcases reply_cases hfits r with ⟨-, _, hresumed⟩ | ⟨-, heq⟩
    · exact hresumed.live hfits hlive
    · rw [← heq]
      exact hlive
  | wake =>
    rcases x.wake_cases with ⟨hitem, -⟩ | ⟨-, heq⟩
    · unfold Discovery.isLive
      rw [(phase_of_hasItem hitem).1]
    · rw [← heq]
      exact hlive
  | _ => rwa [← isLive_congr (beside_perform hsame nofun nofun).phase]

theorem isLive_of_run (hfits : x.listener.Fits) {happenings : List (Happening κ)}
    (hcalm : x.Calm happenings) (hlive : (x.run happenings).listener.discovery.isLive = true) :
    x.listener.discovery.isLive = true := by
  induction happenings generalizing x with
  | nil => exact hlive
  | cons happening rest ih =>
    exact isLive_of_perform hfits hcalm.1.same (ih (fits_perform hfits happening) hcalm.2 hlive)

/-- A session never changes its adapter. -/
theorem adapterPath_perform (hfits : x.listener.Fits) (happening : Happening κ) :
    (x.perform happening).listener.roster.adapterPath = x.listener.roster.adapterPath := by
  cases hbegins : x.begins happening with
  | true =>
    obtain ⟨-, -, heq⟩ := begins_eq_true hbegins
    rw [heq]
  | false =>
    cases happening with
    | reply r =>
      rcases reply_cases hfits r with ⟨-, _, hresumed⟩ | ⟨-, heq⟩
      · exact hresumed.adapterPath
      · rw [heq]
    | wake =>
      rcases x.wake_cases with ⟨-, _, hwoken⟩ | ⟨-, heq⟩
      · exact hwoken.adapterPath
      · rw [heq]
    | _ => exact (beside_perform hbegins nofun nofun).adapter

theorem adapterPath_run (hfits : x.listener.Fits) (happenings : List (Happening κ)) :
    (x.run happenings).listener.roster.adapterPath = x.listener.roster.adapterPath := by
  induction happenings generalizing x with
  | nil => rfl
  | cons happening rest ih =>
    exact (ih (fits_perform hfits happening)).trans (adapterPath_perform hfits happening)

end Session

/-! ## One reply, one item -/

section

variable {x : Session κ} {posted : List (Event κ)}

theorem roster_reply (hfits : x.listener.Fits) {r : Reply} (hu : x.Undisturbed (.reply r)) :
    let l' := (x.perform (.reply r)).listener
    l'.roster = x.listener.roster ∨
      ∃ path mac t, x.listener.task = some (.admission (.subscribing path mac)) ∧
        x.listener.roster.contains path = false ∧
          l'.roster = { x.listener.roster with
            entries := x.listener.roster.entries ++ [⟨path, mac, t⟩] } := by
  intro l'
  rcases Session.reply_cases hfits r with ⟨-, _, hresumed⟩ | ⟨-, heq⟩
  · exact hresumed.roster hu.kept
  · exact Or.inl (by rw [← heq])

theorem welcomes_answered (x : Session κ) (r : Reply) :
    x.listener.welcomes (x.answered r).2 = x.listener.welcomes r := by
  unfold Session.answered
  split
  · unfold welcomes
    cases x.listener.task with
    | none => rfl
    | some task =>
      cases task with
      | admission a => cases a <;> rfl
      | _ => rfl
  · rfl
  · rfl
  · rfl

theorem Accounted.reply (hfits : x.listener.Fits) {r : Reply} (hu : x.Undisturbed (.reply r))
    (h : Accounted x.listener.roster x.listener.admitting? x.listener.discovery.events posted) :
    let l' := (x.perform (.reply r)).listener
    Accounted l'.roster l'.admitting? l'.discovery.events (posted ++ x.arrivals (.reply r)) := by
  intro l'
  have hwelcome : x.listener.welcomes r = true := hu.welcome
  rw [Session.arrivals_reply hfits]
  rcases Session.reply_cases hfits r with ⟨-, _, hresumed⟩ | ⟨hidle, heq⟩
  · rw [← welcomes_answered] at hwelcome
    rw [← Session.arrived_answered]
    exact h.resumed hresumed hu.kept hwelcome
  · rw [arrived_of_idle hidle, List.append_nil]
    simp only [l', heq]
    exact h

theorem roster_wake {x : Session κ} (hu : x.Undisturbed .wake) :
    (x.perform .wake).listener.roster = x.listener.roster := by
  rcases x.wake_cases with ⟨-, _, hwoken⟩ | ⟨-, heq⟩
  · exact hwoken.roster hu.kept
  · rw [heq]

theorem Accounted.wake (hfits : x.listener.Fits) (hu : x.Undisturbed .wake)
    (hposted : x.listener.discovery.events ⊆ posted)
    (h : Accounted x.listener.roster x.listener.admitting? x.listener.discovery.events posted) :
    let l' := (x.perform .wake).listener
    Accounted l'.roster l'.admitting? l'.discovery.events posted := by
  intro l'
  rcases x.wake_cases with ⟨hitem, _, hwoken⟩ | ⟨-, heq⟩
  · exact h.woken hwoken (hfits.task_eq_none (phase_of_hasItem hitem).1) hposted hu.kept
  · simp only [l', heq]
    exact h

end

/-! ## Admissions -/

namespace Handling

/-- A handling has admitted the device with a path. -/
def admits (h : Handling κ) (path : String) : Bool := h.admitted.any (·.1 = path)

theorem admits_noted (h : Handling κ) {l : Listener κ} {after : Roster}
    (hsame : ∀ p, after.contains p = l.roster.contains p) (r : Reply) :
    (h.noted l r after).admits = h.admits := by
  unfold noted
  split
  · rename_i path mac htask
    rw [if_neg]
    rintro ⟨hfree, htaken⟩
    rw [hsame, hfree] at htaken
    cases htaken
  · rfl
  · rfl

end Handling

namespace Chronicle

variable {c : Chronicle κ}

theorem handled_reply (c : Chronicle κ) (r : Reply) :
    (c.perform (.reply r)).handled = c.past ++ (c.last.map fun h =>
      h.noted c.session.listener r (c.session.perform (.reply r)).listener.roster).toList := rfl

/-- An event that is taken is handled from then on. -/
theorem handled_wake (c : Chronicle κ) :
    (c.perform .wake).handled = c.handled ++ ((c.session.taken? .wake).map fun e =>
      { event := e, begun := c.session.listener.roster }).toList := by
  unfold Chronicle.perform
  rw [if_neg nofun]
  unfold Session.noted
  cases htaken : c.session.taken? .wake with
  | none => simp [handled]
  | some e => simp [handled]

/-- The invariant of a calm run: all devices that were announced are accounted for, and each that is
tracked was admitted once. -/
structure Complete (c : Chronicle κ) : Prop where
  kept : Kept c
  accounted : Accounted c.session.listener.roster c.session.listener.admitting?
    c.session.listener.discovery.events c.posted
  once : ∀ path, c.handled.countP (·.admits path) =
    if c.session.listener.roster.contains path then 1 else 0

/-- The events that wait were posted. -/
theorem Kept.posted (h : Kept c) : c.session.listener.discovery.events ⊆ c.posted := by
  rw [h.events]
  exact List.subset_append_right _ _

theorem contains_congr {r r' : Roster} (h : r'.entries ⊆ r.entries) (h' : r.entries ⊆ r'.entries)
    (path : String) : r'.contains path = r.contains path := by
  unfold Roster.contains
  rw [Bool.eq_iff_iff, List.any_eq_true, List.any_eq_true]
  exact ⟨fun ⟨e, he, hpath⟩ => ⟨e, h he, hpath⟩, fun ⟨e, he, hpath⟩ => ⟨e, h' he, hpath⟩⟩

theorem Complete.beside (h : Complete c) {happening : Session.Happening κ}
    (hu : c.session.Undisturbed happening) (hreply : ∀ r, happening ≠ .reply r)
    (hwake : happening ≠ .wake) : Complete (c.perform happening) := by
  have hbeside := Session.beside_perform hu.same hreply hwake
  have hevents := Session.events_perform h.kept.fits hu.same
  obtain ⟨htaken, hperform⟩ := perform_beside hu.same hreply hwake
  have hkept := h.kept.beside hu.same hreply hwake
  have hcontains := contains_congr hbeside.entries hu.kept
  rw [hperform] at hkept ⊢
  refine ⟨hkept, ?_, fun path => ?_⟩
  · have hadmitting : (c.session.perform happening).listener.admitting? =
        c.session.listener.admitting? := by
      unfold admitting?
      rw [hbeside.task]
    rw [htaken] at hevents
    simp only [Option.toList_none, List.nil_append] at hevents
    simp only [hadmitting, hevents]
    exact (h.accounted.congr hbeside.adapter hcontains).post _
  · simp only [hcontains]
    exact h.once path

/-- A reply admits at most the device under admission, once. -/
theorem Complete.reply (h : Complete c) (r : Reply) (hu : c.session.Undisturbed (.reply r)) :
    Complete (c.perform (.reply r)) := by
  refine ⟨h.kept.reply r, h.accounted.reply h.kept.fits hu, fun path => ?_⟩
  have honce := h.once path
  rw [handled_reply]
  rw [handled, List.countP_append] at honce
  rw [List.countP_append]
  show _ = if (c.session.perform (.reply r)).listener.roster.contains path then 1 else 0
  rcases roster_reply h.kept.fits hu with hsame | ⟨p, mac, t, htask, hpath, hadmitted⟩
  · rw [hsame, ← honce]
    cases c.last with
    | none => rfl
    | some last => simp [last.admits_noted (fun _ => rfl)]
  · obtain ⟨last, hlast, -, hnone, -⟩ := h.kept.standing.admitting _ htask
    rw [hadmitted]
    have hafter (path : String) := Roster.contains_append (r := c.session.listener.roster)
      (p := path) ⟨p, mac, t⟩
    rw [hlast] at honce ⊢
    simp only [Option.map_some, Option.toList_some,
      last.noted_subscribing htask hpath r ((hafter p).mpr (Or.inr rfl)), List.countP_singleton,
      Handling.admits, hnone, Option.any_some, Option.any_none] at honce ⊢
    by_cases heq : path = p
    · subst heq
      rw [hpath] at honce
      rw [(hafter path).mpr (Or.inr rfl)]
      simpa using honce
    · rw [Bool.eq_iff_iff.mpr ((hafter path).trans (or_iff_left heq))]
      simpa [Ne.symm heq] using honce

/-- An item that is taken admits nothing yet. -/
theorem Complete.wake (h : Complete c) (hu : c.session.Undisturbed .wake) :
    Complete (c.perform .wake) := by
  have hroster := roster_wake hu
  have hposted : (c.perform .wake).posted = c.posted := by
    have harrivals : c.session.arrivals .wake = [] := ite_self _
    unfold Chronicle.perform
    rw [if_neg nofun]
    simp only [harrivals, List.append_nil]
  refine ⟨h.kept.wake, ?_, fun path => ?_⟩
  · rw [hposted]
    exact h.accounted.wake h.kept.fits hu h.kept.posted
  · rw [handled_wake, List.countP_append, h.once path]
    show _ = if (c.session.perform .wake).listener.roster.contains path then 1 else 0
    rw [hroster]
    cases c.session.taken? .wake <;> simp [Handling.admits]

/-- **Each happening that leaves the session undisturbed keeps the invariant.** -/
theorem Complete.perform (h : Complete c) {happening : Session.Happening κ}
    (hu : c.session.Undisturbed happening) : Complete (c.perform happening) := by
  cases happening with
  | reply r => exact h.reply r hu
  | wake => exact h.wake hu
  | _ => exact h.beside hu nofun nofun

theorem complete_run (h : Complete c) {happenings : List (Session.Happening κ)}
    (hcalm : c.session.Calm happenings) : Complete (c.run happenings) := by
  induction happenings generalizing c with
  | nil => exact h
  | cons happening rest ih =>
    refine ih (h.perform hcalm.1) ?_
    rw [session_perform]
    exact hcalm.2

/-- A run begins with no device. -/
theorem complete_begun {x : Session κ} (hheld : x.Held) (hbegins : x.begins .start = true) :
    Complete { session := x.perform .start } := by
  obtain ⟨-, hoff, heq⟩ := Session.begins_eq_true hbegins
  have hentries := (hheld.unlinked (Or.inl hoff)).1
  refine ⟨kept_begun hheld.fits hbegins, ?_, fun path => ?_⟩
  · rw [heq]
    refine ⟨fun path hpath => ?_, nofun, fun path _ hannounced => ?_⟩
    · simp [Roster.contains, hentries] at hpath
    · obtain ⟨interfaces, hmem, -⟩ := hannounced
      cases hmem
  · rw [heq]
    simp [Roster.contains, hentries, handled]

/-! ## What is tracked in the end -/

theorem session_run (c : Chronicle κ) (happenings : List (Session.Happening κ)) :
    (c.run happenings).session = c.session.run happenings := by
  induction happenings generalizing c with
  | nil => rfl
  | cons happening rest ih => exact (ih _).trans (by rw [session_perform]; rfl)

theorem run_append (c : Chronicle κ) (before after : List (Session.Happening κ)) :
    c.run (before ++ after) = (c.run before).run after :=
  List.foldl_append

/-- **In a calm run that lasts, what is announced by its events is what its happenings tell of.** -/
theorem announced_posted {happenings : List (Session.Happening κ)}
    (hfits : c.session.listener.Fits) (hcalm : c.session.Calm happenings)
    (hlive : (c.session.run happenings).listener.discovery.isLive = true)
    (hposted : c.posted = []) {path : String} :
    Announced (c.run happenings).posted path ↔ ∃ before happening after,
      happenings = before ++ happening :: after ∧
        (c.session.run before).Announces path happening := by
  -- the run lasts from each of its points on
  have hlasts {before after : List (Session.Happening κ)} (hsplit : happenings = before ++ after) :
      (c.session.run before).listener.discovery.isLive = true := by
    subst hsplit
    rw [Session.run_append] at hlive
    have hfits' : (c.session.run before).listener.Fits := by
      refine List.foldlRecOn (motive := fun x : Session κ => x.listener.Fits) before _ hfits ?_
      exact fun x hx happening _ => Session.fits_perform hx happening
    exact Session.isLive_of_run hfits' (Session.calm_append.mp hcalm).2 hlive
  constructor
  · rintro ⟨interfaces, hmem, hholds⟩
    rcases mem_posted_run.mp hmem with ⟨hnone, -⟩ | ⟨before, happening, after, hsplit, harrives, -⟩
    · rw [hposted] at hnone
      cases hnone
    · exact ⟨before, happening, after, hsplit,
        (Session.announced_arrivals (hlasts hsplit)).mp ⟨interfaces, harrives, hholds⟩⟩
  · rintro ⟨before, happening, after, hsplit, hannounces⟩
    obtain ⟨interfaces, harrives, hholds⟩ :=
      (Session.announced_arrivals (hlasts hsplit)).mpr hannounces
    refine ⟨interfaces,
      mem_posted_run.mpr (Or.inr ⟨before, happening, after, hsplit, harrives, ?_⟩), hholds⟩
    subst hsplit
    exact (Session.calm_append.mp hcalm).2.unbroken

end Chronicle

/-- A device that was admitted has all its properties asked for, once. -/
theorem Handling.read_of_admits {h : Handling κ} {path : String} (hread : h.IsRead)
    (hgrounded : h.IsGrounded) (hadmits : h.admits path = true) :
    ∃ r second, h.reads = [(path, r, second)] := by
  unfold Handling.admits at hadmits
  cases hadmitted : h.admitted with
  | none =>
    rw [hadmitted] at hadmits
    cases hadmits
  | some admission =>
    obtain ⟨p, first⟩ := admission
    rw [hadmitted] at hadmits
    obtain rfl : p = path := of_decide_eq_true hadmits
    obtain ⟨hcause, hfirst⟩ := hgrounded p first hadmitted
    rcases hread with ⟨p', first', r, second, hcause', -, hreads⟩ | ⟨hnone, -⟩
    · cases hcause.symm.trans hcause'
      exact ⟨r, second, hreads⟩
    · exact absurd hfirst (hnone p first hcause)

/-- Once the setup has subscribed, each signal of a device that appears tells of it. -/
theorem Session.announces_of_hears {x : Session κ} (h : x.Held)
    (hhears : x.listener.hears = true) {body interfaces : Value} {path : String}
    (hvalues : body.unwrap.elements = .ok [.text path, interfaces])
    (hholds : interfaces.holds deviceInterface = .ok true) :
    x.Announces path (.signal Session.addedRoute body) := by
  obtain ⟨t, htopic, hserves⟩ := h.hearing hhears
  exact .appeared _ body interfaces t hserves.2 hserves.isActive htopic hvalues hholds

namespace Chronicle

/-- Once nothing waits, the tracked devices are those below the adapter that were announced. -/
theorem Complete.contains_iff (h : Complete c) (hdrained : c.session.Drained) {path : String} :
    c.session.listener.roster.contains path = true ↔
      c.session.listener.roster.covers path = true ∧ Announced c.posted path := by
  refine ⟨h.accounted.tracked path, fun ⟨hcovers, hannounced⟩ => ?_⟩
  have hnone : c.session.listener.admitting? = none :=
    admitting?_eq_none (by rw [hdrained.idle]; nofun)
  rcases h.accounted.complete path hcovers hannounced with hpath | hunder | ⟨_, hmem, -⟩
  · exact hpath
  · rw [hnone] at hunder
    cases hunder
  · rw [hdrained.empty] at hmem
    cases hmem

/-- Once nothing waits, every admission has had its first emission. -/
theorem Kept.read_of_admits (h : Kept c) (hdrained : c.session.Drained) {handling : Handling κ}
    (hmem : handling ∈ c.handled) {path : String} (hadmits : handling.admits path = true) :
    ∃ r second, handling.reads = [(path, r, second)] := by
  have hread : handling.IsRead ∧ handling.IsGrounded := by
    rcases List.mem_append.mp hmem with hpast | hlast
    · exact h.past handling hpast
    · have hlast := Option.mem_toList.mp hlast
      exact ⟨h.standing.settled (by rw [hdrained.idle]; nofun) handling hlast,
        h.standing.grounded handling hlast⟩
  exact Handling.read_of_admits hread.1 hread.2 hadmits

/-- A run that begins is written down anew. -/
theorem run_begun (settings : Discovery.Settings) (before rest : List (Session.Happening κ))
    (hbegins : ((Session.ofSettings settings).run before).begins .start = true) :
    (ofSettings settings).run (before ++ .start :: rest) =
      ({ session := (Session.ofSettings settings).run (before ++ [.start]) } : Chronicle κ).run
        rest := by
  have hstart : ((ofSettings settings).run before).perform .start =
      { session := (Session.ofSettings settings).run (before ++ [.start]) } := by
    unfold Chronicle.perform
    rw [session_run, Session.run_append]
    exact if_pos hbegins
  rw [run_append]
  show (Chronicle.perform _ .start).run rest = _
  rw [hstart]

/-- **No device is lost or doubled when a run begins.** Once all events of a run are handled that
has taken no device off and turned none away, what is tracked are the devices below the adapter that
were listed or have appeared, however often. Each has one active subscription to its changes, was
admitted once, and all its properties were asked for then, whatever came of that. Once the setup has
subscribed no signal of a device that appears is missed. -/
theorem tracked_of_announced (settings : Discovery.Settings)
    (before rest : List (Session.Happening κ))
    (hbegins : ((Session.ofSettings settings).run before).begins .start = true)
    (hcalm : ((Session.ofSettings settings).run (before ++ [.start])).Calm rest)
    (hdrained : ((Session.ofSettings settings).run (before ++ .start :: rest)).Drained) :
    let begun : Session κ := (Session.ofSettings settings).run (before ++ [.start])
    let c : Chronicle κ := (ofSettings settings).run (before ++ .start :: rest)
    let roster := c.session.listener.roster
    (∀ path, roster.contains path = true ↔
      ((Roster.ofPath (adapterPath settings.adapter)).adapterPath ++ "/").toList <+: path.toList ∧
        ∃ between happening after, rest = between ++ happening :: after ∧
          (begun.run between).Announces path happening) ∧
    (roster.entries.map (·.path)).Nodup ∧
    (∀ e ∈ roster.entries, c.session.router.Serves e.ticket (deviceRoute e.path)) ∧
    (∀ t path, c.session.router.isActive t = true ∧ c.session.topics[t]? = some (.device path) ↔
      ∃ e ∈ roster.entries, e.path = path ∧ e.ticket = t) ∧
    (∀ path, c.handled.countP (·.admits path) = if roster.contains path then 1 else 0) ∧
    (∀ h ∈ c.handled, ∀ path, h.admits path = true → ∃ r second, h.reads = [(path, r, second)]) ∧
    ∀ between body after path interfaces,
      rest = between ++ .signal Session.addedRoute body :: after →
        (begun.run between).listener.hears = true →
        body.unwrap.elements = .ok [.text path, interfaces] →
        interfaces.holds deviceInterface = .ok true →
        (begun.run between).Announces path (.signal Session.addedRoute body) := by
  intro begun c roster
  have hbegun : begun = ((Session.ofSettings settings).run before).perform .start :=
    Session.run_append _ _ _
  have hc : c = ({ session := begun } : Chronicle κ).run rest :=
    run_begun settings before rest hbegins
  have hsession : c.session = (Session.ofSettings settings).run (before ++ .start :: rest) :=
    session_run _ _
  have hrun : c.session = begun.run rest := by rw [hc, session_run]
  have hheld : c.session.Held := by
    rw [hsession]
    exact Session.held_run settings _
  have hheldBetween (between : List (Session.Happening κ)) : (begun.run between).Held := by
    rw [← Session.run_append]
    exact Session.held_run settings _
  rw [← hsession] at hdrained
  have hcomplete : Complete c := by
    rw [hc]
    refine complete_run ?_ hcalm
    rw [hbegun]
    exact complete_begun (Session.held_run settings before) hbegins
  have hadapter : roster.adapterPath =
      (Roster.ofPath (adapterPath settings.adapter)).adapterPath := by
    show c.session.listener.roster.adapterPath = _
    rw [hsession]
    exact Session.adapterPath_run (Session.held_run settings []).fits _
  refine ⟨fun path => ?_, hheld.sound.paths, fun e he => (hheld.sound.entries e he).1,
    fun t path => hheld.sound.active_iff, hcomplete.once,
    fun h hmem path hadmits => hcomplete.kept.read_of_admits hdrained hmem hadmits,
    fun between body after path interfaces _ hhears hvalues hholds =>
      Session.announces_of_hears (hheldBetween between) hhears hvalues hholds⟩
  have hlive : (begun.run rest).listener.discovery.isLive = true := by
    rw [← hrun]
    exact hdrained.lasts
  have hannounced : Announced (({ session := begun } : Chronicle κ).run rest).posted path ↔ _ :=
    announced_posted (hheldBetween []).fits hcalm hlive rfl
  rw [← hc] at hannounced
  rw [hcomplete.contains_iff hdrained, hannounced, Custody.covers_congr hadapter,
    Roster.covers_iff]

/-- An object appears as a device. -/
def appearance (path : String) : Session.Happening Unit :=
  .signal Session.addedRoute (.list [.text path, .dict [(.text deviceInterface, .dict [])]])

/-- The first device that waits is admitted, and its properties are asked for. -/
def firstEmission (mac : String) (properties : Reply) : List (Session.Happening Unit) :=
  [.wake, .reply (.ok { body := [.text mac] }), .reply .done, .reply properties]

/-- Devices appear before, while and after all are listed, one of them on another adapter and one
that is listed as well. A first emission fails for want of properties, another in the receiver. -/
def overlapping : List (Session.Happening Unit) :=
  [.reply .done, .reply .done, .reply .done, appearance "/org/bluez/hci0/dev_1", .reply .done,
    appearance "/org/bluez/hci1/dev_2",
    .reply (.ok { body := [.dict [(.text "/org/bluez/hci0/dev_3",
      .dict [(.text deviceInterface, .dict [])])]] }),
    appearance "/org/bluez/hci0/dev_3", .reply .done, .reply .done] ++
  firstEmission "AA:BB:CC:DD:EE:01" (.error (.callFailed "" none)) ++ [.wake] ++
  firstEmission "AA:BB:CC:DD:EE:03" (.ok { body := [.dict []] }) ++
  [.reply (.error (.callFailed "" none)), .wake, appearance "/org/bluez/hci0/dev_4"] ++
  firstEmission "AA:BB:CC:DD:EE:04" (.ok { body := [.dict []] }) ++ [.reply .done]

/-- A run that could not connect. -/
def unconnected : List (Session.Happening Unit) :=
  [.start, .reply (.error (.callFailed "" none))]

/-- The chronicle of the second run. -/
def overlapped : Chronicle Unit := (ofSettings {}).run (unconnected ++ .start :: overlapping)

theorem overlapped_tracked :
    ((Session.ofSettings {}).run unconnected).begins .start = true ∧
      ((Session.ofSettings {}).run (unconnected ++ [.start])).Calm overlapping ∧
      ((Session.ofSettings {}).run (unconnected ++ .start :: overlapping)).Drained ∧
      overlapped.session.listener.roster.entries.map (·.path) =
        ["/org/bluez/hci0/dev_1", "/org/bluez/hci0/dev_3", "/org/bluez/hci0/dev_4"] ∧
      (∀ path, overlapped.session.listener.roster.contains path = true ↔
        ((Roster.ofPath (adapterPath "hci0")).adapterPath ++ "/").toList <+: path.toList ∧
          ∃ between happening after, overlapping = between ++ happening :: after ∧
            (((Session.ofSettings {}).run (unconnected ++ [.start])).run between).Announces path
              happening) ∧
      (∀ path, overlapped.handled.countP (·.admits path) =
        if overlapped.session.listener.roster.contains path then 1 else 0) := by
  have hbegins : ((Session.ofSettings {}).run unconnected).begins .start = true := by
    decide +kernel
  have hcalm : ((Session.ofSettings {}).run (unconnected ++ [.start])).Calm overlapping := by
    decide +kernel
  have hempty : ((Session.ofSettings {}).run (unconnected ++ .start :: overlapping)
      ).listener.discovery.events.isEmpty = true := by decide +kernel
  have hdrained : ((Session.ofSettings {}).run (unconnected ++ .start :: overlapping)).Drained :=
    ⟨by decide +kernel, by decide +kernel, List.isEmpty_iff.mp hempty⟩
  obtain ⟨htracked, -, -, -, honce, -⟩ :=
    tracked_of_announced {} unconnected overlapping hbegins hcalm hdrained
  have hrun : (ofSettings {}).run (unconnected ++ .start :: overlapping) = overlapped := rfl
  rw [hrun] at htracked honce
  exact ⟨hbegins, hcalm, hdrained, by decide +kernel, htracked, honce⟩

end Chronicle

end Listener

end TagGateway
