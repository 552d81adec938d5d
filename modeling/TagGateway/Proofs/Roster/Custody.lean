import Mathlib.Data.List.Perm.Basic
import TagGateway.Proofs.Bus.Router
import TagGateway.Proofs.Roster.Admission

/-!
# Who holds a subscription

A roster over a link: any number of admissions under way at once, each resumed by any reply, with
removals, bans, clearances and further announcements between any two of their steps.

* `Custody` — the roster, the routes of the link, the admissions that wait, and two records: the
  tickets that admissions obtained and the tickets that were given back.
* `Custody.perform` — one happening; `Custody.run` — a sequence of them.
* `Custody.Sound` — the invariant. It carries the tickets that are *owed*: an operation first takes
  them off the roster and gives them back afterwards, one by one, and it holds in between too.
* `Custody.sound_run` — it holds in every state that can be reached.
* `Custody.tracked_and_disposed` — what follows for the tracked devices and for the tickets.
-/

namespace TagGateway

open Bus

/-- What the subscription to the changes of a device asks for. -/
def deviceRoute (path : String) : Route := ⟨path, propertiesInterface, propertiesChanged⟩

namespace Roster

/-- An admission that waits. -/
inductive Attempt
  /-- Waits for a reply. -/
  | asking (a : Admission)
  /-- Has its subscription, which is still to be checked. -/
  | granted (a : Admission) (ticket : Ticket)
  /-- Has its device tracked, and waits until that is announced. -/
  | announcing (path : String)

/-- The ticket that an admission has in its hands. -/
def Attempt.ticket? : Attempt → Option Ticket
  | granted _ t => some t
  | _ => none

/-- The admission that is left of a step. -/
def Attempt.after : Admission.Next → List Attempt
  | .wait a => [asking a]
  | .admitted path => [announcing path]
  | .refused | .failed _ => []

end Roster

/-- A roster over a link, with all admissions under way. -/
structure Custody where
  roster : Roster
  router : Router
  attempts : List Roster.Attempt := []
  /-- The tickets that admissions have obtained so far. -/
  obtained : List Ticket := []
  /-- The tickets that were given back so far. -/
  returned : List Ticket := []

namespace Custody

open Roster (Attempt)

/-- What may happen to a roster. -/
inductive Happening
  /-- An admission begins. -/
  | announce (path interfaces : Value)
  /-- The admission at a place goes on: with a reply, or with what it has. -/
  | proceed (place : Nat) (reply : Reply)
  | remove (path interfaces : Value)
  | ban (mac : Value)
  | clear
  /-- Another user of the link subscribes. -/
  | foreign (route : Route)

/-- The tickets that admissions have in their hands. -/
def inFlight (c : Custody) : List Ticket := c.attempts.filterMap Attempt.ticket?

/-- The tickets of the tracked devices. -/
def held (c : Custody) : List Ticket := c.roster.entries.map (·.ticket)

/-- Give a subscription back. -/
def giveBack (c : Custody) (t : Ticket) : Custody :=
  { c with router := (c.router.unsubscribe t).1, returned := c.returned ++ [t] }

/-- Carry out effects. -/
def carryOut (c : Custody) (effects : List Effect) : Custody :=
  (Effect.tickets effects).foldl giveBack c

/-- The bus grants the subscription that the admission at a place asks for. -/
def grant (c : Custody) (place : Nat) (a : Admission) (route : Route) : Custody :=
  { c with
    router := c.router.subscribed route
    attempts := c.attempts.eraseIdx place ++ [.granted a c.router.subscribers.length]
    obtained := c.obtained ++ [c.router.subscribers.length] }

/-- The admission at a place takes a step. -/
def advance (c : Custody) (place : Nat) (a : Admission) (reply : Reply) : Custody :=
  let (roster, effects, next) := c.roster.resume a reply
  { c with roster, attempts := c.attempts.eraseIdx place ++ Attempt.after next }.carryOut effects

/-- The admission at a place goes on. -/
def proceed (c : Custody) (place : Nat) (reply : Reply) : Custody :=
  match c.attempts[place]? with
  | none => c
  | some (.announcing _) => { c with attempts := c.attempts.eraseIdx place }
  | some (.granted a t) => c.advance place a (.ok { ticket := t })
  | some (.asking a) =>
    match a.request, reply with
    | .subscribe path interface member _, .ok _ => c.grant place a ⟨path, interface, member⟩
    | _, reply => c.advance place a reply

/-- Something happens; what fails changes nothing. -/
def perform (c : Custody) : Happening → Custody
  | .announce path interfaces =>
    let (effects, next) := c.roster.announce path interfaces
    { c with attempts := c.attempts ++ Attempt.after next }.carryOut effects
  | .proceed place reply => c.proceed place reply
  | .remove path interfaces =>
    match c.roster.remove path interfaces with
    | .ok (roster, effects, _) => { c with roster }.carryOut effects
    | .error _ => c
  | .ban mac =>
    match c.roster.ban mac with
    | .ok (roster, effects, _) => { c with roster }.carryOut effects
    | .error _ => c
  | .clear =>
    let (roster, effects) := c.roster.clear
    { c with roster }.carryOut effects
  | .foreign route => { c with router := c.router.subscribed route }

/-- All that happens, in order. -/
def run (c : Custody) (happenings : List Happening) : Custody := happenings.foldl perform c

/-! ## The invariant -/

/-- What holds of an admission that waits for a reply. -/
def IsSoundAdmission (r : Roster) : Admission → Prop
  | .addressing path => r.covers path = true
  | .subscribing path mac => r.covers path = true ∧ Text.upper mac = mac

/-- What holds of an admission that waits. -/
def IsSoundAttempt (r : Roster) (router : Router) : Attempt → Prop
  | .asking a => IsSoundAdmission r a
  | .granted a t =>
    IsSoundAdmission r a ∧
      ∃ path mac, a = .subscribing path mac ∧ router.Serves t (deviceRoute path)
  | .announcing _ => True

/-- What holds of a tracked device. -/
structure IsSoundEntry (r : Roster) (router : Router) (e : Entry) : Prop where
  covered : r.covers e.path = true
  upper : Text.upper e.mac = e.mac
  welcome : r.blacklist.contains e.mac = false
  served : router.Serves e.ticket (deviceRoute e.path)

/-- The invariant of the roster of an adapter, while some tickets are still to be given back: every
ticket that was obtained is in one place and is there once. -/
structure Sound (adapter : String) (owed : List Ticket) (c : Custody) : Prop where
  home : c.roster.adapterPath = adapter
  attempts : ∀ a ∈ c.attempts, IsSoundAttempt c.roster c.router a
  entries : ∀ e ∈ c.roster.entries, IsSoundEntry c.roster c.router e
  paths : (c.roster.entries.map (·.path)).Nodup
  count : ∀ t, c.inFlight.count t + c.held.count t + owed.count t + c.returned.count t =
    c.obtained.count t
  once : ∀ t, c.obtained.count t ≤ 1
  known : ∀ t ∈ c.obtained, t < c.router.subscribers.length

variable {c : Custody} {adapter : String} {owed : List Ticket}

theorem covers_congr {r r' : Roster} (h : r'.adapterPath = r.adapterPath) (path : String) :
    r'.covers path = r.covers path := by
  unfold Roster.covers
  rw [h]

theorem IsSoundAdmission.congr {r r' : Roster} {a : Admission} (ha : IsSoundAdmission r a)
    (h : r'.adapterPath = r.adapterPath) : IsSoundAdmission r' a := by
  cases a with
  | addressing path =>
    simp only [IsSoundAdmission] at ha ⊢
    rw [covers_congr h]
    exact ha
  | subscribing path mac =>
    simp only [IsSoundAdmission] at ha ⊢
    rw [covers_congr h]
    exact ha

theorem IsSoundAttempt.congr {r r' : Roster} {router router' : Router} {a : Attempt}
    (ha : IsSoundAttempt r router a) (h : r'.adapterPath = r.adapterPath)
    (hs : ∀ t, a.ticket? = some t → ∀ route, router.Serves t route → router'.Serves t route) :
    IsSoundAttempt r' router' a := by
  cases a with
  | asking a => exact IsSoundAdmission.congr ha h
  | granted a t =>
    obtain ⟨hsound, path, mac, rfl, hserved⟩ := ha
    exact ⟨hsound.congr h, path, mac, rfl, hs t rfl _ hserved⟩
  | announcing path => trivial

theorem IsSoundEntry.congr {r r' : Roster} {router router' : Router} {e : Entry}
    (he : IsSoundEntry r router e) (h : r'.adapterPath = r.adapterPath)
    (hb : r'.blacklist.contains e.mac = false)
    (hs : ∀ route, router.Serves e.ticket route → router'.Serves e.ticket route) :
    IsSoundEntry r' router' e := by
  refine ⟨?_, he.upper, hb, hs _ he.served⟩
  rw [covers_congr h]
  exact he.covered

theorem mem_inFlight {a : Attempt} (ha : a ∈ c.attempts) {t : Ticket} (ht : a.ticket? = some t) :
    t ∈ c.inFlight :=
  List.mem_filterMap.mpr ⟨a, ha, ht⟩

/-! ## Giving back -/

/-- A ticket that is owed is in no other place. -/
theorem Sound.not_inFlight_of_owed {t : Ticket} (h : Sound adapter (t :: owed) c) :
    t ∉ c.inFlight ∧ t ∉ c.held := by
  have hcount := h.count t
  have honce := h.once t
  rw [List.count_cons_self] at hcount
  constructor
  · intro ht
    have := List.count_pos_iff.mpr ht
    omega
  · intro ht
    have := List.count_pos_iff.mpr ht
    omega

theorem Sound.giveBack {t : Ticket} (h : Sound adapter (t :: owed) c) :
    Sound adapter owed (c.giveBack t) := by
  obtain ⟨hflight, hheld⟩ := h.not_inFlight_of_owed
  refine ⟨h.home, ?_, ?_, h.paths, ?_, h.once, ?_⟩
  · intro a ha
    refine (h.attempts a ha).congr rfl fun t' ht' route hs => hs.unsubscribe ?_
    rintro rfl
    exact hflight (mem_inFlight ha ht')
  · intro e he
    have hsound := h.entries e he
    refine hsound.congr rfl hsound.welcome fun route hs => hs.unsubscribe ?_
    rintro rfl
    exact hheld (List.mem_map_of_mem he)
  · intro t'
    have hcount := h.count t'
    simp only [Custody.giveBack, List.count_append, List.count_cons, List.count_nil] at hcount ⊢
    simp only [inFlight, held] at hcount ⊢
    omega
  · intro t' ht'
    simp only [Custody.giveBack, Router.length_unsubscribe]
    exact h.known t' ht'

theorem Sound.foldl_giveBack (h : Sound adapter owed c) :
    Sound adapter [] (owed.foldl Custody.giveBack c) := by
  induction owed generalizing c with
  | nil => exact h
  | cons t owed ih => exact ih h.giveBack

/-- Once the effects of an operation are carried out nothing is owed. -/
theorem Sound.carryOut {effects : List Effect} (h : Sound adapter (Effect.tickets effects) c) :
    Sound adapter [] (c.carryOut effects) :=
  h.foldl_giveBack

/-! ## Admissions -/

/-- An admission that ends owes the ticket that it has in its hands. -/
theorem Sound.drop {place : Nat} {a : Attempt} (h : Sound adapter [] c)
    (ha : c.attempts[place]? = some a) :
    Sound adapter a.ticket?.toList { c with attempts := c.attempts.eraseIdx place } := by
  refine ⟨h.home, ?_, h.entries, h.paths, ?_, h.once, h.known⟩
  · intro a' ha'
    exact h.attempts a' (List.mem_of_mem_eraseIdx ha')
  · intro t
    obtain ⟨hlt, hget⟩ := List.getElem?_eq_some_iff.mp ha
    have hperm := (List.getElem_cons_eraseIdx_perm hlt).filterMap Attempt.ticket?
    rw [hget] at hperm
    have hflight := hperm.count_eq t
    have hcount := h.count t
    rw [List.count_nil] at hcount
    simp only [inFlight, held] at hcount ⊢
    cases ht : a.ticket? with
    | none =>
      rw [List.filterMap_cons_none ht] at hflight
      simp only [Option.toList_none, List.count_nil]
      omega
    | some t' =>
      rw [List.filterMap_cons_some ht, List.count_cons] at hflight
      simp only [Option.toList_some, List.count_cons, List.count_nil]
      omega

/-- Admissions without a ticket may join. -/
theorem Sound.join {new : List Attempt} (h : Sound adapter owed c)
    (hnew : ∀ a ∈ new, IsSoundAttempt c.roster c.router a ∧ a.ticket? = none) :
    Sound adapter owed { c with attempts := c.attempts ++ new } := by
  refine ⟨h.home, ?_, h.entries, h.paths, ?_, h.once, h.known⟩
  · intro a ha
    rcases List.mem_append.mp ha with ha | ha
    · exact h.attempts a ha
    · exact (hnew a ha).1
  · intro t
    have hcount := h.count t
    have hnil : new.filterMap Attempt.ticket? = [] :=
      List.filterMap_eq_nil_iff.mpr fun a ha => (hnew a ha).2
    simp only [inFlight, held, List.filterMap_append, hnil, List.append_nil] at hcount ⊢
    exact hcount

/-- Another subscription on the link changes nothing. -/
theorem Sound.subscribed (h : Sound adapter owed c) (route : Route) :
    Sound adapter owed { c with router := c.router.subscribed route } := by
  refine ⟨h.home, ?_, ?_, h.paths, h.count, h.once, ?_⟩
  · intro a ha
    exact (h.attempts a ha).congr rfl fun t _ route' hs => hs.subscribed route
  · intro e he
    have hsound := h.entries e he
    exact hsound.congr rfl hsound.welcome fun route' hs => hs.subscribed route
  · intro t ht
    rw [Router.length_subscribed]
    exact Nat.lt_succ_of_lt (h.known t ht)

/-- The ticket that the bus grants is a new one. -/
theorem Sound.grant {place : Nat} {path mac : String} (h : Sound adapter [] c)
    (ha : c.attempts[place]? = some (.asking (.subscribing path mac))) :
    Sound adapter [] (c.grant place (.subscribing path mac) (deviceRoute path)) := by
  have hasked := h.attempts _ (List.mem_of_getElem? ha)
  have hfresh : c.router.subscribers.length ∉ c.obtained := fun ht =>
    absurd (h.known _ ht) (Nat.lt_irrefl _)
  have hfresh := List.count_eq_zero.mpr hfresh
  have hrest := (h.drop ha).subscribed (deviceRoute path)
  refine ⟨hrest.home, ?_, hrest.entries, hrest.paths, ?_, ?_, ?_⟩
  · intro a' ha'
    rcases List.mem_append.mp ha' with ha' | ha'
    · exact hrest.attempts a' ha'
    · cases List.mem_singleton.mp ha'
      exact ⟨hasked, path, mac, rfl, Router.serves_subscribed _ _⟩
  · intro t
    have hcount := hrest.count t
    simp only [Custody.grant, inFlight, held, List.filterMap_append, List.count_append,
      Attempt.ticket?, Option.toList_none, List.filterMap_cons, List.filterMap_nil] at hcount ⊢
    omega
  · intro t
    have honce := h.once t
    simp only [Custody.grant, List.count_append, List.count_cons, List.count_nil, beq_iff_eq]
    split
    · rename_i ht
      subst ht
      omega
    · omega
  · intro t ht
    simp only [Custody.grant, Router.length_subscribed]
    rcases List.mem_append.mp ht with ht | ht
    · exact Nat.lt_succ_of_lt (h.known t ht)
    · cases List.mem_singleton.mp ht
      exact Nat.lt_succ_self _

/-- A device that is free is tracked under a ticket that is owed. -/
theorem Sound.track {path mac : String} {t : Ticket} (h : Sound adapter [t] c)
    (hcovers : c.roster.covers path = true) (hupper : Text.upper mac = mac)
    (hserves : c.router.Serves t (deviceRoute path)) (hpath : c.roster.contains path = false)
    (hmac : c.roster.blacklist.contains mac = false) :
    Sound adapter [] { c with
      roster := { c.roster with entries := c.roster.entries ++ [⟨path, mac, t⟩] } } := by
  refine ⟨h.home, ?_, ?_, ?_, ?_, h.once, h.known⟩
  · intro a ha
    exact (h.attempts a ha).congr rfl fun _ _ _ hs => hs
  · intro e he
    rcases List.mem_append.mp he with he | he
    · have hsound := h.entries e he
      exact hsound.congr rfl hsound.welcome fun _ hs => hs
    · cases List.mem_singleton.mp he
      exact ⟨hcovers, hupper, hmac, hserves⟩
  · simp only [List.map_append, List.map_cons, List.map_nil]
    refine List.nodup_append.mpr ⟨h.paths, by simp, ?_⟩
    intro p hp q hq
    cases List.mem_singleton.mp hq
    rintro rfl
    exact Roster.contains_eq_false hpath hp
  · intro t'
    have hcount := h.count t'
    simp only [inFlight, held, List.map_append, List.map_cons, List.map_nil,
      List.count_append, List.count_cons, List.count_nil] at hcount ⊢
    omega

theorem isSoundAttempt_after {r : Roster} {router : Router} {next : Admission.Next}
    (h : next.IsOver ∨ ∃ a, next = .wait a ∧ IsSoundAdmission r a) :
    ∀ a ∈ Attempt.after next, IsSoundAttempt r router a ∧ a.ticket? = none := by
  intro a ha
  rcases h with h | ⟨a', rfl, ha'⟩
  · cases h <;> cases ha
  · cases List.mem_singleton.mp ha
    exact ⟨ha', rfl⟩

/-- An admission that waits for an address may get any reply. -/
theorem Sound.advance_addressing {place : Nat} {path : String} (h : Sound adapter [] c)
    (ha : c.attempts[place]? = some (.asking (.addressing path))) (reply : Reply) :
    Sound adapter [] (c.advance place (.addressing path) reply) := by
  have hasked := h.attempts _ (List.mem_of_getElem? ha)
  obtain ⟨htickets, hnext⟩ := c.roster.addressed_cases path reply
  unfold Custody.advance
  simp only [Roster.resume]
  generalize c.roster.addressed path reply = step at htickets hnext ⊢
  refine Sound.carryOut ?_
  rw [htickets]
  refine (h.drop ha).join (isSoundAttempt_after ?_)
  rcases hnext with hover | ⟨mac, hwait, hupper⟩
  · exact Or.inl hover
  · exact Or.inr ⟨_, hwait, hasked, hupper⟩

/-- An admission that waits for a subscription may be refused it. -/
theorem Sound.advance_refused {place : Nat} {path mac : String} (h : Sound adapter [] c)
    (ha : c.attempts[place]? = some (.asking (.subscribing path mac))) (f : Fault) :
    Sound adapter [] (c.advance place (.subscribing path mac) (.error f)) := by
  obtain ⟨effects, next, heq, htickets, hover⟩ := c.roster.subscribed_error path mac f
  unfold Custody.advance
  simp only [Roster.resume, heq]
  refine Sound.carryOut ?_
  rw [htickets]
  exact (h.drop ha).join (isSoundAttempt_after (Or.inl hover))

/-- An admission that has its subscription tracks the device or owes the ticket. -/
theorem Sound.advance_granted {place : Nat} {path mac : String} {t : Ticket}
    (h : Sound adapter [] c)
    (ha : c.attempts[place]? = some (.granted (.subscribing path mac) t)) :
    Sound adapter [] (c.advance place (.subscribing path mac) (.ok { ticket := t })) := by
  have hgranted := h.attempts _ (List.mem_of_getElem? ha)
  obtain ⟨⟨hcovers, hupper⟩, _, _, heq, hserves⟩ := hgranted
  cases heq
  have hrest : Sound adapter [t] { c with attempts := c.attempts.eraseIdx place } := h.drop ha
  unfold Custody.advance
  rcases c.roster.subscribed_ok path mac { ticket := t } with
    ⟨effects, heq, htickets⟩ | ⟨hpath, hmac, effects, heq, htickets⟩
  · simp only [Roster.resume, heq]
    refine Sound.carryOut ?_
    rw [htickets]
    exact hrest.join (isSoundAttempt_after (Or.inl .refused))
  · simp only [Roster.resume, heq]
    refine Sound.carryOut ?_
    rw [htickets]
    refine (hrest.track hcovers hupper hserves hpath hmac).join ?_
    intro a ha
    cases List.mem_singleton.mp ha
    exact ⟨trivial, rfl⟩

theorem Sound.proceed (h : Sound adapter [] c) (place : Nat) (reply : Reply) :
    Sound adapter [] (c.proceed place reply) := by
  unfold Custody.proceed
  cases ha : c.attempts[place]? with
  | none => exact h
  | some a =>
    cases a with
    | announcing path => exact h.drop ha
    | granted a t =>
      obtain ⟨-, path, mac, rfl, -⟩ := h.attempts _ (List.mem_of_getElem? ha)
      exact h.advance_granted ha
    | asking a =>
      cases a with
      | addressing path => exact h.advance_addressing ha reply
      | subscribing path mac =>
        cases reply with
        | ok answer => exact h.grant ha
        | error f => exact h.advance_refused ha f

theorem Sound.announce (h : Sound adapter [] c) (path interfaces : Value) :
    Sound adapter [] (c.perform (.announce path interfaces)) := by
  obtain ⟨htickets, hnext⟩ := c.roster.announce_cases path interfaces
  simp only [Custody.perform]
  generalize c.roster.announce path interfaces = step at htickets hnext ⊢
  refine Sound.carryOut ?_
  rw [htickets]
  refine h.join (isSoundAttempt_after ?_)
  rcases hnext with hover | ⟨p, hwait, hcovers⟩
  · exact Or.inl hover
  · exact Or.inr ⟨_, hwait, hcovers⟩

/-! ## Taking devices off -/

/-- Devices that are taken off owe their tickets; those that stay must be welcome still. -/
theorem Sound.evict (h : Sound adapter [] c) (stays : Entry → Bool) (blacklist : Blacklist)
    (hb : ∀ e ∈ c.roster.entries, stays e = true → blacklist.contains e.mac = false) :
    Sound adapter ((c.roster.entries.filter fun e => !stays e).map (·.ticket))
      { c with roster := {
        c.roster with entries := c.roster.entries.filter stays, blacklist := blacklist } } := by
  refine ⟨h.home, ?_, ?_, ?_, ?_, h.once, h.known⟩
  · intro a ha
    exact (h.attempts a ha).congr rfl fun _ _ _ hs => hs
  · intro e he
    obtain ⟨he, hstays⟩ := List.mem_filter.mp he
    exact (h.entries e he).congr rfl (hb e he hstays) fun _ hs => hs
  · exact h.paths.sublist (List.filter_sublist.map _)
  · intro t
    have hcount := h.count t
    have hsplit := ((List.filter_append_perm stays c.roster.entries).map (·.ticket)).count_eq t
    rw [List.map_append, List.count_append] at hsplit
    simp only [inFlight, held, List.count_nil] at hcount ⊢
    omega

/-- A path is the path of one tracked device at most. -/
theorem filter_path_eq_singleton {entries : List Entry} {e : Entry}
    (h : (entries.map (·.path)).Nodup) (he : e ∈ entries) :
    (entries.filter fun e' => !decide (e'.path ≠ e.path)) = [e] := by
  induction entries with
  | nil => cases he
  | cons e' rest ih =>
    rw [List.map_cons, List.nodup_cons] at h
    obtain ⟨hnotin, hrest⟩ := h
    rcases List.mem_cons.mp he with rfl | he
    · have hnone : (rest.filter fun e' => !decide (e'.path ≠ e.path)) = [] := by
        rw [List.filter_eq_nil_iff]
        intro e' he' hpath
        simp only [ne_eq, decide_not, Bool.not_not, decide_eq_true_eq] at hpath
        exact hnotin (hpath ▸ List.mem_map_of_mem he')
      rw [List.filter_cons_of_pos (by simp), hnone]
    · have hne : e'.path ≠ e.path := by
        intro hpath
        exact hnotin (hpath ▸ List.mem_map_of_mem he)
      rw [List.filter_cons_of_neg (by simp [hne])]
      exact ih hrest he

theorem Sound.remove (h : Sound adapter [] c) (path interfaces : Value) :
    Sound adapter [] (c.perform (.remove path interfaces)) := by
  simp only [Custody.perform]
  split
  · rename_i roster effects b heq
    refine Sound.carryOut ?_
    rcases Roster.remove_eq_ok heq with ⟨rfl, htickets⟩ | ⟨e, he, rfl, htickets⟩
    · rw [htickets]
      exact h
    · have hevict := h.evict (fun e' => decide (e'.path ≠ e.path)) c.roster.blacklist
        fun e' he' _ => (h.entries e' he').welcome
      rw [filter_path_eq_singleton h.paths he] at hevict
      rw [htickets]
      exact hevict
  · exact h

theorem Sound.ban (h : Sound adapter [] c) (v : Value) : Sound adapter [] (c.perform (.ban v)) := by
  simp only [Custody.perform]
  split
  · rename_i roster effects paths heq
    refine Sound.carryOut ?_
    obtain ⟨mac, hv, rfl, htickets⟩ := Roster.ban_eq_ok heq
    have hevict := h.evict (fun e => decide (e.mac ≠ mac)) (c.roster.blacklist.insert mac)
      fun e he hne => by
        have hsound := h.entries e he
        have hold := hsound.welcome
        rw [Blacklist.contains_eq_false, hsound.upper] at hold ⊢
        rw [Blacklist.mem_insert]
        rintro (rfl | hin)
        · simp at hne
        · exact hold hin
    have hfilter : (c.roster.entries.filter fun e => !decide (e.mac ≠ mac)) =
        c.roster.entries.filter fun e => decide (e.mac = mac) :=
      List.filter_congr fun e _ => by simp
    rw [hfilter] at hevict
    rw [htickets]
    exact hevict
  · exact h

theorem Sound.clear (h : Sound adapter [] c) : Sound adapter [] (c.perform .clear) := by
  refine Sound.carryOut ?_
  have hevict := h.evict (fun _ => false) c.roster.blacklist
    fun _ _ hstays => absurd hstays (by decide)
  simpa [Roster.clear, Effect.tickets, Effect.ticket?, Function.comp_def] using hevict

/-! ## Runs -/

/-- Whatever happens keeps the invariant. -/
theorem Sound.perform (h : Sound adapter [] c) (happening : Happening) :
    Sound adapter [] (c.perform happening) := by
  cases happening with
  | announce path interfaces => exact h.announce path interfaces
  | proceed place reply => exact h.proceed place reply
  | remove path interfaces => exact h.remove path interfaces
  | ban mac => exact h.ban mac
  | clear => exact h.clear
  | foreign route => exact h.subscribed route

theorem sound_start (path : String) (blacklist : Blacklist) (router : Router) :
    Sound (Roster.ofPath path blacklist).adapterPath []
      { roster := Roster.ofPath path blacklist, router } := by
  refine ⟨rfl, ?_, ?_, List.nodup_nil, fun _ => rfl, fun _ => Nat.zero_le _, ?_⟩
  · intro a ha
    cases ha
  · intro e he
    cases he
  · intro t ht
    cases ht

theorem Sound.run (h : Sound adapter [] c) (happenings : List Happening) :
    Sound adapter [] (c.run happenings) := by
  induction happenings generalizing c with
  | nil => exact h
  | cons happening rest ih => exact ih (h.perform happening)

/-- Between two operations a ticket that no admission has in its hands is held or was returned. -/
theorem Sound.held_or_returned (h : Sound adapter [] c) {t : Ticket} (ht : t ∈ c.obtained)
    (hflight : t ∉ c.inFlight) :
    (c.held.count t = 1 ∧ c.returned.count t = 0) ∨
      (c.held.count t = 0 ∧ c.returned.count t = 1) := by
  have hcount := h.count t
  have honce := h.once t
  have hpos := List.count_pos_iff.mpr ht
  rw [List.count_eq_zero.mpr hflight, List.count_nil] at hcount
  omega

/-- **Devices are tracked in order, and no subscription leaks.** After any sequence of happenings
each tracked device lies below the adapter, is not ignored and is served under its ticket; each
ticket that an admission obtained and has checked is held by one device and was never given back, or
is held by none and was given back once. -/
theorem tracked_and_disposed (path : String) (blacklist : Blacklist) (router : Router)
    (happenings : List Happening) :
    let r := Roster.ofPath path blacklist
    let c := ({ roster := r, router } : Custody).run happenings
    (∀ e ∈ c.roster.entries,
      (r.adapterPath ++ "/").toList <+: e.path.toList ∧ c.roster.blacklist.contains e.mac = false ∧
        c.router.Serves e.ticket (deviceRoute e.path)) ∧
      ∀ t ∈ c.obtained, t ∉ c.inFlight →
        (c.held.count t = 1 ∧ c.returned.count t = 0) ∨
          (c.held.count t = 0 ∧ c.returned.count t = 1) := by
  intro r c
  have hsound : Sound r.adapterPath [] c := (sound_start path blacklist router).run happenings
  refine ⟨?_, fun t ht hflight => hsound.held_or_returned ht hflight⟩
  intro e he
  have hentry := hsound.entries e he
  refine ⟨?_, hentry.welcome, hentry.served⟩
  rw [← hsound.home]
  exact Roster.covers_iff.mp hentry.covered

/-- Two devices are announced; the second is banned while its subscription is under way. -/
def bannedMeanwhile : List Happening :=
  [.announce (.text "/org/bluez/hci0/dev_1") (.dict [(.text deviceInterface, .dict [])]),
    .proceed 0 (.ok { body := [.text "aa:bb:cc:dd:ee:01"] }),
    .proceed 0 .done,
    .proceed 0 .done,
    .proceed 0 .done,
    .announce (.text "/org/bluez/hci0/dev_2") (.dict [(.text deviceInterface, .dict [])]),
    .proceed 0 (.ok { body := [.text "aa:bb:cc:dd:ee:02"] }),
    .proceed 0 .done,
    .ban (.text "AA-BB-CC-DD-EE-02"),
    .proceed 0 .done]

theorem bannedMeanwhile_disposed :
    let c := ({ roster := Roster.ofPath "/org/bluez/hci0", router := {} } : Custody).run
      bannedMeanwhile
    let e : Entry := ⟨"/org/bluez/hci0/dev_1", "AA:BB:CC:DD:EE:01", 0⟩
    (c.roster.entries = [e] ∧ c.returned = [1]) ∧
      (c.roster.blacklist.contains e.mac = false ∧ c.router.Serves 0 (deviceRoute e.path)) ∧
        ((c.held.count 1 = 1 ∧ c.returned.count 1 = 0) ∨
          (c.held.count 1 = 0 ∧ c.returned.count 1 = 1)) := by
  intro c e
  have hentries : c.roster.entries = [e] := by decide +kernel
  obtain ⟨htracked, hdisposed⟩ :=
    tracked_and_disposed "/org/bluez/hci0" {} {} bannedMeanwhile
  refine ⟨⟨hentries, by decide +kernel⟩, (htracked e ?_).2, hdisposed 1 ?_ ?_⟩
  · exact hentries ▸ List.mem_cons_self
  · decide +kernel
  · decide +kernel

end Custody

end TagGateway
