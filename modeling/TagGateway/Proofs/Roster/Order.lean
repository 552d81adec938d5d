import TagGateway.Proofs.Blacklist
import TagGateway.Proofs.Bus.Routes
import TagGateway.Proofs.Roster.Turns

/-!
# Operations in any order

The devices that are tracked once all admissions are over, the subscriptions to their changes and
the blacklist depend on which operations there were, and on nothing else.

* `Custody.Announced`, `Custody.Banned` — what operations name.
* `Custody.Reflects` — the invariant: what the roster has of the operations so far.
* `Custody.Owned` — the invariant of the link: which subscriptions are the roster's.
* `Custody.Settling` — both, along a schedule; `Settling.device?_eq_some` and `Settling.activeOn_eq`
  — what it ends in.
* **`Custody.order_irrelevant`** — two schedules of the same operations agree in the end.
-/

namespace TagGateway

open Bus

namespace Custody

open Roster (Attempt)

/-! ## What operations name -/

/-- One of some operations announces a device with a path. -/
def Announced (done : List Operation) (path : String) : Prop :=
  ∃ interfaces, .announce (.text path) interfaces ∈ done ∧
    interfaces.holds deviceInterface = .ok true

/-- One of some operations bans an address. -/
def Banned (done : List Operation) (mac : String) : Prop :=
  ∃ v, .ban v ∈ done ∧ Address.ofValue v = .ok mac

/-- The address under which a path is tracked, if it is. -/
def device? (c : Custody) (path : String) : Option String := (c.roster.find? path).map (·.mac)

variable {address : String → Value} {c c' : Custody} {adapter : String}
  {done done' : List Operation}

theorem Announced.mono {path : String} (h : Announced done path) (hsub : done ⊆ done') :
    Announced done' path := by
  obtain ⟨interfaces, hmem, hholds⟩ := h
  exact ⟨interfaces, hsub hmem, hholds⟩

/-! ## What a roster has of the operations -/

/-- What an admission knows. -/
def IsKnown (address : String → Value) (done : List Operation) : Attempt → Prop
  | .asking (.addressing path) | .granted (.addressing path) _ => Announced done path
  | .asking (.subscribing path mac) | .granted (.subscribing path mac) _ =>
    Announced done path ∧ mac = macOf address path
  | .announcing _ => True

/-- A roster that began with a blacklist reflects the operations so far: what is listed was listed
or banned, what is tracked or under admission was announced, and each device that was announced and
is not banned is tracked or under admission. -/
structure Reflects (address : String → Value) (blacklist : Blacklist) (done : List Operation)
    (c : Custody) : Prop where
  listed : ∀ mac, mac ∈ c.roster.blacklist.macs ↔ mac ∈ blacklist.macs ∨ Banned done mac
  ascending : c.roster.blacklist.macs.Pairwise (· < ·)
  entries : ∀ e ∈ c.roster.entries, Announced done e.path ∧ e.mac = macOf address e.path
  attempts : ∀ a ∈ c.attempts, IsKnown address done a
  complete : ∀ path, Announced done path → c.roster.covers path = true →
    macOf address path ∉ c.roster.blacklist.macs →
    c.roster.contains path = true ∨ ∃ a ∈ c.attempts, a.device? = some path

variable {blacklist : Blacklist} {place : Nat} {a : Attempt}

theorem IsKnown.mono (h : IsKnown address done a) (hsub : done ⊆ done') :
    IsKnown address done' a := by
  cases a with
  | announcing path => trivial
  | asking a | granted a t =>
    cases a with
    | addressing path => exact Announced.mono h hsub
    | subscribing path mac => exact ⟨h.1.mono hsub, h.2⟩

/-- An admission may take a step or end: its device is under admission still, or is tracked, or is
banned. -/
theorem Reflects.step (h : Reflects address blacklist done c) (ha : c.attempts[place]? = some a)
    (new : List Attempt) (hnew : ∀ b ∈ new, IsKnown address done b)
    (hdevice : ∀ path, a.device? = some path → c.roster.contains path = true ∨
      macOf address path ∈ c.roster.blacklist.macs ∨ ∃ b ∈ new, b.device? = some path)
    (hroster : c'.roster = c.roster) (hattempts : c'.attempts = c.attempts.eraseIdx place ++ new) :
    Reflects address blacklist done c' where
  listed := hroster ▸ h.listed
  ascending := hroster ▸ h.ascending
  entries := hroster ▸ h.entries
  attempts b hb := by
    rw [hattempts] at hb
    rcases List.mem_append.mp hb with hb | hb
    · exact h.attempts b (List.mem_of_mem_eraseIdx hb)
    · exact hnew b hb
  complete path hannounced hcovers hwelcome := by
    rw [hroster] at hcovers hwelcome ⊢
    rw [hattempts]
    rcases h.complete path hannounced hcovers hwelcome with hpath | ⟨b, hb, hdev⟩
    · exact Or.inl hpath
    · rcases List.mem_cons.mp ((perm_eraseIdx ha).mem_iff.mpr hb) with rfl | hb
      · rcases hdevice path hdev with hpath | hbanned | ⟨b', hb', hdev'⟩
        · exact Or.inl hpath
        · exact absurd hbanned hwelcome
        · exact Or.inr ⟨b', List.mem_append_right _ hb', hdev'⟩
      · exact Or.inr ⟨b, List.mem_append_left _ hb, hdev⟩

/-- An admission may have its device tracked. -/
theorem Reflects.track {path mac : String} {t : Ticket} (h : Reflects address blacklist done c)
    (ha : c.attempts[place]? = some (.granted (.subscribing path mac) t)) :
    Reflects address blacklist done { c with
      roster := { c.roster with entries := c.roster.entries ++ [⟨path, mac, t⟩] }
      attempts := c.attempts.eraseIdx place ++ [.announcing path] } := by
  have hknown := h.attempts _ (List.mem_of_getElem? ha)
  refine ⟨h.listed, h.ascending, ?_, ?_, ?_⟩
  · intro e he
    rcases List.mem_append.mp he with he | he
    · exact h.entries e he
    · cases List.mem_singleton.mp he
      exact hknown
  · intro b hb
    rcases List.mem_append.mp hb with hb | hb
    · exact h.attempts b (List.mem_of_mem_eraseIdx hb)
    · cases List.mem_singleton.mp hb
      trivial
  · intro path' hannounced hcovers hwelcome
    rw [Roster.contains_append]
    rcases h.complete path' hannounced hcovers hwelcome with hpath | ⟨b, hb, hdev⟩
    · exact Or.inl (Or.inl hpath)
    · rcases List.mem_cons.mp ((perm_eraseIdx ha).mem_iff.mpr hb) with rfl | hb
      · exact Or.inl (Or.inr (Option.some.inj hdev).symm)
      · exact Or.inr ⟨b, List.mem_append_left _ hb, hdev⟩

/-- A step of an admission reflects the same operations. -/
theorem Reflects.proceeded (h : Reflects address blacklist done c)
    (ha : c.attempts[place]? = some a) (hstep : Proceeded address c place a c') :
    Reflects address blacklist done c' := by
  have hknown := h.attempts a (List.mem_of_getElem? ha)
  cases hstep with
  | announced path => exact h.step ha [] nofun nofun rfl (List.append_nil _).symm
  | ignored path hbanned =>
    refine h.step ha [] nofun ?_ rfl (List.append_nil _).symm
    rintro _ ⟨⟩
    exact Or.inr (Or.inl hbanned)
  | resolved path =>
    refine h.step ha [_] ?_ ?_ rfl rfl
    · intro b hb
      cases List.mem_singleton.mp hb
      exact ⟨hknown, rfl⟩
    · rintro _ ⟨⟩
      exact Or.inr (Or.inr ⟨_, List.mem_cons_self, rfl⟩)
  | granted path mac =>
    refine h.step ha [_] ?_ ?_ rfl rfl
    · intro b hb
      cases List.mem_singleton.mp hb
      exact hknown
    · rintro _ ⟨⟩
      exact Or.inr (Or.inr ⟨_, List.mem_cons_self, rfl⟩)
  | rejected path mac t htaken =>
    refine h.step ha [] nofun ?_ rfl (List.append_nil _).symm
    rintro _ ⟨⟩
    obtain ⟨-, rfl⟩ := hknown
    exact htaken.imp_right fun hbanned => Or.inl (contains_macOf.mp hbanned)
  | tracked path mac t => exact h.track ha

theorem announced_append {o : Operation} {path : String} :
    Announced (done ++ [o]) path ↔ Announced done path ∨
      ∃ interfaces, o = .announce (.text path) interfaces ∧
        interfaces.holds deviceInterface = .ok true := by
  simp only [Announced, List.mem_append, List.mem_singleton, or_and_right, exists_or, @eq_comm _ o]

theorem banned_append {o : Operation} {mac : String} :
    Banned (done ++ [o]) mac ↔ Banned done mac ∨ ∃ v, o = .ban v ∧ Address.ofValue v = .ok mac := by
  simp only [Banned, List.mem_append, List.mem_singleton, or_and_right, exists_or, @eq_comm _ o]

/-- An announcement may begin an admission, unless there is nothing to admit. -/
theorem Reflects.announce {path interfaces : Value} (h : Reflects address blacklist done c)
    (new : List Attempt)
    (hnew : ∀ b ∈ new, IsKnown address (done ++ [.announce path interfaces]) b)
    (hdevice : ∀ p, path = .text p → interfaces.holds deviceInterface = .ok true →
      c.roster.covers p = true →
      c.roster.contains p = true ∨ ∃ b ∈ new, b.device? = some p) :
    Reflects address blacklist (done ++ [.announce path interfaces])
      { c with attempts := c.attempts ++ new } := by
  have hsub : done ⊆ done ++ [.announce path interfaces] := List.subset_append_left _ _
  refine ⟨?_, h.ascending, ?_, ?_, ?_⟩
  · intro mac
    rw [h.listed, banned_append]
    refine or_congr_right (or_iff_left ?_).symm
    rintro ⟨v, heq, -⟩
    cases heq
  · intro e he
    exact (h.entries e he).imp_left fun hannounced => hannounced.mono hsub
  · intro b hb
    rcases List.mem_append.mp hb with hb | hb
    · exact (h.attempts b hb).mono hsub
    · exact hnew b hb
  · intro p hannounced hcovers hwelcome
    rcases announced_append.mp hannounced with hannounced | ⟨interfaces', heq, hholds⟩
    · rcases h.complete p hannounced hcovers hwelcome with hp | ⟨b, hb, hdev⟩
      · exact Or.inl hp
      · exact Or.inr ⟨b, List.mem_append_left _ hb, hdev⟩
    · cases heq
      rcases hdevice p rfl hholds hcovers with hp | ⟨b, hb, hdev⟩
      · exact Or.inl hp
      · exact Or.inr ⟨b, List.mem_append_right _ hb, hdev⟩

/-- A ban of what writes no address does nothing. -/
theorem Reflects.invalid {v : Value} (h : Reflects address blacklist done c)
    (hinvalid : ∀ mac, Address.ofValue v ≠ .ok mac) :
    Reflects address blacklist (done ++ [.ban v]) c := by
  have hsub : done ⊆ done ++ [.ban v] := List.subset_append_left _ _
  refine ⟨?_, h.ascending, ?_, fun a ha => (h.attempts a ha).mono hsub, ?_⟩
  · intro mac
    rw [h.listed, banned_append]
    refine or_congr_right (or_iff_left ?_).symm
    rintro ⟨v', heq, hv⟩
    cases heq
    exact hinvalid mac hv
  · intro e he
    exact (h.entries e he).imp_left fun hannounced => hannounced.mono hsub
  · intro path hannounced
    rcases announced_append.mp hannounced with hannounced | ⟨_, heq, -⟩
    · exact h.complete path hannounced
    · cases heq

theorem contains_iff {r : Roster} {path : String} :
    r.contains path = true ↔ ∃ e ∈ r.entries, e.path = path := by
  simp only [Roster.contains, List.any_eq_true, decide_eq_true_eq]

/-- A ban lists the address and takes the devices with it off. -/
theorem Reflects.ban {v : Value} {mac : String} (h : Reflects address blacklist done c)
    (hv : Address.ofValue v = .ok mac) :
    Reflects address blacklist (done ++ [.ban v]) { c with
      roster := { c.roster with
        entries := c.roster.entries.filter (·.mac ≠ mac)
        blacklist := c.roster.blacklist.insert mac } } := by
  have hsub : done ⊆ done ++ [.ban v] := List.subset_append_left _ _
  refine ⟨?_, Blacklist.pairwise_insert h.ascending mac, ?_,
    fun a ha => (h.attempts a ha).mono hsub, ?_⟩
  · intro m
    have hlast : (∃ v', Operation.ban v = .ban v' ∧ Address.ofValue v' = .ok m) ↔ m = mac := by
      constructor
      · rintro ⟨v', heq, hv'⟩
        cases heq
        rw [hv] at hv'
        exact (Except.ok.inj hv').symm
      · rintro rfl
        exact ⟨v, rfl, hv⟩
    rw [Blacklist.mem_insert, h.listed, banned_append, hlast, or_comm, or_assoc]
  · intro e he
    have hentry := h.entries e (List.mem_of_mem_filter he)
    exact hentry.imp_left fun hannounced => hannounced.mono hsub
  · intro path hannounced hcovers hwelcome
    rw [Blacklist.mem_insert, not_or] at hwelcome
    obtain ⟨hother, hwelcome⟩ := hwelcome
    rcases announced_append.mp hannounced with hannounced | ⟨_, heq, -⟩
    · rcases h.complete path hannounced hcovers hwelcome with hpath | hunder
      · obtain ⟨e, he, rfl⟩ := contains_iff.mp hpath
        have hstays : e.mac ≠ mac := by
          rw [(h.entries e he).2]
          exact hother
        exact Or.inl (contains_iff.mpr ⟨e, List.mem_filter.mpr ⟨he, decide_eq_true hstays⟩, rfl⟩)
      · exact Or.inr hunder
    · cases heq

theorem Reflects.congr (h : Reflects address blacklist done c) (hroster : c'.roster = c.roster)
    (hattempts : c'.attempts = c.attempts) : Reflects address blacklist done c' where
  listed := hroster ▸ h.listed
  ascending := hroster ▸ h.ascending
  entries := hroster ▸ h.entries
  attempts := hattempts ▸ h.attempts
  complete := hroster ▸ hattempts ▸ h.complete

/-- An operation is reflected once it was carried out. -/
theorem Reflects.operated {o : Operation} (h : Reflects address blacklist done c)
    (hstep : Operated c o c') : Reflects address blacklist (done ++ [o]) c' := by
  cases hstep with
  | passed path interfaces htracked =>
    refine (h.announce [] nofun ?_).congr rfl (List.append_nil _).symm
    intro p hp hholds hcovers
    exact Or.inl (htracked p hp hholds hcovers)
  | begun p interfaces hholds =>
    refine h.announce [_] ?_ ?_
    · intro b hb
      cases List.mem_singleton.mp hb
      exact ⟨interfaces, List.mem_append_right _ List.mem_cons_self, hholds⟩
    · rintro _ ⟨⟩ - -
      exact Or.inr ⟨_, List.mem_cons_self, rfl⟩
  | invalid v hinvalid => exact h.invalid hinvalid
  | banned v mac hv =>
    obtain ⟨hroster, hattempts, -⟩ := foldl_giveBack _ _
    exact (h.ban hv).congr hroster hattempts

/-! ## What a roster has of the link -/

/-- Of a link that was there before a roster, exactly the subscriptions that came since were
obtained by admissions; those that were there are as they were, and those that were given back are
not active. -/
structure Owned (router : Router) (c : Custody) : Prop where
  grown : router.subscribers.length ≤ c.router.subscribers.length
  obtained : ∀ t, t ∈ c.obtained ↔
    router.subscribers.length ≤ t ∧ t < c.router.subscribers.length
  kept : ∀ t route, t < router.subscribers.length →
    (c.router.IsOn t route ↔ router.IsOn t route)
  returned : ∀ t ∈ c.returned, c.router.isActive t = false

variable {router : Router}

theorem Owned.giveBack (h : Owned router c) {t : Ticket} (ht : t ∈ c.obtained) :
    Owned router (c.giveBack t) where
  grown := by
    simp only [Custody.giveBack, Router.length_unsubscribe]
    exact h.grown
  obtained t' := by
    simp only [Custody.giveBack, Router.length_unsubscribe]
    exact h.obtained t'
  kept t' route hold := by
    have hother : t' ≠ t := by
      have := (h.obtained t).mp ht
      omega
    simp only [Custody.giveBack]
    rw [Router.isOn_unsubscribe, h.kept t' route hold]
    exact and_iff_right hother
  returned t' ht' := by
    simp only [Custody.giveBack] at ht' ⊢
    rw [← Bool.not_eq_true, Router.isActive_unsubscribe]
    rintro ⟨hother, hactive⟩
    rcases List.mem_append.mp ht' with hbefore | hlast
    · rw [h.returned t' hbefore] at hactive
      cases hactive
    · exact hother (List.mem_singleton.mp hlast)

theorem Owned.foldl_giveBack (h : Owned router c) {tickets : List Ticket}
    (htickets : ∀ t ∈ tickets, t ∈ c.obtained) :
    Owned router (tickets.foldl Custody.giveBack c) := by
  induction tickets generalizing c with
  | nil => exact h
  | cons t rest ih =>
    have ht : t ∈ c.obtained := htickets t List.mem_cons_self
    exact ih (h.giveBack ht) fun t' ht' => htickets t' (List.mem_cons_of_mem _ ht')

/-- A ticket that is in any place was obtained. -/
theorem Sound.mem_obtained {owed : List Ticket} (h : Sound adapter owed c) {t : Ticket}
    (ht : t ∈ c.inFlight ∨ t ∈ c.held ∨ t ∈ c.returned) : t ∈ c.obtained := by
  have hcount := h.count t
  refine List.count_pos_iff.mp ?_
  rcases ht with ht | ht | ht
  all_goals
    have := List.count_pos_iff.mpr ht
    omega

theorem Owned.grant (h : Owned router c) (hsound : Sound adapter [] c) (place : Nat)
    (a : Admission) (route : Route) : Owned router (c.grant place a route) where
  grown := by
    simp only [Custody.grant, Router.length_subscribed]
    exact Nat.le_succ_of_le h.grown
  obtained t := by
    simp only [Custody.grant, Router.length_subscribed, List.mem_append, List.mem_singleton,
      h.obtained]
    constructor
    · rintro (⟨hfrom, hto⟩ | rfl)
      · exact ⟨hfrom, Nat.lt_succ_of_lt hto⟩
      · exact ⟨h.grown, Nat.lt_succ_self _⟩
    · rintro ⟨hfrom, hto⟩
      exact (Nat.lt_succ_iff_lt_or_eq.mp hto).imp_left fun hto => ⟨hfrom, hto⟩
  kept t route' hold := by
    have hother : t ≠ c.router.subscribers.length :=
      Nat.ne_of_lt (Nat.lt_of_lt_of_le hold h.grown)
    simp only [Custody.grant]
    rw [Router.isOn_subscribed, h.kept t route' hold]
    exact or_iff_left fun hnew => hother hnew.1
  returned t ht := by
    have hother : t ≠ c.router.subscribers.length :=
      Nat.ne_of_lt (hsound.known t (hsound.mem_obtained (Or.inr (Or.inr ht))))
    simp only [Custody.grant]
    rw [← Bool.not_eq_true, Router.isActive_subscribed, not_or, Bool.not_eq_true]
    exact ⟨h.returned t ht, hother⟩

theorem Owned.congr (h : Owned router c) (hrouter : c'.router = c.router)
    (hobtained : c'.obtained = c.obtained) (hreturned : c'.returned = c.returned) :
    Owned router c' where
  grown := hrouter ▸ h.grown
  obtained := hobtained ▸ hrouter ▸ h.obtained
  kept := hrouter ▸ h.kept
  returned := hreturned ▸ hrouter ▸ h.returned

/-- A step of an admission gives nothing back but the ticket that it has in its hands. -/
theorem Owned.proceeded (h : Owned router c) (hsound : Sound adapter [] c)
    (ha : c.attempts[place]? = some a) (hstep : Proceeded address c place a c') :
    Owned router c' := by
  cases hstep with
  | announced path => exact h.congr rfl rfl rfl
  | ignored path => exact h.congr rfl rfl rfl
  | resolved path => exact h.congr rfl rfl rfl
  | granted path mac => exact h.grant hsound place _ _
  | rejected path mac t =>
    have hrest : Owned router { c with attempts := c.attempts.eraseIdx place } :=
      h.congr rfl rfl rfl
    have hflight : t ∈ c.inFlight := mem_inFlight (List.mem_of_getElem? ha) rfl
    exact hrest.giveBack (hsound.mem_obtained (Or.inl hflight))
  | tracked path mac t => exact h.congr rfl rfl rfl

/-- An operation gives nothing back but tickets of tracked devices. -/
theorem Owned.operated {o : Operation} (h : Owned router c) (hsound : Sound adapter [] c)
    (hstep : Operated c o c') : Owned router c' := by
  cases hstep with
  | passed path interfaces => exact h
  | begun p interfaces => exact h.congr rfl rfl rfl
  | invalid v => exact h
  | banned v mac =>
    have hrest : Owned router { c with
        roster := { c.roster with
          entries := c.roster.entries.filter (·.mac ≠ mac)
          blacklist := c.roster.blacklist.insert mac } } := h.congr rfl rfl rfl
    refine hrest.foldl_giveBack ?_
    intro t ht
    obtain ⟨e, he, rfl⟩ := List.mem_map.mp ht
    exact hsound.mem_obtained (Or.inr (Or.inl (List.mem_map_of_mem (List.mem_of_mem_filter he))))

/-! ## Schedules -/

/-- All that holds of a roster while it follows a schedule. -/
structure Settling (adapter : String) (address : String → Value) (blacklist : Blacklist)
    (router : Router) (done : List Operation) (c : Custody) : Prop where
  sound : Sound adapter [] c
  reflects : Reflects address blacklist done c
  owned : Owned router c

theorem settling_start (path : String) (address : String → Value) {blacklist : Blacklist}
    (hascending : blacklist.macs.Pairwise (· < ·)) (router : Router) :
    Settling (Roster.ofPath path blacklist).adapterPath address blacklist router []
      { roster := Roster.ofPath path blacklist, router } where
  sound := sound_start path blacklist router
  reflects := by
    refine ⟨?_, hascending, nofun, nofun, ?_⟩
    · intro mac
      exact (or_iff_left fun ⟨_, hmem, _⟩ => nomatch hmem).symm
    · rintro p ⟨_, hmem, -⟩
      cases hmem
  owned := by
    refine ⟨Nat.le_refl _, ?_, fun _ _ _ => Iff.rfl, nofun⟩
    intro t
    refine iff_of_false nofun ?_
    rintro ⟨hfrom, hto⟩
    exact absurd hto (Nat.not_lt_of_le hfrom)

theorem Settling.proceed (h : Settling adapter address blacklist router done c) (place : Nat) :
    Settling adapter address blacklist router done (c.take address (.proceed place)) := by
  cases ha : c.attempts[place]? with
  | none =>
    have hsame : c.take address (.proceed place) = c := by
      simp only [take, happening, Custody.perform, Custody.proceed, ha]
    rw [hsame]
    exact h
  | some a =>
    have hstep : Proceeded address c place a (c.take address (.proceed place)) :=
      proceeded h.sound ha
    exact ⟨h.sound.perform _, h.reflects.proceeded ha hstep, h.owned.proceeded h.sound ha hstep⟩

theorem Settling.operation (h : Settling adapter address blacklist router done c) (o : Operation) :
    Settling adapter address blacklist router (done ++ [o]) (c.take address (.operation o)) := by
  have hstep := operated address c o
  exact ⟨h.sound.perform _, h.reflects.operated hstep, h.owned.operated h.sound hstep⟩

theorem Settling.follow (h : Settling adapter address blacklist router done c)
    (schedule : List Turn) :
    Settling adapter address blacklist router (done ++ operations schedule)
      (c.follow address schedule) := by
  induction schedule generalizing c done with
  | nil =>
    rw [operations, List.filterMap_nil, List.append_nil]
    exact h
  | cons turn rest ih =>
    cases turn with
    | proceed place => exact ih (h.proceed place)
    | operation o =>
      have hrest := ih (h.operation o)
      rw [List.append_assoc] at hrest
      exact hrest

/-! ## What a schedule ends in -/

theorem exists_of_find? {r : Roster} {path : String} {e : Entry} (h : r.find? path = some e) :
    e ∈ r.entries ∧ e.path = path := by
  have hpath := List.find?_some h
  exact ⟨List.mem_of_find?_eq_some h, of_decide_eq_true hpath⟩

theorem find?_of_contains {r : Roster} {path : String} (h : r.contains path = true) :
    ∃ e, r.find? path = some e := by
  obtain ⟨e, he, hpath⟩ := contains_iff.mp h
  exact Option.isSome_iff_exists.mp (List.find?_isSome.mpr ⟨e, he, decide_eq_true hpath⟩)

/-- Once all admissions are over the tracked devices are those that were announced and are not
banned. -/
theorem Settling.device?_eq_some (h : Settling adapter address blacklist router done c)
    (hover : c.attempts = []) {path mac : String} :
    c.device? path = some mac ↔ Announced done path ∧ c.roster.covers path = true ∧
      mac = macOf address path ∧ mac ∉ c.roster.blacklist.macs := by
  constructor
  · intro hdevice
    obtain ⟨e, hfound, rfl⟩ := Option.map_eq_some_iff.mp hdevice
    obtain ⟨he, rfl⟩ := exists_of_find? hfound
    obtain ⟨hannounced, hmac⟩ := h.reflects.entries e he
    have hsound := h.sound.entries e he
    have hwelcome := hsound.welcome
    rw [Blacklist.contains_eq_false, hsound.upper] at hwelcome
    exact ⟨hannounced, hsound.covered, hmac, hwelcome⟩
  · rintro ⟨hannounced, hcovers, rfl, hwelcome⟩
    rcases h.reflects.complete path hannounced hcovers hwelcome with hpath | ⟨a, ha, -⟩
    · obtain ⟨e, hfound⟩ := find?_of_contains hpath
      obtain ⟨he, rfl⟩ := exists_of_find? hfound
      rw [device?, hfound, Option.map_some, (h.reflects.entries e he).2]
    · rw [hover] at ha
      cases ha

/-- Once all admissions are over the subscriptions that are active are those that were there before
and those of the tracked devices. -/
theorem Settling.isOn_iff (h : Settling adapter address blacklist router done c)
    (hover : c.attempts = []) {t : Ticket} {route : Route} :
    c.router.IsOn t route ↔ router.IsOn t route ∨
      ∃ e ∈ c.roster.entries, e.ticket = t ∧ deviceRoute e.path = route := by
  have hgrown := h.owned.grown
  constructor
  · intro hon
    rcases Nat.lt_or_ge t router.subscribers.length with hold | hnew
    · exact Or.inl ((h.owned.kept t route hold).mp hon)
    · have hlt : t < c.router.subscribers.length := (List.getElem?_eq_some_iff.mp hon).1
      have hobtained := (h.owned.obtained t).mpr ⟨hnew, hlt⟩
      have hflight : t ∉ c.inFlight := by
        rw [inFlight, hover]
        exact List.not_mem_nil
      rcases h.sound.held_or_returned hobtained hflight with ⟨hheld, -⟩ | ⟨-, hreturned⟩
      · have hmem : t ∈ c.held := List.count_pos_iff.mp (by omega)
        obtain ⟨e, he, rfl⟩ := List.mem_map.mp hmem
        have hserved := (h.sound.entries e he).served.1
        exact Or.inr ⟨e, he, rfl, Router.IsOn.unique hserved hon⟩
      · have hmem : t ∈ c.returned := List.count_pos_iff.mp (by omega)
        have hinactive := h.owned.returned t hmem
        rw [Router.isActive_iff_isOn.mpr ⟨route, hon⟩] at hinactive
        cases hinactive
  · rintro (hold | ⟨e, he, rfl, rfl⟩)
    · have hlt : t < router.subscribers.length := (List.getElem?_eq_some_iff.mp hold).1
      exact (h.owned.kept t route hlt).mpr hold
    · exact (h.sound.entries e he).served.1

/-- Of the subscriptions to the changes of a device there is one more if it is tracked. -/
theorem Settling.activeOn_eq (h : Settling adapter address blacklist router done c)
    (hover : c.attempts = []) (path : String) :
    c.router.activeOn (deviceRoute path) = router.activeOn (deviceRoute path) ++
      ((c.roster.find? path).map (·.ticket)).toList := by
  have hnew : ∀ e ∈ c.roster.entries, router.subscribers.length ≤ e.ticket := by
    intro e he
    have hheld : e.ticket ∈ c.held := List.mem_map_of_mem he
    exact ((h.owned.obtained _).mp (h.sound.mem_obtained (Or.inr (Or.inl hheld)))).1
  refine List.Pairwise.eq_of_mem_iff (Router.pairwise_activeOn _ _) ?_ ?_
  · refine List.pairwise_append.mpr ⟨Router.pairwise_activeOn _ _, ?_, ?_⟩
    · cases c.roster.find? path with
      | none => exact List.Pairwise.nil
      | some e => exact List.pairwise_singleton _ _
    · intro t hold t' ht'
      have hlt : t < router.subscribers.length :=
        (List.getElem?_eq_some_iff.mp (Router.mem_activeOn.mp hold)).1
      obtain ⟨e, hfound, rfl⟩ := Option.map_eq_some_iff.mp (Option.mem_toList.mp ht')
      exact Nat.lt_of_lt_of_le hlt (hnew e (exists_of_find? hfound).1)
  · intro t
    rw [Router.mem_activeOn, h.isOn_iff hover, List.mem_append, Router.mem_activeOn]
    refine or_congr_right ?_
    rw [Option.mem_toList]
    constructor
    · rintro ⟨e, he, rfl, hroute⟩
      have hpath : e.path = path := congrArg Route.path hroute
      obtain ⟨e', hfound⟩ := find?_of_contains (contains_iff.mpr ⟨e, he, hpath⟩)
      obtain ⟨he', hpath'⟩ := exists_of_find? hfound
      have hsame : e' = e :=
        List.inj_on_of_nodup_map h.sound.paths he' he (hpath'.trans hpath.symm)
      rw [hfound, hsame]
      rfl
    · intro hticket
      obtain ⟨e, hfound, rfl⟩ := Option.map_eq_some_iff.mp hticket
      obtain ⟨he, rfl⟩ := exists_of_find? hfound
      exact ⟨e, he, rfl, rfl⟩

/-- Two rosters track the same devices under the same addresses, with as many subscriptions to the
changes of each, and ignore the same addresses. -/
structure Agrees (c c' : Custody) : Prop where
  devices : ∀ path, c.device? path = c'.device? path
  subscriptions : ∀ path, (c.router.activeOn (deviceRoute path)).length =
    (c'.router.activeOn (deviceRoute path)).length
  blacklist : c.roster.blacklist = c'.roster.blacklist

theorem Settling.agrees (h : Settling adapter address blacklist router done c)
    (h' : Settling adapter address blacklist router done' c') (hover : c.attempts = [])
    (hover' : c'.attempts = []) (hsame : ∀ o, o ∈ done ↔ o ∈ done') : Agrees c c' := by
  have hannounced (path : String) : Announced done path ↔ Announced done' path := by
    simp only [Announced, hsame]
  have hbanned (mac : String) : Banned done mac ↔ Banned done' mac := by
    simp only [Banned, hsame]
  have hblacklist : c.roster.blacklist = c'.roster.blacklist := by
    refine Blacklist.eq_of_mem_iff h.reflects.ascending h'.reflects.ascending fun mac => ?_
    rw [h.reflects.listed, h'.reflects.listed, hbanned]
  have hadapter : c.roster.adapterPath = c'.roster.adapterPath :=
    h.sound.home.trans h'.sound.home.symm
  have hdevices (path : String) : c.device? path = c'.device? path := by
    refine Option.ext fun mac => ?_
    rw [h.device?_eq_some hover, h'.device?_eq_some hover', hannounced, hblacklist,
      covers_congr hadapter]
  refine ⟨hdevices, fun path => ?_, hblacklist⟩
  rw [h.activeOn_eq hover, h'.activeOn_eq hover', List.length_append, List.length_append,
    Option.length_toList, Option.length_toList, Option.isSome_map, Option.isSome_map]
  have htracked := congrArg Option.isSome (hdevices path)
  rw [device?, device?, Option.isSome_map, Option.isSome_map] at htracked
  rw [htracked]

/-- **The order of operations does not matter.** Announcements and bans are made in any order, any
number of times and between any two steps of the admissions under way; each device has the address
that it has, and the bus does not fail. Then all admissions come to an end. Once they have, exactly
the devices below the adapter are tracked that were announced and the address of which is not
ignored, each with one subscription more than there was, and the addresses that were banned are
ignored besides those that were before. So two schedules of the same operations agree in the end. -/
theorem order_irrelevant (path : String) (address : String → Value) {blacklist : Blacklist}
    (hascending : blacklist.macs.Pairwise (· < ·)) (router : Router) (schedule : List Turn) :
    let start : Custody := { roster := Roster.ofPath path blacklist, router }
    let done := operations schedule
    let c := start.follow address schedule
    (∃ n, (c.follow address (List.replicate n (.proceed 0))).attempts = []) ∧
    (c.attempts = [] →
      (∀ p mac, c.device? p = some mac ↔
        Announced done p ∧ (start.roster.adapterPath ++ "/").toList <+: p.toList ∧
          mac = Text.upper (address p).display ∧ mac ∉ blacklist.macs ∧ ¬Banned done mac) ∧
      (∀ p, c.router.activeOn (deviceRoute p) = router.activeOn (deviceRoute p) ++
        ((c.roster.find? p).map (·.ticket)).toList) ∧
      ∀ mac, mac ∈ c.roster.blacklist.macs ↔ mac ∈ blacklist.macs ∨ Banned done mac) ∧
    ∀ schedule', (∀ o, o ∈ done ↔ o ∈ operations schedule') →
      c.attempts = [] → (start.follow address schedule').attempts = [] →
      Agrees c (start.follow address schedule') := by
  intro start done c
  have hstart := settling_start path address hascending router
  have hsettling : Settling start.roster.adapterPath address blacklist router done c :=
    hstart.follow schedule
  refine ⟨hsettling.sound.completes address, ?_, ?_⟩
  · intro hover
    refine ⟨?_, hsettling.activeOn_eq hover, hsettling.reflects.listed⟩
    intro p mac
    rw [hsettling.device?_eq_some hover, covers_congr (r := start.roster) hsettling.sound.home,
      hsettling.reflects.listed, not_or, Roster.covers_iff]
    rfl
  · intro schedule' hsame hover hover'
    have hsettling' : Settling start.roster.adapterPath address blacklist router
        (operations schedule') (start.follow address schedule') := hstart.follow schedule'
    exact hsettling.agrees hsettling' hover hover' hsame

/-- The address of a device of the adapter, in lower case. -/
def lowerAddress (path : String) : Value :=
  .text ("aa:bb:cc:dd:ee:0" ++ String.ofList (path.toList.drop 20))

/-- The announcement of a device. -/
def announcement (path : String) : Operation :=
  .announce (.text path) (.dict [(.text deviceInterface, .dict [])])

/-- Two devices are announced, one of them twice; the other is banned while both have their
subscriptions. -/
def overlapping : List Turn :=
  [.operation (announcement "/org/bluez/hci0/dev_1"),
    .operation (announcement "/org/bluez/hci0/dev_2"),
    .proceed 0, .proceed 0, .proceed 0, .proceed 0,
    .operation (.ban (.text "AA-BB-CC-DD-EE-02")),
    .operation (announcement "/org/bluez/hci0/dev_1"),
    .proceed 0, .proceed 0, .proceed 0, .proceed 0, .proceed 0, .proceed 0]

/-- The same operations the other way round, one after the other. -/
def reversed : List Turn :=
  [.operation (announcement "/org/bluez/hci0/dev_1"),
    .proceed 0, .proceed 0, .proceed 0, .proceed 0,
    .operation (.ban (.text "AA-BB-CC-DD-EE-02")),
    .operation (announcement "/org/bluez/hci0/dev_2"), .proceed 0,
    .operation (announcement "/org/bluez/hci0/dev_1")]

/-- Both come to one device and one address that is ignored. -/
theorem overlapping_order :
    let start : Custody := { roster := Roster.ofPath "/org/bluez/hci0", router := {} }
    let c := start.follow lowerAddress overlapping
    let c' := start.follow lowerAddress reversed
    c.attempts = [] ∧ c'.attempts = [] ∧ Agrees c c' ∧
      c.device? "/org/bluez/hci0/dev_1" = some "AA:BB:CC:DD:EE:01" ∧
      c.device? "/org/bluez/hci0/dev_2" = none := by
  intro start c c'
  have hover : c.attempts = [] := by decide +kernel
  have hover' : c'.attempts = [] := by decide +kernel
  have hreverse : operations reversed = (operations overlapping).reverse := rfl
  have hsame : ∀ o, o ∈ operations overlapping ↔ o ∈ operations reversed := by
    intro o
    rw [hreverse, List.mem_reverse]
  obtain ⟨-, -, hagrees⟩ :=
    order_irrelevant "/org/bluez/hci0" lowerAddress List.Pairwise.nil {} overlapping
  exact ⟨hover, hover', hagrees reversed hsame hover hover', by decide +kernel, by decide +kernel⟩

end Custody

end TagGateway
