import TagGateway.Proofs.Assoc
import TagGateway.Proofs.Listener.Addresses
import TagGateway.Proofs.Listener.Chronicle
import TagGateway.Proofs.Roster.Custody

/-!
# Devices that are announced

Devices become known from the list of objects and from the signals of those that appear, in any
order and any number of times. While nothing is taken off and no admission is turned away, each
device that was announced is tracked, is under admission or waits in the queue.

* `Listener.Announced` — that one of some events announces a device.
* `Listener.Accounted` — the statement above, for a roster and two lists of events: those that wait,
  and all that were posted.
* `Listener.welcomes` — that a reply does not turn the device under admission away.
* `Accounted.resumed`, `Accounted.woken` — a move of the listener that takes nothing off.
* `Listener.Names` — that a reply lists an object at a path; `Listener.mem_listed` — that the
  objects which are posted from the list are these.
* `Session.Announces` — that a happening tells of a device; `Session.announced_arrivals` — that
  these are the happenings which bring such an event.
-/

namespace TagGateway

open Bus

namespace Listener

variable {κ : Type}

/-! ## Announcements -/

/-- One of some events announces a device with a path. -/
def Announced (es : List (Event κ)) (path : String) : Prop :=
  ∃ interfaces, .appeared (.text path) interfaces ∈ es ∧
    interfaces.holds deviceInterface = .ok true

theorem announced_append {es more : List (Event κ)} {path : String} :
    Announced (es ++ more) path ↔ Announced es path ∨ Announced more path := by
  unfold Announced
  simp only [List.mem_append, or_and_right, exists_or]

/-- The path of the device that is under admission. -/
def admitting? (l : Listener κ) : Option String :=
  match l.task with
  | some (.admission a) => some a.path
  | _ => none

theorem admitting?_eq_some {l : Listener κ} {a : Admission} (h : l.task = some (.admission a)) :
    l.admitting? = some a.path := by
  unfold admitting?
  rw [h]

theorem admitting?_eq_none {l : Listener κ} (h : ∀ a, l.task ≠ some (.admission a)) :
    l.admitting? = none := by
  unfold admitting?
  split
  · rename_i htask
    exact absurd htask (h _)
  · rfl

/-- Every device that was announced is tracked, is under admission or waits. -/
structure Accounted (r : Roster) (admitting : Option String) (waiting posted : List (Event κ)) :
    Prop where
  tracked : ∀ path, r.contains path = true → r.covers path = true ∧ Announced posted path
  underway : ∀ path, admitting = some path →
    r.contains path = false ∧ r.covers path = true ∧ Announced posted path
  complete : ∀ path, r.covers path = true → Announced posted path →
    r.contains path = true ∨ admitting = some path ∨ Announced waiting path

variable {r r' : Roster} {admitting : Option String} {waiting posted : List (Event κ)}

theorem Accounted.post (h : Accounted r admitting waiting posted) (new : List (Event κ)) :
    Accounted r admitting (waiting ++ new) (posted ++ new) where
  tracked path hpath :=
    ⟨(h.tracked path hpath).1, announced_append.mpr (Or.inl (h.tracked path hpath).2)⟩
  underway path hpath :=
    ⟨(h.underway path hpath).1, (h.underway path hpath).2.1,
      announced_append.mpr (Or.inl (h.underway path hpath).2.2)⟩
  complete path hcovers hannounced := by
    rw [announced_append] at hannounced ⊢
    rcases hannounced with hold | hnew
    · exact (h.complete path hcovers hold).imp_right (Or.imp_right Or.inl)
    · exact Or.inr (Or.inr (Or.inr hnew))

/-- Only the paths of a roster matter. -/
theorem Accounted.congr (h : Accounted r admitting waiting posted)
    (hadapter : r'.adapterPath = r.adapterPath)
    (hcontains : ∀ path, r'.contains path = r.contains path) :
    Accounted r' admitting waiting posted := by
  refine ⟨fun path => ?_, fun path => ?_, fun path => ?_⟩
  · rw [hcontains, Custody.covers_congr hadapter]
    exact h.tracked path
  · rw [hcontains, Custody.covers_congr hadapter]
    exact h.underway path
  · rw [hcontains, Custody.covers_congr hadapter]
    exact h.complete path

/-- An event may be passed over if it announces no device, or one that is tracked. -/
theorem Accounted.pass {e : Event κ} (h : Accounted r none (e :: waiting) posted)
    (he : ∀ path interfaces, e = .appeared (.text path) interfaces →
      interfaces.holds deviceInterface = .ok true → r.covers path = true →
      r.contains path = true) : Accounted r none waiting posted where
  tracked := h.tracked
  underway := nofun
  complete path hcovers hannounced := by
    rcases h.complete path hcovers hannounced with hpath | hnone | ⟨interfaces, hmem, hholds⟩
    · exact Or.inl hpath
    · cases hnone
    · rcases List.mem_cons.mp hmem with heq | hmem
      · exact Or.inl (he path interfaces heq.symm hholds hcovers)
      · exact Or.inr (Or.inr ⟨interfaces, hmem, hholds⟩)

/-- An event that announces a device which is not tracked begins its admission. -/
theorem Accounted.begin {path : String} {interfaces : Value}
    (h : Accounted r none (.appeared (.text path) interfaces :: waiting) posted)
    (hmem : .appeared (.text path) interfaces ∈ posted) (hpath : r.contains path = false)
    (hholds : interfaces.holds deviceInterface = .ok true) (hcovers : r.covers path = true) :
    Accounted r (some path) waiting posted where
  tracked := h.tracked
  underway := by
    rintro _ ⟨⟩
    exact ⟨hpath, hcovers, interfaces, hmem, hholds⟩
  complete path' hcovers' hannounced := by
    rcases h.complete path' hcovers' hannounced with hpath' | hnone | ⟨interfaces', hmem', hholds'⟩
    · exact Or.inl hpath'
    · cases hnone
    · rcases List.mem_cons.mp hmem' with heq | hmem'
      · cases heq
        exact Or.inr (Or.inl rfl)
      · exact Or.inr (Or.inr ⟨interfaces', hmem', hholds'⟩)

/-- A device that is admitted is tracked. -/
theorem Accounted.admit {path : String} (h : Accounted r (some path) waiting posted)
    (hadapter : r'.adapterPath = r.adapterPath)
    (hcontains : ∀ p, r'.contains p = true ↔ r.contains p = true ∨ p = path) :
    Accounted r' none waiting posted := by
  refine ⟨fun p => ?_, nofun, fun p => ?_⟩
  · rw [hcontains, Custody.covers_congr hadapter]
    rintro (hp | rfl)
    · exact h.tracked p hp
    · exact (h.underway p rfl).2
  · rw [hcontains, Custody.covers_congr hadapter]
    intro hcovers hannounced
    rcases h.complete p hcovers hannounced with hp | hp | hp
    · exact Or.inl (Or.inl hp)
    · exact Or.inl (Or.inr (Option.some.inj hp).symm)
    · exact Or.inr (Or.inr hp)

/-! ## Moves -/

variable {l l' : Listener κ} {tickets : List Ticket}

/-- A reply does not turn the device under admission away: what it asked for has succeeded, and its
address is there and not ignored. -/
def welcomes (l : Listener κ) (r : Reply) : Bool :=
  match l.task, r with
  | some (.admission _), .error _ => false
  | some (.admission (.addressing _)), .ok a =>
    a.givenAddress?.any fun mac => !l.roster.blacklist.contains mac
  | some (.admission (.subscribing _ mac)), .ok _ => !l.roster.blacklist.contains mac
  | _, _ => true

/-- A reply that takes no device off adds at most the one under admission. -/
theorem Resumed.roster {r : Reply} (h : Resumed l r l' tickets)
    (hkept : l.roster.entries ⊆ l'.roster.entries) :
    l'.roster = l.roster ∨ ∃ path mac t, l.task = some (.admission (.subscribing path mac)) ∧
      l.roster.contains path = false ∧
        l'.roster = { l.roster with entries := l.roster.entries ++ [⟨path, mac, t⟩] } := by
  cases h with
  | ended d htask hending hevents hphase =>
    have hnone := List.eq_nil_of_subset_nil hkept
    exact Or.inl (by rw [← hnone])
  | admitted path mac a htask hr hpath hmac =>
    exact Or.inr ⟨path, mac, a.ticket, htask, hpath, rfl⟩
  | _ => exact Or.inl rfl

/-- An event that takes no device off leaves the roster. -/
theorem Woken.roster (h : Woken l l' tickets) (hkept : l.roster.entries ⊆ l'.roster.entries) :
    l'.roster = l.roster := by
  cases h with
  | removed name path interfaces e rest hqueue he =>
    have hmem := hkept he
    simp at hmem
  | _ => rfl

/-- **A reply that takes no device off and turns none away.** -/
theorem Accounted.resumed {r : Reply}
    (h : Accounted l.roster l.admitting? l.discovery.events posted)
    (hresumed : Resumed l r l' tickets) (hkept : l.roster.entries ⊆ l'.roster.entries)
    (hwelcome : l.welcomes r = true) :
    Accounted l'.roster l'.admitting? l'.discovery.events (posted ++ l.arrived r) := by
  have hpost := h.post (l.arrived r)
  rw [← hresumed.events] at hpost
  have hroster := hresumed.roster hkept
  unfold welcomes at hwelcome
  -- all moves that neither end an admission nor go on with it
  have hquiet (hbefore : ∀ a, l.task ≠ some (.admission a))
      (hafter : ∀ a, l'.task ≠ some (.admission a)) :
      Accounted l'.roster l'.admitting? l'.discovery.events (posted ++ l.arrived r) := by
    rw [admitting?_eq_none hbefore] at hpost
    rw [admitting?_eq_none hafter]
    rcases hroster with hsame | ⟨path, mac, t, htask, -⟩
    · rw [hsame]
      exact hpost
    · exact absurd htask (hbefore _)
  cases hresumed with
  | moved d htask hmoves =>
    refine hquiet (by rw [htask]; nofun) fun a ha => ?_
    cases task_following ha
  | ended d htask hending hevents hphase
  | watching a htask hr
  | listing a htask hr
  | listed a htask hr hall
  | mislisted a f htask hr hf
  | unlisted f htask hr hf
  | unprepared s f htask hr
  | delivering path answer a notices htask hr ha htracks
  | dropped path htask hdropped
  | delivered path a htask
  | served htask =>
    exact hquiet (by rw [htask]; nofun) nofun
  | addressed path mac a htask hr haddress hmac =>
    rw [admitting?_eq_some htask] at hpost
    exact hpost
  | ignored path mac a htask hr haddress hmac =>
    subst hr
    rw [htask] at hwelcome
    simp only [Answer.givenAddress?_eq_some.mpr haddress, Option.any_some, hmac] at hwelcome
    cases hwelcome
  | unaddressed path a f htask hr hf =>
    subst hr
    rw [htask] at hwelcome
    cases hgiven : a.givenAddress? with
    | some mac =>
      rw [Answer.givenAddress?_eq_some.mp hgiven] at hf
      cases hf
    | none =>
      simp only [hgiven] at hwelcome
      cases hwelcome
  | unadmitted a f htask hr =>
    subst hr
    rw [htask] at hwelcome
    cases hwelcome
  | returned path mac a htask hr hrefused =>
    subst hr
    rw [htask] at hwelcome
    rcases hrefused with hpath | hmac
    · rw [(h.underway path (admitting?_eq_some htask)).1] at hpath
      cases hpath
    · simp only [hmac] at hwelcome
      cases hwelcome
  | admitted path mac a htask hr hpath hmac =>
    rw [admitting?_eq_some htask] at hpost
    exact hpost.admit rfl fun p => Roster.contains_append _

/-- **An item of the queue that takes no device off.** -/
theorem Accounted.woken (h : Accounted l.roster l.admitting? l.discovery.events posted)
    (hwoken : Woken l l' tickets) (htask : l.task = none)
    (hposted : l.discovery.events ⊆ posted) (hkept : l.roster.entries ⊆ l'.roster.entries) :
    Accounted l'.roster l'.admitting? l'.discovery.events posted := by
  rw [admitting?_eq_none (by rw [htask]; nofun)] at h
  have hroster := hwoken.roster hkept
  have hevents {name : String} {e : Event κ} {rest : List (Discovery.Item (Event κ))}
      (hqueue : l.discovery.queue = .event name e :: rest) :
      l.discovery.events = e :: rest.filterMap Discovery.Item.event? := by
    unfold Discovery.events
    rw [hqueue]
    rfl
  cases hwoken with
  | moved d hqueue hmoves =>
    rw [admitting?_eq_none fun a ha => by cases task_following ha]
    show Accounted l.roster none d.events posted
    rw [hmoves.events]
    exact h
  | addressing name path interfaces rest hqueue hpath hholds hcovers =>
    rw [hevents hqueue] at h hposted
    exact h.begin (hposted List.mem_cons_self) hpath hholds hcovers
  | refused name path interfaces rest hqueue hrefused =>
    rw [hevents hqueue] at h
    refine h.pass fun p interfaces' heq hholds hcovers => ?_
    cases heq
    exact hrefused p rfl hholds hcovers
  | removed name path interfaces e rest hqueue he =>
    rw [hevents hqueue] at h
    rw [hroster]
    exact h.pass nofun
  | unremoved name path interfaces rest hqueue
  | reading name path names rest hqueue hdue htracks
  | passed name path names rest hqueue hpassed
  | foreign name handler rest hqueue =>
    rw [hevents hqueue] at h
    exact h.pass nofun

/-! ## Where announcements come from -/

/-- The reply that lists all objects has an object at a path, with these interfaces. The paths of a
list are texts, all of them: others have no order. -/
def Names (a : Answer) (path : String) (interfaces : Value) : Prop :=
  ∃ objects rest, a.body = .dict objects :: rest ∧
    (∀ object ∈ objects, ∃ text, object.1 = .text text) ∧
      Assoc.get? (.text path) objects = some interfaces

/-- Of the paths that are looked up each is found until one is not there. -/
theorem mem_lookedUp {objects path interfaces : Value} {paths : List Value}
    (h : (path, interfaces) ∈ (lookedUp objects paths).1) :
    path ∈ paths ∧ objects.item path = .ok interfaces := by
  induction paths with
  | nil => cases h
  | cons first rest ih =>
    unfold lookedUp at h
    split at h
    · cases h
    · rename_i found hfound
      rcases List.mem_cons.mp h with heq | hmem
      · cases heq
        exact ⟨List.mem_cons_self, hfound⟩
      · exact ⟨List.mem_cons_of_mem _ (ih hmem).1, (ih hmem).2⟩

theorem mem_lookedUp_of_all {objects path interfaces : Value} {paths : List Value}
    (hall : ∀ p ∈ paths, ∃ found, objects.item p = .ok found) (hpath : path ∈ paths)
    (hitem : objects.item path = .ok interfaces) :
    (path, interfaces) ∈ (lookedUp objects paths).1 := by
  induction paths with
  | nil => cases hpath
  | cons first rest ih =>
    obtain ⟨found, hfound⟩ := hall first List.mem_cons_self
    unfold lookedUp
    rw [hfound]
    rcases List.mem_cons.mp hpath with rfl | hrest
    · rw [hfound] at hitem
      cases hitem
      exact List.mem_cons_self
    · exact List.mem_cons_of_mem _
        (ih (fun p hp => hall p (List.mem_cons_of_mem _ hp)) hrest)

/-- A text leads to an item in a dictionary alone, where it is a key. -/
theorem item_text_eq_ok {v interfaces : Value} {path : String} :
    v.item (.text path) = .ok interfaces ↔
      ∃ objects, v = .dict objects ∧ Assoc.get? (.text path) objects = some interfaces := by
  constructor
  · intro h
    cases v with
    | dict objects =>
      simp only [Value.item] at h
      split at h
      · rename_i found hfound
        cases h
        exact ⟨objects, rfl, hfound⟩
      · cases h
    | _ => cases h
  · rintro ⟨objects, rfl, hget⟩
    simp only [Value.item, hget]

/-- Under each key of a dictionary that is a text there is an item. -/
theorem exists_item {objects : List (Value × Value)} {v : Value} (htext : v.IsText)
    (hv : v ∈ objects.map (·.1)) : ∃ found, (Value.dict objects).item v = .ok found := by
  obtain ⟨path, rfl⟩ := htext
  obtain ⟨found, hfound⟩ := Option.isSome_iff_exists.mp (Value.get?_text_isSome.mpr hv)
  exact ⟨found, item_text_eq_ok.mpr ⟨objects, rfl, hfound⟩⟩

/-- The objects at paths that are posted are those of the reply. -/
theorem mem_listed {a : Answer} {path : String} {interfaces : Value} :
    (.text path, interfaces) ∈ (listed a).1 ↔ Names a path interfaces := by
  unfold listed
  constructor
  · intro h
    split at h
    · cases h
    · rename_i head rest hbody
      split at h
      · cases h
      · rename_i paths hpaths
        obtain ⟨keys, hkeys, hascending⟩ := bind_eq_ok.mp hpaths
        obtain ⟨hpath, hitem⟩ := mem_lookedUp h
        obtain ⟨objects, rfl, hget⟩ := item_text_eq_ok.mp hitem
        cases hkeys
        have hmem := (Value.perm_of_ascending hascending).subset hpath
        have htexts := Value.isText_of_ascending hascending hmem
        exact ⟨objects, rest, hbody,
          fun object hobject => htexts _ (List.mem_map_of_mem hobject), hget⟩
  · rintro ⟨objects, rest, hbody, htexts, hget⟩
    have hkeys : ∀ v ∈ objects.map (·.1), v.IsText := by
      intro v hv
      obtain ⟨object, hobject, rfl⟩ := List.mem_map.mp hv
      exact htexts object hobject
    obtain ⟨paths, hpaths⟩ := Value.exists_ascending hkeys
    have hfound : (Value.dict objects).elements >>= Value.ascending = .ok paths := hpaths
    rw [hbody]
    simp only [hfound]
    have hperm := Value.perm_of_ascending hpaths
    have hpath : .text path ∈ paths :=
      hperm.symm.subset (Value.get?_text_isSome.mp (by rw [hget]; rfl))
    exact mem_lookedUp_of_all (fun p hp => exists_item (hkeys p (hperm.subset hp))
      (hperm.subset hp)) hpath (item_text_eq_ok.mpr ⟨objects, rfl, hget⟩)

theorem event?_eq_appeared {topic : Topic} {values : List Value} {path interfaces : Value} :
    (event? topic values : Option (Event κ)) = some (.appeared path interfaces) ↔
      topic = .appeared ∧ values = [path, interfaces] := by
  constructor
  · intro h
    unfold event? at h
    split at h
    · cases h
      exact ⟨rfl, rfl⟩
    · cases h
    · split at h
      · cases h
      · split at h <;> cases h
    · cases h
  · rintro ⟨rfl, rfl⟩
    rfl

namespace Session

variable {x : Session κ}

/-- A happening tells of a device: as the signal of an object that appeared, through an active
subscription, or in the list of all objects. -/
inductive Announces (x : Session κ) (path : String) : Happening κ → Prop
  | appeared (route : Route) (body interfaces : Value) (t : Ticket) :
      t ∈ x.router.targets route → x.router.isActive t = true → x.topics[t]? = some .appeared →
      body.unwrap.elements = .ok [.text path, interfaces] →
      interfaces.holds deviceInterface = .ok true → Announces x path (.signal route body)
  | listed (a : Answer) (interfaces : Value) :
      x.listener.task = some (.setup .listing) → Names a path interfaces →
      interfaces.holds deviceInterface = .ok true → Announces x path (.reply (.ok a))

/-- While a run lasts these are the happenings that post an announcement. -/
theorem announced_arrivals (hlive : x.listener.discovery.isLive = true) {happening : Happening κ}
    {path : String} : Announced (x.arrivals happening) path ↔ x.Announces path happening := by
  unfold arrivals
  rw [if_pos hlive]
  constructor
  · rintro ⟨interfaces, hmem, hholds⟩
    cases happening with
    | signal route body =>
      obtain ⟨t, htarget, hactive, topic, values, htopic, hvalues, hevent⟩ := mem_brought.mp hmem
      obtain ⟨rfl, rfl⟩ := event?_eq_appeared.mp hevent
      exact .appeared route body interfaces t htarget hactive htopic hvalues hholds
    | reply r =>
      simp only [arrived] at hmem
      split at hmem
      · rename_i a htask
        obtain ⟨⟨_, found⟩, hobject, heq⟩ := List.mem_map.mp hmem
        cases heq
        exact .listed a found htask (mem_listed.mp hobject) hholds
      · cases hmem
    | post name handler => cases List.mem_singleton.mp hmem
    | _ => cases hmem
  · intro hannounces
    cases hannounces with
    | appeared route body interfaces t htarget hactive htopic hvalues hholds =>
      exact ⟨interfaces, mem_brought.mpr ⟨t, htarget, hactive, .appeared, _, htopic, hvalues, rfl⟩,
        hholds⟩
    | listed a interfaces htask hnamed hholds =>
      refine ⟨interfaces, ?_, hholds⟩
      simp only [arrived, htask]
      exact List.mem_map.mpr ⟨(.text path, interfaces), mem_listed.mpr hnamed, rfl⟩

end Session

end Listener

end TagGateway
