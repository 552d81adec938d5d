import TagGateway.Gateway.Detached
import TagGateway.Proofs.Blacklist
import TagGateway.Proofs.CommandLine.Overrides
import TagGateway.Proofs.Roster.Admission
import TagGateway.Rehearsal.Service

/-!
# From the options of a run to the blacklist

The addresses to ignore are written in a variable and in options. They are joined to one text, which
validation reads; the run reads it again and bans one address after the other. What comes out is a
blacklist of just these addresses.

* `Gateway.Surroundings.Keeps` — that a run works with a blacklist: `Rehearsal.Shift.keeps_listener`
  for a listener, `Gateway.Detached.keeps` for a run without one.
* `Gateway.Surroundings.Keeps.banAll` — bans of texts that write addresses, by induction.
* **`Gateway.launched_blacklist`** — the blacklist of a run that has been launched.
-/

namespace TagGateway

theorem Address.normalize_eq_ok {text mac : String} :
    normalize text = .ok mac ↔ canonical? text = some mac := by
  unfold normalize
  split
  · rename_i heq
    simp [heq]
  · rename_i heq
    simp [heq]

namespace Gateway.Surroundings

variable {σ : Type} {e : Surroundings σ} {blacklist : σ → Blacklist} {x : σ}
  {seen items : List String}

/-- What a run works with keeps a blacklist: to have an address ignored is to add it. -/
def Keeps (e : Surroundings σ) (blacklist : σ → Blacklist) : Prop :=
  ∀ {mac x new b}, (blacklist x).add (.text mac) = .ok (new, b) →
    ∃ y, e.ban mac x = (y, .ok ()) ∧ blacklist y = b

/-- One ban. -/
theorem Keeps.ban (h : e.Keeps blacklist) (hseen : (blacklist x).Lists seen) {item mac : String}
    (hitem : Address.normalize item = .ok mac) :
    ∃ y, e.ban item x = (y, .ok ()) ∧ (blacklist y).Lists (seen ++ [item]) := by
  have hvalue : Address.ofValue (.text item) = .ok mac := hitem
  obtain ⟨y, hban, hy⟩ := h (Blacklist.add_of_ofValue (blacklist x) hvalue)
  refine ⟨y, hban, ?_⟩
  rw [hy]
  exact hseen.insert hitem

/-- Texts that all write addresses are all banned. -/
theorem Keeps.banAll (h : e.Keeps blacklist) (hseen : (blacklist x).Lists seen)
    (hitems : ∀ item ∈ items, ∃ mac, Address.normalize item = .ok mac) :
    ∃ y, e.banAll items x = (y, .ok ()) ∧ (blacklist y).Lists (seen ++ items) := by
  induction items generalizing x seen with
  | nil => exact ⟨x, rfl, by simpa using hseen⟩
  | cons item rest ih =>
    obtain ⟨mac, hitem⟩ := hitems item List.mem_cons_self
    obtain ⟨y, hban, hy⟩ := h.ban hseen hitem
    obtain ⟨z, hrest, hz⟩ := ih hy fun item hmem => hitems item (List.mem_cons_of_mem _ hmem)
    refine ⟨z, ?_, by simpa using hz⟩
    unfold Surroundings.banAll
    rw [hban]
    exact hrest

/-- The rest of a run, after the bans. -/
def proceed (e : Surroundings σ) (p : Plan) (host : Host) (x : σ) : σ × Except Fault Int :=
  match e.openEndpoint p x with
  | (x, .error f) => (x, .error f)
  | (x, .ok (some code)) => (x, .ok code)
  | (x, .ok none) => e.listen p host x

theorem run_eq_proceed {y : σ} (p : Plan) (host : Host)
    (hitems : (e.gateway x).settings.blacklist = .ok items)
    (hban : e.banAll items x = (y, .ok ())) : e.run p host x = e.proceed p host y := by
  unfold run
  rw [hitems]
  simp only [hban]
  rfl

end Gateway.Surroundings

/-! ## Blacklists of runs -/

theorem Gateway.Detached.keeps : Detached.surroundings.Keeps (·.blacklist) := by
  intro mac x new b hadd
  have hban : Detached.surroundings.ban = Detached.ban := by rw [Detached.surroundings]
  refine ⟨{ x with blacklist := b }, ?_, rfl⟩
  rw [hban, Detached.ban, hadd]

namespace Rehearsal

open Bus

/-- The effects of an operation change nothing about the actor. -/
theorem World.actor_apply {σ : Type} (w : World σ) (effects : List Effect) :
    (w.apply effects).actor = w.actor := by
  unfold World.apply
  refine List.foldlRecOn (motive := fun w' : World σ => w'.actor = w.actor) effects _ rfl ?_
  intro w' hw' effect _
  cases effect with
  | notice n => exact hw'
  | unsubscribe t =>
    simp only
    split
    · exact hw'
    · exact hw'

theorem Shift.keeps_listener :
    Shift.surroundings.Keeps (·.world.actor.listener.roster.blacklist) := by
  intro mac x new b hadd
  cases hvalue : Address.ofValue (.text mac) with
  | error f => simp [Blacklist.add, hvalue, bind, Except.bind] at hadd
  | ok canonical =>
    rw [Blacklist.add_of_ofValue _ hvalue] at hadd
    obtain ⟨effects, paths, hban, -⟩ :=
      Roster.ban_of_ofValue (r := x.world.actor.listener.roster) hvalue
    cases hadd
    refine ⟨(Shift.ban mac x).1, ?_, ?_⟩
    · have hsame : Shift.surroundings.ban = Shift.ban := by rw [Shift.surroundings]
      simp [hsame, Shift.ban, Listener.ban, hban, bind, Except.bind, pure, Except.pure]
    · simp [Shift.ban, Listener.ban, hban, bind, Except.bind, pure, Except.pure, Player.set,
        World.actor_apply]

end Rehearsal

namespace Gateway

open CommandLine Settings

/-- **The blacklist of a run.** When a run is launched, the items of its blacklist are those of the
variable, followed by the parts of the options, all of them addresses. The run bans them without a
fault before it goes on, and a blacklist that was empty then has the canonical forms of just these
items. -/
theorem launched_blacklist (o : RunOptions) (place : TagGateway.Surroundings)
    {report : Report} {s : Settings} (hrun : runReport o { place } = .ok report)
    (hlaunch : report.ending = .launch s) :
    let items := itemsOf ((Assoc.get? Setting.blacklist.key place.vars).getD "") ++
      o.blacklist.flatMap itemsOf
    s.blacklist = .ok items ∧
    (∀ item ∈ items, ∃ mac, Address.normalize item = .ok mac) ∧
    ∀ {σ : Type} (e : Surroundings σ) (blacklist : σ → Blacklist), e.Keeps blacklist →
      ∀ (p : Plan) (host : Host) (x : σ), (e.gateway x).settings = s → blacklist x = {} →
        ∃ y, e.banAll items x = (y, .ok ()) ∧ e.run p host x = e.proceed p host y ∧
          (blacklist y).Lists items := by
  intro items
  have hbase : ({ place } : Settings).IsWritten := nofun
  obtain ⟨happlied, hvalid⟩ := runReport_launch hrun hlaunch
  obtain ⟨s', happlied', hwritten, hitems⟩ := o.blacklist_applied hbase
  rw [happlied] at happlied'
  obtain rfl := Except.ok.inj happlied'
  have hmet := (validate_eq_ok_iff hwritten).mp hvalid
  obtain ⟨read, hread, hcanonical⟩ := hmet .addresses
  rw [hitems] at hread
  obtain rfl := Except.ok.inj hread
  have haddresses : ∀ item ∈ items, ∃ mac, Address.normalize item = .ok mac := by
    intro item hitem
    obtain ⟨mac, hmac⟩ := Option.isSome_iff_exists.mp (hcanonical item hitem)
    exact ⟨mac, Address.normalize_eq_ok.mpr hmac⟩
  refine ⟨hitems, haddresses, ?_⟩
  intro σ e blacklist hkeeps p host x hsettings hempty
  have hnone : (blacklist x).Lists [] := hempty ▸ Blacklist.lists_nil
  obtain ⟨y, hban, hy⟩ := hkeeps.banAll hnone haddresses
  refine ⟨y, hban, Surroundings.run_eq_proceed p host ?_ hban, hy⟩
  rw [hsettings]
  exact hitems

/-- A gateway on a stage without devices, on a host without readings. -/
def onBareStage (s : Settings) : Rehearsal.Shift :=
  let absent := Fault.other "OSError" "no readings"
  { world :=
      { stage := {}
        actor :=
          { listener := Listener.ofSettings {}
            receiver :=
              { settings := s, adapter := .text "hci0", strict := false, verbose := false
                host := none } } }
    script := []
    readings :=
      { memory := .error absent, swap := .error absent, processes := .error absent
        load := .error absent, cpu := .error absent, network := .error absent
        temperatures := none, disks := .error absent } }

/-- Where a variable ignores two addresses. -/
def guarded : TagGateway.Surroundings where
  directory := "/srv"
  vars := [("BLE_BLACKLIST", " c0-ff-ee-00-00-02 ,,AA:BB:CC:DD:EE:FF")]

/-- Options that ignore one more, and the others in other spellings. -/
def wary : RunOptions where
  blacklist := ["c0:ff:ee:00:00:01, aa:bb:cc:dd:ee:ff", " ", "C0:FF:EE:00:00:02,"]

/-- Three addresses are ignored, each once. -/
theorem wary_blacklisted :
    let items := ["c0-ff-ee-00-00-02", "AA:BB:CC:DD:EE:FF", "c0:ff:ee:00:00:01",
      "aa:bb:cc:dd:ee:ff", "C0:FF:EE:00:00:02"]
    ∃ s y, runReport wary { place := guarded } = .ok { ending := .launch s } ∧
      s.blacklist = .ok items ∧
      Rehearsal.Shift.surroundings.banAll items (onBareStage s) = (y, .ok ()) ∧
      y.world.actor.listener.roster.blacklist.macs =
        ["AA:BB:CC:DD:EE:FF", "C0:FF:EE:00:00:01", "C0:FF:EE:00:00:02"] := by
  intro items
  have hbase : ({ place := guarded } : Settings).IsWritten := nofun
  obtain ⟨s, happlied, hwritten, -⟩ := wary.blacklist_applied hbase
  have hs : s = ({ place := guarded } : Settings).overlaid (wary.changes
      (itemsOf ((({ place := guarded } : Settings).written? Setting.blacklist.key).getD ""))) := by
    rw [wary.applied_eq hbase] at happlied
    exact (Except.ok.inj happlied).symm
  have hreported : Requirement.all.flatMap s.reported = [] := by
    rw [hs]
    decide +kernel
  have hvalid : s.validate = .ok () := by rw [validate_eq hwritten, hreported]
  have hrun := runReport_of_validate happlied hvalid
  obtain ⟨hitems, haddresses, hbanned⟩ := launched_blacklist wary guarded hrun rfl
  have hall : itemsOf ((Assoc.get? Setting.blacklist.key guarded.vars).getD "") ++
      wary.blacklist.flatMap itemsOf = items := by decide +kernel
  rw [hall] at hitems haddresses hbanned
  obtain ⟨y, hban, -, hlists⟩ := hbanned _ _ Rehearsal.Shift.keeps_listener
    ⟨false, false, true⟩ { root := "/sys/class" } (onBareStage s) rfl rfl
  -- a run without a bus bans the same addresses, and its blacklist can be computed
  let detached : Detached := { gateway := (onBareStage { place := guarded }).gateway }
  have hnone : detached.blacklist.Lists [] := Blacklist.lists_nil
  obtain ⟨z, hbanned', hlists'⟩ := Detached.keeps.banAll hnone haddresses
  have hmacs : (Detached.surroundings.banAll items detached).1.blacklist.macs =
      ["AA:BB:CC:DD:EE:FF", "C0:FF:EE:00:00:01", "C0:FF:EE:00:00:02"] := by decide +kernel
  rw [hbanned'] at hmacs
  have hsame : y.world.actor.listener.roster.blacklist = z.blacklist := hlists.unique hlists'
  refine ⟨s, y, hrun, hitems, hban, ?_⟩
  rw [hsame]
  exact hmacs

end Gateway

end TagGateway
