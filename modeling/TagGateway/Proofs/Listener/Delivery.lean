import TagGateway.Proofs.Listener.Run

/-!
# When the receiver is called

A listener that waits for its receiver after a move has just called it.

* `Listener.Delivery` — such a call, with the roster at that moment; `Listener.deliveries` — those
  of a run.
* `Listener.delivery?_resume`, `Listener.delivery?_wake` — a call comes only from the reply that
  brings the properties of a device, and only if the device is tracked then.
* `Listener.delivered_only_while_tracked` — what this means for runs: once an address is banned the
  receiver is not called for it.
-/

namespace TagGateway

open Bus

/-- A path of which packets may be passed on is that of a tracked device that is not ignored. -/
theorem Roster.tracks_iff {r : Roster} {path : String} :
    r.tracks path = true ↔ ∃ e, r.find? path = some e ∧ r.blacklist.contains e.mac = false := by
  unfold tracks
  cases r.find? path with
  | none => exact iff_of_false nofun nofun
  | some e => simp

/-- What is read off a reply is the advertisement that its properties make. -/
theorem Emission.read_eq_ok {reply : Reply} {a : Advertisement} {effects : List Effect} :
    Emission.read reply = .ok (a, effects) ↔ ∃ answer notices, reply = .ok answer ∧
      (answer.properties >>= Advertisement.ofProperties) = .ok (a, notices) ∧
        effects = notices.map .notice := by
  rw [read, bind_eq_ok]
  constructor
  · rintro ⟨answer, hreply, hread⟩
    obtain ⟨⟨_, notices⟩, hmade, heq⟩ := bind_eq_ok.mp hread
    cases heq
    exact ⟨answer, notices, hreply, hmade, rfl⟩
  · rintro ⟨answer, notices, hreply, hmade, rfl⟩
    exact ⟨answer, hreply, bind_eq_ok.mpr ⟨(a, notices), hmade, rfl⟩⟩

/-- An emission hands on an advertisement only when the properties have arrived and the device is
tracked then. -/
theorem Emission.resume_delivering {e : Emission} {tracked : Bool} {reply : Reply} {path : String}
    {a : Advertisement} (h : (e.resume tracked reply).2 = .wait (.delivering path a)) :
    e = .reading path ∧ tracked = true := by
  cases e with
  | reading p =>
    unfold resume at h
    cases hread : read reply with
    | error f =>
      simp only [hread] at h
      cases h
    | ok read =>
      simp only [hread, passOn] at h
      cases tracked with
      | true =>
        cases h
        exact ⟨rfl, rfl⟩
      | false => cases h
  | delivering p a' =>
    unfold resume delivered at h
    cases reply <;> cases h

theorem Emission.start_ne_delivering (p path : String) (tracked : Bool) (a : Advertisement) :
    Emission.start p tracked ≠ .wait (.delivering path a) := by
  unfold start
  cases tracked <;> exact nofun

theorem Emission.startIfDue_ne_delivering (p path : String) (names : Value) (tracked : Bool)
    (a : Advertisement) : Emission.startIfDue p names tracked ≠ .wait (.delivering path a) := by
  unfold startIfDue
  split
  · exact nofun
  · split
    · exact Emission.start_ne_delivering p path tracked a
    · exact nofun

namespace Listener

variable {κ : Type}

/-- A call of the receiver: the device it is for, what is handed over, and the roster then. -/
structure Delivery where
  path : String
  advertisement : Advertisement
  roster : Roster

/-- The call of the receiver that the listener waits for. -/
def delivery? (l : Listener κ) : Option Delivery :=
  match l.task with
  | some (.emission (.delivering path advertisement)) => some ⟨path, advertisement, l.roster⟩
  | _ => none

/-- The call of the receiver that a happening makes: only moves of the listener make any. -/
def made (l : Listener κ) : Happening κ → Option Delivery
  | .reply r => if l.takesReply then (l.resume r).1.delivery? else none
  | .wake => if l.hasItem then l.wake.1.delivery? else none
  | _ => none

/-- The calls of the receiver that happenings make, in order. -/
def deliveries (l : Listener κ) : List (Happening κ) → List Delivery
  | [] => []
  | happening :: rest => (l.made happening).toList ++ (l.perform happening).deliveries rest

/-! ## One move -/

theorem delivery?_ofDiscovery (l : Listener κ) (m : Discovery.Move (Event κ)) :
    (l.ofDiscovery m).1.delivery? = none := by
  have htask : (l.ofDiscovery m).1.task = none ∨
      (l.ofDiscovery m).1.task = some (.setup .watchingAppeared) := by
    unfold ofDiscovery
    simp only
    split <;> split <;> simp
  unfold delivery?
  rcases htask with htask | htask <;> rw [htask]

theorem delivery?_conclude (l : Listener κ) (effects : List Effect) (outcome : Except Fault Unit) :
    (l.conclude effects outcome).1.delivery? = none :=
  delivery?_ofDiscovery l _

theorem delivery?_continueEmission {l : Listener κ} {effects : List Effect} {next : Emission.Next}
    {d : Delivery} (h : (l.continueEmission effects next).1.delivery? = some d) :
    next = .wait (.delivering d.path d.advertisement) ∧ d.roster = l.roster := by
  cases next with
  | wait e =>
    cases e with
    | reading path => cases h
    | delivering path a =>
      cases h
      exact ⟨rfl, rfl⟩
  | ended emitted =>
    rw [continueEmission, delivery?_conclude] at h
    cases h
  | failed f =>
    rw [continueEmission, delivery?_conclude] at h
    cases h

theorem delivery?_continueAdmission (l : Listener κ) (effects : List Effect)
    (next : Admission.Next) : (l.continueAdmission effects next).1.delivery? = none := by
  cases next with
  | wait a => rfl
  | admitted path =>
    rw [← Option.not_isSome_iff_eq_none, Option.isSome_iff_exists]
    rintro ⟨d, hd⟩
    exact Emission.start_ne_delivering _ _ _ _ (delivery?_continueEmission hd).1
  | refused => exact delivery?_conclude l _ _
  | failed f => exact delivery?_conclude l _ _

theorem delivery?_handle (l : Listener κ) (e : Event κ) (effects : List Effect) :
    (l.handle e effects).1.delivery? = none := by
  cases e with
  | appeared path interfaces => exact delivery?_continueAdmission l _ _
  | disappeared path interfaces =>
    unfold handle
    simp only
    split
    · exact delivery?_conclude l _ _
    · exact delivery?_conclude _ _ _
  | changed path names =>
    rw [← Option.not_isSome_iff_eq_none, Option.isSome_iff_exists]
    rintro ⟨d, hd⟩
    exact Emission.startIfDue_ne_delivering _ _ _ _ _ (delivery?_continueEmission hd).1
  | foreign handler => rfl

/-- The receiver is not called when an event is taken. -/
theorem delivery?_wake (l : Listener κ) : l.wake.1.delivery? = none := by
  unfold wake
  simp only
  split
  · exact delivery?_handle _ _ _
  · exact delivery?_ofDiscovery l _

theorem delivery?_resumeSetup (l : Listener κ) (s : Setup) (reply : Reply) :
    (l.resumeSetup s reply).1.delivery? = none := by
  unfold resumeSetup
  split
  · rfl
  · rfl
  · exact delivery?_conclude _ _ _
  · split <;> exact delivery?_conclude l _ _
  · exact delivery?_conclude l _ _

/-- A reply after which the receiver is called brings the properties of a device, and the device is
tracked then. -/
theorem delivery?_resume {l : Listener κ} {reply : Reply} {d : Delivery}
    (h : (l.resume reply).1.delivery? = some d) :
    l.task = some (.emission (.reading d.path)) ∧ d.roster = l.roster ∧
      d.roster.tracks d.path = true := by
  unfold resume at h
  split at h
  · rw [delivery?_ofDiscovery] at h
    cases h
  · rw [delivery?_resumeSetup] at h
    cases h
  · rw [delivery?_continueAdmission] at h
    cases h
  · rename_i e htask
    obtain ⟨hnext, hroster⟩ := delivery?_continueEmission h
    obtain ⟨rfl, htracks⟩ := Emission.resume_delivering hnext
    rw [hroster]
    exact ⟨htask, rfl, htracks⟩
  · rw [delivery?_conclude] at h
    cases h

/-- The receiver is called only for devices that are tracked, and the roster stays as it is. -/
theorem made_tracked {l : Listener κ} {happening : Happening κ} {d : Delivery}
    (h : l.made happening = some d) : d.roster = l.roster ∧ d.roster.tracks d.path = true := by
  unfold made at h
  split at h
  · split at h
    · exact (delivery?_resume h).2
    · cases h
  · split at h
    · rw [delivery?_wake] at h
      cases h
    · cases h
  · cases h

/-! ## Runs -/

/-- Every call of a run is made by one happening. -/
theorem mem_deliveries {l : Listener κ} {happenings : List (Happening κ)} {d : Delivery}
    (h : d ∈ l.deliveries happenings) :
    ∃ before happening after, happenings = before ++ happening :: after ∧
      (l.run before).made happening = some d := by
  induction happenings generalizing l with
  | nil => cases h
  | cons happening rest ih =>
    rcases List.mem_append.mp h with h | h
    · exact ⟨[], happening, rest, rfl, Option.mem_toList.mp h⟩
    · obtain ⟨before, happening', after, rfl, hmade⟩ := ih h
      exact ⟨happening :: before, happening', after, rfl, hmade⟩

/-- An address that is on the blacklist stays there for the rest of the run. -/
theorem mem_blacklist_run {l : Listener κ} {mac : String} (h : mac ∈ l.roster.blacklist.macs)
    (happenings : List (Happening κ)) : mac ∈ (l.run happenings).roster.blacklist.macs := by
  induction happenings generalizing l with
  | nil => exact h
  | cons happening rest ih => exact ih (mem_blacklist_perform h happening)

theorem run_append (l : Listener κ) (before after : List (Happening κ)) :
    l.run (before ++ after) = (l.run before).run after :=
  List.foldl_append

/-- A device for which packets may be passed on has no banned address. -/
theorem mac_ne_of_banned {r : Roster} {e : Entry} {v : Value} {mac : String}
    (hv : Address.ofValue v = .ok mac) (hmac : mac ∈ r.blacklist.macs)
    (hwelcome : r.blacklist.contains e.mac = false) : e.mac ≠ mac := by
  rintro rfl
  rw [Blacklist.contains_eq_false,
    Address.upper_of_isCanonical (Address.isCanonical_of_ofValue hv)] at hwelcome
  exact hwelcome hmac

/-- **The receiver is called only for tracked devices that are not ignored.** Hence after the ban of
an address, whenever it comes, no call is made for a device that has it. -/
theorem delivered_only_while_tracked (l : Listener κ) (happenings : List (Happening κ)) :
    (∀ d ∈ l.deliveries happenings,
      ∃ e, d.roster.find? d.path = some e ∧ d.roster.blacklist.contains e.mac = false) ∧
      ∀ before v mac after, happenings = before ++ .ban v :: after → Address.ofValue v = .ok mac →
        ∀ d ∈ (l.run (before ++ [.ban v])).deliveries after,
          ∃ e, d.roster.find? d.path = some e ∧ e.mac ≠ mac := by
  constructor
  · intro d hd
    obtain ⟨before, happening, after, -, hmade⟩ := mem_deliveries hd
    exact Roster.tracks_iff.mp (made_tracked hmade).2
  · intro before v mac after _ hv d hd
    obtain ⟨between, happening, rest, -, hmade⟩ := mem_deliveries hd
    obtain ⟨hroster, htracks⟩ := made_tracked hmade
    obtain ⟨e, he, hwelcome⟩ := Roster.tracks_iff.mp htracks
    have hbanned : mac ∈ (l.run (before ++ [.ban v])).roster.blacklist.macs := by
      rw [run_append]
      simp only [run, List.foldl_cons, List.foldl_nil, perform_ban hv, Blacklist.mem_insert]
      exact Or.inl trivial
    have hstill := mem_blacklist_run hbanned between
    rw [← hroster] at hstill
    exact ⟨e, he, mac_ne_of_banned hv hstill hwelcome⟩

/-- An object that appears, is admitted and has its first packet passed on. -/
def admission (path mac : String) : List (Happening Unit) :=
  [.signal .appeared [.text path, .dict [(.text deviceInterface, .dict [])]],
    .wake,
    .reply (.ok { body := [.text mac] }),
    .reply .done,
    .reply (.ok { body := [.dict [(.text "Address", .text mac)]] }),
    .reply .done]

/-- Two devices are admitted, and changes of both are queued. -/
def changesQueued : List (Happening Unit) :=
  let changed := [.text deviceInterface, .dict [(.text payloadProperty, .dict [])], .list []]
  [.start, .reply .done, .reply .done, .reply .done, .reply .done,
    .reply (.error (.callFailed "" none)), .reply .done, .reply .done] ++
  admission "/org/bluez/hci0/dev_1" "AA:BB:CC:DD:EE:01" ++
  admission "/org/bluez/hci0/dev_2" "AA:BB:CC:DD:EE:02" ++
  [.signal (.device "/org/bluez/hci0/dev_1") changed,
    .signal (.device "/org/bluez/hci0/dev_2") changed]

/-- Both changes are handled. -/
def changesHandled : List (Happening Unit) :=
  [.wake, .wake, .reply (.ok { body := [.dict [(.text "Address", .text "AA:BB:CC:DD:EE:02")]] })]

theorem delivered_after_ban :
    let l : Listener Unit := ofSettings {}
    let ban : Happening Unit := .ban (.text "aa-bb-cc-dd-ee-01")
    ((l.deliveries (changesQueued ++ ban :: changesHandled)).map (·.path) =
        ["/org/bluez/hci0/dev_1", "/org/bluez/hci0/dev_2", "/org/bluez/hci0/dev_2"] ∧
      ((l.run (changesQueued ++ [ban])).deliveries changesHandled).map (·.path) =
        ["/org/bluez/hci0/dev_2"]) ∧
    (∀ d ∈ l.deliveries (changesQueued ++ ban :: changesHandled),
      ∃ e, d.roster.find? d.path = some e ∧ d.roster.blacklist.contains e.mac = false) ∧
    ∀ d ∈ (l.run (changesQueued ++ [ban])).deliveries changesHandled,
      ∃ e, d.roster.find? d.path = some e ∧ e.mac ≠ "AA:BB:CC:DD:EE:01" := by
  intro l ban
  obtain ⟨htracked, hbanned⟩ :=
    delivered_only_while_tracked l (changesQueued ++ ban :: changesHandled)
  refine ⟨⟨by decide +kernel, by decide +kernel⟩, htracked, ?_⟩
  exact hbanned changesQueued _ _ changesHandled rfl (by rfl)

end Listener

end TagGateway
