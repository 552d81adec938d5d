import Mathlib.Data.List.Induction
import TagGateway.Proofs.Listener.Delivery

/-!
# Where the addresses of a listener come from

Whether the receiver is called for a device is decided by the address that its admission was given,
but the advertisement that it gets has the address that was read with all properties. The two need
not agree if the service changes the address in between.

* `Listener.Answered` — that a task got an answer in the course of a run; `Listener.Given` and
  `Listener.Read` — the addresses in the answers to admissions and to emissions.
* `Listener.steadyB` — whether the addresses read in a run are those given, computed from the run.
* `Listener.Sourced` — the invariant: every address that is kept was given to an admission;
  `Listener.Sourced.perform` — that each step keeps it.
* `Listener.readdressed_delivered` — a run in which the receiver gets a banned address;
  **`Listener.banned_only_if_readdressed`** — that in all such runs the address was changed.
-/

namespace TagGateway

open Bus

/-- The address in the answer to an admission. -/
def Bus.Answer.givenAddress? (a : Answer) : Option String :=
  a.body.head?.map fun v => Text.upper v.display

/-- The address among all properties of a device; it is empty if they have none. -/
def Bus.Answer.readAddress? (a : Answer) : Option String :=
  a.properties.toOption.map fun props =>
    Text.upper ((Assoc.get? "Address" props).getD (.text "")).display

theorem Bus.Answer.givenAddress?_eq_some {a : Answer} {mac : String} :
    a.givenAddress? = some mac ↔ a.address = .ok mac := by
  rw [address_eq_ok]
  unfold givenAddress?
  cases a.body <;> simp

/-! ## Single steps -/

theorem Advertisement.mac_ofProperties {props : Properties} {a : Advertisement}
    {notices : List Notice} (h : ofProperties props = .ok (a, notices)) :
    a.mac = Text.upper ((Assoc.get? "Address" props).getD (.text "")).display := by
  unfold ofProperties at h
  simp only [bind, Except.bind, pure, Except.pure] at h
  split at h
  · cases h
  · split at h
    · cases h
    · split at h
      · cases h
        rfl
      · split at h
        · cases h
          rfl
        · split at h
          · cases h
          · cases h
            rfl

/-- The advertisement that is handed on has the address that was read. -/
theorem Emission.read_of_delivering {p path : String} {tracked : Bool} {reply : Reply}
    {a : Advertisement}
    (h : ((Emission.reading p).resume tracked reply).2 = .wait (.delivering path a)) :
    ∃ answer, reply = .ok answer ∧ answer.readAddress? = some a.mac := by
  unfold resume at h
  cases hread : read reply with
  | error f =>
    rw [hread] at h
    cases h
  | ok found =>
    obtain ⟨b, effects⟩ := found
    obtain ⟨answer, notices, hreply, hmade, -⟩ := read_eq_ok.mp hread
    obtain ⟨props, hprops, hb⟩ := bind_eq_ok.mp hmade
    simp only [hread, passOn] at h
    cases tracked with
    | true =>
      cases h
      refine ⟨answer, hreply, ?_⟩
      rw [Answer.readAddress?, hprops, Advertisement.mac_ofProperties hb]
      rfl
    | false => cases h

namespace Roster

variable {r : Roster} {known : String → String → Prop}

theorem mem_of_remove {path interfaces : Value} {r' : Roster} {effects : List Effect} {b : Bool}
    (h : r.remove path interfaces = .ok (r', effects, b)) : ∀ e ∈ r'.entries, e ∈ r.entries := by
  rcases remove_eq_ok h with ⟨rfl, -⟩ | ⟨e, -, rfl, -⟩
  · exact fun _ he => he
  · exact fun _ he => (List.mem_filter.mp he).1

theorem mem_of_ban {v : Value} {r' : Roster} {effects : List Effect} {paths : List String}
    (h : r.ban v = .ok (r', effects, paths)) : ∀ e ∈ r'.entries, e ∈ r.entries := by
  obtain ⟨mac, -, rfl, -⟩ := ban_eq_ok h
  exact fun _ he => (List.mem_filter.mp he).1

/-- An admission that goes on to subscribe has the address that it was given. -/
theorem addressed_subscribing {p path mac : String} {reply : Reply}
    (h : (r.addressed p reply).2 = .wait (.subscribing path mac)) :
    p = path ∧ ∃ answer, reply = .ok answer ∧ answer.givenAddress? = some mac := by
  unfold addressed at h
  split at h
  · rename_i given hgiven
    obtain ⟨answer, hreply, haddress⟩ := bind_eq_ok.mp hgiven
    split at h
    · cases h
    · cases h
      exact ⟨rfl, answer, hreply, Answer.givenAddress?_eq_some.mpr haddress⟩
  · split at h <;> cases h

/-- An admission that subscribes adds its own device if it adds any, and goes on to nothing else. -/
theorem subscribed_known {path mac : String} (hknown : known path mac)
    (hentries : ∀ e ∈ r.entries, known e.path e.mac) (reply : Reply) :
    (∀ e ∈ (r.subscribed path mac reply).1.entries, known e.path e.mac) ∧
      ∀ a, (r.subscribed path mac reply).2.2 ≠ .wait a := by
  cases reply with
  | ok answer =>
    rcases r.subscribed_ok path mac answer with ⟨effects, heq, -⟩ | ⟨-, -, effects, heq, -⟩
    · rw [heq]
      exact ⟨hentries, fun _ => nofun⟩
    · rw [heq]
      refine ⟨fun e he => ?_, fun _ => nofun⟩
      rcases List.mem_append.mp he with he | he
      · exact hentries e he
      · rw [List.mem_singleton.mp he]
        exact hknown
  | error f =>
    obtain ⟨effects, next, heq, -, hover⟩ := r.subscribed_error path mac f
    rw [heq]
    refine ⟨hentries, fun a ha => ?_⟩
    simp only at ha
    rw [ha] at hover
    cases hover

end Roster

namespace Listener

variable {κ : Type}

/-! ## What is kept -/

/-- All addresses that a listener keeps, of tracked devices and of the admission under way, are
known for their devices. -/
structure Sourced (known : String → String → Prop) (l : Listener κ) : Prop where
  entries : ∀ e ∈ l.roster.entries, known e.path e.mac
  task : ∀ path mac, l.task = some (.admission (.subscribing path mac)) → known path mac

variable {known : String → String → Prop} {l : Listener κ}

theorem sourced_ofDiscovery (hentries : ∀ e ∈ l.roster.entries, known e.path e.mac)
    (m : Discovery.Move (Event κ)) : Sourced known (l.ofDiscovery m).1 := by
  obtain ⟨discovery, effects, result⟩ := m
  unfold ofDiscovery
  cases result with
  | none =>
    refine ⟨hentries, fun path mac htask => ?_⟩
    simp only at htask
    split at htask <;> cases htask
  | some result =>
    refine ⟨fun e he => (nomatch he), fun path mac htask => ?_⟩
    simp only at htask
    split at htask <;> cases htask

theorem sourced_conclude (hentries : ∀ e ∈ l.roster.entries, known e.path e.mac)
    (effects : List Effect) (outcome : Except Fault Unit) :
    Sourced known (l.conclude effects outcome).1 :=
  sourced_ofDiscovery hentries _

theorem sourced_continueEmission (hentries : ∀ e ∈ l.roster.entries, known e.path e.mac)
    (effects : List Effect) (next : Emission.Next) :
    Sourced known (l.continueEmission effects next).1 := by
  cases next with
  | wait e => exact ⟨hentries, nofun⟩
  | ended emitted => exact sourced_conclude hentries _ _
  | failed f => exact sourced_conclude hentries _ _

theorem sourced_continueAdmission (hentries : ∀ e ∈ l.roster.entries, known e.path e.mac)
    (effects : List Effect) {next : Admission.Next}
    (hnext : ∀ path mac, next = .wait (.subscribing path mac) → known path mac) :
    Sourced known (l.continueAdmission effects next).1 := by
  cases next with
  | wait a =>
    refine ⟨hentries, fun path mac htask => hnext path mac ?_⟩
    cases htask
    rfl
  | admitted path => exact sourced_continueEmission hentries _ _
  | refused => exact sourced_conclude hentries _ _
  | failed f => exact sourced_conclude hentries _ _

theorem sourced_handle (hentries : ∀ e ∈ l.roster.entries, known e.path e.mac) (e : Event κ)
    (effects : List Effect) : Sourced known (l.handle e effects).1 := by
  cases e with
  | appeared path interfaces =>
    refine sourced_continueAdmission hentries _ fun p mac hnext => ?_
    have hnext : (l.roster.announce path interfaces).2 = .wait (.subscribing p mac) := hnext
    rcases (l.roster.announce_cases path interfaces).2 with hover | ⟨p', heq, -⟩
    · rw [hnext] at hover
      cases hover
    · rw [hnext] at heq
      cases heq
  | disappeared path interfaces =>
    unfold handle
    simp only
    split
    · exact sourced_conclude hentries _ _
    · rename_i heq
      exact sourced_conclude (fun e he => hentries e (Roster.mem_of_remove heq e he)) _ _
  | changed path names => exact sourced_continueEmission hentries _ _
  | foreign handler => exact ⟨hentries, nofun⟩

theorem sourced_resumeSetup (hentries : ∀ e ∈ l.roster.entries, known e.path e.mac) (s : Setup)
    (reply : Reply) : Sourced known (l.resumeSetup s reply).1 := by
  unfold resumeSetup
  split
  · exact ⟨hentries, nofun⟩
  · exact ⟨hentries, nofun⟩
  · rename_i answer
    refine sourced_conclude (fun e he => hentries e ?_) _ _
    rw [← roster_postListed l (listed answer).1]
    exact he
  · split
    · exact sourced_conclude hentries _ _
    · exact sourced_conclude hentries _ _
  · exact sourced_conclude hentries _ _

/-- A reply adds an address only if it answers an admission. -/
theorem Sourced.resume {reply : Reply} (h : Sourced known l)
    (hgiven : ∀ path answer mac, l.task = some (.admission (.addressing path)) →
      reply = .ok answer → answer.givenAddress? = some mac → known path mac) :
    Sourced known (l.resume reply).1 := by
  unfold Listener.resume
  split
  · exact sourced_ofDiscovery h.entries _
  · exact sourced_resumeSetup h.entries _ _
  · rename_i a htask
    cases a with
    | addressing p =>
      refine sourced_continueAdmission h.entries _ fun path mac hnext => ?_
      obtain ⟨rfl, answer, hreply, hmac⟩ := Roster.addressed_subscribing hnext
      exact hgiven p answer mac htask hreply hmac
    | subscribing p mac =>
      obtain ⟨hentries, hover⟩ := Roster.subscribed_known (h.task p mac htask) h.entries reply
      exact sourced_continueAdmission hentries _ fun path mac' hnext => absurd hnext (hover _)
  · exact sourced_continueEmission h.entries _ _
  · exact sourced_conclude h.entries _ _

theorem Sourced.wake (h : Sourced known l) : Sourced known l.wake.1 := by
  have hmove := sourced_ofDiscovery h.entries l.discovery.wake
  unfold Listener.wake
  simp only
  split
  · exact sourced_handle hmove.entries _ _
  · exact hmove

/-- **Each step keeps no address that is not known.** -/
theorem Sourced.perform {happening : Happening κ} (h : Sourced known l)
    (hgiven : ∀ path answer mac, l.task = some (.admission (.addressing path)) →
      happening = .reply (.ok answer) → answer.givenAddress? = some mac → known path mac) :
    Sourced known (l.perform happening) := by
  cases happening with
  | start =>
    simp only [Listener.perform, start]
    split
    · exact ⟨h.entries, fun path mac htask => by cases htask⟩
    · exact ⟨fun e he => absurd he List.not_mem_nil, h.task⟩
  | stop => exact ⟨h.entries, h.task⟩
  | ban v =>
    simp only [Listener.perform]
    split
    · rename_i heq
      simp only [ban, bind, Except.bind, pure, Except.pure] at heq
      split at heq
      · cases heq
      · rename_i hban
        cases heq
        exact ⟨fun e he => h.entries e (Roster.mem_of_ban hban e he), h.task⟩
    · exact h
  | remove path interfaces =>
    simp only [Listener.perform]
    split
    · rename_i heq
      exact ⟨fun e he => h.entries e (Roster.mem_of_remove heq e he), h.task⟩
    · exact h
  | signal topic body =>
    simp only [Listener.perform]
    split
    · rename_i heq
      obtain ⟨discovery, rfl⟩ := signal_eq_ok heq
      exact ⟨h.entries, h.task⟩
    · exact h
  | post name e => exact ⟨h.entries, h.task⟩
  | reply r =>
    simp only [Listener.perform]
    split
    · exact h.resume fun path answer mac htask hr => hgiven path answer mac htask (by rw [hr])
    · exact h
  | wake =>
    simp only [Listener.perform]
    split
    · exact h.wake
    · exact h

/-! ## Runs -/

/-- In the course of these happenings a task got an answer. -/
def Answered (l : Listener κ) (happenings : List (Happening κ)) (task : Task) (answer : Answer) :
    Prop :=
  ∃ before after, happenings = before ++ .reply (.ok answer) :: after ∧
    (l.run before).task = some task

/-- An admission of a device was given an address. -/
def Given (l : Listener κ) (happenings : List (Happening κ)) (path mac : String) : Prop :=
  ∃ answer, l.Answered happenings (.admission (.addressing path)) answer ∧
    answer.givenAddress? = some mac

/-- With all properties of a device an address was read. -/
def Read (l : Listener κ) (happenings : List (Happening κ)) (path mac : String) : Prop :=
  ∃ answer, l.Answered happenings (.emission (.reading path)) answer ∧
    answer.readAddress? = some mac

theorem Answered.append {happenings : List (Happening κ)} {task : Task} {answer : Answer}
    (h : l.Answered happenings task answer) (more : List (Happening κ)) :
    l.Answered (happenings ++ more) task answer := by
  obtain ⟨before, after, rfl, htask⟩ := h
  exact ⟨before, after ++ more, by simp, htask⟩

theorem Given.append {happenings : List (Happening κ)} {path mac : String}
    (h : l.Given happenings path mac) (more : List (Happening κ)) :
    l.Given (happenings ++ more) path mac := by
  obtain ⟨answer, hanswered, hmac⟩ := h
  exact ⟨answer, hanswered.append more, hmac⟩

theorem Sourced.mono {known' : String → String → Prop} (h : Sourced known l)
    (hknown : ∀ path mac, known path mac → known' path mac) : Sourced known' l :=
  ⟨fun e he => hknown _ _ (h.entries e he), fun path mac htask => hknown _ _ (h.task path mac htask)⟩

theorem sourced_ofSettings (settings : Discovery.Settings) :
    Sourced known (ofSettings settings : Listener κ) :=
  ⟨fun _ he => (nomatch he), nofun⟩

/-- Every address that is kept in the course of a run was given to an admission of its device. -/
theorem sourced_run (settings : Discovery.Settings) (happenings : List (Happening κ)) :
    Sourced ((ofSettings settings).Given happenings) ((ofSettings settings).run happenings) := by
  -- the last happening is the step, so that what was given before stays given
  induction happenings using List.reverseRecOn with
  | nil => exact sourced_ofSettings settings
  | append_singleton happenings happening ih =>
    rw [run_append]
    refine (ih.mono fun path mac h => h.append [happening]).perform ?_
    rintro path answer mac htask rfl hmac
    exact ⟨answer, ⟨happenings, [], rfl, htask⟩, hmac⟩

/-! ## Checking a run -/

/-- The tasks that got an answer in the course of these happenings, with their answers. -/
def exchanged (l : Listener κ) : List (Happening κ) → List (Task × Answer)
  | [] => []
  | happening :: rest =>
    let later := exchanged (l.perform happening) rest
    match happening, l.task with
    | .reply (.ok answer), some task => (task, answer) :: later
    | _, _ => later

theorem mem_exchanged_cons {happening : Happening κ} {rest : List (Happening κ)} {task : Task}
    {answer : Answer} :
    (task, answer) ∈ l.exchanged (happening :: rest) ↔
      (happening = .reply (.ok answer) ∧ l.task = some task) ∨
        (task, answer) ∈ (l.perform happening).exchanged rest := by
  simp only [exchanged]
  split
  · rename_i answer' task' htask
    rw [List.mem_cons, Prod.mk.injEq, htask]
    refine or_congr_left ⟨?_, ?_⟩
    · rintro ⟨rfl, rfl⟩
      exact ⟨rfl, rfl⟩
    · rintro ⟨hreply, hsame⟩
      cases hreply
      cases hsame
      exact ⟨rfl, rfl⟩
  · rename_i hother
    rw [or_iff_right]
    rintro ⟨rfl, htask⟩
    exact hother _ _ rfl htask

theorem mem_exchanged {happenings : List (Happening κ)} {task : Task} {answer : Answer} :
    (task, answer) ∈ l.exchanged happenings ↔ l.Answered happenings task answer := by
  induction happenings generalizing l with
  | nil =>
    refine iff_of_false List.not_mem_nil ?_
    rintro ⟨before, after, hsplit, -⟩
    simp at hsplit
  | cons happening rest ih =>
    rw [mem_exchanged_cons, ih]
    constructor
    · rintro (⟨rfl, htask⟩ | ⟨before, after, rfl, htask⟩)
      · exact ⟨[], rest, rfl, htask⟩
      · exact ⟨happening :: before, after, rfl, htask⟩
    · rintro ⟨before, after, hsplit, htask⟩
      cases before with
      | nil =>
        cases hsplit
        exact Or.inl ⟨rfl, htask⟩
      | cons first before =>
        cases hsplit
        exact Or.inr ⟨before, after, rfl, htask⟩

/-- Whether two exchanges are no admission and emission of one device with different addresses. -/
def sameAddress : Task × Answer → Task × Answer → Bool
  | (.admission (.addressing path), given), (.emission (.reading path'), read) =>
    path != path' || given.givenAddress?.all fun mac => read.readAddress?.all (mac == ·)
  | _, _ => true

/-- Whether the addresses that were read are those that were given. -/
def steadyB (l : Listener κ) (happenings : List (Happening κ)) : Bool :=
  (l.exchanged happenings).all fun x => (l.exchanged happenings).all (sameAddress x)

theorem sameAddress_iff {x y : Task × Answer} :
    sameAddress x y = true ↔
      ∀ path, x.1 = .admission (.addressing path) → y.1 = .emission (.reading path) →
        ∀ mac mac', x.2.givenAddress? = some mac → y.2.readAddress? = some mac' → mac = mac' := by
  unfold sameAddress
  split
  · rename_i path given path' read
    have hmacs : (given.givenAddress?.all fun mac => read.readAddress?.all (mac == ·)) = true ↔
        ∀ mac mac', given.givenAddress? = some mac → read.readAddress? = some mac' →
          mac = mac' := by
      cases given.givenAddress? <;> cases read.readAddress? <;> simp
    rw [Bool.or_eq_true, bne_iff_ne, hmacs]
    constructor
    · rintro hsame _ ⟨⟩ ⟨⟩
      exact hsame.resolve_left fun hne => hne rfl
    · intro hsame
      by_cases heq : path = path'
      · exact Or.inr (hsame path rfl (by rw [heq]))
      · exact Or.inl heq
  · rename_i hother
    refine iff_of_true rfl fun path hgiven hread => ?_
    exact (hother path x.2 path y.2 (Prod.ext hgiven rfl) (Prod.ext hread rfl)).elim

theorem steadyB_iff {happenings : List (Happening κ)} :
    l.steadyB happenings = true ↔
      ∀ path given read, l.Given happenings path given → l.Read happenings path read →
        read = given := by
  simp only [steadyB, List.all_eq_true, sameAddress_iff]
  constructor
  · rintro hsame path _ _ ⟨given, hgiven, hmac⟩ ⟨read, hread, hmac'⟩
    exact (hsame _ (mem_exchanged.mpr hgiven) _ (mem_exchanged.mpr hread) path rfl rfl _ _ hmac
      hmac').symm
  · rintro hsteady ⟨task, given⟩ hgiven ⟨task', read⟩ hread path rfl rfl mac mac' hmac hmac'
    exact (hsteady path mac mac' ⟨given, mem_exchanged.mp hgiven, hmac⟩
      ⟨read, mem_exchanged.mp hread, hmac'⟩).symm

/-! ## Calls after a ban -/

/-- The advertisement of a call has the address that was read for it. -/
theorem made_read {happening : Happening κ} {d : Delivery} (h : l.made happening = some d) :
    ∃ answer, happening = .reply (.ok answer) ∧ l.task = some (.emission (.reading d.path)) ∧
      answer.readAddress? = some d.advertisement.mac := by
  unfold made at h
  split at h
  · rename_i reply
    split at h
    · have htask := (delivery?_resume h).1
      unfold resume at h
      rw [htask] at h
      obtain ⟨answer, rfl, hmac⟩ := Emission.read_of_delivering (delivery?_continueEmission h).1
      exact ⟨answer, rfl, htask, hmac⟩
    · cases h
  · split at h
    · rw [delivery?_wake] at h
      cases h
    · cases h
  · cases h

/-- An address is on the blacklist ever after its ban. -/
theorem mem_blacklist_after (l : Listener κ) (before between : List (Happening κ)) {v : Value}
    {mac : String} (hv : Address.ofValue v = .ok mac) :
    mac ∈ (l.run (before ++ [.ban v] ++ between)).roster.blacklist.macs := by
  rw [run_append, run_append]
  refine mem_blacklist_run ?_ between
  simp only [run, List.foldl_cons, List.foldl_nil, perform_ban hv, Blacklist.mem_insert]
  exact Or.inl trivial

/-- **The receiver gets a banned address only if the address was changed.** In every run, a device
for which the receiver is called after the ban of an address is tracked with an address other than
the banned one, which its admission was given; what the receiver gets is the address that was read
with all properties. Hence if all addresses that are read are those that were given, the receiver
never gets the banned one. -/
theorem banned_only_if_readdressed (settings : Discovery.Settings) (before : List (Happening κ))
    (v : Value) (mac : String) (after : List (Happening κ)) (hv : Address.ofValue v = .ok mac) :
    let l : Listener κ := ofSettings settings
    let all := before ++ .ban v :: after
    (∀ d ∈ (l.run (before ++ [.ban v])).deliveries after,
      ∃ e, d.roster.find? d.path = some e ∧ e.mac ≠ mac ∧ l.Given all d.path e.mac ∧
        l.Read all d.path d.advertisement.mac) ∧
    ((∀ path given read, l.Given all path given → l.Read all path read → read = given) →
      ∀ d ∈ (l.run (before ++ [.ban v])).deliveries after, d.advertisement.mac ≠ mac) := by
  intro l all
  have hfrom : ∀ d ∈ (l.run (before ++ [.ban v])).deliveries after,
      ∃ e, d.roster.find? d.path = some e ∧ e.mac ≠ mac ∧ l.Given all d.path e.mac ∧
        l.Read all d.path d.advertisement.mac := by
    intro d hd
    obtain ⟨between, happening, rest, hafter, hmade⟩ := mem_deliveries hd
    rw [← run_append] at hmade
    obtain ⟨hroster, htracks⟩ := made_tracked hmade
    obtain ⟨e, he, hwelcome⟩ := Roster.tracks_iff.mp htracks
    obtain ⟨answer, rfl, htask, hmac⟩ := made_read hmade
    have hall : all = before ++ [.ban v] ++ between ++ .reply (.ok answer) :: rest := by
      show before ++ .ban v :: after = _
      rw [hafter]
      simp
    have hbanned := mem_blacklist_after l before between hv
    rw [← hroster] at hbanned
    have hfound := List.mem_of_find?_eq_some he
    have hpath : e.path = d.path := by simpa using List.find?_some he
    rw [hroster] at hfound
    have hgiven := (sourced_run settings _).entries e hfound
    rw [hpath] at hgiven
    refine ⟨e, he, mac_ne_of_banned hv hbanned hwelcome, ?_, answer, ?_, hmac⟩
    · rw [hall]
      exact hgiven.append _
    · exact ⟨_, rest, hall, htask⟩
  refine ⟨hfrom, fun hsteady d hd heq => ?_⟩
  obtain ⟨e, -, hne, hgiven, hread⟩ := hfrom d hd
  exact hne ((hsteady d.path e.mac d.advertisement.mac hgiven hread).symm.trans heq)

/-- A device is admitted, and a change of its properties is queued. -/
def changeQueued : List (Happening Unit) :=
  [.start, .reply .done, .reply .done, .reply .done, .reply .done,
    .reply (.error (.callFailed "" none)), .reply .done, .reply .done] ++
  admission "/org/bluez/hci0/dev_1" "AA:BB:CC:DD:EE:01" ++
  [.signal (.device "/org/bluez/hci0/dev_1")
    [.text deviceInterface, .dict [(.text payloadProperty, .dict [])], .list []]]

/-- The change is handled, with another address among the properties. -/
def readdressed : List (Happening Unit) :=
  [.wake, .reply (.ok { body := [.dict [(.text "Address", .text "AA:BB:CC:DD:EE:02")]] })]

/-- The change is handled, with the address that was given. -/
def unchanged : List (Happening Unit) :=
  [.wake, .reply (.ok { body := [.dict [(.text "Address", .text "AA:BB:CC:DD:EE:01")]] })]

/-- The receiver gets an address after its ban. -/
theorem readdressed_macs :
    (((ofSettings {} : Listener Unit).run
      (changeQueued ++ [.ban (.text "aa-bb-cc-dd-ee-02")])).deliveries readdressed).map
        (·.advertisement.mac) = ["AA:BB:CC:DD:EE:02"] := by
  decide +kernel

theorem readdressed_delivered :
    ¬∀ (settings : Discovery.Settings) (before : List (Happening Unit)) (v : Value) (mac : String)
      (after : List (Happening Unit)), Address.ofValue v = .ok mac →
        ∀ d ∈ ((ofSettings settings : Listener Unit).run (before ++ [.ban v])).deliveries after,
          d.advertisement.mac ≠ mac := by
  intro hnever
  have hmem : "AA:BB:CC:DD:EE:02" ∈ (((ofSettings {} : Listener Unit).run
      (changeQueued ++ [.ban (.text "aa-bb-cc-dd-ee-02")])).deliveries readdressed).map
        (·.advertisement.mac) := by
    rw [readdressed_macs]
    exact List.mem_singleton.mpr rfl
  obtain ⟨d, hd, hmac⟩ := List.mem_map.mp hmem
  exact hnever {} changeQueued (.text "aa-bb-cc-dd-ee-02") _ readdressed rfl d hd hmac

theorem readdressed_given :
    let l : Listener Unit := ofSettings {}
    let ban : Happening Unit := .ban (.text "aa-bb-cc-dd-ee-02")
    let banned := l.run (changeQueued ++ [ban])
    Address.ofValue (.text "aa-bb-cc-dd-ee-02") = .ok "AA:BB:CC:DD:EE:02" ∧
      (banned.deliveries readdressed).map (·.advertisement.mac) = ["AA:BB:CC:DD:EE:02"] ∧
      (∀ d ∈ banned.deliveries readdressed,
        ∃ e, d.roster.find? d.path = some e ∧ e.mac ≠ "AA:BB:CC:DD:EE:02" ∧
          l.Given (changeQueued ++ ban :: readdressed) d.path e.mac ∧
            l.Read (changeQueued ++ ban :: readdressed) d.path d.advertisement.mac) ∧
      (banned.deliveries unchanged).map (·.advertisement.mac) = ["AA:BB:CC:DD:EE:01"] ∧
      ∀ d ∈ banned.deliveries unchanged, d.advertisement.mac ≠ "AA:BB:CC:DD:EE:02" := by
  intro l ban banned
  have hsteady : l.steadyB (changeQueued ++ ban :: unchanged) = true := by decide +kernel
  refine ⟨rfl, readdressed_macs, ?_, by decide +kernel, ?_⟩
  · exact (banned_only_if_readdressed {} changeQueued _ _ readdressed rfl).1
  · exact (banned_only_if_readdressed {} changeQueued _ _ unchanged rfl).2 (steadyB_iff.mp hsteady)

end Listener

end TagGateway
