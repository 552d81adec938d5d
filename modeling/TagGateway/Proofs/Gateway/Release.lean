import TagGateway.Proofs.Rehearsal.Service
import TagGateway.Proofs.Settings.Validation

/-!
# What a run gives back

A run takes up an endpoint, signals of the host and a listener. However it goes, it gives back what
it took up, once, and nothing else; its exit code says how the listener ended.

* `Gateway.ofKind` — the deeds of a kind; `Gateway.GivesBack` — that deeds give back what they took
  up; `Gateway.IsGuide` — that a notice is a guide to a fault.
* **`Gateway.Surroundings.Lawful.gives_back`** — every run of a gateway with valid settings.
-/

namespace TagGateway.Gateway

/-! ## Deeds by their kind -/

/-- The deeds of a kind. -/
def ofKind (k : Deed.Kind) (deeds : List Deed) : List Deed := deeds.filter (·.kind = k)

section

variable {k : Deed.Kind} {signals : List Int} {new previous : Int → SignalHandler}

theorem ofKind_append (deeds others : List Deed) :
    ofKind k (deeds ++ others) = ofKind k deeds ++ ofKind k others :=
  List.filter_append ..

theorem mem_of_ofKind {d : Deed} {deeds : List Deed} (h : d ∈ ofKind k deeds) : d ∈ deeds :=
  List.mem_of_mem_filter h

theorem ofKind_say (hk : k ≠ .say) (notices : List Notice) :
    ofKind k (notices.map .say) = [] := by
  simp [ofKind, Deed.kind, hk.symm]

theorem ofKind_handle (hk : k ≠ .handle) :
    ofKind k (signals.map fun n => .handle n (new n) (previous n)) = [] := by
  simp [ofKind, Deed.kind, hk.symm]

theorem ofKind_handle_self :
    ofKind .handle (signals.map fun n => .handle n (new n) (previous n)) =
      signals.map fun n => .handle n (new n) (previous n) := by
  simp [ofKind, Deed.kind]

end

/-- The deeds of a run give back what it took up: the listener is started once and asked to stop
once, an endpoint that was opened is closed once, and the signals that were taken are given back to
those who took them before. -/
structure GivesBack (p : Plan) (hs : SignalHandlers) (deeds : List Deed) : Prop where
  start : ofKind .start deeds = [.start]
  stop : ofKind .stop deeds = [.stop]
  closeEndpoint : ofKind .closeEndpoint deeds = if p.serves then [.closeEndpoint] else []
  handle : ofKind .handle deeds = (p.signals.map fun n => .handle n .gateway (hs n)) ++
    p.signals.map fun n => .handle n (hs n) .gateway

section

variable {k : Deed.Kind} {p : Plan} {hs : SignalHandlers} {start report : String}
  {outcome : Option (Except Fault Unit)} {last : List Notice} {address port : Value}

/-- But for signals and notices, a run opens the endpoint, has the listener work and closes the
endpoint. -/
theorem ofKind_working (hsay : k ≠ .say) (hhandle : k ≠ .handle) :
    ofKind k ((if p.serves then [.serve address port (.ok ())] else []) ++
        listening p hs start report outcome last) =
      ofKind k (if p.serves then
          [.serve address port (.ok ()), .start, .wait, .stop, .join outcome, .closeEndpoint]
        else [.start, .wait, .stop, .join outcome]) := by
  have hstart : ofKind k [.say ⟨.info, start, none⟩, .start, .wait, .stop, .join outcome] =
      ofKind k [.start, .wait, .stop, .join outcome] := by
    simp [ofKind, Deed.kind, hsay.symm]
  unfold listening
  simp only [ofKind_append, ofKind_say hsay, ofKind_handle hhandle, hstart]
  cases p.serves <;> simp [← ofKind_append]

/-- What is done while a listener works, with the endpoint that was opened before. -/
theorem givesBack_working :
    GivesBack p hs ((if p.serves then [.serve address port (.ok ())] else []) ++
      listening p hs start report outcome last) where
  start := by
    rw [ofKind_working (by decide) (by decide)]
    cases p.serves <;> rfl
  stop := by
    rw [ofKind_working (by decide) (by decide)]
    cases p.serves <;> rfl
  closeEndpoint := by
    rw [ofKind_working (by decide) (by decide)]
    cases p.serves <;> rfl
  handle := by
    unfold listening
    simp only [ofKind_append, ofKind_say, ofKind_handle_self, ne_eq, reduceCtorEq,
      not_false_eq_true]
    cases p.serves <;> simp [ofKind, Deed.kind]

/-! ## Guides -/

/-- A notice is a guide to some fault. -/
def IsGuide (n : Notice) : Prop :=
  ∃ adapter host f, n = ⟨.error, (Checkup.guide adapter host f).1, none⟩

theorem IsGuide.level {n : Notice} (h : IsGuide n) : n.level = .error := by
  obtain ⟨adapter, host, f, rfl⟩ := h
  rfl

theorem guide_starts (adapter : Value) (host : Host) (f : Fault) :
    ∃ rest, (Checkup.guide adapter host f).1 = "BLE Troubleshooting Guide:" ++ rest := by
  obtain ⟨second, more, hlines⟩ : ∃ second more, (Checkup.guide adapter host f).1 =
      "\n".intercalate ("BLE Troubleshooting Guide:" :: second :: more) := ⟨_, _, rfl⟩
  rw [hlines, String.intercalate_cons_cons, String.append_assoc]
  exact ⟨_, rfl⟩

/-- A guide is no verdict on a listener. -/
theorem not_isGuide_verdict {n : Notice} (h : n ∈ verdict outcome) : ¬IsGuide n := by
  rintro ⟨adapter, host, f, rfl⟩
  match outcome with
  | none => simp [verdict] at h
  | some (.ok ()) => simp [verdict] at h
  | some (.error f') =>
    obtain ⟨rest, hrest⟩ := guide_starts adapter host f
    simp only [verdict, List.mem_singleton, hrest] at h
    have htext : "BLE Troubleshooting Guide:" ++ rest = "BLE listener failed: " ++ f'.message :=
      congrArg Notice.message h
    have hhead := congrArg (fun s => s.toList.take 5) htext
    simp [String.toList_append] at hhead

theorem exists_guide_iff :
    (∃ n, .say n ∈ (if p.serves then [.serve address port (.ok ())] else []) ++
      listening p hs start report outcome last ∧ IsGuide n) ↔ ∃ n ∈ last, IsGuide n := by
  have hsaid (n : Notice) : .say n ∈ (if p.serves then [.serve address port (.ok ())] else []) ++
      listening p hs start report outcome last ↔
      n ∈ p.remark ∨ n = ⟨.info, start, none⟩ ∨ n ∈ verdict outcome ∨ n = ⟨.info, report, none⟩ ∨
        n ∈ last := by
    unfold listening
    cases p.serves <;> simp
  constructor
  · rintro ⟨n, hn, hguide⟩
    rcases (hsaid n).mp hn with hremark | rfl | hverdict | rfl | hlast
    · have hlevel := hguide.level
      unfold Plan.remark at hremark
      split at hremark
      · rw [List.mem_singleton.mp hremark] at hlevel
        cases hlevel
      · cases hremark
    · cases hguide.level
    · exact absurd hguide (not_isGuide_verdict hverdict)
    · cases hguide.level
    · exact ⟨n, hlast, hguide⟩
  · rintro ⟨n, hlast, hguide⟩
    exact ⟨n, (hsaid n).mpr (Or.inr (Or.inr (Or.inr (Or.inr hlast)))), hguide⟩

theorem exists_guidance_iff {adapter : Value} {host : Host} {f : Fault} :
    (∃ n ∈ guidance adapter host f, IsGuide n) ↔ needsGuide f = true := by
  unfold guidance
  constructor
  · rintro ⟨n, hn, -⟩
    by_contra hneeds
    rw [if_neg hneeds] at hn
    cases hn
  · intro hneeds
    rw [if_pos hneeds]
    exact ⟨_, List.mem_append_right _ (List.mem_singleton_self _), adapter, host, f, rfl⟩

end

namespace Surroundings

variable {σ : Type} {e : Surroundings σ} {handlers : σ → SignalHandlers}

/-- **What a run gives back.** Take a gateway with valid settings that has not failed yet, in any
surroundings that leave it alone, whenever they ask for a shutdown, and a listener that ends in
time. First all items of the blacklist are banned. If the endpoint cannot be opened, that is all:
nothing is started, stopped or closed, no signal is touched, and the exit code is 1 if the host is
to blame. Else the listener is started and asked to stop once, the endpoint is closed once if there
is one, the signals are given back to those who took them, and the exit code is 1 just if the
listener failed; a guide is given just if the service could not be reached or discovery was lost. -/
theorem Lawful.gives_back (laws : e.Lawful handlers) (p : Plan) (host : Host) {x : σ}
    (hwritten : (e.gateway x).settings.IsWritten)
    (hvalid : (e.gateway x).settings.validate = .ok ()) (hfresh : (e.gateway x).fault = none)
    (htime : .join none ∉ e.journal p host x) :
    ∃ items address port later, (e.gateway x).settings.blacklist = .ok items ∧
      (e.gateway x).settings.address = .ok address ∧ (e.gateway x).settings.port = .ok port ∧
      e.journal p host x = items.map (.ban · (.ok ())) ++ later ∧ ofKind .ban later = [] ∧
      handlers (e.run p host x).1 = handlers x ∧
      ((∃ f, (∃ y, (e.serve address (.int port) y).2 = .error f) ∧
          ofKind .serve later = [.serve address (.int port) (.error f)] ∧
          (∀ d ∈ later, d.kind = .serve ∨ d.kind = .say) ∧
          (e.run p host x).2 =
            match f with
            | .system _ | .isDirectory _ | .notDirectory _ | .fileExists _ | .noSuchFile _
            | .nameTooLong _ | .unreachable _ => .ok 1
            | .other kind _ =>
              if kind ∈ ["OSError", "BlockingIOError", "ChildProcessError", "ConnectionError",
                "BrokenPipeError", "ConnectionAbortedError", "ConnectionRefusedError",
                "ConnectionResetError", "InterruptedError", "PermissionError",
                "ProcessLookupError", "TimeoutError", "gaierror", "herror"] then .ok 1
              else .error f
            | _ => .error f) ∨
        ∃ r, (∃ y, (e.join y).2 = some r) ∧ ofKind .join later = [.join (some r)] ∧
          ofKind .serve later = (if p.serves then [.serve address (.int port) (.ok ())] else []) ∧
          GivesBack p (handlers x) later ∧
          ((e.run p host x).2 = .ok 1 ↔ ∃ f, r = .error f) ∧
          ((e.run p host x).2 = .ok 0 ↔ r = .ok ()) ∧
          ((∃ n, .say n ∈ later ∧ IsGuide n) ↔
            (∃ m, r = .error (.unreachable m)) ∨ ∃ m, r = .error (.discoveryLost m))) := by
  have hmet := (Settings.validate_eq_ok_iff hwritten).mp hvalid
  obtain ⟨items, hitems, hcanonical⟩ := hmet .addresses
  obtain ⟨port, hport, -⟩ := hmet .port
  have haddress := Settings.text_eq hwritten Setting.address.key "0.0.0.0"
  have haddresses : ∀ item ∈ items, ∃ mac, Address.normalize item = .ok mac := by
    intro item hitem
    obtain ⟨mac, hmac⟩ := Option.isSome_iff_exists.mp (hcanonical item hitem)
    exact ⟨mac, Address.normalize_eq_ok.mpr hmac⟩
  obtain ⟨later, hjournal, hhandlers, hrest⟩ :=
    laws.run p host hitems haddresses haddress hport hfresh
  -- what the journal says was given was given
  have hcame {d : Deed} (hd : d ∈ later) : e.Came d := by
    have hmem : d ∈ e.journal p host x := hjournal ▸ List.mem_append_right _ hd
    exact came_of_mem_journal hmem
  refine ⟨items, _, port, later, hitems, haddress, hport, hjournal, ?_⟩
  rcases hrest with ⟨f, n, hsystem, rfl, hcode⟩ | ⟨f, hsystem, rfl, hcode⟩ |
    ⟨start, report, outcome, rfl, hcode⟩
  · refine ⟨rfl, hhandlers, Or.inl ⟨f, hcame List.mem_cons_self, rfl, by simp [Deed.kind], ?_⟩⟩
    rw [hcode]
    cases f with
    | other kind message => exact (if_pos (List.contains_iff_mem.mp hsystem)).symm
    | _ => first | rfl | cases hsystem
  · refine ⟨rfl, hhandlers, Or.inl ⟨f, hcame List.mem_cons_self, rfl, by simp [Deed.kind], ?_⟩⟩
    rw [hcode]
    cases f with
    | other kind message =>
      exact (if_neg fun hkind =>
        Bool.eq_false_iff.mp hsystem (List.contains_iff_mem.mpr hkind)).symm
    | _ => first | rfl | cases hsystem
  · obtain ⟨r, rfl⟩ : ∃ r, outcome = some r := by
      cases outcome with
      | some r => exact ⟨r, rfl⟩
      | none =>
        refine absurd ?_ htime
        rw [hjournal]
        exact List.mem_append_right _ (List.mem_append_right _ (by simp [listening]))
    have hjoin : e.Came (.join (some r)) :=
      hcame (List.mem_append_right _ (by simp [listening]))
    refine ⟨?_, hhandlers, Or.inr ⟨r, hjoin, ?_, ?_, givesBack_working, ?_, ?_, ?_⟩⟩
    · rw [ofKind_working (by decide) (by decide)]
      cases p.serves <;> rfl
    · rw [ofKind_working (by decide) (by decide)]
      cases p.serves <;> rfl
    · rw [ofKind_working (by decide) (by decide)]
      cases p.serves <;> rfl
    · rw [hcode]
      cases r <;> simp [failure?]
    · rw [hcode]
      cases r <;> simp [failure?]
    · rw [exists_guide_iff]
      cases r with
      | ok u => simp [failure?]
      | error f =>
        simp only [failure?, Option.elim_some, exists_guidance_iff]
        cases f <;> simp [needsGuide]

end Surroundings

/-- A gateway on a stage, with a supervisor that takes one of the signals. While it listens, a
shutdown is asked for. -/
def supervised : Rehearsal.Shift :=
  { onBareStage
      { place := { directory := "/srv", vars := [("BLE_BLACKLIST", "c0-ff-ee-00-00-01")] } } with
    script := [("noop", .nothing), ("shutdown", .shutdown)]
    handlers := fun n => if n = 15 then .function "supervisor" else .host }

/-- Whether a deed is one of a run whose endpoint is opened and whose listener ends well. -/
def Deed.isCalm : Deed → Bool
  | .serve _ _ (.error _) | .join none | .join (some (.error _)) => false
  | _ => true

/-- The supervisor takes its signal again, and the run has gone well. -/
theorem supervised_gives_back :
    let p : Plan := ⟨true, true, true⟩
    let host : Host := { root := "/sys/class" }
    let e := Rehearsal.Shift.surroundings
    ∃ later, e.journal p host supervised = .ban "c0-ff-ee-00-00-01" (.ok ()) :: later ∧
      GivesBack p supervised.handlers later ∧
      (e.run p host supervised).1.handlers = supervised.handlers ∧
      (e.run p host supervised).2 = .ok 0 ∧ ¬∃ n, .say n ∈ later ∧ IsGuide n := by
  intro p host e
  have laws : e.Lawful (·.handlers) := Rehearsal.Shift.lawful
  have hwritten : (e.gateway supervised).settings.IsWritten := nofun
  have hreported :
      Settings.Requirement.all.flatMap (e.gateway supervised).settings.reported = [] := by
    decide +kernel
  have hvalid : (e.gateway supervised).settings.validate = .ok () := by
    rw [Settings.validate_eq hwritten, hreported]
  have hcalm : ∀ d ∈ e.journal p host supervised, d.isCalm = true := by
    have hall : (e.journal p host supervised).all Deed.isCalm = true := by decide +kernel
    exact List.all_eq_true.mp hall
  have htime : .join none ∉ e.journal p host supervised := by
    intro hmem
    cases hcalm _ hmem
  obtain ⟨items, address, port, later, hitems, -, -, hjournal, -, hhandlers, hrest⟩ :=
    laws.gives_back p host hwritten hvalid rfl htime
  have hitem : items = ["c0-ff-ee-00-00-01"] := by
    rw [Settings.blacklist_eq hwritten] at hitems
    rw [← Except.ok.inj hitems]
    decide +kernel
  rw [hitem] at hjournal
  have hlater {d : Deed} (hd : d ∈ later) : d.isCalm = true := by
    refine hcalm d ?_
    rw [hjournal]
    exact List.mem_append_right _ hd
  rcases hrest with ⟨f, -, hserve, -⟩ | ⟨r, -, hjoin, -, hgives, -, hzero, hguide⟩
  · have hserved := hlater (mem_of_ofKind (hserve ▸ List.mem_singleton_self _))
    cases hserved
  · have hended := hlater (mem_of_ofKind (hjoin ▸ List.mem_singleton_self _))
    cases r with
    | error f => cases hended
    | ok u =>
      refine ⟨later, hjournal, hgives, hhandlers, hzero.mpr rfl, ?_⟩
      rw [hguide]
      rintro (⟨m, hm⟩ | ⟨m, hm⟩) <;> cases hm

end TagGateway.Gateway
