import TagGateway.Proofs.Settings.Reading

/-!
# What validation finds

Validation asks seven things of settings. What is wrong with a setting is that it cannot be read or
that its value is not as it should be. All of this is reported at once, with one exception: the
number of attempts and the delay are read one after the other, and if the first is no number the
second is not looked at.

* `Settings.Requirement`, `Settings.Met` — what is asked, and that it is met.
* `Settings.complaints` — the flaws with which a requirement is not met
  (`Settings.complaints_eq_nil_iff`); `Settings.reported` — those of them that are reported.
* `Settings.flaws_eq` — validation finds what is reported and nothing else.
* **`Settings.validate_reports`** — when settings are refused, and with which report;
  `Settings.clouded_unreported` — a flaw that the report leaves out.
-/

namespace TagGateway.Settings

variable {s : Settings} {α : Type}

/-- What validation asks of settings. -/
inductive Requirement
  | adapter | attempts | delay | addresses | port | level | backups
deriving DecidableEq, Repr

/-- All requirements, in the order in which they are looked at. -/
def Requirement.all : List Requirement :=
  [.adapter, .attempts, .delay, .addresses, .port, .level, .backups]

theorem Requirement.mem_all (r : Requirement) : r ∈ all := by cases r <;> decide

/-- That settings meet a requirement. -/
def Met (s : Settings) : Requirement → Prop
  | .adapter => ∃ name, s.adapter = .ok (.text name) ∧ name ≠ ""
  | .attempts => ∃ n, s.retryAttempts = .ok n ∧ 0 ≤ n
  | .delay => ∃ d, s.retryDelay = .ok d ∧ ¬d < 0
  | .addresses => ∃ items, s.blacklist = .ok items ∧
      ∀ item ∈ items, (Address.canonical? item).isSome = true
  | .port => ∃ p, s.port = .ok p ∧ 1 ≤ p ∧ p ≤ 65535
  | .level => ∃ name, s.logLevel = .ok (.text name) ∧
      name ∈ ["DEBUG", "INFO", "WARNING", "ERROR", "CRITICAL"]
  | .backups => ∃ n, s.logBackups = .ok n ∧ 0 ≤ n

/-- The flaws of a setting: that it cannot be read, or that its value fails a test. -/
def flawsOf (flaw : Flaw) (test : α → Bool) : Except Fault α → List Flaw
  | .ok v => if test v then [flaw] else []
  | .error (.setting unread) => [unread]
  | .error _ => []

/-- The flaws with which settings do not meet a requirement. -/
def complaints (s : Settings) : Requirement → List Flaw
  | .adapter => flawsOf .emptyAdapter (!·.isTrue) s.adapter
  | .attempts => flawsOf .negativeAttempts (· < 0) s.retryAttempts
  | .delay => flawsOf .negativeDelay (fun d => decide (d < 0)) s.retryDelay
  | .addresses =>
    match s.blacklist with
    | .ok items => (items.filter fun item => (Address.canonical? item).isNone).map .badAddress
    | .error _ => []
  | .port => flawsOf .portRange (fun p => p < 1 || p > 65535) s.port
  | .level => flawsOf .unknownLevel (!isLevelName ·) s.logLevel
  | .backups => flawsOf .negativeBackups (· < 0) s.logBackups

/-- The complaints that are reported: those about the delay only if the number of attempts can be
read. -/
def reported (s : Settings) : Requirement → List Flaw
  | .delay => if s.retryAttempts.isOk then s.complaints .delay else []
  | r => s.complaints r

/-! ## One setting -/

/-- A reading that gives a value or says what is wrong with the setting. -/
def IsClear (read : Except Fault α) : Prop :=
  (∃ v, read = .ok v) ∨ ∃ flaw, read = .error (.setting flaw)

theorem isClear_whole (h : s.IsWritten) (key : String) (fallback : Int) :
    IsClear (s.whole key (some fallback)) := by
  rcases whole_cases h key fallback with hok | ⟨text, -, herror⟩
  · exact Or.inl hok
  · exact Or.inr ⟨_, herror⟩

theorem isClear_real (h : s.IsWritten) (key : String) (fallback : Float) :
    IsClear (s.real key (some fallback)) := by
  rcases real_cases h key fallback with hok | ⟨text, -, herror⟩
  · exact Or.inl hok
  · exact Or.inr ⟨_, herror⟩

theorem adapter_eq (h : s.IsWritten) :
    s.adapter = .ok (.text ((s.written? Setting.adapter.key).getD "hci0")) :=
  text_eq h _ _

theorem logLevel_eq (h : s.IsWritten) :
    s.logLevel = .ok (.text (Text.upper ((s.written? Setting.logLevel.key).getD "INFO"))) := by
  unfold logLevel
  rw [text_eq h]
  rfl

theorem blacklist_eq (h : s.IsWritten) :
    s.blacklist = .ok ((s.written? Setting.blacklist.key).elim [] itemsOf) :=
  list_eq h _

theorem flawsOf_eq_nil_iff {flaw : Flaw} {test : α → Bool} {read : Except Fault α}
    (h : IsClear read) : flawsOf flaw test read = [] ↔ ∃ v, read = .ok v ∧ test v = false := by
  rcases h with ⟨v, rfl⟩ | ⟨unread, rfl⟩
  · cases htest : test v <;> simp [flawsOf, htest]
  · simp [flawsOf]

theorem flawsOf_single {flaw : Flaw} {test : α → Bool} {read : Except Fault α}
    (hne : flawsOf flaw test read ≠ []) : ∃ f, flawsOf flaw test read = [f] := by
  unfold flawsOf at hne ⊢
  split at hne
  · split at hne
    · rename_i htest
      exact ⟨flaw, by simp [htest]⟩
    · exact absurd rfl hne
  · exact ⟨_, rfl⟩
  · exact absurd rfl hne

/-! ## Requirements -/

/-- **There is a complaint just if a requirement is not met.** -/
theorem complaints_eq_nil_iff (h : s.IsWritten) (r : Requirement) :
    s.complaints r = [] ↔ s.Met r := by
  cases r with
  | adapter =>
    simp only [complaints, Met, adapter_eq h]
    rw [flawsOf_eq_nil_iff (Or.inl ⟨_, rfl⟩)]
    simp [Value.isTrue]
  | attempts =>
    have hclear : IsClear s.retryAttempts := isClear_whole h _ _
    simp [complaints, Met, flawsOf_eq_nil_iff hclear]
  | delay =>
    have hclear : IsClear s.retryDelay := isClear_real h _ _
    simp [complaints, Met, flawsOf_eq_nil_iff hclear]
  | addresses =>
    simp [complaints, Met, blacklist_eq h, List.filter_eq_nil_iff, Option.isSome_iff_ne_none]
  | port =>
    have hclear : IsClear s.port := isClear_whole h _ _
    simp [complaints, Met, flawsOf_eq_nil_iff hclear]
  | level =>
    simp only [complaints, Met, logLevel_eq h]
    rw [flawsOf_eq_nil_iff (Or.inl ⟨_, rfl⟩)]
    simp [isLevelName, levelNames, Level.name]
  | backups =>
    have hclear : IsClear s.logBackups := isClear_whole h _ _
    simp [complaints, Met, flawsOf_eq_nil_iff hclear]

/-- What is wrong with one setting is one flaw. -/
theorem complaints_single (h : s.IsWritten) {r : Requirement} (hr : r ≠ .addresses)
    (hunmet : ¬s.Met r) : ∃ flaw, s.complaints r = [flaw] := by
  have hne : s.complaints r ≠ [] := fun hnil => hunmet ((complaints_eq_nil_iff h r).mp hnil)
  cases r with
  | addresses => exact absurd rfl hr
  | adapter | attempts | delay | port | level | backups => exact flawsOf_single hne

theorem reported_sublist (s : Settings) (r : Requirement) :
    (s.reported r).Sublist (s.complaints r) := by
  unfold reported
  split
  · split
    · exact List.Sublist.refl _
    · exact List.nil_sublist _
  · exact List.Sublist.refl _

/-- A complaint is left out just if it is one about the delay and the number of attempts cannot be
read. -/
theorem reported_eq_iff (h : s.IsWritten) :
    (∀ r, s.reported r = s.complaints r) ↔ s.Met .delay ∨ ∃ n, s.retryAttempts = .ok n := by
  rw [← complaints_eq_nil_iff h]
  have hclear : IsClear s.retryAttempts := isClear_whole h _ _
  rcases hclear with ⟨n, hn⟩ | ⟨flaw, hflaw⟩
  · refine iff_of_true ?_ (Or.inr ⟨n, hn⟩)
    intro r
    cases r <;> simp [reported, hn, Except.isOk, Except.toBool]
  · have hdelay : s.reported .delay = [] := by
      simp [reported, hflaw, Except.isOk, Except.toBool]
    constructor
    · intro hall
      left
      rw [← hall, hdelay]
    · rintro (hnil | ⟨n, hn⟩)
      · -- with nothing to say about the delay, nothing is left out
        intro r
        cases r with
        | delay => rw [hdelay, hnil]
        | adapter | attempts | addresses | port | level | backups => rfl
      · rw [hflaw] at hn
        cases hn

/-! ## Groups of checks -/

theorem groupFlaws_cons_ok (flaw : Flaw) (test : α → Bool) (v : α)
    (rest : List (Except Fault (Option Flaw))) :
    groupFlaws (flawIf flaw test (.ok v) :: rest) =
      (groupFlaws rest).map (flawsOf flaw test (.ok v) ++ ·) := by
  cases htest : test v <;> simp [flawIf, Except.map, groupFlaws, flawsOf, htest]

theorem groupFlaws_cons_error (flaw unread : Flaw) (test : α → Bool)
    (rest : List (Except Fault (Option Flaw))) :
    groupFlaws (flawIf flaw test (.error (.setting unread)) :: rest) = .ok [unread] := rfl

theorem groupFlaws_single (flaw : Flaw) (test : α → Bool) {read : Except Fault α}
    (h : IsClear read) : groupFlaws [flawIf flaw test read] = .ok (flawsOf flaw test read) := by
  rcases h with ⟨v, rfl⟩ | ⟨unread, rfl⟩
  · rw [groupFlaws_cons_ok]
    simp [groupFlaws, Except.map]
  · rfl

theorem radioFlaws_eq (h : s.IsWritten) :
    s.radioFlaws = .ok (s.reported .adapter ++ s.reported .attempts ++ s.reported .delay) := by
  have hattempts : IsClear s.retryAttempts := isClear_whole h _ _
  have hdelay : IsClear s.retryDelay := isClear_real h _ _
  unfold radioFlaws
  simp only [reported, complaints, adapter_eq h]
  rw [groupFlaws_cons_ok]
  rcases hattempts with ⟨n, hn⟩ | ⟨unread, hunread⟩
  · rw [hn, groupFlaws_cons_ok, groupFlaws_single _ _ hdelay]
    simp [Except.map, Except.isOk, Except.toBool]
  · rw [hunread, groupFlaws_cons_error]
    simp [Except.map, Except.isOk, Except.toBool, flawsOf]

theorem blacklistFlaws_eq (h : s.IsWritten) :
    s.blacklistFlaws = .ok (s.reported .addresses) := by
  simp only [blacklistFlaws, reported, complaints, blacklist_eq h, Except.map]

theorem portFlaws_eq (h : s.IsWritten) : s.portFlaws = .ok (s.reported .port) :=
  groupFlaws_single _ _ (isClear_whole h _ _)

theorem logFlaws_eq (h : s.IsWritten) :
    s.logFlaws = .ok (s.reported .level ++ s.reported .backups) := by
  have hbackups : IsClear s.logBackups := isClear_whole h _ _
  unfold logFlaws
  simp only [reported, complaints, logLevel_eq h]
  rw [groupFlaws_cons_ok, groupFlaws_single _ _ hbackups]
  rfl

/-! ## All of validation -/

/-- Validation finds what is reported and nothing else. -/
theorem flaws_eq (h : s.IsWritten) : s.flaws = .ok (Requirement.all.flatMap s.reported) := by
  unfold flaws
  rw [radioFlaws_eq h, blacklistFlaws_eq h, portFlaws_eq h, logFlaws_eq h]
  simp [Requirement.all, bind, Except.bind, pure, Except.pure]

/-- Nothing is reported just if all requirements are met: what hides a complaint is reported. -/
theorem reported_eq_nil_iff (h : s.IsWritten) :
    Requirement.all.flatMap s.reported = [] ↔ ∀ r, s.Met r := by
  rw [List.flatMap_eq_nil_iff]
  constructor
  · intro hnil
    -- attempts that are no number would be reported, so nothing about the delay is left out
    have hattempts : s.Met .attempts :=
      (complaints_eq_nil_iff h .attempts).mp (hnil .attempts (by decide))
    obtain ⟨n, hn, -⟩ := hattempts
    intro r
    have hreported : s.reported r = s.complaints r :=
      (reported_eq_iff h).mpr (Or.inr ⟨n, hn⟩) r
    rw [← complaints_eq_nil_iff h, ← hreported]
    exact hnil r r.mem_all
  · intro hmet r _
    have hnil : s.complaints r = [] := (complaints_eq_nil_iff h r).mpr (hmet r)
    exact List.sublist_nil.mp (hnil ▸ s.reported_sublist r)

theorem validate_eq (h : s.IsWritten) :
    s.validate =
      match Requirement.all.flatMap s.reported with
      | [] => .ok ()
      | flaws => .error (.settings flaws) := by
  unfold validate
  rw [flaws_eq h]
  rfl

theorem validate_eq_ok_iff (h : s.IsWritten) : s.validate = .ok () ↔ ∀ r, s.Met r := by
  rw [validate_eq h, ← reported_eq_nil_iff h]
  split
  · rename_i hnil
    simp [hnil]
  · rename_i hne
    simp only [reduceCtorEq, false_iff]
    exact hne

/-- **What is reported.** Settings that are texts are refused just if a requirement is not met. The
report then lists all complaints by requirement, each on a line: one for each setting that is not as
it should be, and one for each item of the blacklist that writes no address. Only what is wrong with
the delay is left out, just if the number of attempts is no number. -/
theorem validate_reports (h : s.IsWritten) :
    (s.validate = .ok () ↔ ∀ r, s.Met r) ∧
    (∀ f, s.validate = .error f →
      f = .settings (Requirement.all.flatMap s.reported) ∧
        f.message = report (Requirement.all.flatMap s.reported)) ∧
    (∀ r, s.complaints r = [] ↔ s.Met r) ∧
    (∀ r, r ≠ .addresses → ¬s.Met r → ∃ flaw, s.complaints r = [flaw]) ∧
    (∀ items, s.blacklist = .ok items → s.complaints .addresses =
      (items.filter fun item => (Address.canonical? item).isNone).map .badAddress) ∧
    (∀ r, r ≠ .delay → s.reported r = s.complaints r) ∧
    (s.reported .delay = s.complaints .delay ↔ s.Met .delay ∨ ∃ n, s.retryAttempts = .ok n) := by
  have hothers : ∀ r, r ≠ .delay → s.reported r = s.complaints r := by
    intro r hr
    cases r with
    | delay => exact absurd rfl hr
    | adapter | attempts | addresses | port | level | backups => rfl
  refine ⟨validate_eq_ok_iff h, ?_, complaints_eq_nil_iff h, fun r => complaints_single h, ?_,
    hothers, ?_⟩
  · intro f hf
    rw [validate_eq h] at hf
    split at hf
    · cases hf
    · obtain rfl := Except.error.inj hf
      exact ⟨rfl, rfl⟩
  · intro items hitems
    simp only [complaints, hitems]
  · rw [← reported_eq_iff h]
    constructor
    · intro hdelay r
      by_cases hr : r = .delay
      · rw [hr, hdelay]
      · exact hothers r hr
    · exact fun hall => hall .delay

/-- Settings that meet no requirement. -/
def spoilt : Settings where
  overrides := [("EXPOSER_PORT", .text "0"), ("BLE_ADAPTER", .text "")]
  place :=
    { directory := "/srv"
      vars := [("BLE_RETRY_ATTEMPTS", "-1"), ("BLE_RETRY_DELAY", "soon"), ("EXPOSER_PORT", "9105"),
        ("BLE_BLACKLIST", "C0:FF:EE:00:00:01, nobody,,C0FFEE"), ("LOG_LEVEL", "loud"),
        ("LOG_BACKUP_COUNT", "5.0")] }

/-- All that is wrong with them is reported. -/
theorem spoilt_reported :
    spoilt.IsWritten ∧ (∀ r, ¬spoilt.Met r) ∧
      spoilt.validate = .error (.settings [.emptyAdapter, .negativeAttempts,
        .notReal "BLE_RETRY_DELAY" "soon", .badAddress "nobody", .badAddress "C0FFEE", .portRange,
        .unknownLevel, .notWhole "LOG_BACKUP_COUNT" "5.0"]) := by
  have hwritten : spoilt.IsWritten := by simp [IsWritten, spoilt]
  obtain ⟨hok, hrefused, hnil, -⟩ := validate_reports hwritten
  have hunmet : ∀ r, ¬spoilt.Met r := by
    intro r
    rw [← hnil]
    cases r <;> decide +kernel
  refine ⟨hwritten, hunmet, ?_⟩
  cases hvalid : spoilt.validate with
  | ok u => exact absurd (hok.mp hvalid .adapter) (hunmet .adapter)
  | error f =>
    rw [(hrefused f hvalid).1]
    decide +kernel

/-- Settings whose number of attempts is no number and whose delay is negative. -/
def clouded : Settings where
  place :=
    { directory := "/srv", vars := [("BLE_RETRY_ATTEMPTS", "abc"), ("BLE_RETRY_DELAY", "-1")] }

/-- What is wrong with their delay is not reported. -/
theorem clouded_unreported :
    ¬clouded.Met .delay ∧ clouded.complaints .delay = [.negativeDelay] ∧
      clouded.validate = .error (.settings [.notWhole "BLE_RETRY_ATTEMPTS" "abc"]) := by
  have hwritten : clouded.IsWritten := by simp [IsWritten, clouded]
  have hdelay : clouded.complaints .delay = [.negativeDelay] := by decide +kernel
  have hreported : Requirement.all.flatMap clouded.reported =
      [.notWhole "BLE_RETRY_ATTEMPTS" "abc"] := by decide +kernel
  refine ⟨?_, hdelay, ?_⟩
  · rw [← complaints_eq_nil_iff hwritten, hdelay]
    exact List.cons_ne_nil _ _
  · rw [validate_eq hwritten, hreported]

end TagGateway.Settings
