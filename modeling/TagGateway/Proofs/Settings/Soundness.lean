import TagGateway.Gateway.State
import TagGateway.Log.Loggers
import TagGateway.Proofs.Decimal.NotANumber
import TagGateway.Proofs.Settings.Validation

/-!
# What validated settings are good for

After validation a run sets up the log and the gateway from the settings and reads further settings
as it goes. Validation is to make sure that all of them can be read. It does, but for the size of
log files, which it does not look at; and it makes sure that the delay is not negative, but not that
it is a number.

* `Settings.value_eq_ok` — all settings but the size of log files can be read.
* `Settings.wishes_eq` — the set-up of the log hangs on that size alone.
* `Settings.Usable` — all that a run needs; **`Settings.usable_iff`** — what it takes beyond
  validation; `Settings.validated_unusable` — validated settings that lack it.
-/

namespace TagGateway.Settings

variable {s : Settings}

/-- All that a run needs of settings: they can be read, each by itself and for the set-up of the log
and the gateway, and the values meet the requirements, with a delay that is a number. -/
structure Usable (s : Settings) : Prop where
  value : ∀ k, ∃ v, s.value k = .ok v
  wishes : ∃ w, Log.Wishes.ofSettings s = .ok w
  gateway : ∃ g, Gateway.ofSettings s = .ok g
  met : ∀ r, s.Met r
  delay : ∃ d, s.retryDelay = .ok d ∧ 0 ≤ d

theorem exists_map {α β : Type} {read : Except Fault α} (h : ∃ v, read = .ok v) (f : α → β) :
    ∃ v, read.map f = .ok v := by
  obtain ⟨v, rfl⟩ := h
  exact ⟨f v, rfl⟩

/-- All settings can be read, but perhaps for the size of log files. -/
theorem value_eq_ok (h : s.IsWritten) (hmet : ∀ r, s.Met r) {k : Setting} (hk : k ≠ .logFileSize) :
    ∃ v, s.value k = .ok v := by
  cases k with
  | logFileSize => exact absurd rfl hk
  | adapter => exact ⟨_, adapter_eq h⟩
  | address => exact ⟨_, text_eq h _ _⟩
  | logLevel => exact ⟨_, logLevel_eq h⟩
  | retryAttempts =>
    obtain ⟨n, hn, -⟩ := hmet .attempts
    exact exists_map ⟨n, hn⟩ _
  | retryDelay =>
    obtain ⟨d, hd, -⟩ := hmet .delay
    exact exists_map ⟨d, hd⟩ _
  | port =>
    obtain ⟨p, hp, -⟩ := hmet .port
    exact exists_map ⟨p, hp⟩ _
  | logBackups =>
    obtain ⟨n, hn, -⟩ := hmet .backups
    exact exists_map ⟨n, hn⟩ _
  | blacklist => exact exists_map ⟨_, blacklist_eq h⟩ _
  | logDirectory => exact exists_map ⟨_, path_eq h _ _⟩ _
  | strict | hostStatistics | logConsole | logSyslog | logPackets =>
    exact exists_map ⟨_, switch_eq h _ _⟩ _

/-- Whether the log can be set up hangs on the size of log files alone. -/
theorem wishes_eq (h : s.IsWritten) (hbackups : s.Met .backups) :
    ∃ w : Int → Log.Wishes, Log.Wishes.ofSettings s = s.logFileSize.map w := by
  obtain ⟨n, hn, -⟩ := hbackups
  obtain ⟨level, hlevel⟩ : ∃ v, s.logLevel = .ok v := ⟨_, logLevel_eq h⟩
  obtain ⟨directory, hdirectory⟩ : ∃ v, s.logDirectory = .ok v := ⟨_, path_eq h _ _⟩
  obtain ⟨terminal, hterminal⟩ : ∃ v, s.logConsole = .ok v := ⟨_, switch_eq h _ _⟩
  obtain ⟨system, hsystem⟩ : ∃ v, s.logSyslog = .ok v := ⟨_, switch_eq h _ _⟩
  refine ⟨fun size =>
    { level, directory := .text directory, fileSize := .int size, backups := .int n,
      terminal := .bool terminal, system := .bool system }, ?_⟩
  unfold Log.Wishes.ofSettings
  rw [hlevel, hdirectory, hn, hterminal, hsystem]
  cases s.logFileSize <;> rfl

theorem gateway_eq_ok (h : s.IsWritten) (hmet : ∀ r, s.Met r) :
    ∃ g, Gateway.ofSettings s = .ok g := by
  obtain ⟨n, hn, -⟩ := hmet .attempts
  obtain ⟨d, hd, -⟩ := hmet .delay
  unfold Gateway.ofSettings
  rw [adapter_eq h, hn, hd, strict, switch_eq h, logPackets, switch_eq h, hostStatistics,
    switch_eq h]
  exact ⟨_, rfl⟩

/-- **What validation is worth.** Settings that are texts and pass validation can all be read, but
perhaps for the size of log files, the gateway can be made from them, and they meet all
requirements. For the run they are good just if moreover that size is a whole number and the delay
is a number; without such a size the log cannot be set up. -/
theorem usable_iff (h : s.IsWritten) (hvalid : s.validate = .ok ()) :
    (∀ k, k ≠ .logFileSize → ∃ v, s.value k = .ok v) ∧
    (∃ g, Gateway.ofSettings s = .ok g) ∧
    (∀ r, s.Met r) ∧
    (∀ f, Log.Wishes.ofSettings s = .error f →
      ∃ text, s.written? Setting.logFileSize.key = some text ∧
        f = .setting (.notWhole Setting.logFileSize.key text)) ∧
    (s.Usable ↔
      (∃ size, s.logFileSize = .ok size) ∧ ∀ d, s.retryDelay = .ok d → d.isNaN = false) := by
  have hmet : ∀ r, s.Met r := (validate_eq_ok_iff h).mp hvalid
  have hvalues : ∀ k, k ≠ .logFileSize → ∃ v, s.value k = .ok v := fun k hk => value_eq_ok h hmet hk
  have hgateway := gateway_eq_ok h hmet
  obtain ⟨w, hw⟩ := wishes_eq h (hmet .backups)
  refine ⟨hvalues, hgateway, hmet, ?_, ?_⟩
  · intro f hf
    rw [hw, logFileSize] at hf
    rcases whole_cases h Setting.logFileSize.key (10 * 1024 * 1024) with ⟨n, hn⟩ | ⟨text, hn⟩
    · rw [hn] at hf
      cases hf
    · rw [hn.2] at hf
      exact ⟨text, hn.1, (Except.error.inj hf).symm⟩
  · constructor
    · intro husable
      obtain ⟨v, hv⟩ := husable.value .logFileSize
      have hsize : ∃ size, s.logFileSize = .ok size := by
        cases hread : s.logFileSize with
        | ok size => exact ⟨size, rfl⟩
        | error f => simp [value, hread, Except.map] at hv
      refine ⟨hsize, ?_⟩
      intro d hd
      obtain ⟨d', hd', hle⟩ := husable.delay
      rw [hd] at hd'
      obtain rfl := Except.ok.inj hd'
      exact (Decimal.zero_le_iff.mp hle).1
    · rintro ⟨⟨size, hsize⟩, hnumber⟩
      obtain ⟨d, hd, hsign⟩ := hmet .delay
      constructor
      · intro k
        by_cases hk : k = .logFileSize
        · subst hk
          exact ⟨.int size, by simp [value, hsize, Except.map]⟩
        · exact hvalues k hk
      · exact ⟨w size, by rw [hw, hsize]; rfl⟩
      · exact hgateway
      · exact hmet
      · exact ⟨d, hd, Decimal.zero_le_iff.mpr ⟨hnumber d hd, hsign⟩⟩

/-- Settings that are written in unusual ways. -/
def unusual : Settings where
  overrides := [("EXPOSER_PORT", .text "٩١٠٥"), ("BLE_ADAPTER", .text " ")]
  place :=
    { directory := "/srv"
      vars := [("BLE_RETRY_ATTEMPTS", " 1_0\t"), ("BLE_RETRY_DELAY", "1e-3"),
        ("EXPOSER_PORT", "no"), ("LOG_LEVEL", "debug"),
        ("BLE_BLACKLIST", "c0-ff-ee-00-00-01,, C0:FF:EE:00:00:01"),
        ("LOG_MAX_FILE_SIZE", "+00_7"), ("DECODE_STRICT", "perhaps")] }

theorem unusual_usable : unusual.Usable := by
  have hwritten : unusual.IsWritten := by simp [IsWritten, unusual]
  have hreported : Requirement.all.flatMap unusual.reported = [] := by decide +kernel
  have hvalid : unusual.validate = .ok () := by rw [validate_eq hwritten, hreported]
  refine (usable_iff hwritten hvalid).2.2.2.2.mpr ⟨⟨7, by rfl⟩, ?_⟩
  intro d hd
  have hnumber : unusual.retryDelay.toOption.map Float.isNaN = some false := by decide +kernel
  rw [hd] at hnumber
  exact Option.some.inj hnumber

/-- Settings in which the size of log files has a unit. -/
def bulky : Settings where
  place := { directory := "/srv", vars := [("LOG_MAX_FILE_SIZE", "10MB")] }

/-- Settings with a delay that is not a number. -/
def timeless : Settings where
  place := { directory := "/srv", vars := [("BLE_RETRY_DELAY", "nan")] }

/-- Both pass validation. With the first the log cannot be set up; the delay of the second is not
at least zero. -/
theorem validated_unusable :
    (bulky.validate = .ok () ∧ ¬bulky.Usable ∧
      bulky.logFileSize = .error (.setting (.notWhole "LOG_MAX_FILE_SIZE" "10MB"))) ∧
    timeless.validate = .ok () ∧ ¬timeless.Usable := by
  have hbulky : bulky.IsWritten := nofun
  have hbulkyReported : Requirement.all.flatMap bulky.reported = [] := by decide +kernel
  have hsize : bulky.logFileSize = .error (.setting (.notWhole "LOG_MAX_FILE_SIZE" "10MB")) := by
    rfl
  have htimeless : timeless.IsWritten := nofun
  have htimelessReported : Requirement.all.flatMap timeless.reported = [] := by decide +kernel
  refine ⟨⟨by rw [validate_eq hbulky, hbulkyReported], ?_, hsize⟩,
    by rw [validate_eq htimeless, htimelessReported], ?_⟩
  · intro husable
    obtain ⟨v, hv⟩ := husable.value .logFileSize
    simp [value, hsize, Except.map] at hv
  · intro husable
    obtain ⟨d, hd, hle⟩ := husable.delay
    have hnan : timeless.retryDelay.toOption.map Float.isNaN = some true := by decide +kernel
    rw [hd] at hnan
    have hmarked : d.isNaN = true := Option.some.inj hnan
    rw [(Decimal.zero_le_iff.mp hle).1] at hmarked
    cases hmarked

end TagGateway.Settings
