import TagGateway.CommandLine.Answer
import TagGateway.Proofs.Settings.Items
import TagGateway.Proofs.Settings.Validation

/-!
# What the options of a run change

The options of a command line are put over the settings as texts. What is written under a key that
no option is about stays; the addresses to ignore are added to those that are there already.

* `Setting.key_inj` — no two settings share a key.
* `Settings.overlaid` — settings with texts put over them: `Settings.written?_overlaid_of_ne` and
  `Settings.written?_overlaid_self` say what is written there afterwards.
* `CommandLine.RunOptions.applied_eq` — options put texts over settings and do nothing else.
* **`CommandLine.RunOptions.blacklist_applied`** — the items of the blacklist are those that were
  there, followed by those of the options.
* `CommandLine.runReport_launch` — the gateway is launched with validated settings only.
-/

namespace TagGateway

theorem Setting.key_inj {k k' : Setting} (h : k.key = k'.key) : k = k' := by
  cases k <;> cases k' <;> first | rfl | exact absurd h (by decide)

namespace Settings

variable {s : Settings} {changes : List (Setting × String)} {k : Setting} {text : String}

/-- The settings with texts put over others. -/
def overlaid (s : Settings) (changes : List (Setting × String)) : Settings :=
  { s with
    overrides := changes.foldl
      (fun all (setting, text) => Assoc.put setting.key (.text text) all) s.overrides }

theorem overlaid_append (s : Settings) (changes later : List (Setting × String)) :
    s.overlaid (changes ++ later) = (s.overlaid changes).overlaid later := by
  simp [overlaid]

theorem IsWritten.overlaid (h : s.IsWritten) (changes : List (Setting × String)) :
    (s.overlaid changes).IsWritten := by
  refine List.foldlRecOn
    (motive := fun all : List (String × Value) => ∀ e ∈ all, ∃ text, e.2 = .text text)
    changes _ h ?_
  intro all hall change _ e he
  rcases Assoc.mem_put he with hnew | hold
  · exact ⟨change.2, hnew⟩
  · exact hall e hold

theorem written?_overlaid_of_ne (h : ∀ change ∈ changes, change.1 ≠ k) :
    (s.overlaid changes).written? k.key = s.written? k.key := by
  have hget : Assoc.get? k.key (s.overlaid changes).overrides = Assoc.get? k.key s.overrides := by
    refine List.foldlRecOn
      (motive := fun all : List (String × Value) =>
        Assoc.get? k.key all = Assoc.get? k.key s.overrides) changes _ rfl ?_
    intro all hall change hchange
    have hkey : k.key ≠ change.1.key := fun heq =>
      h change hchange (Setting.key_inj heq.symm)
    rw [← hall]
    exact Assoc.get?_put_of_ne hkey _ all
  unfold written?
  rw [hget]
  rfl

/-- The last text that is put under a key is what is written there. -/
theorem written?_overlaid_self (s : Settings) (changes : List (Setting × String))
    {later : List (Setting × String)} (h : ∀ change ∈ later, change.1 ≠ k) :
    (s.overlaid (changes ++ (k, text) :: later)).written? k.key = some text := by
  have hsplit : changes ++ (k, text) :: later = (changes ++ [(k, text)]) ++ later := by simp
  rw [hsplit, overlaid_append, written?_overlaid_of_ne h, overlaid_append]
  simp [overlaid, written?, Assoc.get?_put_self, Value.display]

/-- A setting without a text has no items. -/
theorem blacklist_eq_itemsOf (h : s.IsWritten) :
    s.blacklist = .ok (itemsOf ((s.written? Setting.blacklist.key).getD "")) := by
  rw [blacklist_eq h]
  cases s.written? Setting.blacklist.key with
  | none => simp [itemsOf_empty]
  | some text => rfl

end Settings

namespace CommandLine

open Settings

variable {s : Settings} {o : RunOptions}

/-- The options put texts over the settings and do nothing else. -/
theorem RunOptions.applied_eq (o : RunOptions) (h : s.IsWritten) :
    o.applied s = .ok (s.overlaid
      (o.changes (itemsOf ((s.written? Setting.blacklist.key).getD "")))) := by
  unfold RunOptions.applied
  rw [blacklist_eq_itemsOf h]
  rfl

/-- A change that a flag makes is about its setting. -/
theorem setting_of_mem_flag {change : Setting × String} {k : Setting} {text : String} {flag : Bool}
    (h : change ∈ if flag then [(k, text)] else []) : change.1 = k := by
  cases flag with
  | false => simp at h
  | true =>
    have hchange : change = (k, text) := by simpa using h
    rw [hchange]

/-- Options without addresses do not change the blacklist. -/
theorem RunOptions.changes_of_nil (h : o.blacklist = []) (items : List String) :
    ∀ change ∈ o.changes items, change.1 ≠ .blacklist := by
  intro change hchange
  simp only [RunOptions.changes, h, List.mem_append, List.mem_map] at hchange
  rcases hchange with ((((⟨_, -, rfl⟩ | ⟨_, -, rfl⟩) | ⟨_, -, rfl⟩) | hnone) | hhost) | hstrict
  · nofun
  · nofun
  · nofun
  · simp at hnone
  · rw [setting_of_mem_flag hhost]
    nofun
  · rw [setting_of_mem_flag hstrict]
    nofun

/-- Options with addresses change it once. -/
theorem RunOptions.changes_of_ne_nil (h : o.blacklist ≠ []) (items : List String) :
    ∃ before after,
      o.changes items =
        before ++ (Setting.blacklist, ",".intercalate (items ++ o.blacklist)) :: after ∧
      ∀ change ∈ after, change.1 ≠ .blacklist := by
  refine ⟨(given o.adapter).map (Setting.adapter, ·) ++
      o.port.toList.map (fun p => (Setting.port, toString p)) ++
      (given o.address).map (Setting.address, ·),
    (if o.noHostStatistics then [(Setting.hostStatistics, "false")] else []) ++
      (if o.strict then [(Setting.strict, "true")] else []), ?_, ?_⟩
  · simp [RunOptions.changes, h]
  · intro change hchange
    rcases List.mem_append.mp hchange with hhost | hstrict
    · rw [setting_of_mem_flag hhost]
      nofun
    · rw [setting_of_mem_flag hstrict]
      nofun

/-- **The options add their items to the blacklist**: those that were there come first and are read
as they were. -/
theorem RunOptions.blacklist_applied (o : RunOptions) (h : s.IsWritten) :
    ∃ s', o.applied s = .ok s' ∧ s'.IsWritten ∧
      s'.blacklist = .ok (itemsOf ((s.written? Setting.blacklist.key).getD "") ++
        o.blacklist.flatMap itemsOf) := by
  have hwritten := h.overlaid (o.changes (itemsOf ((s.written? Setting.blacklist.key).getD "")))
  refine ⟨_, o.applied_eq h, hwritten, ?_⟩
  rw [blacklist_eq_itemsOf hwritten]
  by_cases hnil : o.blacklist = []
  · rw [written?_overlaid_of_ne (RunOptions.changes_of_nil hnil _), hnil]
    simp
  · obtain ⟨before, after, hchanges, hafter⟩ := RunOptions.changes_of_ne_nil hnil
      (itemsOf ((s.written? Setting.blacklist.key).getD ""))
    rw [hchanges, written?_overlaid_self s before hafter, Option.getD_some, itemsOf_rejoined]

/-- The gateway is launched with settings that have passed validation. -/
theorem runReport_launch {report : Report} {launched : Settings}
    (h : runReport o s = .ok report) (hlaunch : report.ending = .launch launched) :
    o.applied s = .ok launched ∧ launched.validate = .ok () := by
  unfold runReport at h
  cases happlied : o.applied s with
  | error f => simp [happlied, bind, Except.bind] at h
  | ok s' =>
    simp only [happlied, bind, Except.bind] at h
    split at h
    · cases h
      simp [Report.failure] at hlaunch
    · rename_i hvalid
      cases h
      have hsame : s' = launched := by simpa using hlaunch
      subst hsame
      exact ⟨rfl, hvalid⟩

theorem runReport_of_validate {launched : Settings} (happlied : o.applied s = .ok launched)
    (hvalid : launched.validate = .ok ()) : runReport o s = .ok { ending := .launch launched } := by
  unfold runReport
  simp [happlied, hvalid, bind, Except.bind, pure, Except.pure]

end CommandLine

end TagGateway
