import Mathlib.Data.List.Forall2
import TagGateway.Checkup.Checks

/-!
# What a checkup finds about radios

The directory of radios is searched entry by entry, and each Bluetooth radio for the ways in which
it may be blocked. The search ends at the first blocked radio, so what it reports depends on the
order of the directory; whether it reports anything does not.

* `Checkup.Says` — that a file of a radio has a text; `Checkup.IsBlocked` — that a Bluetooth radio
  is blocked in a way; `Checkup.IsReadable` — that its files are missing or can be read.
* `Checkup.Searched` — that a search finds something of a kind if there is anything of it;
  `Checkup.Searched.orElse` for a search that goes on.
* `Checkup.searched_blockOf`, `Checkup.searched_blockedRadio` — the two searches, by induction.
* `Checkup.checkRadio_spec` — what the check makes of the search.
* `Checkup.CountsAs` — what a check counts for, also one that could not be made.
* **`Checkup.radios_checked`** — what the check of radios finds, and that all checks are made.
-/

namespace TagGateway.Checkup

/-! ## Radios -/

/-- A file of a radio can be read and has a text, but for blanks at the ends. -/
def Says (radio : Tree) (name text : String) : Prop :=
  ∃ bytes content, radio.child? name = some (.file bytes) ∧
    Text.Utf8.decode bytes = .ok content ∧ Text.trim content = text

/-- A Bluetooth radio is blocked in a way: softly or hard. -/
def IsBlocked (radio : Tree) (way : String) : Prop :=
  Says radio "type" "bluetooth" ∧ way ∈ ["soft", "hard"] ∧ Says radio way "1"

/-- A file of a radio is missing or can be read. -/
def IsReadableAt (radio : Tree) (name : String) : Prop :=
  radio.child? name = none ∨ ∃ text, Says radio name text

/-- The files of a radio that are looked at are missing or can be read. -/
def IsReadable (radio : Tree) : Prop := ∀ name ∈ ["type", "soft", "hard"], IsReadableAt radio name

/-- The directory of radios of a host, or what stands in its place. -/
def radios? (host : Host) : Option Tree := host.tree.bind (·.child? "rfkill")

/-- What is looked at is read, and nothing is found where nothing is. -/
theorem entryText?_eq (path : String) {name : String} {radio : Tree} (h : IsReadableAt radio name) :
    ∃ found, entryText? path radio name = .ok found ∧
      ∀ text, found = some text ↔ Says radio name text := by
  unfold entryText?
  rcases h with hnone | ⟨text, bytes, content, hchild, hdecode, rfl⟩
  · rw [hnone]
    refine ⟨none, rfl, fun text => iff_of_false nofun ?_⟩
    rintro ⟨bytes, content, hchild, -⟩
    rw [hnone] at hchild
    cases hchild
  · have hread : Tree.readText (path ++ "/" ++ name) (.file bytes) = .ok content := by
      simp only [Tree.readText, hdecode]
    rw [hchild]
    refine ⟨some (Text.trim content), by simp only [hread]; rfl, fun text => ?_⟩
    rw [Option.some.injEq]
    constructor
    · rintro rfl
      exact ⟨bytes, content, hchild, hdecode, rfl⟩
    · rintro ⟨bytes', content', hchild', hdecode', rfl⟩
      rw [hchild, Option.some.injEq, Tree.file.injEq] at hchild'
      subst hchild'
      rw [hdecode, Except.ok.injEq] at hdecode'
      rw [hdecode']

/-! ## Searches -/

section

variable {α : Type} {P Q : α → Prop} {r s : Except Fault (Option α)}

/-- What is found is of a kind, and nothing is found only if there is nothing of this kind. -/
structure Found (found : Option α) (IsKind : α → Prop) : Prop where
  isKind : ∀ a, found = some a → IsKind a
  none_of : found = none → ∀ a, ¬IsKind a

/-- A search comes to its end, and finds something of a kind if there is anything of it. -/
def Searched (r : Except Fault (Option α)) (IsKind : α → Prop) : Prop :=
  ∃ found, r = .ok found ∧ Found found IsKind

theorem Searched.congr (h : Searched r P) (hiff : ∀ a, P a ↔ Q a) : Searched r Q := by
  obtain ⟨found, hr, hkind, hnone⟩ := h
  exact ⟨found, hr, fun a ha => (hiff a).mp (hkind a ha),
    fun hn a hQ => hnone hn a ((hiff a).mpr hQ)⟩

/-- A search that goes on only if nothing was found first. -/
theorem Searched.orElse {first : Option α} (hr : r = first.elim s fun a => .ok (some a))
    (hfirst : Found first P) (hs : Searched s Q) : Searched r fun a => P a ∨ Q a := by
  subst hr
  cases first with
  | some a => exact ⟨some a, rfl, fun b hb => Or.inl (hfirst.isKind b hb), nofun⟩
  | none =>
    obtain ⟨found, hok, hkind, hnone⟩ := hs
    exact ⟨found, hok, fun a ha => Or.inr (hkind a ha),
      fun hn a => not_or.mpr ⟨hfirst.none_of rfl a, hnone hn a⟩⟩

end

/-- One way in which a radio may be blocked, and the others if it is not. -/
theorem blockOf_cons {path way : String} {radio : Tree} {found : Option String}
    {rest : List String} (h : entryText? path radio way = .ok found) :
    blockOf path radio (way :: rest) =
      (if found = some "1" then some way else none).elim (blockOf path radio rest)
        fun w => .ok (some w) := by
  rw [blockOf, h]
  show (if (found == some "1") = true then _ else _) = _
  simp only [beq_iff_eq]
  split <;> rfl

/-- One radio, and the others if it is not a Bluetooth radio that is blocked. -/
theorem blockedRadio_cons {root name : String} {radio : Tree} {rest : List (String × Tree)}
    {found block : Option String}
    (hfound : entryText? (root ++ "/" ++ name) radio "type" = .ok found)
    (hblock : blockOf (root ++ "/" ++ name) radio ["soft", "hard"] = .ok block) :
    blockedRadio root ((name, radio) :: rest) =
      ((if found = some "bluetooth" then block else none).map (name, ·)).elim
        (blockedRadio root rest) fun hit => .ok (some hit) := by
  rw [blockedRadio, hfound]
  show (if (found == some "bluetooth") = true then _ else _) = _
  simp only [beq_iff_eq, hblock]
  split
  · cases block <;> rfl
  · rfl

/-- The ways in which a radio is blocked are searched one after the other. -/
theorem searched_blockOf (path : String) {radio : Tree} {ways : List String}
    (h : ∀ way ∈ ways, IsReadableAt radio way) :
    Searched (blockOf path radio ways) fun way => way ∈ ways ∧ Says radio way "1" := by
  induction ways with
  | nil => exact ⟨none, rfl, nofun, fun _ way hway => nomatch hway.1⟩
  | cons way rest ih =>
    obtain ⟨found, hfound, hcontent⟩ := entryText?_eq path (h way List.mem_cons_self)
    have hrest := ih fun w hw => h w (List.mem_cons_of_mem way hw)
    have hfirst : Found (if found = some "1" then some way else none)
        fun w => w = way ∧ Says radio w "1" := by
      split
      · rename_i hset
        exact ⟨fun w hw => by cases hw; exact ⟨rfl, (hcontent "1").mp hset⟩, nofun⟩
      · rename_i hunset
        exact ⟨nofun, fun _ w ⟨hw, hset⟩ => hunset ((hcontent "1").mpr (hw ▸ hset))⟩
    refine (Searched.orElse (blockOf_cons hfound) hfirst hrest).congr fun w => ?_
    rw [List.mem_cons, or_and_right]

/-- Radios are searched one after the other. -/
theorem searched_blockedRadio (root : String) {entries : List (String × Tree)}
    (h : ∀ e ∈ entries, IsReadable e.2) :
    Searched (blockedRadio root entries) fun hit : String × String =>
      ∃ radio, (hit.1, radio) ∈ entries ∧ IsBlocked radio hit.2 := by
  induction entries with
  | nil => exact ⟨none, rfl, nofun, fun _ hit ⟨radio, hradio, _⟩ => nomatch hradio⟩
  | cons e rest ih =>
    obtain ⟨name, radio⟩ := e
    have hreadable : IsReadable radio := h (name, radio) List.mem_cons_self
    have hrest := ih fun e he => h e (List.mem_cons_of_mem _ he)
    obtain ⟨found, hfound, hcontent⟩ :=
      entryText?_eq (root ++ "/" ++ name) (hreadable "type" List.mem_cons_self)
    obtain ⟨block, hblock, hway⟩ := searched_blockOf (root ++ "/" ++ name)
      fun way hway => hreadable way (List.mem_cons_of_mem _ hway)
    have hfirst : Found ((if found = some "bluetooth" then block else none).map (name, ·))
        fun hit : String × String => hit.1 = name ∧ IsBlocked radio hit.2 := by
      split
      · rename_i htype
        constructor
        · intro hit hsome
          obtain ⟨way, hblocked, rfl⟩ := Option.map_eq_some_iff.mp hsome
          exact ⟨rfl, (hcontent "bluetooth").mp htype, hway.isKind way hblocked⟩
        · rintro hnone hit ⟨-, -, hhit⟩
          exact hway.none_of (Option.map_eq_none_iff.mp hnone) hit.2 hhit
      · rename_i hother
        exact ⟨nofun, fun _ hit ⟨_, htype, _⟩ => hother ((hcontent "bluetooth").mpr htype)⟩
    refine (Searched.orElse (blockedRadio_cons hfound hblock) hfirst hrest).congr fun hit => ?_
    simp only [List.mem_cons, Prod.mk.injEq, or_and_right, exists_or, and_assoc, exists_eq_left,
      exists_and_left]

/-! ## Checks -/

/-- What the check of radios tells about a hit: the name of the radio and the way in which it is
blocked. -/
def blockedMessage (name way : String) : String :=
  "Bluetooth radio " ++ name ++ " is " ++ way ++ "-blocked. Run: rfkill unblock bluetooth"

/-- The check of radios finds a hit of the search, or that there is none. -/
theorem checkRadio_spec {host : Host} {entries : List (String × Tree)}
    (hdirectory : radios? host = some (.directory entries))
    (hreadable : ∀ e ∈ entries, IsReadable e.2) :
    ∃ f, checkRadio host = .ok f ∧
      (f.passed = false ↔ ∃ e ∈ entries, ∃ way, IsBlocked e.2 way) ∧
      (f.passed = false → ∃ name radio way, (name, radio) ∈ entries ∧ IsBlocked radio way ∧
        f.message = blockedMessage name way) := by
  obtain ⟨found, hfound, hhit⟩ :=
    searched_blockedRadio (host.root ++ "/rfkill") hreadable
  unfold radios? at hdirectory
  unfold checkRadio
  rw [hdirectory]
  show ∃ f, (blockedRadio _ entries >>= _) = .ok f ∧ _
  rw [hfound]
  cases found with
  | none =>
    refine ⟨⟨true, _⟩, rfl, iff_of_false nofun ?_, nofun⟩
    rintro ⟨⟨name, radio⟩, he, way, hblocked⟩
    exact hhit.none_of rfl (name, way) ⟨radio, he, hblocked⟩
  | some hit =>
    obtain ⟨name, way⟩ := hit
    obtain ⟨radio, he, hblocked⟩ := hhit.isKind (name, way) rfl
    exact ⟨⟨false, _⟩, rfl, iff_of_true rfl ⟨(name, radio), he, way, hblocked⟩,
      fun _ => ⟨name, radio, way, he, hblocked, rfl⟩⟩

/-- What a check counts for: what it found, or a failure that tells why it could not be made. -/
def CountsAs (c : Check) (r : Except Fault Finding) (f : Finding) : Prop :=
  r = .ok f ∨ ∃ fault, r = .error fault ∧
    f = ⟨false, "Unable to run " ++ c.name ++ ": " ++ fault.message⟩

theorem countsAs_conclude (c : Check) (r : Except Fault Finding) :
    CountsAs c r (conclude c r).1 := by
  cases r with
  | ok f => exact Or.inl rfl
  | error fault => exact Or.inr ⟨fault, rfl, rfl⟩

/-- **What a checkup finds about radios.** If the files of the radios are missing or can be read,
the check of radios fails exactly if some Bluetooth radio is blocked in some way, and then it names
such a radio and such a way; in another order of the directory it fails as well. Whatever the host
has, and whether or not it can be read, the four checks are made in their order, and each counts for
what it found, or for a failure if it could not be made. -/
theorem radios_checked (adapter : Value) (host : Host) :
    (∀ entries, radios? host = some (.directory entries) → (∀ e ∈ entries, IsReadable e.2) →
      ∃ f, checkRadio host = .ok f ∧
        (f.passed = false ↔ ∃ e ∈ entries, ∃ way, IsBlocked e.2 way) ∧
        (f.passed = false → ∃ name radio way, (name, radio) ∈ entries ∧ IsBlocked radio way ∧
          f.message = blockedMessage name way) ∧
        ∀ (other : Host) (shuffled : List (String × Tree)), shuffled.Perm entries →
          radios? other = some (.directory shuffled) →
          ∃ g, checkRadio other = .ok g ∧ g.passed = f.passed) ∧
      List.Forall₂ (fun c f => CountsAs c (c.run adapter host) f)
        [.service, .adapter, .radio, .permissions] (findings adapter host).1 := by
  constructor
  · intro entries hdirectory hreadable
    obtain ⟨f, hf, hfails, hnames⟩ := checkRadio_spec hdirectory hreadable
    refine ⟨f, hf, hfails, hnames, fun other shuffled hperm hother => ?_⟩
    obtain ⟨g, hg, hgfails, -⟩ :=
      checkRadio_spec hother fun e he => hreadable e (hperm.mem_iff.mp he)
    refine ⟨g, hg, ?_⟩
    have hsame : g.passed = false ↔ f.passed = false := by
      rw [hgfails, hfails]
      simp only [hperm.mem_iff]
    rwa [Bool.eq_iff_iff, ← not_iff_not, Bool.not_eq_true, Bool.not_eq_true]
  · exact .cons (countsAs_conclude ..) (.cons (countsAs_conclude ..)
      (.cons (countsAs_conclude ..) (.cons (countsAs_conclude ..) .nil)))

/-- A file with an ASCII text. -/
def plainFile (text : String) : Tree := .file (text.toList.map fun c => UInt8.ofNat c.toNat)

/-- Two radios: one for wireless networks that is blocked softly, and a Bluetooth radio that is
blocked hard and has no soft state. -/
def mixedRadios : List (String × Tree) :=
  [("rfkill0", .directory [("type", plainFile "wlan\n"), ("soft", plainFile "1\n")]),
    ("rfkill1", .directory [("hard", plainFile " 1\n"), ("type", plainFile "bluetooth\n")])]

/-- A host with radios. -/
def hostWith (radios : List (String × Tree)) : Host where
  root := "/sys/class"
  tree := some (.directory [("rfkill", .directory radios)])

/-- The hard block is found, also if the Bluetooth radio comes first in the directory. Where the
type of a radio cannot be read, four checks are made all the same. -/
theorem hardBlock_found :
    (∀ e ∈ mixedRadios, IsReadable e.2) ∧
      (∃ f, checkRadio (hostWith mixedRadios) = .ok f ∧ f.passed = false) ∧
      (∃ g, checkRadio (hostWith mixedRadios.reverse) = .ok g ∧ g.passed = false) ∧
      (findings (.text "hci0") (hostWith [("rfkill0",
        .directory [("type", .barred (.system "Input/output error"))])])).1.length = 4 := by
  have hcontent {radio : Tree} {name text : String} (content : String)
      (h : radio.child? name = some (plainFile content) ∧
        Text.Utf8.decode (content.toList.map fun c => UInt8.ofNat c.toNat) = .ok content ∧
        Text.trim content = text) : Says radio name text := ⟨_, content, h⟩
  have htype : Says (mixedRadios[1]).2 "type" "bluetooth" :=
    hcontent "bluetooth\n" ⟨rfl, by decide +kernel, by decide +kernel⟩
  have hhard : Says (mixedRadios[1]).2 "hard" "1" :=
    hcontent " 1\n" ⟨rfl, by decide +kernel, by decide +kernel⟩
  have hwlan : Says (mixedRadios[0]).2 "type" "wlan" :=
    hcontent "wlan\n" ⟨rfl, by decide +kernel, by decide +kernel⟩
  have hsoft : Says (mixedRadios[0]).2 "soft" "1" :=
    hcontent "1\n" ⟨rfl, by decide +kernel, by decide +kernel⟩
  have hreadable : ∀ e ∈ mixedRadios, IsReadable e.2 := by
    simp only [mixedRadios, IsReadable, List.forall_mem_cons, List.not_mem_nil, false_implies,
      implies_true, and_true]
    exact ⟨⟨.inr ⟨_, hwlan⟩, .inr ⟨_, hsoft⟩, .inl rfl⟩,
      ⟨.inr ⟨_, htype⟩, .inl rfl, .inr ⟨_, hhard⟩⟩⟩
  obtain ⟨hcheck, hall⟩ := radios_checked (.text "hci0") (hostWith mixedRadios)
  obtain ⟨f, hf, hiff, -, horder⟩ := hcheck mixedRadios rfl hreadable
  have hfails : f.passed = false :=
    hiff.mpr ⟨_, List.getElem_mem (by decide), "hard", htype, by decide, hhard⟩
  obtain ⟨g, hg, hsame⟩ := horder (hostWith mixedRadios.reverse) _ (List.reverse_perm _) rfl
  refine ⟨hreadable, ⟨f, hf, hfails⟩, ⟨g, hg, hsame.trans hfails⟩, ?_⟩
  exact (radios_checked (.text "hci0") _).2.length_eq.symm

end TagGateway.Checkup
