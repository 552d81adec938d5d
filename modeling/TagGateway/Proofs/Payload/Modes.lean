import TagGateway.Proofs.Payload.Fields

/-!
# The two modes of decoding

Strict and lenient decoding read the same fields and find the same flaws; they differ in what a
flaw does to the outcome.

* `Payload.settled` — the outcome of a mode for fields and flaws; `Payload.Decodes` — that a decoder
  refuses what is too short and settles the rest, as those of both formats do;
  `Payload.decode_cases` — what this makes of an advertisement in any format.
* `Payload.Agree` — that two outcomes are those of the two modes for one advertisement;
  **`Payload.modes_agree`** — every decoder has such outcomes.
-/

namespace TagGateway.Payload

/-! ## Outcomes -/

/-- What a mode makes of the fields of a payload and of what is wrong with it. -/
def settled (mode : Mode) (tag : Nat) (m : Measurement) (found : List Flaw) :
    Except Fault Measurement :=
  match mode, found with
  | .strict, first :: _ => .error (.undecodable tag first)
  | _, _ => .ok { m with flawed := !found.isEmpty, report := Flaw.report found }

/-- A measurement that is settled has the fields that were read. -/
theorem fields_of_settled {mode : Mode} {tag : Nat} {m m' : Measurement} {found : List Flaw}
    (h : settled mode tag m found = .ok m') :
    m' = { m with flawed := !found.isEmpty, report := Flaw.report found } := by
  unfold settled at h
  split at h <;> cases h
  rfl

/-- A reading that finds these flaws is carried out to what its mode makes of them. -/
theorem Reading.Finds.run {r : Mode → Reading Measurement} {m : Measurement} {found : List Flaw}
    (h : Reading.Finds r m found) (mode : Mode) (tag : Nat) :
    (r mode).run tag = settled mode tag m found := by
  unfold Reading.run
  rw [h mode []]
  cases mode with
  | lenient => rfl
  | strict =>
    cases found with
    | nil => rfl
    | cons first rest => rfl

theorem Reading.run_of_error {r : Reading Measurement} {flaw : Flaw} (h : r [] = .error flaw)
    (tag : Nat) : r.run tag = .error (.undecodable tag flaw) := by
  rw [Reading.run, h]

/-- A decoder of one format refuses a payload that is too short, in either mode, and settles all
others by the fields and the flaws that they have. -/
structure Decodes (decoder : Mode → Except Fault Measurement) (tag needed : Nat)
    (a : Advertisement) (m : Measurement) (found : List Flaw) : Prop where
  short : a.payload.length < needed →
    ∀ mode, decoder mode = .error (.undecodable tag (.tooShort needed a.payload.length))
  long : needed ≤ a.payload.length → ∀ mode, decoder mode = settled mode tag m found

theorem decodes5 (a : Advertisement) :
    Decodes (fun mode => decode5 mode a) 5 format5Size a (measurement5 a) (flaws5 a) where
  short h mode := Reading.run_of_error (Reading.bind_of_error _ (readEnvelope_of_short h mode [])) 5
  long h mode := (finds_read5 h).run mode 5

theorem decodes3 (a : Advertisement) :
    Decodes (fun mode => decode3 mode a) 3 format3Size a (measurement3 a) (flaws3 a) where
  short h mode := Reading.run_of_error (Reading.bind_of_error _ (readEnvelope_of_short h mode [])) 3
  long h mode := (finds_read3 h).run mode 3

/-- What both modes make of one advertisement: it is in no format that is decoded, or it is too
short for its format, or its fields and flaws are settled. -/
theorem decode_cases (a : Advertisement) :
    (identify a ≠ .format5 ∧ identify a ≠ .format3 ∧ ∀ mode, decode mode a = .ok none) ∨
    ((identify a = .format5 ∨ identify a = .format3) ∧
      ((∃ tag flaw, ∀ mode, decode mode a = .error (.undecodable tag flaw)) ∨
       ∃ tag m found, (m = measurement5 a ∨ m = measurement3 a) ∧
        ∀ mode, decode mode a = (settled mode tag m found).map some)) := by
  cases hformat : identify a with
  | format5 =>
    refine .inr ⟨.inl rfl, ?_⟩
    simp only [decode, hformat]
    rcases Nat.lt_or_ge a.payload.length format5Size with hlen | hlen
    · exact .inl ⟨_, _, fun mode => congrArg (Except.map some) ((decodes5 a).short hlen mode)⟩
    · exact .inr ⟨_, _, _, .inl rfl,
        fun mode => congrArg (Except.map some) ((decodes5 a).long hlen mode)⟩
  | format3 =>
    refine .inr ⟨.inr rfl, ?_⟩
    simp only [decode, hformat]
    rcases Nat.lt_or_ge a.payload.length format3Size with hlen | hlen
    · exact .inl ⟨_, _, fun mode => congrArg (Except.map some) ((decodes3 a).short hlen mode)⟩
    · exact .inr ⟨_, _, _, .inr rfl,
        fun mode => congrArg (Except.map some) ((decodes3 a).long hlen mode)⟩
  | foreign | unknown | format4 | format8 =>
    exact .inl ⟨nofun, nofun, fun mode => by rw [decode, hformat]⟩

/-! ## Agreement -/

/-- The errors of a payload as data of a format. -/
def errorsAs (tag : Nat) (a : Advertisement) : List String :=
  if tag = 5 then errors5 a else errors3 a

/-- The outcomes of lenient and of strict decoding of one advertisement agree. -/
structure Agree (a : Advertisement) (lenient strict : Except Fault (Option Measurement)) :
    Prop where
  /-- Either mode gives nothing exactly when the other does. -/
  none_iff : lenient = .ok none ↔ strict = .ok none
  /-- What lenient mode refuses, strict mode refuses in the same words. -/
  refused : ∀ f, lenient = .error f → f.title = "DecodeError" ∧ strict = .error f
  /-- What is without errors in lenient mode is the same in strict mode. -/
  clean : ∀ m, lenient = .ok (some m) → m.flawed = false → strict = .ok (some m)
  /-- What has errors in lenient mode, strict mode refuses with the first of those reported. -/
  flawed : ∀ m, lenient = .ok (some m) → m.flawed = true →
    ∃ first rest f, errorsAs m.tag a = first :: rest ∧
      m.report = " - ".intercalate (first :: rest) ∧
      strict = .error f ∧ f.title = "DecodeError" ∧
      f.message = "Data format " ++ toString m.tag ++ " conversion failed: " ++ first

/-- Formats that are not decoded agree. -/
theorem agree_none (a : Advertisement) : Agree a (.ok none) (.ok none) where
  none_iff := Iff.rfl
  refused f h := by cases h
  clean m h := by cases h
  flawed m h := by cases h

/-- A payload that is too short is refused alike. -/
theorem agree_undecodable (a : Advertisement) (tag : Nat) (flaw : Flaw) :
    Agree a (.error (.undecodable tag flaw)) (.error (.undecodable tag flaw)) where
  none_iff := Iff.rfl
  refused f h := by
    cases h
    exact ⟨rfl, rfl⟩
  clean m h := by cases h
  flawed m h := by cases h

/-- Outcomes that are settled by the same fields and the same flaws agree. -/
theorem agree_settled {a : Advertisement} {tag : Nat} {m : Measurement} {found : List Flaw}
    (htag : m.tag = tag) (hfound : found.map Flaw.message = errorsAs tag a) :
    Agree a ((settled .lenient tag m found).map some) ((settled .strict tag m found).map some) := by
  cases found with
  | nil =>
    refine ⟨Iff.rfl, ?_, ?_, ?_⟩
    · intro f h
      cases h
    · intro m' h _
      exact h
    · intro m' h hflawed
      cases h
      cases hflawed
  | cons first rest =>
    refine ⟨⟨nofun, nofun⟩, ?_, ?_, ?_⟩
    · intro f h
      cases h
    · intro m' h hclean
      cases h
      cases hclean
    · intro m' h _
      cases h
      refine ⟨first.message, rest.map Flaw.message, .undecodable tag first, ?_, rfl, rfl, rfl, ?_⟩
      · show errorsAs m.tag a = _
        rw [htag, ← hfound]
        rfl
      · show Payload.refusal tag first = "Data format " ++ toString m.tag ++ _ ++ _
        rw [htag]
        rfl

theorem Decodes.agree {decoder : Mode → Except Fault Measurement} {tag needed : Nat}
    {a : Advertisement} {m : Measurement} {found : List Flaw}
    (h : Decodes decoder tag needed a m found) (htag : m.tag = tag)
    (hfound : found.map Flaw.message = errorsAs tag a) :
    Agree a ((decoder .lenient).map some) ((decoder .strict).map some) := by
  rcases Nat.lt_or_ge a.payload.length needed with hlen | hlen
  · rw [h.short hlen, h.short hlen]
    exact agree_undecodable a tag _
  · rw [h.long hlen, h.long hlen]
    exact agree_settled htag hfound

theorem Decodes.tag_eq {decoder : Mode → Except Fault Measurement} {tag needed : Nat}
    {a : Advertisement} {m m' : Measurement} {found : List Flaw}
    (h : Decodes decoder tag needed a m found) (htag : m.tag = tag)
    (hm' : decoder .lenient = .ok m') : m'.tag = tag := by
  rcases Nat.lt_or_ge a.payload.length needed with hlen | hlen
  · rw [h.short hlen] at hm'
    cases hm'
  · rw [h.long hlen] at hm'
    cases hm'
    exact htag

/-- **The modes agree.** On every advertisement the outcomes of each decoder in lenient and in
strict mode agree, a measurement that a decoder of one format gives being of that format. -/
theorem modes_agree (a : Advertisement) :
    Agree a ((decode5 .lenient a).map some) ((decode5 .strict a).map some) ∧
    Agree a ((decode3 .lenient a).map some) ((decode3 .strict a).map some) ∧
    Agree a (decode .lenient a) (decode .strict a) ∧
    (∀ m, decode5 .lenient a = .ok m → m.tag = 5) ∧
    (∀ m, decode3 .lenient a = .ok m → m.tag = 3) := by
  have h5 := (decodes5 a).agree rfl (message_flaws5 a)
  have h3 := (decodes3 a).agree rfl (message_flaws3 a)
  refine ⟨h5, h3, ?_, fun _ => (decodes5 a).tag_eq rfl, fun _ => (decodes3 a).tag_eq rfl⟩
  unfold decode
  cases identify a with
  | format5 => exact h5
  | format3 => exact h3
  | foreign => exact agree_none a
  | unknown => exact agree_none a
  | format4 => exact agree_none a
  | format8 => exact agree_none a

end TagGateway.Payload
