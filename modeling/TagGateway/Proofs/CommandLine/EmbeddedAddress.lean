import TagGateway.CommandLine.Answer
import TagGateway.Proofs.Address.Bytes
import TagGateway.Proofs.Payload.Formats

/-!
# The address in a payload

A payload of data format 5 carries the address of its sensor, in six bytes. It is compared with the
address of the sender, and stands for it on a command line that names no sender. Since six bytes are
written in canonical form, which is its own upper case, such a comparison cannot fail.

* `Payload.mac_of_decode5` — an address that is measured is canonical, and that of the sender.
* `Flaw.not_mem_message` — a letter that stands in the report of differing addresses only;
  `Flaw.not_mem_report` — so it is in no report of other flaws.
* `CommandLine.Report.ShowsAddress` — that a report shows an address as that of the sender, and
  speaks of no other; `CommandLine.showsAddress_decodeReport` — that a command without a sender
  reports so.
* **`CommandLine.embedded_address_matches`** — the laws of addresses of bytes, and what they mean
  for measurements and for the command.
-/

namespace TagGateway

namespace Payload

variable {a : Advertisement} {mode : Mode} {m : Measurement} {data : List UInt8}

/-- The address in a payload that is long enough is canonical. -/
theorem isCanonical_address (h : format5Size ≤ data.length) :
    Address.IsCanonical (Address.ofBytes (Raw5.ofBytes data).address) :=
  Address.isCanonical_ofBytes (Raw5.length_address h)

/-- The address that is measured: the one in the payload, unless it is flawed. -/
theorem mac_measurement5 (a : Advertisement) :
    (measurement5 a).mac = if (Raw5.addressFlaw? a.mac (Raw5.ofBytes a.payload).address).isSome then ""
      else Address.ofBytes (Raw5.ofBytes a.payload).address :=
  rfl

/-- An address that is measured is canonical, and that of the sender. -/
theorem mac_of_decode5 (h : decode5 mode a = .ok m) (hmac : m.mac ≠ "") :
    Address.IsCanonical m.mac ∧ m.mac = Text.upper a.mac := by
  obtain ⟨hlong, hm⟩ := DataFormat.eq_of_decode (f := .five) h
  have hread : m.mac = (measurement5 a).mac := by
    rw [hm]
    rfl
  rw [mac_measurement5, Raw5.addressFlaw?] at hread
  split at hread
  · rename_i hsame
    rw [hread, hsame]
    exact ⟨isCanonical_address hlong, rfl⟩
  · exact absurd hread hmac

/-- A payload that is long enough is refused for one of its flaws, in strict mode, or measured. -/
theorem decode5_cases (hlong : format5Size ≤ a.payload.length) (mode : Mode) :
    (mode = .strict ∧ ∃ flaw ∈ flaws5 a, decode5 mode a = .error (.undecodable 5 flaw)) ∨
      decode5 mode a = .ok { measurement5 a with
        flawed := !(flaws5 a).isEmpty, report := Flaw.report (flaws5 a) } := by
  rw [(decodes5 a).long hlong mode]
  cases mode with
  | lenient => exact .inr rfl
  | strict =>
    cases flaws5 a with
    | nil => exact .inr rfl
    | cons first rest => exact .inl ⟨rfl, first, List.mem_cons_self, rfl⟩

/-! ## Reports of flaws -/

/-- The letter `k` stands in the report of differing addresses and in that of no other flaw. -/
theorem Flaw.not_mem_message {flaw : Flaw} (h : flaw ≠ .address) : 'k' ∉ flaw.message.toList := by
  have hnumber (n : Nat) : 'k' ∉ Nat.toDigits 10 n := by
    intro hk
    have hdigit : 'k'.isDigit = true := Nat.isDigit_of_mem_toDigits (by decide) (by decide) hk
    cases hdigit
  have hcount (words : String) (needed got : Nat) (hwords : 'k' ∉ words.toList) :
      'k' ∉ (words ++ toString needed ++ ", got " ++ toString got).toList := by
    simp [hwords, hnumber]
  cases flaw with
  | tooShort needed got => exact hcount _ needed got (by decide)
  | size needed got => exact hcount _ needed got (by decide)
  | tag needed got => exact hcount _ needed got (by decide)
  | acceleration axis => cases axis <;> decide
  | address => exact absurd rfl h
  | _ => decide

theorem not_mem_refusal {flaw : Flaw} (h : flaw ≠ .address) : 'k' ∉ (refusal 5 flaw).toList := by
  have hfive : 'k' ∉ Nat.toDigits 10 5 := by decide
  show 'k' ∉ ("Data format " ++ toString 5 ++ " conversion failed: " ++ flaw.message).toList
  simp [hfive, Flaw.not_mem_message h]

theorem Flaw.not_mem_report {flaws : List Flaw} (h : .address ∉ flaws) :
    'k' ∉ (Flaw.report flaws).toList := by
  induction flaws with
  | nil => decide
  | cons flaw rest ih =>
    have hflaw := not_mem_message (fun heq => h (heq ▸ List.mem_cons_self) : flaw ≠ .address)
    have hrest := ih fun hmem => h (List.mem_cons_of_mem flaw hmem)
    cases rest with
    | nil => simpa [report] using hflaw
    | cons next rest =>
      simpa [report, String.intercalate_cons_cons, hflaw] using hrest

/-- The flaws of a payload are about the address only if it is not that of the sender. -/
theorem address_notMem_flaws5 (h : Raw5.addressFlaw? a.mac (Raw5.ofBytes a.payload).address = none) :
    .address ∉ flaws5 a := by
  have hhumidity (w : Nat) : Raw5.humidityFlaw? w ≠ some .address := by
    unfold Raw5.humidityFlaw?
    split
    · nofun
    · split <;> nofun
  simp [flaws5, envelopeFlaws, sizeFlaw?, tagFlaw?, Raw5.temperatureFlaw?, hhumidity,
    Raw5.pressureFlaw?, Raw5.accelerationFlaw?, Raw5.batteryFlaw?, Raw5.txPowerFlaw?,
    Raw5.movementFlaw?, h]

end Payload

namespace CommandLine

open Payload (Flaw Raw5 decode flaws5 measurement5)

variable {o : DecodeOptions} {a : Advertisement} {m : Measurement} {data : List UInt8}
  {mac : String}

/-! ## What is shown -/

/-- A report shows an address as that of the sender, and speaks of no other: neither does a line say
that there is one, nor is there the mark for it in a table. -/
structure Report.ShowsAddress (r : Report) (mac : String) : Prop where
  lines : ∀ phrase, .line phrase ∈ r.shown →
    ¬Flaw.address.message.toList <:+: phrase.text.toList
  address : ∀ table, .table table ∈ r.shown →
    table.rows.head? = some [⟨"MAC", .neutral⟩, ⟨mac, .neutral⟩]
  marks : ∀ table, .table table ∈ r.shown → ∀ row ∈ table.rows, ⟨"mismatch", .bad⟩ ∉ row

/-- A text without the letter `k` does not say that addresses differ. -/
theorem not_differ {text : String} (h : 'k' ∉ text.toList) :
    ¬Flaw.address.message.toList <:+: text.toList := by
  intro hsays
  have hk : 'k' ∈ Flaw.address.message.toList := by decide
  exact h <| List.IsInfix.subset hsays hk

theorem showsAddress_failure {message : String} (tone : Tone) (h : 'k' ∉ message.toList) :
    (Report.failure [] message tone).ShowsAddress mac where
  lines phrase hphrase := by
    have hsame : phrase = ⟨message, tone⟩ := by simpa [Report.failure] using hphrase
    rw [hsame]
    exact not_differ h
  address table htable := by simp [Report.failure] at htable
  marks table htable := by simp [Report.failure] at htable

/-- With an address that is not empty, all that is measured is shown without a tone. -/
theorem tone_measurementRows (hmac : m.mac ≠ "") :
    ∀ row ∈ measurementRows m, row.2.tone = .neutral := by
  have hfirst : m.mac.isEmpty = false := by simpa using hmac
  unfold measurementRows
  simp only [hfirst, List.forall_mem_append, List.forall_mem_cons, List.forall_mem_map]
  cases m.transmission with
  | none => simp
  | some t => simp

theorem rows_measurementTable (m : Measurement) : (measurementTable m).rows =
    (measurementRows m).map fun (label, value) => [⟨label, .neutral⟩, value] :=
  rfl

theorem head?_measurementTable (hmac : m.mac ≠ "") :
    (measurementTable m).rows.head? = some [⟨"MAC", .neutral⟩, ⟨m.mac, .neutral⟩] := by
  have hfirst : m.mac.isEmpty = false := by simpa using hmac
  obtain ⟨others, hrows⟩ :
      ∃ others, measurementRows m = ("MAC", ⟨m.mac, .neutral⟩) :: others := by
    unfold measurementRows
    rw [hfirst]
    exact ⟨_, rfl⟩
  rw [rows_measurementTable, hrows, List.map_cons, List.head?_cons]

theorem mark_notMem_measurementTable (hmac : m.mac ≠ "") {row : List Phrase}
    (hrow : row ∈ (measurementTable m).rows) : ⟨"mismatch", .bad⟩ ∉ row := by
  obtain ⟨⟨label, value⟩, hvalue, rfl⟩ := List.mem_map.mp hrow
  have htone : value.tone = .neutral := tone_measurementRows hmac _ hvalue
  intro hmark
  simp only [List.mem_cons, List.not_mem_nil, or_false] at hmark
  rcases hmark with hlabel | hmark
  · cases hlabel
  · rw [← hmark] at htone
    cases htone

/-- What is shown of a measurement: its table, and a line if it is flawed. -/
theorem mem_shown_measured {shown : Shown}
    (h : shown ∈ Shown.table (measurementTable m) ::
      (if m.flawed then [.line ⟨"Errors: " ++ m.report, .bad⟩] else [])) :
    shown = .table (measurementTable m) ∨ shown = .line ⟨"Errors: " ++ m.report, .bad⟩ := by
  rcases List.mem_cons.mp h with htable | hline
  · exact .inl htable
  · split at hline
    · exact .inr (List.mem_singleton.mp hline)
    · cases hline

/-- A measurement with an address is shown with this address. -/
theorem showsAddress_measured (hmac : m.mac ≠ "") (hreport : 'k' ∉ m.report.toList) :
    ({ shown := .table (measurementTable m) ::
        (if m.flawed then [.line ⟨"Errors: " ++ m.report, .bad⟩] else []) } :
      Report).ShowsAddress m.mac where
  lines phrase hphrase := by
    have hline : 'k' ∉ ("Errors: " ++ m.report).toList := by simp [hreport]
    rcases mem_shown_measured hphrase with htable | hsame
    · cases htable
    · cases hsame
      exact not_differ hline
  address table htable := by
    rcases mem_shown_measured htable with hsame | hline
    · cases hsame
      exact head?_measurementTable hmac
    · cases hline
  marks table htable row hrow := by
    rcases mem_shown_measured htable with hsame | hline
    · cases hsame
      exact mark_notMem_measurementTable hmac hrow
    · cases hline

/-! ## The command -/

/-- Without a sender, the address in the payload is compared with itself. -/
theorem addressFlaw?_embedded (hlong : Payload.format5Size ≤ data.length)
    (hfirst : data.head? = some 5) :
    Raw5.addressFlaw? (Text.upper (embeddedAddress data)) (Raw5.ofBytes data).address = none := by
  have hembedded : embeddedAddress data = Address.ofBytes (Raw5.ofBytes data).address :=
    if_pos ⟨hlong, hfirst⟩
  have hcanonical := Payload.isCanonical_address hlong
  rw [hembedded, Raw5.addressFlaw?, Text.upper_upper,
    Address.upper_of_isCanonical hcanonical, if_pos rfl]

theorem decodeReport_eq (h : o.advertisement = .ok a) :
    decodeReport o = .ok (
      match decode (if o.strict then .strict else .lenient) a with
      | .error fault => Report.failure [] fault.message
      | .ok none =>
        Report.failure [] ("Not a supported Ruuvi payload: " ++ (Payload.identify a).name) .doubtful
      | .ok (some m) =>
        { shown := .table (measurementTable m) ::
            (if m.flawed then [.line ⟨"Errors: " ++ m.report, .bad⟩] else []) }) := by
  unfold decodeReport
  rw [h]
  simp only [bind, Except.bind]
  cases decode (if o.strict then .strict else .lenient) a with
  | error fault => rfl
  | ok measured => cases measured <;> rfl

/-- What the command shows of an advertisement whose address is that of its payload. -/
theorem showsAddress_decodeReport (h : o.advertisement = .ok a)
    (hlong : Payload.format5Size ≤ a.payload.length) (hfirst : a.payload.head? = some 5)
    (hsame : Raw5.addressFlaw? a.mac (Raw5.ofBytes a.payload).address = none) :
    ∃ r, decodeReport o = .ok r ∧ r.ShowsAddress (Address.ofBytes (Raw5.ofBytes a.payload).address) ∧
      (o.strict = false → (a.manufacturer == .int 0x0499) = true →
        ∃ table, .table table ∈ r.shown) := by
  have hflaws := Payload.address_notMem_flaws5 hsame
  refine ⟨_, decodeReport_eq h, ?_⟩
  by_cases hmanufacturer : (a.manufacturer == .int 0x0499) = true
  · have hnames : Payload.DataFormat.five.Names a := ⟨hmanufacturer, by rw [hfirst]; rfl⟩
    have hmac : (measurement5 a).mac = Address.ofBytes (Raw5.ofBytes a.payload).address := by
      rw [Payload.mac_measurement5, hsame]
      rfl
    have hne : (measurement5 a).mac ≠ "" := by
      rw [hmac]
      exact Address.ne_empty_of_isCanonical (Payload.isCanonical_address hlong)
    have hdecode (mode : Payload.Mode) : decode mode a = (Payload.decode5 mode a).map some :=
      Payload.decode_of_names hnames mode
    rw [hdecode]
    rcases Payload.decode5_cases hlong (if o.strict then .strict else .lenient) with
      ⟨hstrict, flaw, hflaw, hrefused⟩ | hmeasured
    · have hmessage : 'k' ∉ (Payload.refusal 5 flaw).toList :=
        Payload.not_mem_refusal fun heq => hflaws (heq ▸ hflaw)
      rw [hrefused]
      refine ⟨showsAddress_failure .bad hmessage, fun hlenient => ?_⟩
      rw [hlenient] at hstrict
      cases hstrict
    · rw [hmeasured, ← hmac]
      exact ⟨showsAddress_measured hne (Flaw.not_mem_report hflaws),
        fun _ _ => ⟨_, List.mem_cons_self⟩⟩
  · have hdecoded := Payload.decode_of_nameless (a := a) fun f hf => hmanufacturer hf.1
    have hforeign : Payload.identify a = .foreign := if_neg hmanufacturer
    rw [hdecoded, hforeign]
    refine ⟨showsAddress_failure .doubtful (by decide), fun _ hours => absurd hours hmanufacturer⟩

/-- **The address in a payload.** Bytes that are written as an address can be read off its parts
again, so that no two lists of bytes are written alike, and six of them are written in canonical
form. So an address that is measured is canonical, and the one of the sender in upper case. A
command that names no sender, for a payload with enough bytes and the tag of data format 5, shows
the address of that payload and speaks of no other: it measures the payload, refuses it for another
flaw or as that of another manufacturer, unless the manufacturer is not a number. -/
theorem embedded_address_matches :
    (∀ bs : List UInt8, bs ≠ [] →
      ((Address.ofBytes bs).toList.splitOn ':').map Address.hexNumber? =
        bs.map fun b => some b.toNat) ∧
    Function.Injective Address.ofBytes ∧
    (∀ bs : List UInt8, bs.length = 6 →
      Address.normalize (Address.ofBytes bs) = .ok (Address.ofBytes bs)) ∧
    (∀ mode a m, Payload.decode5 mode a = .ok m → m.mac ≠ "" →
      Address.IsCanonical m.mac ∧ Address.normalize m.mac = .ok m.mac ∧
        m.mac = Text.upper a.mac) ∧
    ∀ (o : DecodeOptions) (data : List UInt8), o.mac = none →
      Payload.ofHex? o.payload = some data → 24 ≤ data.length → data.head? = some 5 →
      (Decimal.readNumeral? o.manufacturer = none ∧
        decodeReport o = .error (.notNumber o.manufacturer)) ∨
      ∃ r, decodeReport o = .ok r ∧
        r.ShowsAddress (Address.ofBytes ((data.drop 18).take 6)) ∧
        (o.strict = false → Decimal.readNumeral? o.manufacturer = some 0x0499 →
          ∃ table, .table table ∈ r.shown) := by
  refine ⟨fun _ => Address.map_hexNumber?_ofBytes, Address.ofBytes_injective, fun bs hbs => ?_,
    fun mode a m hm hmac => ?_, fun o data hmac hdata hlong hfirst => ?_⟩
  · exact Address.normalize_of_isCanonical (Address.isCanonical_ofBytes hbs)
  · obtain ⟨hcanonical, hsender⟩ := Payload.mac_of_decode5 hm hmac
    exact ⟨hcanonical, Address.normalize_of_isCanonical hcanonical, hsender⟩
  · cases hnumber : Decimal.readNumeral? o.manufacturer with
    | none =>
      have hrefused : o.advertisement = .error (.notNumber o.manufacturer) := by
        rw [DecodeOptions.advertisement, hdata, hnumber]
      refine .inl ⟨rfl, ?_⟩
      rw [decodeReport, hrefused]
      rfl
    | some manufacturer =>
      let a : Advertisement :=
        { mac := Text.upper (embeddedAddress data), manufacturer := .int manufacturer
          payload := data, signalStrength := o.signalStrength }
      have ha : o.advertisement = .ok a := by
        rw [DecodeOptions.advertisement, hdata, hnumber, hmac]
        rfl
      obtain ⟨r, hr, hshows, htable⟩ :=
        showsAddress_decodeReport ha hlong hfirst (addressFlaw?_embedded hlong hfirst)
      refine .inr ⟨r, hr, hshows, fun hlenient hours => htable hlenient ?_⟩
      cases hours
      rfl

/-- An advertisement from the sensor whose address its payload carries. -/
def ownAddress : Advertisement where
  mac := "cb:b8:33:4c:88:4f"
  payload := [5, 0x80, 0, 0xFF, 0xFF, 0xFF, 0xFF, 0x80, 0, 0x80, 0, 0x80, 0, 0xFF, 0xFF, 0xFF,
    0xFF, 0xFF, 0xCB, 0xB8, 0x33, 0x4C, 0x88, 0x4F, 0]

/-- A command that names no sender for this payload, which has flaws in all its other fields. -/
def withoutSender : DecodeOptions where
  payload := "0x05 8000 ffff ffff 8000 8000 8000 ffff ff ffff CB:B8:33:4C:88:4F 00"

theorem ownAddress_matches :
    ((Address.ofBytes [0x0B, 0xA0]).toList.splitOn ':').map Address.hexNumber? =
      [some 0x0B, some 0xA0] ∧
    Address.normalize (Address.ofBytes [0xCB, 0xB8, 0x33, 0x4C, 0x88, 0x4F]) =
      .ok (Address.ofBytes [0xCB, 0xB8, 0x33, 0x4C, 0x88, 0x4F]) ∧
    (∃ m, Payload.decode5 .lenient ownAddress = .ok m ∧ m.mac ≠ "" ∧
      m.mac = Text.upper ownAddress.mac) ∧
    ∃ r, decodeReport withoutSender = .ok r ∧ r.ShowsAddress "CB:B8:33:4C:88:4F" ∧
      ∃ table, .table table ∈ r.shown := by
  obtain ⟨hparts, -, hfixed, hmeasured, hreported⟩ := embedded_address_matches
  refine ⟨hparts _ (by decide), hfixed _ rfl, ?_, ?_⟩
  · have hdecoded := (Payload.decodes5 ownAddress).long (by decide) .lenient
    have hmac : (measurement5 ownAddress).mac ≠ "" := by decide +kernel
    exact ⟨_, hdecoded, hmac, (hmeasured _ _ _ hdecoded hmac).2.2⟩
  · have hdata : Payload.ofHex? withoutSender.payload = some ownAddress.payload := by
      decide +kernel
    have hours : Decimal.readNumeral? withoutSender.manufacturer = some 0x0499 := by
      decide +kernel
    have hshown : Address.ofBytes ((ownAddress.payload.drop 18).take 6) = "CB:B8:33:4C:88:4F" := by
      decide +kernel
    rcases hreported withoutSender _ rfl hdata (by decide) rfl with
      ⟨hnone, -⟩ | ⟨r, hr, hshows, htable⟩
    · rw [hours] at hnone
      cases hnone
    · exact ⟨r, hr, hshown ▸ hshows, htable rfl hours⟩

end CommandLine

end TagGateway
