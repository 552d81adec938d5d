import TagGateway.Proofs.Address

/-!
# The canonical form of a text

A text is prepared first: trimmed, put in upper case, with colons for hyphens. It writes an address
exactly if what comes out has the form of one, and then the prepared text is the address.

* `Address.IsPlaced` — which characters may stand at a place of an address; `Address.HasForm` — the
  form of an address, place by place.
* `Address.isPairs_iff` — pairs with colons between them, place by place;
  `Address.hasForm_iff` for six of them.
* `Address.normalize_eq` — what becomes of any text; `Address.normalize_of_isCanonical` — that
  an address stays what it is.
* **`Address.normalize_exact`** — which texts write an address, and which one.
-/

namespace TagGateway.Address

/-- Every third character of an address is a colon, all others are upper-case hexadecimal digits. -/
def IsPlaced (i : Nat) (c : Char) : Prop :=
  if i % 3 = 2 then c = ':' else c ∈ "0123456789ABCDEF".toList

instance (i : Nat) (c : Char) : Decidable (IsPlaced i c) :=
  inferInstanceAs (Decidable (if i % 3 = 2 then _ else _))

/-- The form of an address: seventeen characters, each of which may stand at its place. -/
def HasForm (cs : List Char) : Prop :=
  cs.length = 17 ∧ ∀ i (h : i < cs.length), IsPlaced i cs[i]

instance (cs : List Char) : Decidable (HasForm cs) :=
  inferInstanceAs (Decidable (_ ∧ _))

theorem isUpperHex_iff {c : Char} : isUpperHex c = true ↔ c ∈ "0123456789ABCDEF".toList := by
  have hcodes : c ∈ "0123456789ABCDEF".toList ↔
      c.toNat ∈ [48, 49, 50, 51, 52, 53, 54, 55, 56, 57, 65, 66, 67, 68, 69, 70] := by
    show _ ↔ c.toNat ∈ "0123456789ABCDEF".toList.map Char.toNat
    rw [List.mem_map_of_injective fun a b => Char.toNat_inj.mp]
  rw [hcodes]
  simp only [isUpperHex, Bool.or_eq_true, Bool.and_eq_true, decide_eq_true_eq, List.mem_cons,
    List.not_mem_nil, or_false]
  omega

/-- A pair with a colon behind it, and what follows: the places of the rest are three further on. -/
theorem isPlaced_cons_iff {a b c : Char} {rest : List Char} :
    (∀ i (h : i < (a :: b :: c :: rest).length), IsPlaced i (a :: b :: c :: rest)[i]) ↔
      IsPlaced 0 a ∧ IsPlaced 1 b ∧ IsPlaced 2 c ∧
        ∀ i (h : i < rest.length), IsPlaced i rest[i] := by
  have hshift (i : Nat) (d : Char) : IsPlaced (i + 3) d ↔ IsPlaced i d := by
    unfold IsPlaced
    rw [Nat.add_mod_right]
  constructor
  · intro h
    refine ⟨h 0 (by simp), h 1 (by simp), h 2 (by simp), fun i hi => ?_⟩
    exact (hshift i _).mp (h (i + 3) (by simpa using hi))
  · rintro ⟨ha, hb, hc, hrest⟩ i hi
    match i with
    | 0 => exact ha
    | 1 => exact hb
    | 2 => exact hc
    | i + 3 => exact (hshift i _).mpr (hrest i (by simpa using hi))

/-- Pairs with colons between them, by their length and place by place. -/
theorem isPairs_iff {n : Nat} {cs : List Char} :
    isPairs (n + 1) cs = true ↔
      cs.length = 3 * n + 2 ∧ ∀ i (h : i < cs.length), IsPlaced i cs[i] := by
  induction n generalizing cs with
  | zero =>
    match cs with
    | [] | [_] | _ :: _ :: _ :: _ => simp [isPairs]
    | [a, b] =>
      simp only [isPairs, Bool.and_eq_true, isUpperHex_iff]
      constructor
      · rintro ⟨ha, hb⟩
        refine ⟨rfl, fun i hi => ?_⟩
        match i with
        | 0 => exact ha
        | 1 => exact hb
      · rintro ⟨-, h⟩
        exact ⟨h 0 (by simp), h 1 (by simp)⟩
  | succ n ih =>
    match cs with
    | [] | [_] | [_, _] => simp [isPairs]
    | a :: b :: c :: rest =>
      have hlength : (a :: b :: c :: rest).length = 3 * (n + 1) + 2 ↔ rest.length = 3 * n + 2 := by
        simp only [List.length_cons]
        omega
      rw [hlength, isPlaced_cons_iff]
      by_cases hc : c = ':'
      · subst hc
        have hcolon : IsPlaced 2 ':' := rfl
        simp only [isPairs, Bool.and_eq_true, ih, isUpperHex_iff, hcolon, true_and]
        exact ⟨fun ⟨⟨ha, hb⟩, hlength, hrest⟩ => ⟨hlength, ha, hb, hrest⟩,
          fun ⟨hlength, ha, hb, hrest⟩ => ⟨⟨ha, hb⟩, hlength, hrest⟩⟩
      · have hno : isPairs (n + 2) (a :: b :: c :: rest) = false := by
          unfold isPairs
          split <;> simp_all
        rw [hno]
        exact iff_of_false nofun fun h => hc h.2.2.2.1

/-- Six pairs have the form of an address. -/
theorem hasForm_iff {cs : List Char} : HasForm cs ↔ isPairs 6 cs = true :=
  (isPairs_iff (n := 5)).symm

/-- What becomes of a text: it is prepared, and has the form of an address or is refused. -/
theorem normalize_eq (s : String) :
    normalize s =
      if HasForm (prepared s) then .ok (String.ofList (prepared s))
      else .error (.invalidAddress s) := by
  unfold normalize canonical?
  simp only [matchesPattern_prepared, hasForm_iff]
  split
  · rename_i mac h
    split at h
    · cases h
      rw [if_pos ‹_›]
    · cases h
  · rename_i h
    split at h
    · cases h
    · rw [if_neg ‹_›]

/-- A text that writes no address is refused with what it says. -/
theorem eq_of_normalize_eq_error {s : String} {fault : Fault} (h : normalize s = .error fault) :
    fault = .invalidAddress s := by
  rw [normalize_eq] at h
  split at h
  · cases h
  · cases h
    rfl

/-- Nothing of an address is trimmed, changed to upper case or replaced. -/
theorem prepared_of_isCanonical {mac : String} (h : IsCanonical mac) :
    prepared mac = mac.toList := by
  have hchars := isPairs_chars h
  have hblank : ∀ c ∈ mac.toList, Text.isBlank c = false := by
    intro c hc
    rcases hchars c hc with hdigit | rfl
    · simp only [isUpperHex, Bool.or_eq_true, Bool.and_eq_true, decide_eq_true_eq] at hdigit
      simp only [Text.isBlank, Bool.or_eq_false_iff, Bool.and_eq_false_iff,
        decide_eq_false_iff_not, beq_eq_false_iff_ne]
      omega
    · rfl
  have hupper : ∀ c ∈ mac.toList, Text.upperChar c = [c] :=
    fun c hc => upperChar_of_isUpperHex (hchars c hc)
  have hhyphen : ∀ c ∈ mac.toList, (if c = '-' then ':' else c) = c := by
    intro c hc
    refine if_neg ?_
    rintro rfl
    rcases hchars _ hc with hdigit | hcolon
    · exact absurd hdigit (by decide)
    · cases hcolon
  calc prepared mac
      = mac.toList.map fun c => if c = '-' then ':' else c := by
        rw [prepared, Text.trimChars_eq_self hblank, Text.upperChars_eq_self hupper]
    _ = mac.toList.map id := List.map_congr_left hhyphen
    _ = mac.toList := List.map_id _

theorem ne_empty_of_isCanonical {mac : String} (h : IsCanonical mac) : mac ≠ "" := by
  rintro rfl
  exact absurd h (by decide)

/-- An address stays what it is. -/
theorem normalize_of_isCanonical {mac : String} (h : IsCanonical mac) :
    normalize mac = .ok mac := by
  have hform : HasForm mac.toList := hasForm_iff.mpr h
  rw [normalize_eq, prepared_of_isCanonical h, if_pos hform, String.ofList_toList]

/-- **Which texts write an address.** A text is taken exactly if it has the form of an address once
it is prepared, and then the prepared text is the address; every other text is refused. The pattern
would let a line feed stand at the end, but no prepared text ends in one. An address is taken for
itself, and is its own upper case. -/
theorem normalize_exact (s : String) :
    (normalize s = .ok (String.ofList (prepared s)) ↔ HasForm (prepared s)) ∧
      (matchesPattern (prepared s) = true ↔ HasForm (prepared s)) ∧
      (¬HasForm (prepared s) →
        normalize s = .error (.invalidAddress s) ∧
          (Fault.invalidAddress s).title = "ValueError") ∧
      ∀ mac, normalize s = .ok mac →
        mac = String.ofList (prepared s) ∧ normalize mac = .ok mac ∧ Text.upper mac = mac := by
  refine ⟨?_, ?_, fun hform => ⟨?_, rfl⟩, fun mac hmac => ?_⟩
  · rw [normalize_eq]
    split
    · rename_i hform
      exact iff_of_true rfl hform
    · rename_i hform
      exact iff_of_false nofun hform
  · rw [matchesPattern_prepared, hasForm_iff]
  · rw [normalize_eq, if_neg hform]
  · have hcanonical : IsCanonical mac := isCanonical_of_ofValue (v := .text s) hmac
    refine ⟨?_, normalize_of_isCanonical hcanonical, upper_of_isCanonical hcanonical⟩
    rw [normalize_eq] at hmac
    split at hmac
    · cases hmac
      rfl
    · cases hmac

/-- A ligature is two letters in upper case: with it sixteen characters between blanks write an
address. A zero-width character is no blank, so it is refused at the end of an address. -/
theorem ligature_normalized :
    HasForm (prepared "\x1f\ufb00-0a-1B-2c:3d:4e\u2003\n") ∧
      normalize "\x1f\ufb00-0a-1B-2c:3d:4e\u2003\n" = .ok "FF:0A:1B:2C:3D:4E" ∧
      normalize "FF:0A:1B:2C:3D:4E" = .ok "FF:0A:1B:2C:3D:4E" ∧
      ¬HasForm (prepared "FF:0A:1B:2C:3D:4E\u200b") ∧
      normalize "FF:0A:1B:2C:3D:4E\u200b" =
        .error (.invalidAddress "FF:0A:1B:2C:3D:4E\u200b") := by
  have htaken : HasForm (prepared "\x1f\ufb00-0a-1B-2c:3d:4e\u2003\n") := by decide +kernel
  have hrefused : ¬HasForm (prepared "FF:0A:1B:2C:3D:4E\u200b") := by decide +kernel
  have hsame : String.ofList (prepared "\x1f\ufb00-0a-1B-2c:3d:4e\u2003\n") =
      "FF:0A:1B:2C:3D:4E" := by decide +kernel
  obtain ⟨hiff, -, -, hfixed⟩ := normalize_exact "\x1f\ufb00-0a-1B-2c:3d:4e\u2003\n"
  obtain ⟨-, -, hinvalid, -⟩ := normalize_exact "FF:0A:1B:2C:3D:4E\u200b"
  have hok : normalize "\x1f\ufb00-0a-1B-2c:3d:4e\u2003\n" = .ok "FF:0A:1B:2C:3D:4E" :=
    hsame ▸ hiff.mpr htaken
  exact ⟨htaken, hok, (hfixed _ hok).2.1, hrefused, (hinvalid hrefused).1⟩

end TagGateway.Address
