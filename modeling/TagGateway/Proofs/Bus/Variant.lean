import Mathlib.Data.List.Infix
import TagGateway.Bus.Variant

/-!
# What is wrapped and unwrapped

Values of the bus carry variants at any depth; the callers of the service see none. Unwrapping takes
all of them away and leaves the rest as it was. Wrapping puts one variant around each option of a
call, so that unwrapping gives the arguments back.

* `Value.IsPlain` — that there are no variants in a value; `Value.IsBuilt` — what arrives.
* `Value.Unwraps` — that a value is another one without its variants, said by its parts;
  `Value.unwraps_iff` — unwrapping gives this value and no other does.
* `Value.IsOption` — what an option may be, with the signature of its type; `Value.Wraps` — that an
  argument has been wrapped; `Value.wrapEntries_eq_ok` — the options of one argument, by induction.
* **`Bus.unwrap_inverts`** — what unwrapping does to any value, and that it undoes wrapping.
-/

namespace TagGateway

/-! ## Lists that are taken item by item -/

section Items

variable {α β κ : Type} {xs : List α} {ys : List β}

theorem mem_zip_map {f : α → β} {p : α × β} (h : p ∈ xs.zip (xs.map f)) :
    p.1 ∈ xs ∧ p.2 = f p.1 := by
  rw [← List.map_id xs, List.map_map, List.zip_map', List.mem_map] at h
  obtain ⟨x, hx, rfl⟩ := h
  exact ⟨hx, rfl⟩

theorem eq_map_of_zip {f : α → β} (hlength : xs.length = ys.length)
    (h : ∀ p ∈ xs.zip ys, p.2 = f p.1) : ys = xs.map f := by
  induction xs generalizing ys with
  | nil => exact List.length_eq_zero_iff.mp hlength.symm
  | cons x rest ih =>
    cases ys with
    | nil => cases hlength
    | cons y others =>
      rw [List.zip_cons_cons, List.forall_mem_cons] at h
      rw [List.map_cons, ← h.1, ← ih (Nat.succ.inj hlength) h.2]

theorem eq_map_of_keys {ds : List (κ × α)} {es : List (κ × β)} {f : α → β}
    (hkeys : ds.map (·.1) = es.map (·.1)) (h : ∀ p ∈ ds.zip es, p.2.2 = f p.1.2) :
    es = ds.map fun d => (d.1, f d.2) := by
  induction ds generalizing es with
  | nil => simpa using hkeys.symm
  | cons d rest ih =>
    cases es with
    | nil => cases hkeys
    | cons e others =>
      rw [List.zip_cons_cons, List.forall_mem_cons] at h
      obtain ⟨hkey, hothers⟩ := List.cons.inj hkeys
      rw [List.map_cons, ← ih hothers h.2, ← h.1]
      exact congrArg (· :: others) (Prod.ext hkey.symm rfl)

end Items

namespace Value

/-! ## Values with and without variants -/

/-- A value without parts. -/
inductive IsSingle : Value → Prop
  | null : IsSingle null
  | bool (b : Bool) : IsSingle (bool b)
  | int (i : Int) : IsSingle (int i)
  | float (x : Float) : IsSingle (float x)
  | text (s : String) : IsSingle (text s)
  | bytes (bs : List UInt8) : IsSingle (bytes bs)

/-- There is no variant in a value, however deep. -/
inductive IsPlain : Value → Prop
  | single {v : Value} (h : v.IsSingle) : IsPlain v
  | list {items : List Value} (hitems : ∀ v ∈ items, IsPlain v) : IsPlain (list items)
  | struct {items : List Value} (hitems : ∀ v ∈ items, IsPlain v) : IsPlain (struct items)
  | dict {entries : List (Value × Value)} (hkeys : ∀ e ∈ entries, IsPlain e.1)
    (hvalues : ∀ e ∈ entries, IsPlain e.2) : IsPlain (dict entries)

/-- A value is built from values without parts, lists, dictionaries and variants. The keys of a
dictionary are such as can be keys. -/
inductive IsBuilt : Value → Prop
  | single {v : Value} (h : v.IsSingle) : IsBuilt v
  | list {items : List Value} (hitems : ∀ v ∈ items, IsBuilt v) : IsBuilt (list items)
  | dict {entries : List (Value × Value)} (hkeys : ∀ e ∈ entries, e.1.keyFault? = none)
    (hvalues : ∀ e ∈ entries, IsBuilt e.2) : IsBuilt (dict entries)
  | variant {v : Value} (signature : String) (h : IsBuilt v) : IsBuilt (variant signature v)

/-- A value is another one without its variants: lists have as many items, dictionaries the same
keys in the same order, and what has no parts is the same. -/
inductive Unwraps : Value → Value → Prop
  | single {v : Value} (h : v.IsSingle) : Unwraps v v
  | list {xs ys : List Value} (hlength : xs.length = ys.length)
    (hitems : ∀ p ∈ xs.zip ys, Unwraps p.1 p.2) : Unwraps (list xs) (list ys)
  | dict {ds es : List (Value × Value)} (hkeys : ds.map (·.1) = es.map (·.1))
    (hvalues : ∀ p ∈ ds.zip es, Unwraps p.1.2 p.2.2) : Unwraps (dict ds) (dict es)
  | variant {v w : Value} (signature : String) (h : Unwraps v w) :
    Unwraps (variant signature v) w

variable {v w : Value} {signature : String} {items args : List Value}
  {entries : List (Value × Value)}

/-! ## Unwrapping -/

theorem unwrapItems_eq (items : List Value) : unwrapItems items = items.map unwrap := by
  induction items with
  | nil => rfl
  | cons v rest ih => rw [unwrapItems, ih, List.map_cons]

theorem unwrapEntries_eq (entries : List (Value × Value)) :
    unwrapEntries entries = entries.map fun e => (e.1, e.2.unwrap) := by
  induction entries with
  | nil => rfl
  | cons e rest ih => rw [unwrapEntries, ih, List.map_cons]

theorem IsSingle.unwrap_eq (h : v.IsSingle) : v.unwrap = v := by
  cases h <;> rfl

mutual

/-- What can be a key has no variants in it. -/
theorem isPlain_of_keyFault? : ∀ {v : Value}, v.keyFault? = none → v.IsPlain
  | null, _ => .single .null
  | bool b, _ => .single (.bool b)
  | int i, _ => .single (.int i)
  | float x, _ => .single (.float x)
  | text s, _ => .single (.text s)
  | bytes bs, _ => .single (.bytes bs)
  | struct _, h => .struct (isPlain_of_keyFaultIn? h)

/-- What can be the items of a key has no variants in it. -/
theorem isPlain_of_keyFaultIn? :
    ∀ {items : List Value}, keyFault?.keyFaultIn? items = none → ∀ v ∈ items, v.IsPlain
  | [], _ => nofun
  | v :: rest, h => by
    rw [keyFault?.keyFaultIn?, Option.or_eq_none_iff] at h
    exact List.forall_mem_cons.mpr ⟨isPlain_of_keyFault? h.1, isPlain_of_keyFaultIn? h.2⟩

end

/-- What has no variants in it stays as it is. -/
theorem IsPlain.unwrap_eq (h : v.IsPlain) : v.unwrap = v := by
  induction h with
  | single h => exact h.unwrap_eq
  | list _ ih => rw [unwrap, unwrapItems_eq, List.map_congr_left ih, List.map_id']
  | struct _ _ => rfl
  | @dict entries _ _ _ ih =>
    have hsame : ∀ e ∈ entries, (e.1, e.2.unwrap) = e := fun e he => Prod.ext rfl (ih e he)
    rw [unwrap, unwrapEntries_eq, List.map_congr_left hsame, List.map_id']

theorem IsBuilt.isPlain_unwrap (h : v.IsBuilt) : v.unwrap.IsPlain := by
  induction h with
  | single h => exact h.unwrap_eq.symm ▸ .single h
  | list _ ih =>
    rw [unwrap, unwrapItems_eq]
    exact .list (List.forall_mem_map.mpr ih)
  | dict hkeys _ ih =>
    rw [unwrap, unwrapEntries_eq]
    exact .dict (List.forall_mem_map.mpr fun e he => isPlain_of_keyFault? (hkeys e he))
      (List.forall_mem_map.mpr ih)
  | variant _ _ ih => exact ih

theorem IsBuilt.unwraps (h : v.IsBuilt) : Unwraps v v.unwrap := by
  induction h with
  | single h => exact h.unwrap_eq.symm ▸ .single h
  | list _ ih =>
    rw [unwrap, unwrapItems_eq]
    refine .list (by simp) fun p hp => ?_
    obtain ⟨hmem, hp⟩ := mem_zip_map hp
    exact hp ▸ ih _ hmem
  | dict _ _ ih =>
    rw [unwrap, unwrapEntries_eq]
    refine .dict (by simp) fun p hp => ?_
    obtain ⟨hmem, hp⟩ := mem_zip_map hp
    exact hp ▸ ih _ hmem
  | variant signature _ ih => exact .variant signature ih

theorem Unwraps.eq_unwrap (h : Unwraps v w) : w = v.unwrap := by
  induction h with
  | single h => exact h.unwrap_eq.symm
  | list hlength _ ih => rw [unwrap, unwrapItems_eq, ← eq_map_of_zip hlength ih]
  | dict hkeys _ ih => rw [unwrap, unwrapEntries_eq, ← eq_map_of_keys hkeys ih]
  | variant _ _ ih => exact ih

/-- Unwrapping gives the value without its variants, which is the only one. -/
theorem unwraps_iff (h : v.IsBuilt) : Unwraps v w ↔ w = v.unwrap :=
  ⟨Unwraps.eq_unwrap, fun hw => hw ▸ h.unwraps⟩

/-! ## Wrapping -/

/-- What an option may be, with the signature of its type. -/
inductive IsOption : String → Value → Prop
  | switch (b : Bool) : IsOption "b" (bool b)
  | short {i : Int} (hi : -32768 ≤ i ∧ i ≤ 32767) : IsOption "n" (int i)
  | text (s : String) : IsOption "s" (text s)
  | texts (ss : List String) : IsOption "as" (list (ss.map text))

/-- An argument as it is meant for a call: a dictionary is one of options, and in anything else
there are no variants. -/
inductive IsArgument : Value → Prop
  | options {entries : List (Value × Value)} (h : ∀ e ∈ entries, ∃ s, IsOption s e.2) :
    IsArgument (dict entries)
  | other {v : Value} (hkind : v.kind ≠ .dict) (h : v.IsPlain) : IsArgument v

/-- An argument has been wrapped: each option of a dictionary is in one variant, under its key and
with the signature of its type. -/
inductive Wraps : Value → Value → Prop
  | options {ds es : List (Value × Value)} (hkeys : ds.map (·.1) = es.map (·.1))
    (hvalues : ∀ p ∈ ds.zip es, ∃ s, IsOption s p.1.2 ∧ p.2.2 = variant s p.1.2) :
    Wraps (dict ds) (dict es)
  | other {v : Value} (hkind : v.kind ≠ .dict) : Wraps v v

theorem IsOption.wrap_eq (h : IsOption signature v) : v.wrap = .ok (variant signature v) := by
  cases h with
  | switch b => rfl
  | short hi => simp [wrap, hi]
  | text s => rfl
  | texts ss =>
    have hall : (ss.map Value.text).all isText = true := by simp [isText]
    simp [wrap, texts?, hall]

theorem IsOption.isPlain (h : IsOption signature v) : v.IsPlain := by
  cases h with
  | switch b => exact .single (.bool b)
  | @short i _ => exact .single (.int i)
  | text s => exact .single (.text s)
  | texts ss => exact .list (List.forall_mem_map.mpr fun s _ => .single (.text s))

/-- The options of an argument are wrapped one by one. -/
theorem wrapEntries_eq_ok (h : ∀ e ∈ entries, ∃ s, IsOption s e.2) :
    ∃ wrapped, wrapEntries entries = .ok wrapped ∧ Wraps (dict entries) (dict wrapped) ∧
      unwrapEntries wrapped = entries := by
  induction entries with
  | nil => exact ⟨[], rfl, .options rfl nofun, rfl⟩
  | cons e rest ih =>
    obtain ⟨⟨s, hs⟩, hrest⟩ := List.forall_mem_cons.mp h
    obtain ⟨wrapped, hwrapped, hwraps, hback⟩ := ih hrest
    cases hwraps with
    | other hkind => exact absurd rfl hkind
    | options hkeys hvalues =>
      refine ⟨(e.1, variant s e.2) :: wrapped, ?_, .options ?_ ?_, ?_⟩
      · simp [wrapEntries, hs.wrap_eq, hwrapped, bind, Except.bind, pure, Except.pure]
      · rw [List.map_cons, List.map_cons, hkeys]
      · rw [List.zip_cons_cons, List.forall_mem_cons]
        exact ⟨⟨s, hs, rfl⟩, hvalues⟩
      · rw [unwrapEntries, hback, unwrap, hs.isPlain.unwrap_eq]

theorem IsArgument.wrapArgument_eq_ok (h : v.IsArgument) :
    ∃ w, v.wrapArgument = .ok w ∧ Wraps v w ∧ w.unwrap = v := by
  cases h with
  | options h =>
    obtain ⟨wrapped, hwrapped, hwraps, hback⟩ := wrapEntries_eq_ok h
    refine ⟨dict wrapped, ?_, hwraps, ?_⟩
    · rw [wrapArgument, hwrapped]
      rfl
    · rw [unwrap, hback]
  | other hkind h =>
    refine ⟨v, ?_, .other hkind, h.unwrap_eq⟩
    cases v with
    | dict _ => exact absurd rfl hkind
    | _ => rfl

/-- The arguments of a call are wrapped one by one. -/
theorem mapM_wrapArgument_eq_ok (h : ∀ a ∈ args, a.IsArgument) :
    ∃ wrapped, args.mapM wrapArgument = .ok wrapped ∧ wrapped.length = args.length ∧
      (∀ p ∈ args.zip wrapped, Wraps p.1 p.2) ∧ unwrapItems wrapped = args := by
  induction args with
  | nil => exact ⟨[], rfl, rfl, nofun, rfl⟩
  | cons a rest ih =>
    obtain ⟨ha, hrest⟩ := List.forall_mem_cons.mp h
    obtain ⟨w, hw, hwraps, hback⟩ := ha.wrapArgument_eq_ok
    obtain ⟨wrapped, hwrapped, hlength, hall, hbacks⟩ := ih hrest
    refine ⟨w :: wrapped, ?_, congrArg Nat.succ hlength, ?_, ?_⟩
    · simp [List.mapM_cons, hw, hwrapped, bind, Except.bind, pure, Except.pure]
    · rw [List.zip_cons_cons, List.forall_mem_cons]
      exact ⟨hwraps, hall⟩
    · rw [unwrapItems, hback, hbacks]

theorem occursIn_iff {part cs : List Char} : occursIn part cs = true ↔ part <:+: cs := by
  induction cs with
  | nil => simp [occursIn]
  | cons c rest ih => simp [occursIn, ih, List.infix_cons_iff]

end Value

namespace Bus

open Value

/-- **Unwrapping.** Of a value that is built from lists, dictionaries and variants it leaves the one
value that is built like it without a variant; nothing is left to unwrap then. What has no variants
stays as it is. In a call whose signature has dictionaries of options, each option of the arguments
is wrapped in one variant with the signature of its type, and unwrapping gives the arguments
back. -/
theorem unwrap_inverts :
    (∀ v : Value, v.IsBuilt →
      v.unwrap.IsPlain ∧ (∀ w, Unwraps v w ↔ w = v.unwrap) ∧ v.unwrap.unwrap = v.unwrap) ∧
    (∀ v : Value, v.IsPlain → v.unwrap = v) ∧
    ∀ (signature : String) (body : Value) (args : List Value),
      optionsSignature.toList <:+: signature.toList → body.elements = .ok args →
      (∀ a ∈ args, a.IsArgument) →
        ∃ wrapped, wrapBody signature body = .ok wrapped ∧ wrapped.length = args.length ∧
          (∀ p ∈ args.zip wrapped, Wraps p.1 p.2) ∧ (Value.list wrapped).unwrap = .list args := by
  refine ⟨fun v hv => ⟨hv.isPlain_unwrap, fun w => unwraps_iff hv, hv.isPlain_unwrap.unwrap_eq⟩,
    fun v hv => hv.unwrap_eq, ?_⟩
  intro signature body args hsignature hbody hargs
  obtain ⟨wrapped, hwrapped, hlength, hwraps, hback⟩ := mapM_wrapArgument_eq_ok hargs
  refine ⟨wrapped, ?_, hlength, hwraps, ?_⟩
  · simp [wrapBody, hbody, occursIn_iff.mpr hsignature, hwrapped, bind, Except.bind]
  · rw [unwrap, hback]

/-- A value with variants in variants, lists and dictionaries. -/
def packed : Value :=
  .dict [(.text "a", .variant "av" (.list [.variant "v" (.variant "n" (.int 3)), .text "x"])),
    (.int 1, .list [.dict [(.bool true, .variant "ay" (.bytes [5]))], .null])]

/-- The arguments of a call with options of all kinds. -/
def filtering : List Value :=
  [.text "/org/bluez/hci0",
    .dict [(.text "DuplicateData", .bool true), (.text "RSSI", .int (-70)),
      (.text "Transport", .text "le"), (.text "UUIDs", .list [.text "fe9a", .text "feaa"]),
      (.text "Patterns", .list [])],
    .list [.int 1, .dict []]]

/-- The value without its variants, and the arguments with one around each option. -/
theorem packed_unwrapped :
    packed.IsBuilt ∧ (∀ a ∈ filtering, a.IsArgument) ∧
    packed.unwrap.IsPlain ∧
    packed.unwrap =
      .dict [(.text "a", .list [.int 3, .text "x"]),
        (.int 1, .list [.dict [(.bool true, .bytes [5])], .null])] ∧
    packed.unwrap.unwrap = packed.unwrap ∧
    ∃ wrapped, wrapBody "oa\x7bsv\x7dav" (.list filtering) = .ok wrapped ∧
      wrapped =
        [.text "/org/bluez/hci0",
          .dict [(.text "DuplicateData", .variant "b" (.bool true)),
            (.text "RSSI", .variant "n" (.int (-70))),
            (.text "Transport", .variant "s" (.text "le")),
            (.text "UUIDs", .variant "as" (.list [.text "fe9a", .text "feaa"])),
            (.text "Patterns", .variant "as" (.list []))],
          .list [.int 1, .dict []]] ∧
      (Value.list wrapped).unwrap = .list filtering := by
  have hpacked : packed.IsBuilt := by
    have hfirst : (Value.list [.variant "v" (.variant "n" (.int 3)), .text "x"]).IsBuilt :=
      .list (List.forall_mem_cons.mpr ⟨.variant _ (.variant _ (.single (.int 3))),
        List.forall_mem_singleton.mpr (.single (.text "x"))⟩)
    have hinner : (Value.dict [(.bool true, .variant "ay" (.bytes [5]))]).IsBuilt :=
      .dict (by simp [keyFault?])
        (List.forall_mem_singleton.mpr (.variant _ (.single (.bytes [5]))))
    have hsecond := IsBuilt.list
      (List.forall_mem_cons.mpr ⟨hinner, List.forall_mem_singleton.mpr (.single .null)⟩)
    exact .dict (by simp [keyFault?]) (List.forall_mem_cons.mpr
      ⟨.variant _ hfirst, List.forall_mem_singleton.mpr hsecond⟩)
  have hfiltering : ∀ a ∈ filtering, a.IsArgument := by
    simp only [filtering, List.forall_mem_cons]
    refine ⟨.other nofun (.single (.text _)), .options ?_, .other nofun (.list ?_), nofun⟩
    · simp only [List.forall_mem_cons]
      exact ⟨⟨_, .switch true⟩, ⟨_, .short (by decide)⟩, ⟨_, .text "le"⟩,
        ⟨_, .texts ["fe9a", "feaa"]⟩, ⟨_, .texts []⟩, nofun⟩
    · exact List.forall_mem_cons.mpr
        ⟨.single (.int 1), List.forall_mem_singleton.mpr (.dict nofun nofun)⟩
  obtain ⟨hbuilt, -, hcalls⟩ := unwrap_inverts
  obtain ⟨hplain, -, hagain⟩ := hbuilt packed hpacked
  obtain ⟨wrapped, hwrapped, -, -, hback⟩ :=
    hcalls "oa\x7bsv\x7dav" (.list filtering) filtering (by decide) rfl hfiltering
  refine ⟨hpacked, hfiltering, hplain, rfl, hagain, wrapped, hwrapped, ?_, hback⟩
  have hcomputed : wrapBody "oa\x7bsv\x7dav" (.list filtering) = .ok _ := rfl
  exact Except.ok.inj (hwrapped.symm.trans hcomputed)

end Bus

end TagGateway
