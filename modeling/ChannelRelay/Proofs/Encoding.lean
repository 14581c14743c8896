import ChannelRelay.Encoding.Domain

/-!
# Canonical encodings

A value may be given in several forms: a structure as a record with more fields than it needs, or
as a list, a choice as a record. Whatever the form, the value is read again from the one form it is
written in.

* `Datum.Spells`, `Datum.Spells.fields?`: the forms a record may take, and that they have the same
  fields;
* `Datum.recoded`: a datum read and written again;
* `CanonicalForm`: what this does to all data of a type, and `CanonicalForm.of_readBack`: it is
  enough to know which values can be read, and that they are read back;
* `ReadByFields`, `CanonicalForm.of_structure`: a structure is known by its fields;
* `Height.decode_encode`, `PathEnd.decode_encode`, …: the types one by one. Only the version of a
  chain is not written, so values that name a chain depend on how they were read;
* `domain_types_canonical`: all of them.
-/

namespace ChannelRelay

variable {α : Type} [Encoded α] {d : Datum} {legible : α → Prop}

namespace Datum

/-! ## Fields -/

variable {layout : Layout} {fields : List (String × Datum)} {name : String}

theorem filter_of_not_mem (absent : name ∉ fields.map Prod.fst) :
    fields.filter (·.1 == name) = [] := by
  rw [List.filter_eq_nil_iff]
  intro f mem same
  rw [beq_iff_eq] at same
  exact absent (List.mem_map.mpr ⟨f, mem, same⟩)

theorem field?_of_mem (distinct : (fields.map Prod.fst).Nodup) (mem : (name, d) ∈ fields) :
    field? name fields = some (some d) := by
  have only : fields.filter (·.1 == name) = [(name, d)] := by
    induction fields with
    | nil => cases mem
    | cons f fields ih =>
      obtain ⟨fresh, distinct⟩ := List.nodup_cons.mp distinct
      obtain rfl | later := List.mem_cons.mp mem
      · simp [filter_of_not_mem fresh]
      · have other : f.1 ≠ name := by
          intro same
          exact fresh (same ▸ List.mem_map_of_mem later)
        simpa [other] using ih distinct later
  rw [field?, only]

theorem field?_of_not_mem (absent : name ∉ fields.map Prod.fst) :
    field? name fields = some none := by
  rw [field?, filter_of_not_mem absent]

/-- A field that may be left out counts as null. -/
theorem named_of_given {more : List (String × Datum)} (distinct : (more.map Prod.fst).Nodup)
    (names : fields.map Prod.fst = layout.map Prod.fst)
    (given : ∀ f ∈ fields, f ∈ more ∨
      (f.2 = null ∧ f.1 ∉ more.map Prod.fst ∧ (f.1, .required) ∉ layout)) :
    named more layout = some (fields.map Prod.snd) := by
  induction layout generalizing fields with
  | nil =>
    rw [List.map_eq_nil_iff.mp names]
    rfl
  | cons entry layout ih =>
    obtain ⟨name, presence⟩ := entry
    obtain ⟨f, fields, rfl, rfl, rest⟩ := List.map_eq_cons_iff.mp names
    obtain ⟨here, later⟩ := List.forall_mem_cons.mp given
    have others : named more layout = some (fields.map Prod.snd) := by
      apply ih rest
      intro g mem
      obtain there | ⟨empty, absent, optional⟩ := later g mem
      · exact .inl there
      · exact .inr ⟨empty, absent, fun required => optional (List.mem_cons_of_mem _ required)⟩
    obtain there | ⟨empty, absent, optional⟩ := here
    · have found : field? f.1 more = some (some f.2) := field?_of_mem distinct there
      simp [named, found, others]
    · have leftOut : field? f.1 more = some none := field?_of_not_mem absent
      have mayBe : presence ≠ .required := by
        rintro rfl
        exact optional List.mem_cons_self
      simp [named, leftOut, others, mayBe, empty]

/-- A structure is read from the record of its fields. -/
theorem fields?_record (distinct : (layout.map Prod.fst).Nodup)
    (names : fields.map Prod.fst = layout.map Prod.fst) :
    (record fields).fields? layout = some (fields.map Prod.snd) :=
  named_of_given (names ▸ distinct) names fun _ mem => .inl mem

theorem bind_fields?_record {β : Type} (distinct : (layout.map Prod.fst).Nodup)
    (names : fields.map Prod.fst = layout.map Prod.fst) (read : List Datum → Option β) :
    ((record fields).fields? layout).bind read = read (fields.map Prod.snd) := by
  rw [fields?_record distinct names, Option.bind_some]

theorem positional_of_length {items : List Datum} (count : items.length = layout.length) :
    positional layout items = some items := by
  induction layout generalizing items with
  | nil =>
    rw [List.eq_nil_of_length_eq_zero count]
    rfl
  | cons entry layout ih =>
    obtain ⟨d, items, rfl⟩ := List.exists_cons_of_length_eq_add_one count
    simp [positional, ih (Nat.succ.inj count)]

/-- Other forms of the record of these fields: they stand in any order and among others, those that
are null may be left out, or the names are. -/
inductive Spells (fields : List (String × Datum)) : Datum → Prop where
  | record {more : List (String × Datum)} (distinct : (more.map Prod.fst).Nodup)
      (given : ∀ f ∈ fields, f ∈ more ∨ (f.2 = null ∧ f.1 ∉ more.map Prod.fst)) :
      Spells fields (record more)
  | list : Spells fields (list (fields.map Prod.snd))

theorem Spells.fields? (spells : Spells fields d)
    (names : fields.map Prod.fst = layout.map Prod.fst)
    (optional : ∀ f ∈ fields, f.2 = null → (f.1, .required) ∉ layout) :
    d.fields? layout = some (fields.map Prod.snd) := by
  cases spells with
  | record distinct given =>
    apply named_of_given distinct names
    intro f mem
    obtain there | ⟨empty, absent⟩ := given f mem
    · exact .inl there
    · exact .inr ⟨empty, absent, optional f mem empty⟩
  | list =>
    apply positional_of_length
    have count := congrArg List.length names
    simpa using count

/-- The form a datum has once it was read as a value of a type and written again. -/
def recoded (α : Type) [Encoded α] (d : Datum) : Option Datum := (decode d : Option α).map encode

end Datum

open Datum

/-! ## Canonical forms -/

/-- All forms a value may be given in come down to one. `legible` are the values that some datum
stands for. -/
structure CanonicalForm (α : Type) [Encoded α] (legible : α → Prop) : Prop where
  legible_iff : ∀ x : α, (∃ d, decode d = some x) ↔ legible x
  /-- What was read in any form is read again from its own. -/
  again : ∀ {d : Datum} {x : α}, decode d = some x → decode (encode x) = some x
  idempotent : ∀ d, (recoded α d).bind (recoded α) = recoded α d
  /-- Data that come down to the same form stand for the same value. -/
  injective : ∀ {d d' form : Datum}, recoded α d = some form → recoded α d' = some form →
    (decode d : Option α) = decode d'
  /-- The other forms of a record stand for the same value as it does. -/
  spelled : ∀ {x : α} {fields : List (String × Datum)} {d : Datum}, legible x →
    encode x = record fields → Spells fields d → decode d = some x

theorem CanonicalForm.of_readBack (sound : ∀ d (x : α), decode d = some x → legible x)
    (back : ∀ x : α, legible x → decode (encode x) = some x)
    (spelled : ∀ {x : α} {fields : List (String × Datum)} {d : Datum}, encode x = record fields →
      Spells fields d → (decode d : Option α) = decode (encode x)) : CanonicalForm α legible := by
  have again {d : Datum} {x : α} (read : decode d = some x) : decode (encode x) = some x :=
    back x (sound d x read)
  refine ⟨?_, again, ?_, ?_, ?_⟩
  · intro x
    constructor
    · rintro ⟨d, read⟩
      exact sound d x read
    · intro here
      exact ⟨encode x, back x here⟩
  · intro d
    cases read : (decode d : Option α) with
    | none => simp [recoded, read]
    | some x => simp [recoded, read, again read]
  · intro d d' form first second
    obtain ⟨x, read, rfl⟩ := Option.map_eq_some_iff.mp first
    obtain ⟨y, read', same⟩ := Option.map_eq_some_iff.mp second
    -- Both values are what is read from the common form.
    have equal : some y = some x := by rw [← again read', same, again read]
    rw [read, read', equal]
  · intro x fields d here written spells
    rw [spelled written spells, back x here]

/-- A structure: its fields are all that is read, and a field that may not be left out is never
null. -/
structure ReadByFields (layout : Layout) (α : Type) [Encoded α] : Prop where
  distinct : (layout.map Prod.fst).Nodup
  decode_congr : ∀ {d d' : Datum}, d.fields? layout = d'.fields? layout →
    (decode d : Option α) = decode d'
  written : ∀ x : α, ∃ fields, encode x = record fields ∧
    fields.map Prod.fst = layout.map Prod.fst ∧
      ∀ f ∈ fields, f.2 = null → (f.1, .required) ∉ layout

theorem ReadByFields.spelled {layout : Layout} (structured : ReadByFields layout α) {x : α}
    {fields : List (String × Datum)} (written : encode x = record fields)
    (spells : Spells fields d) : (decode d : Option α) = decode (encode x) := by
  obtain ⟨own, same, names, optional⟩ := structured.written x
  obtain rfl : own = fields := by simpa [same] using written
  apply structured.decode_congr
  rw [same, spells.fields? names optional, fields?_record structured.distinct names]

theorem CanonicalForm.of_structure {layout : Layout} (structured : ReadByFields layout α)
    (sound : ∀ d (x : α), decode d = some x → legible x)
    (back : ∀ x : α, legible x → decode (encode x) = some x) : CanonicalForm α legible :=
  .of_readBack sound back structured.spelled

/-- A type without fields, of which all values are read back. -/
theorem CanonicalForm.of_atoms (back : ∀ x : α, decode (encode x) = some x)
    (atomic : ∀ (x : α) fields, encode x ≠ record fields) : CanonicalForm α fun _ => True := by
  apply CanonicalForm.of_readBack (fun _ _ _ => trivial) fun x _ => back x
  intro x fields d written
  exact absurd written (atomic x fields)

/-! ## Texts, numbers, choices and lists -/

theorem Identifier.decode_encode {kind : IdentifierKind} (id : Identifier kind) :
    decode (encode id) = some id := rfl

theorem Signer.decode_encode (s : Signer) : decode (encode s) = some s := rfl

theorem ChannelVersion.decode_encode (v : ChannelVersion) : decode (encode v) = some v := rfl

theorem word_decode_encode (n : UInt64) : decode (encode n) = some n := by
  have inRange : (0 : Int) ≤ n.toNat ∧ (n.toNat : Int) < UInt64.size :=
    ⟨Int.natCast_nonneg _, Int.ofNat_lt.mpr n.toNat_lt⟩
  show (if _ then _ else _) = _
  rw [if_pos inRange]
  simp

theorem ChannelState.decode_encode (s : ChannelState) : decode (encode s) = some s := by
  cases s <;> rfl

theorem ChannelOrder.decode_encode (o : ChannelOrder) : decode (encode o) = some o := by
  cases o <;> rfl

theorem option_decode_encode (back : ∀ x : α, decode (encode x) = some x)
    (absent : (decode Datum.null : Option α) = none) (o : Option α) :
    decode (encode o) = some o := by
  cases o with
  | none => rfl
  | some x =>
    have present : (decode (encode x) : Option (Option α)) = (decode (encode x)).map some := by
      cases written : encode x with
      | null =>
        have read := back x
        rw [written, absent] at read
        cases read
      | _ => rfl
    exact present.trans (by rw [back, Option.map_some])

theorem list_decode_encode (back : ∀ x : α, decode (encode x) = some x) (l : List α) :
    decode (encode l) = some l := by
  show (l.map encode).mapM decode = some l
  induction l with
  | nil => rfl
  | cons x l ih => simp [back x, ih]

/-! ## Structures -/

theorem Height.readByFields :
    ReadByFields [("revision_number", .required), ("revision_height", .required)] Height where
  distinct := by decide
  decode_congr same := congrArg (Option.bind · _) same
  written x := by
    refine ⟨_, rfl, rfl, ?_⟩
    simp [encode]

theorem Height.decode_record (number height : Datum) :
    decode (record [("revision_number", number), ("revision_height", height)]) =
      (do return (⟨← decode number, ← decode height⟩ : Height)) :=
  bind_fields?_record (by decide) rfl _

theorem Height.decode_encode (h : Height) : decode (encode h) = some h := by
  show decode (record [_, _]) = _
  rw [decode_record, word_decode_encode, word_decode_encode]
  rfl

theorem Counterparty.readByFields :
    ReadByFields [("port_id", .required), ("channel_id", .optional)] Counterparty where
  distinct := by decide
  decode_congr same := congrArg (Option.bind · _) same
  written x := by
    refine ⟨_, rfl, rfl, ?_⟩
    simp [encode]

theorem Counterparty.decode_record (port channel : Datum) :
    decode (record [("port_id", port), ("channel_id", channel)]) =
      (do return (⟨← decode port, ← decode channel⟩ : Counterparty)) :=
  bind_fields?_record (by decide) rfl _

theorem Counterparty.decode_encode (c : Counterparty) : decode (encode c) = some c := by
  show decode (record [_, _]) = _
  rw [decode_record, Identifier.decode_encode, option_decode_encode Identifier.decode_encode rfl]
  rfl

theorem ChannelEnd.readByFields :
    ReadByFields [("state", .required), ("ordering", .required), ("remote", .required),
    ("connection_hops", .required), ("version", .required)] ChannelEnd where
  distinct := by decide
  decode_congr same := congrArg (Option.bind · _) same
  written x := by
    refine ⟨_, rfl, rfl, ?_⟩
    simp [encode]

theorem ChannelEnd.decode_record (state order remote hops version : Datum) :
    decode (record [("state", state), ("ordering", order), ("remote", remote),
      ("connection_hops", hops), ("version", version)]) =
      (do return (⟨← decode state, ← decode order, ← decode remote, ← decode hops,
        ← decode version⟩ : ChannelEnd)) :=
  bind_fields?_record (by decide) rfl _

theorem ChannelEnd.decode_encode (c : ChannelEnd) : decode (encode c) = some c := by
  show decode (record [_, _, _, _, _]) = _
  rw [decode_record, ChannelState.decode_encode, ChannelOrder.decode_encode,
    Counterparty.decode_encode, list_decode_encode Identifier.decode_encode,
    ChannelVersion.decode_encode]
  rfl

/-! ## Values that name a chain -/

theorem ChainId.decode_encode_iff (id : ChainId) :
    decode (encode id) = some id ↔ id.version = ChainId.versionOf id.text := by
  show some (ChainId.ofString id.text) = some id ↔ _
  cases id
  simp [ChainId.ofString, eq_comm]

theorem ChainId.version_of_decode {id : ChainId} (read : decode d = some id) :
    id.version = ChainId.versionOf id.text := by
  obtain ⟨text, -, rfl⟩ := Option.map_eq_some_iff.mp read
  rfl

theorem PathEnd.readByFields :
    ReadByFields [("chain_id", .required), ("client_id", .required),
    ("connection_id", .required), ("channel_id", .required), ("port_id", .required),
    ("version", .trailing)] PathEnd where
  distinct := by decide
  decode_congr same := congrArg (Option.bind · _) same
  written x := by
    refine ⟨_, rfl, rfl, ?_⟩
    simp [encode]

theorem PathEnd.decode_record (chain client connection channel port version : Datum) :
    decode (record [("chain_id", chain), ("client_id", client), ("connection_id", connection),
      ("channel_id", channel), ("port_id", port), ("version", version)]) =
      (do return (⟨← decode chain, ← decode client, ← decode connection, ← decode channel,
        ← decode port, ← decode version⟩ : PathEnd)) :=
  bind_fields?_record (by decide) rfl _

theorem PathEnd.decode_encode {p : PathEnd} (chain : decode (encode p.chainId) = some p.chainId) :
    decode (encode p) = some p := by
  show decode (record [_, _, _, _, _, _]) = _
  rw [decode_record, chain, Identifier.decode_encode, Identifier.decode_encode,
    Identifier.decode_encode, Identifier.decode_encode,
    option_decode_encode ChannelVersion.decode_encode rfl]
  rfl

theorem PathEnd.chainId_of_decode {p : PathEnd} (read : decode d = some p) :
    ∃ chain, decode chain = some p.chainId := by
  obtain ⟨data, -, read⟩ := Option.bind_eq_some_iff.mp read
  split at read
  · rename_i chain _ _ _ _ _
    obtain ⟨id, readChain, read⟩ := Option.bind_eq_some_iff.mp read
    simp only [Option.bind_eq_bind, Option.bind_eq_some_iff, Option.pure_def,
      Option.some.injEq] at read
    obtain ⟨_, -, _, -, _, -, _, -, _, -, rfl⟩ := read
    exact ⟨chain, readChain⟩
  · cases read

theorem QueryContext.readByFields :
    ReadByFields [("chain_id", .required), ("height", .required)] QueryContext where
  distinct := by decide
  decode_congr same := congrArg (Option.bind · _) same
  written x := by
    refine ⟨_, rfl, rfl, ?_⟩
    simp [encode]

theorem QueryContext.decode_record (chain height : Datum) :
    decode (record [("chain_id", chain), ("height", height)]) =
      (do return (⟨← decode chain, ← decode height⟩ : QueryContext)) :=
  bind_fields?_record (by decide) rfl _

theorem QueryContext.decode_encode {c : QueryContext}
    (chain : decode (encode c.chainId) = some c.chainId) : decode (encode c) = some c := by
  show decode (record [_, _]) = _
  rw [decode_record, chain, Height.decode_encode]
  rfl

theorem QueryContext.chainId_of_decode {c : QueryContext} (read : decode d = some c) :
    ∃ chain, decode chain = some c.chainId := by
  obtain ⟨data, -, read⟩ := Option.bind_eq_some_iff.mp read
  split at read
  · rename_i chain _
    obtain ⟨id, readChain, read⟩ := Option.bind_eq_some_iff.mp read
    obtain ⟨height, -, read⟩ := Option.bind_eq_some_iff.mp read
    cases read
    exact ⟨chain, readChain⟩
  · cases read

/-- A path end whose list ends before the version has none. -/
theorem PathEnd.decode_shortened {p : PathEnd} (version : p.version = none) :
    (decode (list [encode p.chainId, encode p.clientId, encode p.connectionId,
      encode p.channelId, encode p.portId]) : Option PathEnd) = decode (encode p) := by
  apply PathEnd.readByFields.decode_congr
  show _ = (record _).fields? _
  rw [fields?_record (by decide) rfl, version]
  rfl

/-- **Canonical encodings.** A value that was read from any datum is read again from its own form,
and no two values have the same. Every value of most types can be read; of those that name a chain,
the ones where the chain has the version that its text gives. Structures are read from the other
forms of their records, choices from a record of their name. -/
theorem domain_types_canonical :
    (∀ kind, CanonicalForm (Identifier kind) fun _ => True) ∧
    CanonicalForm Signer (fun _ => True) ∧ CanonicalForm Sequence (fun _ => True) ∧
    CanonicalForm Height (fun _ => True) ∧ CanonicalForm ChannelState (fun _ => True) ∧
    CanonicalForm ChannelOrder (fun _ => True) ∧ CanonicalForm ChannelVersion (fun _ => True) ∧
    CanonicalForm Counterparty (fun _ => True) ∧ CanonicalForm ChannelEnd (fun _ => True) ∧
    CanonicalForm ChainId (fun id => id.version = ChainId.versionOf id.text) ∧
    CanonicalForm PathEnd (fun p => p.chainId.version = ChainId.versionOf p.chainId.text) ∧
    CanonicalForm QueryContext
      (fun c => c.chainId.version = ChainId.versionOf c.chainId.text) ∧
    (∀ s : ChannelState, decode (record [(s.name, null)]) = some s) ∧
    (∀ o : ChannelOrder, decode (record [(o.name, null)]) = some o) ∧
    ∀ p : PathEnd, p.chainId.version = ChainId.versionOf p.chainId.text → p.version = none →
      decode (list [encode p.chainId, encode p.clientId, encode p.connectionId,
        encode p.channelId, encode p.portId]) = some p := by
  have all {α : Type} [Encoded α] (d : Datum) (x : α) (_ : decode d = some x) : True := trivial
  refine ⟨?_, ?_, ?_, ?_, ?_, ?_, ?_, ?_, ?_, ?_, ?_, ?_, ?_, ?_, ?_⟩
  · intro kind
    exact .of_atoms Identifier.decode_encode nofun
  · exact .of_atoms Signer.decode_encode nofun
  · exact .of_atoms word_decode_encode nofun
  · exact .of_structure Height.readByFields all fun h _ => h.decode_encode
  · exact .of_atoms ChannelState.decode_encode nofun
  · exact .of_atoms ChannelOrder.decode_encode nofun
  · exact .of_atoms ChannelVersion.decode_encode nofun
  · exact .of_structure Counterparty.readByFields all fun c _ => c.decode_encode
  · exact .of_structure ChannelEnd.readByFields all fun c _ => c.decode_encode
  · apply CanonicalForm.of_readBack
    · intro d id read
      exact ChainId.version_of_decode read
    · intro id version
      exact id.decode_encode_iff.mpr version
    · nofun
  · apply CanonicalForm.of_structure PathEnd.readByFields
    · intro d p read
      obtain ⟨chain, read⟩ := PathEnd.chainId_of_decode read
      exact ChainId.version_of_decode read
    · intro p version
      exact PathEnd.decode_encode (p.chainId.decode_encode_iff.mpr version)
  · apply CanonicalForm.of_structure QueryContext.readByFields
    · intro d c read
      obtain ⟨chain, read⟩ := QueryContext.chainId_of_decode read
      exact ChainId.version_of_decode read
    · intro c version
      exact QueryContext.decode_encode (c.chainId.decode_encode_iff.mpr version)
  · intro s
    cases s <;> rfl
  · intro o
    cases o <;> rfl
  · intro p chain version
    rw [PathEnd.decode_shortened version]
    exact PathEnd.decode_encode (p.chainId.decode_encode_iff.mpr chain)

/-- A path end that was given as a list without its version, and as a record with a field more and
in another order. -/
theorem domain_types_canonical_path_end :
    let listed : Datum := .list [.text "ibc-7", .text "07-tendermint-0", .text "connection-0",
      .text "channel-0", .text "transfer"]
    let named : Datum := .record [("memo", .boolean true), ("version", .null),
      ("port_id", .text "transfer"), ("channel_id", .text "channel-0"),
      ("connection_id", .text "connection-0"), ("client_id", .text "07-tendermint-0"),
      ("chain_id", .text "ibc-7")]
    let p : PathEnd := ⟨⟨"ibc-7", 7⟩, ⟨"07-tendermint-0"⟩, ⟨"connection-0"⟩, ⟨"channel-0"⟩,
      ⟨"transfer"⟩, none⟩
    decode listed = some p ∧ decode named = some p ∧ decode (encode p) = some p ∧
      (recoded PathEnd named).bind (recoded PathEnd) = recoded PathEnd named ∧
      ¬ ∃ d, decode d = some { p with chainId := ⟨"ibc-7", 8⟩ } := by
  intro listed named p
  obtain ⟨-, -, -, -, -, -, -, -, -, -, canonical, -⟩ := domain_types_canonical
  have fromList : decode listed = some p := rfl
  have fromRecord : decode named = some p := rfl
  refine ⟨fromList, fromRecord, canonical.again fromList, canonical.idempotent named, ?_⟩
  rw [canonical.legible_iff]
  decide

end ChannelRelay
