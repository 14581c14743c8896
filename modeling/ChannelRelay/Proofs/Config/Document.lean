import ChannelRelay.Config.Document
import ChannelRelay.Proofs.Document.RoundTrip
import ChannelRelay.Proofs.Duration

/-!
# What a document makes of a configuration

A document may leave out any of the settings and any of the sections. What it leaves out stays as
it is, and it holds nothing but settings.

* `foldlM_overlay`: entries that are read one after the other add up to the choice they make;
* `Adopts`, `Adopts.readSection`, `Adopts.readSection_unknown`: a section with some of its settings,
  and with an entry that is none;
* `ofDocument_overlay`, `ofDocument_more`: the same for documents;
* `ofDocument_toSections`: a configuration is what its own document makes of any other.
-/

namespace ChannelRelay

/-! ## Settings -/

namespace Document

theorem natural?_of_lt {n bound : Nat} (h : n < bound) : natural? bound (.integer n) = some n :=
  if_pos ⟨Int.natCast_nonneg n, Int.ofNat_lt.mpr h⟩

@[simp] theorem word64_toNat (n : UInt64) : word64 (.integer n.toNat) = .ok n := by
  rw [word64, natural?_of_lt n.toNat_lt_size]
  exact congrArg Except.ok UInt64.ofNat_toNat

@[simp] theorem word32_toNat (n : UInt32) : word32 (.integer n.toNat) = .ok n := by
  rw [word32, natural?_of_lt n.toNat_lt_size]
  exact congrArg Except.ok UInt32.ofNat_toNat

theorem duration_of_parse {s : String} {d : Duration} (read : Duration.parse s = .ok d) :
    duration (.text s) = .ok d := read

/-- Entries that are read one after the other add up to the choice that they make. The induction is
on the entries, for every choice that was made before. -/
theorem foldlM_overlay {α β κ : Type} {read : α → β → Reading α} {overlay : (κ → Bool) → α}
    {chooses : β → κ → Bool} {bs : List β}
    (step : ∀ chosen, ∀ b ∈ bs,
      read (overlay chosen) b = .ok (overlay fun k => chooses b k || chosen k))
    (chosen : κ → Bool) :
    bs.foldlM read (overlay chosen) =
      .ok (overlay fun k => (bs.any fun b => chooses b k) || chosen k) := by
  induction bs generalizing chosen with
  | nil => rfl
  | cons b bs ih =>
    rw [List.foldlM_cons, step chosen b List.mem_cons_self, Reading.ok_bind,
      ih fun chosen later mem => step chosen later (List.mem_cons_of_mem b mem)]
    have sums : (fun k => (bs.any fun later => chooses later k) || (chooses b k || chosen k)) =
        fun k => ((b :: bs).any fun later => chooses later k) || chosen k := by
      funext k
      rw [List.any_cons, ← Bool.or_assoc, Bool.or_comm (bs.any _)]
    rw [sums]

/-- The first setting of that name is assigned what its value is read as. -/
theorem readEntry_of {α β : Type} {settings : List (Setting α)} {name : String}
    {read : Value → Reading β} {put : α → β → α} {v : Value} {b : β}
    (found : settings.find? (fun setting => setting.name == name) = some (.of name read put))
    (value : read v = .ok b) (a : α) : readEntry settings a (name, v) = .ok (put a b) := by
  rw [readEntry, found]
  change (read v).map (put a) = _
  rw [value]
  rfl

theorem readEntry_unknown {α : Type} {settings : List (Setting α)} {key : String}
    (unknown : key ∉ settings.map Setting.name) (a : α) (v : Value) :
    readEntry settings a (key, v) = .error .unreadable := by
  have none : settings.find? (fun setting => setting.name == key) = none := by
    rw [List.find?_eq_none]
    intro setting mem
    have other : setting.name ≠ key := fun same => unknown (same ▸ List.mem_map_of_mem mem)
    simpa using other
  rw [readEntry, none]
  rfl

/-- Reading stops at an entry that is no setting. -/
theorem foldlM_readEntry_unknown {α : Type} {settings : List (Setting α)} {a b : α} {key : String}
    {before : Entries Value} (read : before.foldlM (readEntry settings) a = .ok b)
    (unknown : key ∉ settings.map Setting.name) (v : Value) (after : Entries Value) :
    (before ++ (key, v) :: after).foldlM (readEntry settings) a = .error .unreadable := by
  rw [List.foldlM_append, read, Reading.ok_bind, List.foldlM_cons, readEntry_unknown unknown]
  rfl

section
variable {α : Type} {settings : List (Setting α)} {overlay : (String → Bool) → α}
  {entries others : Entries Value} {key : String}

/-- Each entry of a section is a setting, and is added to those that were chosen. -/
def Adopts (settings : List (Setting α)) (overlay : (String → Bool) → α)
    (entries : Entries Value) : Prop :=
  ∀ chosen, ∀ e ∈ entries,
    readEntry settings (overlay chosen) e = .ok (overlay fun name => e.1 == name || chosen name)

theorem Adopts.readSection (adopts : Adopts settings overlay entries) (chosen : String → Bool) :
    readSection settings (overlay chosen) (.table entries) =
      .ok (overlay fun name => (entries.any fun e => e.1 == name) || chosen name) :=
  foldlM_overlay adopts chosen

theorem Adopts.readSection_unknown (adopts : Adopts settings overlay (entries ++ others))
    (unknown : key ∉ settings.map Setting.name) (v : Value) (chosen : String → Bool) :
    Document.readSection settings (overlay chosen) (.table (entries ++ (key, v) :: others)) =
      .error .unreadable := by
  have before : Adopts settings overlay entries := by
    intro chosen e mem
    exact adopts chosen e (List.mem_append_left others mem)
  exact foldlM_readEntry_unknown (before.readSection chosen) unknown v others

end

end Document

open Document

/-! ## Some of the settings -/

/-- The values that agree with a section on a setting. A duration may be written in any way that
is read as that duration. -/
inductive HandshakeConfig.Agrees (c : HandshakeConfig) : String → Value → Prop where
  | maxFailures : c.Agrees "max_failures" (.integer c.maxFailures.toNat)
  | failureCooldown {s : String} (read : Duration.parse s = .ok c.failureCooldown) :
    c.Agrees "failure_cooldown" (.text s)

@[inherit_doc HandshakeConfig.Agrees]
inductive HeaderSyncConfig.Agrees (c : HeaderSyncConfig) : String → Value → Prop where
  | maxAttempts : c.Agrees "max_attempts" (.integer c.maxAttempts.toNat)
  | retryDelay {s : String} (read : Duration.parse s = .ok c.retryDelay) :
    c.Agrees "retry_delay" (.text s)
  | maxRetryDelay {s : String} (read : Duration.parse s = .ok c.maxRetryDelay) :
    c.Agrees "max_retry_delay" (.text s)

@[inherit_doc HandshakeConfig.Agrees]
inductive TxConfig.Agrees (c : TxConfig) : String → Value → Prop where
  | maxMsgNum : c.Agrees "max_msg_num" (.integer c.maxMsgNum.toNat)
  | maxTxSize : c.Agrees "max_tx_size" (.integer c.maxTxSize.toNat)

@[inherit_doc HandshakeConfig.Agrees]
inductive EventListenerConfig.Agrees (c : EventListenerConfig) : String → Value → Prop where
  | pollInterval {s : String} (read : Duration.parse s = .ok c.pollInterval) :
    c.Agrees "poll_interval" (.text s)

/-- The values that agree with a configuration on a section: tables with some of the settings. -/
inductive Config.Agrees (c : Config) : String → Value → Prop where
  | handshake {entries : Entries Value} (each : ∀ e ∈ entries, c.handshake.Agrees e.1 e.2) :
    c.Agrees "handshake" (.table entries)
  | headerSync {entries : Entries Value} (each : ∀ e ∈ entries, c.headerSync.Agrees e.1 e.2) :
    c.Agrees "header_sync" (.table entries)
  | tx {entries : Entries Value} (each : ∀ e ∈ entries, c.tx.Agrees e.1 e.2) :
    c.Agrees "tx" (.table entries)
  | eventListener {entries : Entries Value}
    (each : ∀ e ∈ entries, c.eventListener.Agrees e.1 e.2) :
    c.Agrees "event_listener" (.table entries)

/-- A document with some of the sections of a configuration, in any order. -/
def Config.IsPart (c : Config) (document : Entries Value) : Prop :=
  ∀ sec ∈ document, c.Agrees sec.1 sec.2

/-- Whether an entry of a document is the section of a setting, and holds that setting. -/
def Document.sectionHolds (sec : String × Value) (setting : String × String) : Bool :=
  sec.1 == setting.1 && match sec.2 with
    | .table entries => entries.any fun e => e.1 == setting.2
    | _ => false

/-- Whether a document holds a setting, which is named by its section and its own name. -/
def Document.holds (document : Entries Value) (setting : String × String) : Bool :=
  document.any fun sec => sectionHolds sec setting

/-- The section with the chosen settings as `c` has them, and the others as in `base`. -/
def HandshakeConfig.overlay (c base : HandshakeConfig) (chosen : String → Bool) :
    HandshakeConfig where
  maxFailures := if chosen "max_failures" then c.maxFailures else base.maxFailures
  failureCooldown := if chosen "failure_cooldown" then c.failureCooldown else base.failureCooldown

@[inherit_doc HandshakeConfig.overlay]
def HeaderSyncConfig.overlay (c base : HeaderSyncConfig) (chosen : String → Bool) :
    HeaderSyncConfig where
  maxAttempts := if chosen "max_attempts" then c.maxAttempts else base.maxAttempts
  retryDelay := if chosen "retry_delay" then c.retryDelay else base.retryDelay
  maxRetryDelay := if chosen "max_retry_delay" then c.maxRetryDelay else base.maxRetryDelay

@[inherit_doc HandshakeConfig.overlay]
def TxConfig.overlay (c base : TxConfig) (chosen : String → Bool) : TxConfig where
  maxMsgNum := if chosen "max_msg_num" then c.maxMsgNum else base.maxMsgNum
  maxTxSize := if chosen "max_tx_size" then c.maxTxSize else base.maxTxSize

@[inherit_doc HandshakeConfig.overlay]
def EventListenerConfig.overlay (c base : EventListenerConfig) (chosen : String → Bool) :
    EventListenerConfig where
  pollInterval := if chosen "poll_interval" then c.pollInterval else base.pollInterval

/-- The configuration with the chosen settings as `c` has them, and the others as in `base`. -/
def Config.overlay (c base : Config) (chosen : String × String → Bool) : Config where
  handshake := c.handshake.overlay base.handshake fun name => chosen ("handshake", name)
  headerSync := c.headerSync.overlay base.headerSync fun name => chosen ("header_sync", name)
  tx := c.tx.overlay base.tx fun name => chosen ("tx", name)
  eventListener :=
    c.eventListener.overlay base.eventListener fun name => chosen ("event_listener", name)

/-! ## Reading them -/

theorem HandshakeConfig.adopts {c base : HandshakeConfig} {entries : Entries Value}
    (each : ∀ e ∈ entries, c.Agrees e.1 e.2) :
    Adopts HandshakeConfig.settings (c.overlay base) entries := by
  intro chosen e mem
  obtain ⟨key, v⟩ := e
  cases each _ mem with
  | maxFailures =>
    rw [readEntry_of rfl (word64_toNat c.maxFailures)]
    simp [HandshakeConfig.overlay]
  | failureCooldown read =>
    rw [readEntry_of rfl (duration_of_parse read)]
    simp [HandshakeConfig.overlay]

theorem HeaderSyncConfig.adopts {c base : HeaderSyncConfig} {entries : Entries Value}
    (each : ∀ e ∈ entries, c.Agrees e.1 e.2) :
    Adopts HeaderSyncConfig.settings (c.overlay base) entries := by
  intro chosen e mem
  obtain ⟨key, v⟩ := e
  cases each _ mem with
  | maxAttempts =>
    rw [readEntry_of rfl (word32_toNat c.maxAttempts)]
    simp [HeaderSyncConfig.overlay]
  | retryDelay read =>
    rw [readEntry_of rfl (duration_of_parse read)]
    simp [HeaderSyncConfig.overlay]
  | maxRetryDelay read =>
    rw [readEntry_of rfl (duration_of_parse read)]
    simp [HeaderSyncConfig.overlay]

theorem TxConfig.adopts {c base : TxConfig} {entries : Entries Value}
    (each : ∀ e ∈ entries, c.Agrees e.1 e.2) :
    Adopts TxConfig.settings (c.overlay base) entries := by
  intro chosen e mem
  obtain ⟨key, v⟩ := e
  cases each _ mem with
  | maxMsgNum =>
    rw [readEntry_of rfl (word64_toNat c.maxMsgNum)]
    simp [TxConfig.overlay]
  | maxTxSize =>
    rw [readEntry_of rfl (word64_toNat c.maxTxSize)]
    simp [TxConfig.overlay]

theorem EventListenerConfig.adopts {c base : EventListenerConfig} {entries : Entries Value}
    (each : ∀ e ∈ entries, c.Agrees e.1 e.2) :
    Adopts EventListenerConfig.settings (c.overlay base) entries := by
  intro chosen e mem
  obtain ⟨key, v⟩ := e
  cases each _ mem with
  | pollInterval read =>
    rw [readEntry_of rfl (duration_of_parse read)]
    simp [EventListenerConfig.overlay]

namespace Config

variable {c base : Config} {document more : Entries Value} {chosen : String × String → Bool}

@[simp] theorem overlay_handshake : (c.overlay base chosen).handshake =
    c.handshake.overlay base.handshake fun name => chosen ("handshake", name) := rfl

@[simp] theorem overlay_headerSync : (c.overlay base chosen).headerSync =
    c.headerSync.overlay base.headerSync fun name => chosen ("header_sync", name) := rfl

@[simp] theorem overlay_tx : (c.overlay base chosen).tx =
    c.tx.overlay base.tx fun name => chosen ("tx", name) := rfl

@[simp] theorem overlay_eventListener : (c.overlay base chosen).eventListener =
    c.eventListener.overlay base.eventListener fun name => chosen ("event_listener", name) := rfl

theorem readEntry_sections_handshake (a : Config) (v : Value) :
    readEntry sections a ("handshake", v) =
      readSection HandshakeConfig.settings a.handshake v >>= fun handshake =>
        pure { a with handshake } := rfl

theorem readEntry_sections_headerSync (a : Config) (v : Value) :
    readEntry sections a ("header_sync", v) =
      readSection HeaderSyncConfig.settings a.headerSync v >>= fun headerSync =>
        pure { a with headerSync } := rfl

theorem readEntry_sections_tx (a : Config) (v : Value) :
    readEntry sections a ("tx", v) =
      readSection TxConfig.settings a.tx v >>= fun tx =>
        pure { a with tx } := rfl

theorem readEntry_sections_eventListener (a : Config) (v : Value) :
    readEntry sections a ("event_listener", v) =
      readSection EventListenerConfig.settings a.eventListener v >>= fun eventListener =>
        pure { a with eventListener } := rfl

/-- One section, after others. -/
theorem readEntry_overlay (c base : Config) (chosen : String × String → Bool)
    {sec : String × Value} (agrees : c.Agrees sec.1 sec.2) :
    readEntry sections (c.overlay base chosen) sec =
      .ok (c.overlay base fun setting => sectionHolds sec setting || chosen setting) := by
  obtain ⟨name, v⟩ := sec
  cases agrees with
  | handshake each =>
    rw [readEntry_sections_handshake, overlay_handshake, (HandshakeConfig.adopts each).readSection]
    simp [overlay, sectionHolds]
  | headerSync each =>
    rw [readEntry_sections_headerSync, overlay_headerSync,
      (HeaderSyncConfig.adopts each).readSection]
    simp [overlay, sectionHolds]
  | tx each =>
    rw [readEntry_sections_tx, overlay_tx, (TxConfig.adopts each).readSection]
    simp [overlay, sectionHolds]
  | eventListener each =>
    rw [readEntry_sections_eventListener, overlay_eventListener,
      (EventListenerConfig.adopts each).readSection]
    simp [overlay, sectionHolds]

/-- What a document says of a configuration goes over `base`. -/
theorem ofDocument_overlay (base : Config) (part : c.IsPart document) :
    ofDocument base document = .ok (c.overlay base (holds document)) := by
  have none : c.overlay base (fun _ => false) = base := rfl
  have step : ∀ chosen, ∀ sec ∈ document, readEntry sections (c.overlay base chosen) sec =
      .ok (c.overlay base fun setting => sectionHolds sec setting || chosen setting) := by
    intro chosen sec mem
    exact readEntry_overlay c base chosen (part sec mem)
  have read := foldlM_overlay step fun _ => false
  rw [none] at read
  rw [ofDocument, read]
  simp only [Bool.or_false]
  rfl

/-! ## Entries that are none -/

/-- The names of the sections. -/
def sectionNames : List String := (default : Config).toSections.map Section.name

/-- The names of the settings of a section. -/
def settingNames (name : String) : List String :=
  ((default : Config).toSections.filter fun sec => sec.name == name).flatMap fun sec =>
    sec.entries.map Prod.fst

/-- A document, and the same document with one more entry: of no section, or of no setting of the
section that it is in. -/
inductive Adds : Entries Value → Entries Value → Prop where
  | toDocument {before after : Entries Value} {key : String} {v : Value}
    (unknown : key ∉ sectionNames) :
    Adds (before ++ after) (before ++ (key, v) :: after)
  | toSection {before after entries others : Entries Value} {name key : String} {v : Value}
    (unknown : key ∉ settingNames name) :
    Adds (before ++ (name, .table (entries ++ others)) :: after)
      (before ++ (name, .table (entries ++ (key, v) :: others)) :: after)

/-- A section with an entry too many, after other sections. -/
theorem readEntry_section_unknown (c base : Config) (chosen : String × String → Bool)
    {name key : String} {entries others : Entries Value} {v : Value}
    (agrees : c.Agrees name (.table (entries ++ others))) (unknown : key ∉ settingNames name) :
    readEntry sections (c.overlay base chosen) (name, .table (entries ++ (key, v) :: others)) =
      .error .unreadable := by
  cases agrees with
  | handshake each =>
    rw [readEntry_sections_handshake, overlay_handshake,
      (HandshakeConfig.adopts each).readSection_unknown unknown]
    rfl
  | headerSync each =>
    rw [readEntry_sections_headerSync, overlay_headerSync,
      (HeaderSyncConfig.adopts each).readSection_unknown unknown]
    rfl
  | tx each =>
    rw [readEntry_sections_tx, overlay_tx,
      (TxConfig.adopts each).readSection_unknown unknown]
    rfl
  | eventListener each =>
    rw [readEntry_sections_eventListener, overlay_eventListener,
      (EventListenerConfig.adopts each).readSection_unknown unknown]
    rfl

theorem ofDocument_more (base : Config) (part : c.IsPart document) (adds : Adds document more) :
    ofDocument base more = .error .unreadable := by
  cases adds with
  | @toDocument before after key v unknown =>
    have partBefore : c.IsPart before := fun sec mem => part sec (List.mem_append_left _ mem)
    exact foldlM_readEntry_unknown (ofDocument_overlay base partBefore) unknown v after
  | @toSection before after entries others name key v unknown =>
    have partBefore : c.IsPart before := fun sec mem => part sec (List.mem_append_left _ mem)
    have agrees : c.Agrees name (.table (entries ++ others)) :=
      part _ (List.mem_append_right _ List.mem_cons_self)
    -- The sections before are read in full, so the entry too many is the first that is refused.
    have read : before.foldlM (readEntry sections) base = .ok (c.overlay base (holds before)) :=
      ofDocument_overlay base partBefore
    rw [ofDocument, List.foldlM_append, read, Reading.ok_bind, List.foldlM_cons,
      readEntry_section_unknown c base _ agrees unknown]
    rfl

/-! ## All of the settings -/

/-- A document agrees with the configuration that it was made from. -/
theorem agrees_of_mem_toSections {whole : Section} (mem : whole ∈ c.toSections)
    {entries : List (String × Scalar)} (own : ∀ e ∈ entries, e ∈ whole.entries) :
    c.Agrees whole.name (.table (entries.map fun e => (e.1, e.2.toValue))) := by
  have among {P : String × Value → Prop} (each : ∀ e ∈ whole.entries, P (e.1, e.2.toValue)) :
      ∀ e ∈ entries.map fun e => (e.1, e.2.toValue), P e := by
    rw [List.forall_mem_map]
    intro e mem
    exact each e (own e mem)
  simp only [toSections, List.mem_cons, List.not_mem_nil, or_false] at mem
  rcases mem with rfl | rfl | rfl | rfl
  · apply Agrees.handshake
    apply among
    simp only [List.forall_mem_cons]
    exact ⟨.maxFailures, .failureCooldown (Duration.parse_text _), List.forall_mem_nil _⟩
  · apply Agrees.headerSync
    apply among
    simp only [List.forall_mem_cons]
    exact ⟨.maxAttempts, .retryDelay (Duration.parse_text _),
      .maxRetryDelay (Duration.parse_text _), List.forall_mem_nil _⟩
  · apply Agrees.tx
    apply among
    simp only [List.forall_mem_cons]
    exact ⟨.maxMsgNum, .maxTxSize, List.forall_mem_nil _⟩
  · apply Agrees.eventListener
    apply among
    simp only [List.forall_mem_cons]
    exact ⟨.pollInterval (Duration.parse_text _), List.forall_mem_nil _⟩

/-- All settings are read, whatever they were before. -/
theorem ofDocument_toSections (base c : Config) :
    ofDocument base (c.toSections.map Section.toValue) = .ok c := by
  have part : c.IsPart (c.toSections.map Section.toValue) := by
    unfold IsPart
    rw [List.forall_mem_map]
    intro whole mem
    exact agrees_of_mem_toSections mem fun e own => own
  have all : c.overlay base (holds (c.toSections.map Section.toValue)) = c := rfl
  rw [ofDocument_overlay base part, all]

end Config

end ChannelRelay
