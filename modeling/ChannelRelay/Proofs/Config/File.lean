import ChannelRelay.Config.File
import ChannelRelay.Proofs.Config.Document

/-!
# Stored configurations

A configuration that was stored is what is loaded, if it is a valid one. Of documents and of
written durations this takes no more than `write_eq_some`, `read_text` and `Duration.parse_text`.

* `isWritable_integer`: the numbers that a document can hold;
* `store_of_isWritable`, `store_of_not_isWritable`: a configuration can be stored if a document
  can hold its 64-bit words;
* `validate_cases`: validation finds the first of the settings that must not be zero;
* `store_round_trip`: storing a configuration, and loading it again.
-/

namespace ChannelRelay

open Document

namespace Config

variable {c : Config} {file : ConfigFile} {s : String}

/-! ## Documents -/

theorem isNamed_toSections (c : Config) : ∀ sec ∈ c.toSections, sec.IsNamed := by
  have named (name : String) (keys : List String) (bare : IsBare name)
      (bareKeys : ∀ key ∈ keys, IsBare key) (distinct : keys.Nodup) (sec : Section)
      (sameName : sec.name = name) (sameKeys : sec.entries.map Prod.fst = keys) :
      sec.IsNamed := by
    subst sameName sameKeys
    exact ⟨bare, fun e mem => bareKeys _ (List.mem_map_of_mem mem), distinct⟩
  have handshake := named "handshake" ["max_failures", "failure_cooldown"]
    (by decide) (by decide) (by decide)
  have headerSync := named "header_sync" ["max_attempts", "retry_delay", "max_retry_delay"]
    (by decide) (by decide) (by decide)
  have tx := named "tx" ["max_msg_num", "max_tx_size"] (by decide) (by decide) (by decide)
  have eventListener := named "event_listener" ["poll_interval"]
    (by decide) (by decide) (by decide)
  simp only [toSections, List.forall_mem_cons]
  exact ⟨handshake _ rfl rfl, headerSync _ rfl rfl, tx _ rfl rfl, eventListener _ rfl rfl, by simp⟩

/-! ## Files -/

/-- Whether a document can hold the 64-bit words of the configuration: they are below `2 ^ 63`. -/
structure IsWritable (c : Config) : Prop where
  maxFailures : c.handshake.maxFailures.toNat ≤ 9223372036854775807
  maxMsgNum : c.tx.maxMsgNum.toNat ≤ 9223372036854775807
  maxTxSize : c.tx.maxTxSize.toNat ≤ 9223372036854775807

theorem isWritable_integer (n : Nat) : (Scalar.integer n).IsWritable ↔ n ≤ 9223372036854775807 := by
  simp only [Scalar.IsWritable, isInteger, Bool.and_eq_true, decide_eq_true_eq]
  omega

/-- Texts and 32-bit words can always be written. -/
theorem isWritable_toSections : (∀ sec ∈ c.toSections, sec.IsWritable) ↔ c.IsWritable := by
  have text (s : String) : (Scalar.text s).IsWritable := trivial
  have maxAttempts : c.headerSync.maxAttempts.toNat ≤ 9223372036854775807 := by
    have := c.headerSync.maxAttempts.toNat_lt
    omega
  simp only [toSections, Section.IsWritable, List.forall_mem_cons, List.not_mem_nil, false_imp_iff,
    implies_true, and_true, isWritable_integer, text]
  constructor
  · rintro ⟨maxFailures, -, maxMsgNum, maxTxSize⟩
    exact ⟨maxFailures, maxMsgNum, maxTxSize⟩
  · rintro ⟨maxFailures, maxMsgNum, maxTxSize⟩
    exact ⟨maxFailures, maxAttempts, maxMsgNum, maxTxSize⟩

theorem toText?_eq_some :
    c.toText? = some s ↔ c.IsWritable ∧ s = Document.text c.toSections ++ "\n" := by
  have each (text : String) : Document.write c.toSections = some text ↔
      c.IsWritable ∧ text = Document.text c.toSections := by
    rw [write_eq_some, isWritable_toSections]
  rw [toText?, Option.map_eq_bind]
  exact bind_eq_some_iff each (· ++ "\n") s

/-- What the path held before has no part in what it holds afterwards. -/
theorem store_of_isWritable (writable : c.IsWritable) (noDirectory : file ≠ .directory) :
    c.store file = (.ok (), .content (Document.text c.toSections ++ "\n").toUTF8) := by
  have text := toText?_eq_some.mpr ⟨writable, rfl⟩
  cases file with
  | directory => exact absurd rfl noDirectory
  | missing | content => simp only [store, text]

theorem store_of_not_isWritable (unwritable : ¬ c.IsWritable) (noDirectory : file ≠ .directory) :
    c.store file = (.error .encode, .content ByteArray.empty) := by
  have text : c.toText? = none :=
    Option.eq_none_iff_forall_ne_some.mpr fun s h => unwritable (toText?_eq_some.mp h).1
  cases file with
  | directory => exact absurd rfl noDirectory
  | missing | content => simp only [store, text]

theorem load_content (s : String) : load (.content s.toUTF8) = ofText s := by
  have decoded : String.fromUTF8? s.toUTF8 = some s := dif_pos s.isValidUTF8
  rw [load, decoded]

/-- What is loaded is only validated any more. -/
theorem ofText_text (writable : c.IsWritable) :
    ofText (Document.text c.toSections ++ "\n") = .ok (c.validate.map fun _ => c) := by
  have distinct : (c.toSections.map Section.name).Nodup := by
    have names : c.toSections.map Section.name =
        ["handshake", "header_sync", "tx", "event_listener"] := rfl
    rw [names]
    decide
  have read : Document.read (Document.text c.toSections ++ "\n") =
      some (c.toSections.map Section.toValue) :=
    read_text (isNamed_toSections c) (isWritable_toSections.mpr writable) distinct
  rw [ofText, read, Reading.ofOption_some, Reading.ok_bind, ofDocument_toSections]

/-! ## Validation -/

/-- The settings that must not be zero, in the order of the sections. -/
def positiveSettings (c : Config) : List (String × Nat) := [
  ("handshake.max_failures", c.handshake.maxFailures.toNat),
  ("header_sync.max_attempts", c.headerSync.maxAttempts.toNat),
  ("tx.max_msg_num", c.tx.maxMsgNum.toNat),
  ("tx.max_tx_size", c.tx.maxTxSize.toNat)]

/-- The first setting that is zero and must not be. -/
def firstOffending? (c : Config) : Option String :=
  (c.positiveSettings.find? fun setting => setting.2 == 0).map Prod.fst

/-- Validation finds that setting, if there is one. -/
theorem validate_cases (c : Config) :
    (c.firstOffending? = none ∧ c.validate = .ok ()) ∨
    ∃ field reason, c.firstOffending? = some field ∧
      c.validate = .error (.invalidValue field reason) := by
  have zero64 (n : UInt64) : n = 0 ↔ n.toNat = 0 := UInt64.toNat_inj.symm
  have zero32 (n : UInt32) : n = 0 ↔ n.toNat = 0 := UInt32.toNat_inj.symm
  simp only [validate, firstOffending?, positiveSettings, zero64, zero32]
  split
  · rename_i maxFailures
    exact .inr ⟨_, _, by simp [maxFailures], rfl⟩
  rename_i maxFailures
  split
  · rename_i maxAttempts
    exact .inr ⟨_, _, by simp [maxFailures, maxAttempts], rfl⟩
  rename_i maxAttempts
  split
  · rename_i maxMsgNum
    exact .inr ⟨_, _, by simp [maxFailures, maxAttempts, maxMsgNum], rfl⟩
  rename_i maxMsgNum
  split
  · rename_i maxTxSize
    exact .inr ⟨_, _, by simp [maxFailures, maxAttempts, maxMsgNum, maxTxSize], rfl⟩
  · rename_i maxTxSize
    exact .inl ⟨by simp [maxFailures, maxAttempts, maxMsgNum, maxTxSize], rfl⟩

/-! ## Storing and loading -/

/-- Storing a configuration to a file, and loading it again. -/
structure RoundTrip (c : Config) (file : ConfigFile) : Prop where
  stores : (c.store file).1 = .ok () ↔ c.IsWritable
  /-- A valid configuration is loaded as it was stored. -/
  loads : (c.store file).1 = .ok () → c.validate = .ok () →
    load (c.store file).2 = .ok (.ok c)
  /-- Any other is refused, for the first setting that makes it invalid. -/
  refuses : (c.store file).1 = .ok () → ∀ e, c.validate = .error e →
    load (c.store file).2 = .ok (.error e) ∧
      ∃ field reason, c.firstOffending? = some field ∧ e = .invalidValue field reason

/-- Every configuration goes through a file, whatever the file held before. -/
theorem store_round_trip (c : Config) (file : ConfigFile) (noDirectory : file ≠ .directory) :
    c.RoundTrip file := by
  have stores : (c.store file).1 = .ok () ↔ c.IsWritable := by
    constructor
    · intro stored
      by_cases writable : c.IsWritable
      · exact writable
      · rw [store_of_not_isWritable writable noDirectory] at stored
        cases stored
    · intro writable
      rw [store_of_isWritable writable noDirectory]
  have loaded (stored : (c.store file).1 = .ok ()) :
      load (c.store file).2 = .ok (c.validate.map fun _ => c) := by
    have writable := stores.mp stored
    rw [store_of_isWritable writable noDirectory, load_content, ofText_text writable]
  refine ⟨stores, fun stored valid => ?_, fun stored e invalid => ?_⟩
  · rw [loaded stored, valid]
    rfl
  · refine ⟨by rw [loaded stored, invalid]; rfl, ?_⟩
    obtain ⟨-, valid⟩ | ⟨field, reason, first, found⟩ := c.validate_cases
    · rw [valid] at invalid
      cases invalid
    · rw [found] at invalid
      cases invalid
      exact ⟨field, reason, first, rfl⟩

/-- A configuration of long words and an odd delay, and one with two settings that must not be
zero, over a file that was longer. -/
theorem store_round_trip_over_longer_file :
    let long : Config := {
      headerSync := { retryDelay := { nanos := 86400000000001 } }
      tx := { maxMsgNum := 9223372036854775807 } }
    let zero : Config := { tx := { maxMsgNum := 0, maxTxSize := 0 } }
    let file : ConfigFile := .content (String.ofList (List.replicate 4096 'x')).toUTF8
    file ≠ .directory ∧
      ((long.store file).1 = .ok () ∧ load (long.store file).2 = .ok (.ok long)) ∧
      ((zero.store file).1 = .ok () ∧ load (zero.store file).2 =
        .ok (.error (.invalidValue "tx.max_msg_num" "must be at least 1"))) := by
  intro long zero file
  have noDirectory : file ≠ .directory := fun same => nomatch same
  have ofLong := store_round_trip long file noDirectory
  have ofZero := store_round_trip zero file noDirectory
  have storedLong := ofLong.stores.mpr ⟨by decide, by decide, by decide⟩
  have storedZero := ofZero.stores.mpr ⟨by decide, by decide, by decide⟩
  exact ⟨noDirectory, ⟨storedLong, ofLong.loads storedLong rfl⟩,
    ⟨storedZero, (ofZero.refuses storedZero _ rfl).1⟩⟩

end Config

end ChannelRelay
