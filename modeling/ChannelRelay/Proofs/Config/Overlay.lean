import ChannelRelay.Proofs.Config.File

/-!
# Partial configurations

The settings that a document leaves out have their defaults when it is loaded.

* `load_part`, `load_more`: what is loaded from a document with some of the settings of a
  configuration, and with an entry that is none;
* `read_selected`: for every choice of settings there is such a document;
* `partial_overlays`: all of it.
-/

namespace ChannelRelay.Config

open Document

variable {c base : Config} {document more : Entries Value} {s : String}
  {chosen : String × String → Bool}

/-! ## Loading -/

theorem validate_eq_ok : c.validate = .ok () ↔ c.handshake.maxFailures ≠ 0 ∧
    c.headerSync.maxAttempts ≠ 0 ∧ c.tx.maxMsgNum ≠ 0 ∧ c.tx.maxTxSize ≠ 0 := by
  unfold validate
  by_cases maxFailures : c.handshake.maxFailures = 0
  · simp [maxFailures]
  by_cases maxAttempts : c.headerSync.maxAttempts = 0
  · simp [maxFailures, maxAttempts]
  by_cases maxMsgNum : c.tx.maxMsgNum = 0
  · simp [maxFailures, maxAttempts, maxMsgNum]
  by_cases maxTxSize : c.tx.maxTxSize = 0
  · simp [maxFailures, maxAttempts, maxMsgNum, maxTxSize]
  · simp [maxFailures, maxAttempts, maxMsgNum, maxTxSize]

/-- A valid configuration over another one is valid, whichever settings are chosen. -/
theorem validate_overlay (valid : c.validate = .ok ()) (validBase : base.validate = .ok ()) :
    (c.overlay base chosen).validate = .ok () := by
  rw [validate_eq_ok] at valid validBase ⊢
  have either {α : Type} {zero x y : α} (own : Bool) (first : x ≠ zero) (second : y ≠ zero) :
      (if own then x else y) ≠ zero := by
    cases own with
    | true => exact first
    | false => exact second
  obtain ⟨maxFailures, maxAttempts, maxMsgNum, maxTxSize⟩ := valid
  obtain ⟨maxFailures', maxAttempts', maxMsgNum', maxTxSize'⟩ := validBase
  exact ⟨either _ maxFailures maxFailures', either _ maxAttempts maxAttempts',
    either _ maxMsgNum maxMsgNum', either _ maxTxSize maxTxSize'⟩

theorem load_part (valid : c.validate = .ok ()) (part : c.IsPart document)
    (read : Document.read s = some document) :
    load (.content s.toUTF8) = .ok (.ok (c.overlay default (holds document))) := by
  have validOverlay : (c.overlay default (holds document)).validate = .ok () :=
    validate_overlay valid rfl
  rw [load_content, ofText, read, Reading.ofOption_some, Reading.ok_bind,
    ofDocument_overlay default part]
  simp only [validOverlay]
  rfl

theorem load_more (part : c.IsPart document) (adds : Adds document more)
    (read : Document.read s = some more) : load (.content s.toUTF8) = .ok (.error .decode) := by
  rw [load_content, ofText, read, Reading.ofOption_some, Reading.ok_bind,
    ofDocument_more default part adds]

/-! ## Writing -/

/-- Some of the sections of a configuration, in any order, with some of their settings. -/
structure Selects (c : Config) (selected : List Section) : Prop where
  distinct : (selected.map Section.name).Nodup
  distinctKeys : ∀ sec ∈ selected, (sec.entries.map Prod.fst).Nodup
  own : ∀ sec ∈ selected, ∃ whole ∈ c.toSections, sec.name = whole.name ∧
    ∀ e ∈ sec.entries, e ∈ whole.entries

theorem isPart_of_selects {selected : List Section} (selects : c.Selects selected) :
    c.IsPart (selected.map Section.toValue) := by
  intro entry mem
  obtain ⟨sec, memSec, rfl⟩ := List.mem_map.mp mem
  obtain ⟨whole, memWhole, named, own⟩ := selects.own sec memSec
  have agrees := agrees_of_mem_toSections memWhole own
  rw [← named] at agrees
  exact agrees

/-- A writable configuration has a text for every choice of its settings. -/
theorem read_selected {selected : List Section} (writable : c.IsWritable)
    (selects : c.Selects selected) :
    Document.read (Document.text selected ++ "\n") = some (selected.map Section.toValue) := by
  apply read_text
  · intro sec mem
    obtain ⟨whole, memWhole, named, own⟩ := selects.own sec mem
    have namedWhole := isNamed_toSections c whole memWhole
    refine ⟨named ▸ namedWhole.bare, ?_, selects.distinctKeys sec mem⟩
    intro e memE
    exact namedWhole.bareEntries e (own e memE)
  · intro sec mem e memE
    obtain ⟨whole, memWhole, named, own⟩ := selects.own sec mem
    exact isWritable_toSections.mpr writable whole memWhole e (own e memE)
  · exact selects.distinct

/-! ## Overlays -/

/-- What is loaded from documents with some of the settings of a configuration. -/
structure Overlays (c : Config) : Prop where
  loads : ∀ s document, c.IsPart document → Document.read s = some document →
    load (.content s.toUTF8) = .ok (.ok (c.overlay default (holds document)))
  refuses : ∀ s document more, c.IsPart document → Adds document more →
    Document.read s = some more → load (.content s.toUTF8) = .ok (.error .decode)
  /-- There is such a document for every choice of settings, and every order. -/
  written : ∀ selected, c.Selects selected → ∃ s,
    Document.read s = some (selected.map Section.toValue) ∧
      c.IsPart (selected.map Section.toValue)

/-- **Partial configurations.** A document with some of the settings of a valid configuration is
loaded as these settings over the defaults. With an entry that is no setting it is refused. -/
theorem partial_overlays (c : Config) (valid : c.validate = .ok ()) (writable : c.IsWritable) :
    c.Overlays := by
  refine { loads := ?_, refuses := ?_, written := ?_ }
  · intro s document part read
    exact load_part valid part read
  · intro s document more part adds read
    exact load_more part adds read
  · intro selected selects
    exact ⟨_, read_selected writable selects, isPart_of_selects selects⟩

/-- Two settings, with their sections in another order; and a section without settings, with a name
that is none. -/
theorem partial_overlays_two_settings :
    let c : Config := {
      handshake := { maxFailures := 7 }
      headerSync := { retryDelay := { nanos := 250000000 } }
      tx := { maxMsgNum := 9 } }
    let s := "[tx]\nmax_msg_num = 9\n\n[header_sync]\nretry_delay = \"250ms\"\n\n"
    let more := "[header_sync]\nretries = 4\n\n"
    c.validate = .ok () ∧ c.IsWritable ∧
      load (.content s.toUTF8) = .ok (.ok {
        headerSync := { retryDelay := { nanos := 250000000 } }
        tx := { maxMsgNum := 9 } }) ∧
      load (.content more.toUTF8) = .ok (.error .decode) := by
  intro c s more
  have valid : c.validate = .ok () := rfl
  have writable : c.IsWritable := ⟨by decide, by decide, by decide⟩
  have overlays := partial_overlays c valid writable
  let selected : List Section := [⟨"tx", [("max_msg_num", .integer 9)]⟩,
    ⟨"header_sync", [("retry_delay", .text "250ms")]⟩]
  have selects : c.Selects selected := ⟨by decide, by decide, by decide⟩
  have written : s = Document.text selected ++ "\n" := by decide
  let added : List Section := [⟨"header_sync", [("retries", .integer 4)]⟩]
  have writtenMore : more = Document.text added ++ "\n" := by decide
  have readMore : Document.read more = some (added.map Section.toValue) := by
    have named : Section.IsNamed ⟨"header_sync", [("retries", .integer 4)]⟩ :=
      ⟨by decide, by decide, by decide⟩
    have writableMore : Section.IsWritable ⟨"header_sync", [("retries", .integer 4)]⟩ :=
      List.forall_mem_singleton.mpr ((isWritable_integer 4).mpr (by decide))
    rw [writtenMore]
    exact read_text (List.forall_mem_singleton.mpr named)
      (List.forall_mem_singleton.mpr writableMore) (by decide)
  have partEmpty : c.IsPart [("header_sync", .table [])] :=
    List.forall_mem_singleton.mpr (.headerSync (List.forall_mem_nil _))
  have adds : Adds [("header_sync", .table [])] (added.map Section.toValue) :=
    @Adds.toSection [] [] [] [] "header_sync" "retries" _ (by decide)
  refine ⟨valid, writable, ?_, overlays.refuses more _ _ partEmpty adds readMore⟩
  rw [written]
  exact overlays.loads _ _ (isPart_of_selects selects) (read_selected writable selects)

end ChannelRelay.Config
