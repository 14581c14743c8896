import ChannelRelay.Proofs.Config.File

/-!
# Stores that fail

A configuration with a word that no document can hold is not written. By then the file has been
emptied, and an empty file is a configuration like any other: that of all defaults.

* `store_eq_encode`: which stores fail in this way;
* `load_empty`: what an empty file is loaded as;
* `emptied_of_encode`: what such a store leaves at the path.
-/

namespace ChannelRelay.Config

variable {c : Config} {file : ConfigFile}

/-- A store fails to encode just those configurations that no document can hold. -/
theorem store_eq_encode :
    (c.store file).1 = .error .encode ↔ ¬ c.IsWritable ∧ file ≠ .directory := by
  by_cases directory : file = .directory
  · subst directory
    exact ⟨nofun, fun h => absurd rfl h.2⟩
  · by_cases writable : c.IsWritable
    · rw [store_of_isWritable writable directory]
      exact ⟨nofun, fun h => absurd writable h.1⟩
    · rw [store_of_not_isWritable writable directory]
      exact ⟨fun _ => ⟨writable, directory⟩, fun _ => rfl⟩

theorem load_empty : load (.content ByteArray.empty) = .ok (.ok default) := by
  have empty : "".toUTF8 = ByteArray.empty := rfl
  rw [← empty, load_content]
  rfl

/-- What a store of `c` that fails leaves, where there was `file` before. -/
structure Emptied (c : Config) (file : ConfigFile) : Prop where
  unwritable : ¬ c.IsWritable
  empty : (c.store file).2 = .content ByteArray.empty
  loads_defaults : load (c.store file).2 = .ok (.ok default)
  /-- Nothing is kept but an empty file. -/
  kept_iff : (c.store file).2 = file ↔ file = .content ByteArray.empty
  /-- Only what was loaded as the defaults is loaded as before. -/
  load_kept_iff : load (c.store file).2 = load file ↔ load file = .ok (.ok default)

/-- **Failed stores.** Where a configuration cannot be encoded an empty file is left, which is
loaded as the defaults, whatever there was before. -/
theorem emptied_of_encode (failed : (c.store file).1 = .error .encode) : c.Emptied file := by
  obtain ⟨unwritable, noDirectory⟩ := store_eq_encode.mp failed
  have empty : (c.store file).2 = .content ByteArray.empty := by
    rw [store_of_not_isWritable unwritable noDirectory]
  have defaults : load (c.store file).2 = .ok (.ok default) := by
    rw [empty, load_empty]
  exact {
    unwritable
    empty
    loads_defaults := defaults
    kept_iff := by rw [empty]; exact eq_comm
    load_kept_iff := by rw [defaults]; exact eq_comm }

/-- A word of 64 bits over a file that someone wrote by hand. -/
theorem emptied_of_encode_over_own_settings :
    let c : Config := { handshake := { maxFailures := 18446744073709551615 } }
    let file : ConfigFile := .content "[tx]\nmax_msg_num = 7 # few\n".toUTF8
    (c.store file).1 = .error .encode ∧ c.Emptied file := by
  intro c file
  have unwritable : ¬ c.IsWritable := fun writable => absurd writable.maxFailures (by decide)
  have failed : (c.store file).1 = .error .encode := store_eq_encode.mpr ⟨unwritable, nofun⟩
  exact ⟨failed, emptied_of_encode failed⟩

/-- A configuration that was stored and could be loaded is lost when another one cannot be
encoded, and a file appears where there was none. -/
theorem failed_store_loses_stored :
    let c : Config := { tx := { maxMsgNum := 9223372036854775808 } }
    let stored : Config := { handshake := { maxFailures := 7 } }
    let file := (stored.store .missing).2
    ((c.store file).1 = .error .encode ∧ (c.store file).2 ≠ file ∧
      load file = .ok (.ok stored) ∧ load (c.store file).2 = .ok (.ok default)) ∧
    (c.store .missing).1 = .error .encode ∧ (c.store .missing).2 ≠ .missing ∧
      load .missing = .ok (.error .io) ∧ load (c.store .missing).2 = .ok (.ok default) := by
  intro c stored file
  have unwritable : ¬ c.IsWritable := fun writable => absurd writable.maxMsgNum (by decide)
  have writable : stored.IsWritable := ⟨by decide, by decide, by decide⟩
  have missing : ConfigFile.missing ≠ .directory := nofun
  have content : file = .content (Document.text stored.toSections ++ "\n").toUTF8 :=
    congrArg Prod.snd (store_of_isWritable writable missing)
  have before : load file = .ok (.ok stored) := by
    rw [content, load_content, ofText_text writable]
    rfl
  have present : file ≠ .directory := by
    rw [content]
    nofun
  rw [store_of_not_isWritable unwritable present, store_of_not_isWritable unwritable missing]
  refine ⟨⟨rfl, fun same => ?_, before, load_empty⟩, rfl, nofun, rfl, load_empty⟩
  have lost : stored = default := by
    have loaded := before
    rw [← same, load_empty] at loaded
    exact (Except.ok.inj (Except.ok.inj loaded)).symm
  exact absurd lost (by decide)

end ChannelRelay.Config
