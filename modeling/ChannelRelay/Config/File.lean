import ChannelRelay.Config.Document

/-!
# Configuration files

`Config.store` writes a configuration to a file and `Config.load` reads one. A file is
emptied before the configuration is written out as text, so a configuration that cannot
be written leaves an empty file behind.

The text is a TOML document with durations in the form of humantime. That a stored
configuration can be loaded again rests on `Document.read_text`, on `Duration.parse_text`,
and on `isWritable_integer` for the numbers that no document can hold.
-/

namespace ChannelRelay

/-- What is at the path of a configuration file. -/
inductive ConfigFile where
  | missing
  | directory
  | content (bytes : ByteArray)

namespace Config

/-- The outcome of loading: a configuration, an error, or a broken precondition. -/
abbrev Loaded := Except Breach (Except ConfigError Config)

/-- The configuration that a text gives, over the defaults, if it is a valid one. -/
def ofText (s : String) : Loaded :=
  match Reading.ofOption (Document.read s) >>= ofDocument default with
  | .ok config => .ok (config.validate.map fun _ => config)
  | .error .unreadable => .ok (.error .decode)
  | .error (.breach b) => .error b

def load : ConfigFile → Loaded
  | .missing | .directory => .ok (.error .io)
  | .content bytes =>
    match String.fromUTF8? bytes with
    | some s => ofText s
    | none => .ok (.error .io)

/-- The text of a configuration file. It ends with an empty line. -/
def toText? (c : Config) : Option String := (Document.write c.toSections).map (· ++ "\n")

/-- The outcome, and what is at the path afterwards. -/
def store (c : Config) (file : ConfigFile) : Except ConfigError Unit × ConfigFile :=
  match file with
  | .directory => (.error .io, .directory)
  | .missing | .content _ =>
    match c.toText? with
    | some s => (.ok (), .content s.toUTF8)
    | none => (.error .encode, .content ByteArray.empty)

end Config

end ChannelRelay
