/-!
# Byte strings

What chains exchange without looking inside, and the texts that are carried that way.
-/

namespace ChannelRelay

abbrev Bytes := List UInt8

namespace Bytes

/-- The UTF-8 form of a text. -/
def ofText (s : String) : Bytes := s.toUTF8.data.toList

/-- The text whose UTF-8 form this is. -/
def text? (b : Bytes) : Option String := String.fromUTF8? ⟨b.toArray⟩

@[simp] theorem text?_ofText (s : String) : text? (ofText s) = some s := by
  simp only [text?, ofText, Array.toArray_toList]
  exact dif_pos s.isValidUTF8

end Bytes

end ChannelRelay
