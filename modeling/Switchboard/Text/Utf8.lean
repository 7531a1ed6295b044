/-!
# Texts as bytes

The UTF-8 of a text, and the text that bytes are the UTF-8 of.
-/

set_option autoImplicit false

namespace Switchboard.Text

/-- The UTF-8 bytes of a text. -/
def utf8 (text : String) : List UInt8 := text.toUTF8.data.toList

/-- The text that bytes are the UTF-8 of. -/
def ofUtf8? (bytes : List UInt8) : Option String := String.fromUTF8? ⟨bytes.toArray⟩

end Switchboard.Text
