set_option autoImplicit false
set_option relaxedAutoImplicit false

/-!
# Text in bytes

A byte sequence is a text when it is well-formed UTF-8.
-/

namespace Criteria.Text

def ofUtf8? (bytes : List UInt8) : Option String := String.fromUTF8? ⟨bytes.toArray⟩

end Criteria.Text
