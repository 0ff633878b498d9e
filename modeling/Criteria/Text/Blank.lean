import Criteria.Text.CodeSet

set_option autoImplicit false
set_option relaxedAutoImplicit false

/-!
# Blank characters

The characters that separate words: blanks, tabulators and the breaks of lines, of every script.
-/

namespace Criteria.Text

def blanks : CodeSet := ⟨#[
  9, 14, 28, 33, 133, 134, 160, 161, 5760, 5761, 8192, 8203, 8232, 8234, 8239, 8240, 8287, 8288,
  12288, 12289]⟩

def isBlank (c : Char) : Bool := blanks.contains c.toNat

/-- Whether a character may stand around a number; the separators of information may not. -/
def isSpace (c : Char) : Bool := isBlank c && !(28 ≤ c.toNat && c.toNat ≤ 31)

def trimSpaces (text : List Char) : List Char :=
  ((text.dropWhile isSpace).reverse.dropWhile isSpace).reverse

end Criteria.Text
