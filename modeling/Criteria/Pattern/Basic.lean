set_option autoImplicit false
set_option relaxedAutoImplicit false

/-!
# Patterns as values

A pattern is its source and its flags; two patterns are the same when both agree. The source is a
text, or bytes, and a pattern of bytes cannot be searched for in a text.
-/

namespace Criteria

structure PatternFlags where
  ignoreCase : Bool := false
  multiline : Bool := false
  dotAll : Bool := false
  verbose : Bool := false
  ascii : Bool := false
  deriving DecidableEq, Repr

namespace PatternFlags

def letters (f : PatternFlags) : List Char :=
  [(f.ignoreCase, 'i'), (f.multiline, 'm'), (f.dotAll, 's'), (f.verbose, 'x'), (f.ascii, 'a')]
    |>.filterMap fun (isSet, letter) => if isSet then some letter else none

def set? (f : PatternFlags) (letter : Char) : Option PatternFlags :=
  if letter == 'i' then some { f with ignoreCase := true }
  else if letter == 'm' then some { f with multiline := true }
  else if letter == 's' then some { f with dotAll := true }
  else if letter == 'x' then some { f with verbose := true }
  else if letter == 'a' then some { f with ascii := true }
  else none

def ofLetters? (letters : List Char) : Option PatternFlags :=
  letters.foldlM set? {}

def union (f g : PatternFlags) : PatternFlags where
  ignoreCase := f.ignoreCase || g.ignoreCase
  multiline := f.multiline || g.multiline
  dotAll := f.dotAll || g.dotAll
  verbose := f.verbose || g.verbose
  ascii := f.ascii || g.ascii

/-- The flags that are set in the first and not in the second. -/
def without (f g : PatternFlags) : PatternFlags where
  ignoreCase := f.ignoreCase && !g.ignoreCase
  multiline := f.multiline && !g.multiline
  dotAll := f.dotAll && !g.dotAll
  verbose := f.verbose && !g.verbose
  ascii := f.ascii && !g.ascii

end PatternFlags

inductive PatternSource
  | text (s : String)
  | bytes (b : List UInt8)
  deriving DecidableEq, Repr

/-- A pattern: its source and all its flags. -/
structure Pattern where
  source : PatternSource
  flags : PatternFlags
  deriving DecidableEq, Repr

end Criteria
