import BootMedia.Text.Blank

/-!
The ways in which a regular expression reads its characters, the flags that choose among them, and
the blanks and comments that say nothing where a flag admits them.
-/
namespace BootMedia.Pattern

/-- How characters are read. -/
structure Mode where
  /-- Blanks and comments say nothing. -/
  spaced : Bool
  /-- The case of letters does not count. -/
  caseless : Bool
  /-- The text to be searched is made of characters, not of bytes. -/
  characters : Bool
deriving DecidableEq

/-- A text behind the blanks and comments at its head. A comment ends with its line. -/
def afterGap (inComment : Bool) : List Char → List Char
  | [] => []
  | c :: rest =>
    if inComment then afterGap (c != '\n') rest
    else if Blank.isBlank c then afterGap false rest
    else if c == '#' then afterGap true rest
    else c :: rest

/-- The first character that is neither blank nor the first mark of a comment; what a comment says
is not passed over. -/
def firstMark? (marked : Bool) : List Char → Option Char
  | [] => none
  | c :: rest =>
    if Blank.isBlank c then firstMark? marked rest
    else if c == '#' && !marked then firstMark? true rest
    else some c

namespace Mode

def standard : Mode := ⟨false, false, true⟩

def offersLetters (m : Mode) : Bool := !(m.caseless && m.characters)

def skip (m : Mode) (text : List Char) : List Char :=
  if m.spaced then afterGap false text else text

/-- The character by which it is decided what a dash before the text means. -/
def glance (m : Mode) (text : List Char) : Option Char :=
  if m.spaced then firstMark? false text else text.head?

def withFlag (m : Mode) (on : Bool) : Char → Option Mode
  | 'i' => some { m with caseless := on }
  | 'x' => some { m with spaced := on }
  | 'u' => some { m with characters := on }
  | c => if ['m', 's', 'U', 'R'].contains c then some m else none

/-- A mode after flags; those behind a dash are cleared. -/
def withFlags (m : Mode) (on : Bool) : List Char → Option Mode
  | [] => some m
  | '-' :: rest => if on && !rest.isEmpty then m.withFlags false rest else none
  | c :: rest =>
    if rest.contains c then none else (m.withFlag on c).bind fun next => next.withFlags on rest

end Mode

end BootMedia.Pattern
