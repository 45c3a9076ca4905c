import BootMedia.Text.Pattern.Mode

/-!
Escapes of regular expressions: characters by number or by letter, classes of characters, places
in a text, and marks that are to stand for themselves.
-/
namespace BootMedia.Pattern

/-- What an escape or a member of a class stands for. -/
inductive Atom
  | one (c : Char)
  | several
  | anchor
deriving DecidableEq

def isHexDigit (c : Char) : Bool :=
  c.isDigit || ('a' ≤ c && c ≤ 'f') || ('A' ≤ c && c ≤ 'F')

def hexValue (c : Char) : Nat :=
  if c.isDigit then c.toNat - '0'.toNat else c.toLower.toNat - 'a'.toNat + 10

def hexNumber (m : Mode) (n : Nat) : Nat → List Char → Option (Nat × List Char)
  | 0, text => some (n, text)
  | count + 1, text =>
    match m.skip text with
    | [] => none
    | c :: rest => if isHexDigit c then hexNumber m (16 * n + hexValue c) count rest else none

def byNumber (m : Mode) (count : Nat) (text : List Char) : Option (Char × List Char) :=
  match hexNumber m 0 count text with
  | some (n, rest) => if n.isValidChar then some (Char.ofNat n, rest) else none
  | none => none

def controls : List (Char × Nat) :=
  [('a', 7), ('f', 12), ('t', 9), ('n', 10), ('r', 13), ('v', 11)]

def letterEscape (m : Mode) (c : Char) : Option Atom :=
  if ['d', 's', 'w'].contains c then if m.characters then none else some .several
  else if ['b', 'B', '<', '>'].contains c then if m.characters then none else some .anchor
  else if ['A', 'z'].contains c then some .anchor
  else match controls.lookup c with
    | some n => some (.one (Char.ofNat n))
    | none => if c.toNat < 128 && !c.isAlphanum then some (.one c) else none

/-- What the escape at the head of a text stands for, and what follows it. Two digits are the number
of a byte where bytes are searched. -/
def escape (m : Mode) : List Char → Option (Atom × List Char)
  | [] => none
  | 'x' :: rest =>
    match byNumber m 2 rest with
    | some (c, after) => if m.characters || c.toNat < 128 then some (.one c, after) else none
    | none => none
  | 'u' :: rest => (byNumber m 4 rest).map fun (c, after) => (.one c, after)
  | 'U' :: rest => (byNumber m 8 rest).map fun (c, after) => (.one c, after)
  | c :: rest => (letterEscape m c).map fun a => (a, rest)

end BootMedia.Pattern
