import BootMedia.Text.Pattern.Escape
import BootMedia.Text.Pattern.Nesting

/-!
Classes of characters between brackets: single characters and ranges of them, named classes, and
brackets inside brackets, with operators between groups of members.
-/
namespace BootMedia.Pattern

/-- A bracket that is open. -/
structure Bracket where
  /-- Nothing but dashes has been read. -/
  opening : Bool
  /-- The depths of the members since the last operator. -/
  members : List Nat
  /-- The depth of what stands before the last operator, if there is one. -/
  left : Option Nat

namespace Bracket

def start : Bracket := ⟨true, [], none⟩

/-- A dash stands for itself as long as there are only dashes, a closing bracket as the first. -/
def takesAsMember (b : Bracket) (c : Char) : Bool :=
  b.opening && (c == '-' || (c == ']' && b.members.isEmpty))

def add (b : Bracket) (depth : Nat) (opening : Bool) : Bracket :=
  { b with opening, members := depth :: b.members }

def depth (b : Bracket) : Nat :=
  let right := seriesDepth b.members
  match b.left with
  | none => right
  | some left => max left right + 1

/-- A bracket after an operator, which takes all before it as its left side. -/
def operate (b : Bracket) : Bracket := ⟨false, [], some b.depth⟩

end Bracket

/-- What may be a member of a class. Of bytes only those of ASCII are characters of their own. -/
def Mode.admits (m : Mode) : Atom → Bool
  | .one c => m.offersLetters && (m.characters || c.toNat < 128)
  | .several => true
  | .anchor => false

/-! Beginnings of classes -/

/-- The text behind an opening bracket and the negation that may follow it. The bytes that are not
in a class are more than those of ASCII. -/
def afterBracket? (m : Mode) (text : List Char) : Option (List Char) :=
  match m.skip text with
  | '^' :: rest => if m.characters then some rest else none
  | rest => some rest

def classNames : List (List Char) :=
  ["alnum".toList, "alpha".toList, "ascii".toList, "blank".toList, "cntrl".toList, "digit".toList,
   "graph".toList, "lower".toList, "print".toList, "punct".toList, "space".toList, "upper".toList,
   "word".toList, "xdigit".toList]

def afterClassName? (text : List Char) : Option (List Char) :=
  let name := text.takeWhile (· != ':')
  match text.drop name.length with
  | ':' :: ']' :: rest => if classNames.contains name then some rest else none
  | _ => none

def namedClass? : List Char → Option (Bool × List Char)
  | ':' :: '^' :: text => (afterClassName? text).map fun rest => (true, rest)
  | ':' :: text => (afterClassName? text).map fun rest => (false, rest)
  | _ => none

def Mode.admitsNamed (m : Mode) (negated : Bool) : Bool :=
  m.offersLetters && (m.characters || !negated)

/-! Members of classes -/

def member (m : Mode) : List Char → Option (Atom × List Char)
  | [] => none
  | '\\' :: rest => escape m rest
  | c :: rest => some (.one c, rest)

def startsRangeEnd (m : Mode) (behind : List Char) : Bool :=
  m.glance behind != some ']' && m.glance behind != some '-'

def afterMember? (m : Mode) (text : List Char) : Option (List Char) :=
  match member m text with
  | none => none
  | some (first, after) =>
    let rest := m.skip after
    if rest.head? == some '-' && startsRangeEnd m rest.tail then
      match first, member m (m.skip rest.tail) with
      | .one low, some (.one high, afterRange) =>
        if low ≤ high && m.admits (.one low) && m.admits (.one high) then some afterRange else none
      | _, _ => none
    else if m.admits first then some rest
    else none

end BootMedia.Pattern
