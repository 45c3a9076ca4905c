/-!
How deeply a regular expression is nested. A part that holds others is one deeper than the deepest
of them; parts side by side make up a part of their own if there are at least two.
-/
namespace BootMedia.Pattern

def nestLimit : Nat := 250

def seriesDepth : List Nat → Nat
  | [] => 0
  | [depth] => depth
  | depths => depths.foldl max 0 + 1

structure Piece where
  depth : Nat
  repeatable : Bool

/-- What has been read inside a group, or outside all of them. -/
structure Level where
  /-- The parts of the alternative that is being read, the last one first. -/
  pieces : List Piece
  /-- The depths of the alternatives before it. -/
  branches : List Nat

namespace Level

def start : Level := ⟨[], []⟩

def add (l : Level) (p : Piece) : Level := { l with pieces := p :: l.pieces }

def next (l : Level) : Level := ⟨[], seriesDepth (l.pieces.map Piece.depth) :: l.branches⟩

/-- The depth of the alternatives, of which the one that is being read is the last. -/
def depth (l : Level) : Nat := seriesDepth l.next.branches

def repeated? (l : Level) : Option Level :=
  match l.pieces with
  | p :: rest =>
    if p.repeatable then some { l with pieces := { p with depth := p.depth + 1 } :: rest } else none
  | [] => none

end Level

end BootMedia.Pattern
