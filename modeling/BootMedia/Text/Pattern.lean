import BootMedia.Text.Alphanumeric
import BootMedia.Text.Pattern.Bracket

/-!
Which texts are regular expressions. Characters stand for themselves, but for groups and the flags
they set, bracketed classes, alternatives, repetitions, anchors and escapes. What would need a
table of all characters is not offered: classes by property, words and their boundaries, and
letters without regard to case, unless a flag limits them to bytes. A text is read from left to
right, with one step for each construct that begins at a character.
-/
namespace BootMedia.Pattern

/-- How far a text has been read. -/
structure State where
  mode : Mode
  /-- What has been read inside the innermost group that is open. -/
  level : Level
  /-- The modes around the groups that are open and what stands before them, the innermost first. -/
  outer : List (Mode × Level)
  /-- The brackets that are open, the innermost first. -/
  brackets : List Bracket
  /-- The names of the groups so far. -/
  names : List (List Char)

/-- The state after a construct, and the text behind it. -/
abbrev Step := Option (State × List Char)

namespace State

def start : State := ⟨Mode.standard, Level.start, [], [], []⟩

/-- Nothing is left open, and nothing is nested too deeply. -/
def isComplete (s : State) : Bool :=
  s.outer.isEmpty && s.brackets.isEmpty && s.level.depth ≤ nestLimit

def solid (s : State) (depth : Nat) (rest : List Char) : Step :=
  some ({ s with level := s.level.add ⟨depth, true⟩ }, rest)

def openGroup (s : State) (inside : Mode) (rest : List Char) : Step :=
  let outer := (s.mode, s.level) :: s.outer
  some ({ s with mode := inside, level := Level.start, outer }, rest)

def closeGroup (s : State) (rest : List Char) : Step :=
  match s.outer with
  | [] => none
  | (mode, level) :: outer => { s with mode, level, outer }.solid (s.level.depth + 1) rest

def openBracket (s : State) (text : List Char) : Step :=
  (afterBracket? s.mode text).map fun rest =>
    ({ s with brackets := Bracket.start :: s.brackets }, rest)

def closeBracket (s : State) (b : Bracket) (around : List Bracket) (rest : List Char) : Step :=
  match around with
  | [] => { s with brackets := [] }.solid (b.depth + 1) rest
  | next :: others => some ({ s with brackets := next.add (b.depth + 1) false :: others }, rest)

end State

/-! Groups -/

/-- A name begins with a letter or an underscore and may hold numbers, dots and brackets. -/
def isGroupName : List Char → Bool
  | [] => false
  | c :: rest =>
    (c == '_' || Alphanumeric.isAlphabetic c) &&
      rest.all fun d => Alphanumeric.isAlphanumeric d || ['_', '.', '[', ']'].contains d

def openNamed (s : State) (text : List Char) : Step :=
  let name := text.takeWhile (· != '>')
  match text.drop name.length with
  | _ :: rest =>
    if isGroupName name && !s.names.contains name then
      { s with names := name :: s.names }.openGroup s.mode rest
    else none
  | [] => none

def openFlags (s : State) (text : List Char) : Step :=
  let flags := text.takeWhile fun c => c != ':' && c != ')'
  match s.mode.withFlags true flags, text.drop flags.length with
  | some inside, ':' :: rest => s.openGroup inside rest
  | some mode, ')' :: rest =>
    if flags.isEmpty then none
    else some ({ s with mode, level := s.level.add ⟨0, false⟩ }, rest)
  | _, _ => none

def openParenthesis (s : State) (text : List Char) : Step :=
  match s.mode.skip text with
  | '?' :: 'P' :: '<' :: rest => openNamed s rest
  | '?' :: '<' :: rest => openNamed s rest
  | '?' :: rest => openFlags s rest
  | rest => s.openGroup s.mode rest

/-! Whole texts -/

/-- The step at a sign of repetition, which a question mark may follow. -/
def repeatLast (s : State) (rest : List Char) : Step :=
  s.level.repeated?.map fun level =>
    ({ s with level }, if rest.head? == some '?' then rest.tail else rest)

def stepOutside (s : State) (c : Char) (rest : List Char) : Step :=
  match c with
  | '(' => openParenthesis s rest
  | ')' => s.closeGroup rest
  | '|' => some ({ s with level := s.level.next }, rest)
  | '*' | '+' | '?' => repeatLast s rest
  | '\x7b' => none
  | '[' => s.openBracket rest
  | '\\' =>
    match escape s.mode rest with
    | some (.one _, after) => if s.mode.offersLetters then s.solid 0 after else none
    | some (_, after) => s.solid 0 after
    | none => none
  | '.' => if s.mode.characters then s.solid 0 rest else none
  | '^' | '$' => s.solid 0 rest
  | _ => if s.mode.offersLetters then s.solid 0 rest else none

def stepInside (s : State) (b : Bracket) (around : List Bracket) (c : Char) (rest : List Char) :
    Step :=
  let continued (b : Bracket) (rest : List Char) : State × List Char :=
    ({ s with brackets := b :: around }, rest)
  if b.takesAsMember c then
    if s.mode.admits (.one c) then some (continued (b.add 0 (c == '-')) rest) else none
  else if c == ']' then s.closeBracket b around rest
  else if c == '[' then
    match namedClass? rest with
    | some (negated, after) =>
      if s.mode.admitsNamed negated then some (continued (b.add 0 false) after) else none
    | none => s.openBracket rest
  else if ['&', '-', '~'].contains c && rest.head? == some c then
    some (continued b.operate rest.tail)
  else (afterMember? s.mode (c :: rest)).map (continued (b.add 0 false))

def step (s : State) (c : Char) (rest : List Char) : Step :=
  match s.brackets with
  | [] => stepOutside s c rest
  | b :: around => stepInside s b around c rest

def run : Nat → State → List Char → Option State
  | 0, s, text => if text.isEmpty then some s else none
  | steps + 1, s, text =>
    match s.mode.skip text with
    | [] => some s
    | c :: rest => (step s c rest).bind fun next => run steps next.1 next.2

/-- The text is a regular expression. A step takes one character at least, so that there are no
more steps than characters. -/
def isPattern (t : List Char) : Bool :=
  match run t.length State.start t with
  | some s => s.isComplete
  | none => false

end BootMedia.Pattern
