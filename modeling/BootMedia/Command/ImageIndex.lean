/-!
The number of an image on the command line: an optional plus sign and decimal digits, with a value
of at most 32 bits. Of two faults the one found first from the left counts.
-/
namespace BootMedia

inductive IndexError
  | empty
  | invalidDigit
  | tooLarge
deriving DecidableEq

def IndexError.text : IndexError → String
  | empty => "cannot parse integer from empty string"
  | invalidDigit => "invalid digit found in string"
  | tooLarge => "number too large to fit in target type"

namespace ImageIndex

def digit? (c : Char) : Option Nat :=
  if '0' ≤ c ∧ c ≤ '9' then some (c.toNat - '0'.toNat) else none

def readDigits : Nat → List Char → Except IndexError UInt32
  | value, [] => .ok (UInt32.ofNat value)
  | value, c :: rest =>
    match digit? c with
    | none => .error .invalidDigit
    | some d =>
      if 2 ^ 32 ≤ value * 10 + d then .error .tooLarge else readDigits (value * 10 + d) rest

def read : List Char → Except IndexError UInt32
  | [] => .error .empty
  | ['+'] => .error .invalidDigit
  | '+' :: digits => readDigits 0 digits
  | digits => readDigits 0 digits

end ImageIndex

end BootMedia
