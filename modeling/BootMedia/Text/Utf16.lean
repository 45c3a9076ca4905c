/-!
Well-formed sequences of 16-bit units: every surrogate stands in a pair, the high one first.
-/
namespace BootMedia.Utf16

def isHigh (u : Nat) : Bool := 0xD800 ≤ u && u ≤ 0xDBFF

def isLow (u : Nat) : Bool := 0xDC00 ≤ u && u ≤ 0xDFFF

def wellFormed : List Nat → Bool
  | [] => true
  | [u] => !isHigh u && !isLow u
  | u :: v :: rest =>
    if isHigh u then isLow v && wellFormed rest
    else !isLow u && wellFormed (v :: rest)

end BootMedia.Utf16
