/-!
Numerals in the forms the messages use: lower and upper hexadecimal, and filling to a width; and
decimal numerals as they are read.
-/
namespace BootMedia.Numeral

def hexLower (n : Nat) : String := String.ofList (Nat.toDigits 16 n)

def hexUpper (n : Nat) : String := String.ofList ((Nat.toDigits 16 n).map Char.toUpper)

def padLeft (fill : Char) (width : Nat) (text : String) : String :=
  String.ofList (List.replicate (width - text.length) fill) ++ text

/-- Upper hexadecimal after `0x`, ten characters or more in all. -/
def wordHex (n : Nat) : String := "0x" ++ padLeft '0' 8 (hexUpper n)

/-- The number that decimal digits stand for; a plus sign may stand before them. -/
def ofDecimal? (t : List Char) : Option Nat :=
  let digits := if t.head? == some '+' then t.tail else t
  if digits.isEmpty || !digits.all Char.isDigit then none
  else some (digits.foldl (fun n c => n * 10 + (c.toNat - '0'.toNat)) 0)

def isExponent : List Char → Bool
  | [] => true
  | c :: rest =>
    let digits := if rest.head? == some '+' || rest.head? == some '-' then rest.tail else rest
    (c == 'e' || c == 'E') && !digits.isEmpty && digits.all Char.isDigit

/-- The words for numbers that have no digits. -/
def boundlessWords : List (List Char) := ["inf".toList, "infinity".toList, "nan".toList]

/-- A number without a sign: digits with a point and an exponent, or one of the words. -/
def isFractional (t : List Char) : Bool :=
  let rest := t.dropWhile Char.isDigit
  let point := rest.head? == some '.'
  let tail := if point then rest.tail.dropWhile Char.isDigit else rest
  let marks := t.take (t.length - tail.length)
  (marks.any Char.isDigit && isExponent tail) || boundlessWords.contains (t.map Char.toLower)

end BootMedia.Numeral
