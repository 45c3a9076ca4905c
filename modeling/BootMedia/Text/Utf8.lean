import BootMedia.Bytes

/-!
Reading bytes as UTF-8 without failing: each longest ill-formed start of a character becomes one
replacement character U+FFFD, as the Unicode standard recommends.
-/
namespace BootMedia.Utf8

def replacement : Char := Char.ofNat 0xFFFD

/-- How many bytes follow a lead byte, and the range of the first of them. -/
def follow (lead : UInt8) : Option (Nat × UInt8 × UInt8) :=
  if 0xC2 ≤ lead ∧ lead ≤ 0xDF then some (1, 0x80, 0xBF)
  else if lead = 0xE0 then some (2, 0xA0, 0xBF)
  else if lead = 0xED then some (2, 0x80, 0x9F)
  else if 0xE1 ≤ lead ∧ lead ≤ 0xEF then some (2, 0x80, 0xBF)
  else if lead = 0xF0 then some (3, 0x90, 0xBF)
  else if 0xF1 ≤ lead ∧ lead ≤ 0xF3 then some (3, 0x80, 0xBF)
  else if lead = 0xF4 then some (3, 0x80, 0x8F)
  else none

def leadBits (count : Nat) (lead : UInt8) : Nat := lead.toNat % (1 <<< (6 - count))

/-- What has been read of a character: its bits so far, how many bytes are due, and the range of
the next one. -/
structure Pending where
  bits : Nat
  due : Nat
  low : UInt8
  high : UInt8

def start (b : UInt8) : List Char × Option Pending :=
  if b < 0x80 then ([Char.ofNat b.toNat], none)
  else match follow b with
    | some (count, low, high) => ([], some ⟨leadBits count b, count, low, high⟩)
    | none => ([replacement], none)

/-- A byte that cannot continue the pending character closes it as ill-formed and starts anew. -/
def step : Option Pending → UInt8 → List Char × Option Pending
  | none, b => start b
  | some p, b =>
    if p.low ≤ b ∧ b ≤ p.high then
      let bits := p.bits * 64 + b.toNat % 64
      if p.due = 1 then ([Char.ofNat bits], none) else ([], some ⟨bits, p.due - 1, 0x80, 0xBF⟩)
    else
      let (chars, pending) := start b
      (replacement :: chars, pending)

def decodeFrom (pending : Option Pending) : Bytes → List Char
  | [] => if pending.isSome then [replacement] else []
  | b :: rest =>
    let (chars, next) := step pending b
    chars ++ decodeFrom next rest

def decode (b : Bytes) : List Char := decodeFrom none b

end BootMedia.Utf8
