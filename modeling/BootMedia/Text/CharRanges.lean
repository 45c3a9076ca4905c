/-!
Sets of characters given by ranges of their numbers, as tables of character properties give them.
-/
namespace BootMedia

/-- Ranges of numbers in order, both ends included. -/
abbrev CharRanges := Array (Nat × Nat)

def CharRanges.holds (ranges : CharRanges) (c : Char) : Bool :=
  ranges.any fun r => r.1 ≤ c.toNat && c.toNat ≤ r.2

end BootMedia
