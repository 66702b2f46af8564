import IngestWatch.Text.Direction.Table

/-!
When a part of a name can be shown in a text with both directions of writing without
being torn apart.
-/

namespace IngestWatch.Text.Direction

/-- How a character takes part in the order of a line. -/
inductive Kind where
  | leftToRight
  | rightToLeft
  | arabicDigit
  | digit
  | neutral
  | following
deriving DecidableEq, Repr

def kindOf (c : Char) : Kind :=
  let n := c.toNat
  if Ranges.contains n Direction.rightToLeft then .rightToLeft
  else if Ranges.contains n Direction.arabicDigits then .arabicDigit
  else if Ranges.contains n Direction.digits then .digit
  else if Ranges.contains n Direction.neutral then .neutral
  else if Ranges.contains n Direction.following then .following
  else .leftToRight

/-- Does a text hold a character that is written from right to left? -/
def isMixed (cs : List Char) : Bool :=
  cs.any fun c => kindOf c = .rightToLeft || kindOf c = .arabicDigit

/-- The kinds of the characters without the marks at the end. -/
def body (kinds : List Kind) : List Kind :=
  (kinds.reverse.dropWhile (· = .following)).reverse

/-- A part that begins from left to right holds nothing of the other direction and ends
in a letter or digit; one that begins from right to left likewise, and it does not mix
the two sorts of digits. -/
def holds (kinds : List Kind) : Bool :=
  match kinds.head?, (body kinds).getLast? with
  | some .leftToRight, some last =>
    (last = .leftToRight || last = .digit)
      && kinds.all fun k => k ≠ .rightToLeft && k ≠ .arabicDigit
  | some .rightToLeft, some last =>
    (last = .rightToLeft || last = .digit || last = .arabicDigit)
      && kinds.all (· ≠ .leftToRight)
      && !(kinds.contains .digit && kinds.contains .arabicDigit)
  | _, _ => false

/-- May the part stand in a name that holds both directions? -/
def allows (cs : List Char) : Bool :=
  cs.isEmpty || holds (cs.map kindOf)

end IngestWatch.Text.Direction
