import IngestWatch.Text.Normal.Table

/-!
The composed normal form of a text: marks in the order of their classes, and every
letter composed with the marks after it as far as possible.
-/

namespace IngestWatch.Text.Normal

/-- The combining class of a character; letters have class zero. -/
def classOf (c : Nat) : Nat :=
  match classes.find? fun (low, high, _) => low ≤ c && c ≤ high with
  | some (_, _, k) => k
  | none => 0

/-! ## Syllables of Hangul, which are composed by arithmetic -/

def isSyllable (c : Nat) : Bool :=
  0xAC00 ≤ c && c < 0xAC00 + 11172

/-- The two or three parts of a syllable. -/
def syllableParts (c : Nat) : List Nat :=
  let i := c - 0xAC00
  let tail := i % 28
  [0x1100 + i / 588, 0x1161 + i % 588 / 28] ++ (if tail = 0 then [] else [0x11A7 + tail])

/-- The syllable of two parts, if they make one. -/
def syllable? (a b : Nat) : Option Nat :=
  if 0x1100 ≤ a ∧ a < 0x1113 ∧ 0x1161 ≤ b ∧ b < 0x1176 then
    some (0xAC00 + ((a - 0x1100) * 21 + (b - 0x1161)) * 28)
  else if isSyllable a ∧ (a - 0xAC00) % 28 = 0 ∧ 0x11A7 < b ∧ b < 0x11C3 then
    some (a + (b - 0x11A7))
  else none

/-! ## Taking apart -/

/-- The parts of a character. No character has more than a few parts, so that many
steps are enough. -/
def parts : Nat → Nat → List Nat
  | 0, c => [c]
  | fuel + 1, c =>
    if isSyllable c then syllableParts c
    else
      match composites.find? fun (_, _, composed) => composed = c with
      | some (a, b, _) => parts fuel a ++ [b]
      | none => [c]

/-- Puts a mark behind all marks whose class is not greater. -/
def insertMark (mark : Nat × Nat) : List (Nat × Nat) → List (Nat × Nat)
  | [] => [mark]
  | m :: rest => if m.2 ≤ mark.2 then m :: insertMark mark rest else mark :: m :: rest

/-- Sorts every run of marks by their classes; `run` is the run so far. -/
def sortMarks (run : List (Nat × Nat)) : List Nat → List Nat
  | [] => run.map Prod.fst
  | c :: rest =>
    let k := classOf c
    if k = 0 then run.map Prod.fst ++ c :: sortMarks [] rest
    else sortMarks (insertMark (c, k) run) rest

/-! ## Composing -/

/-- The character that stands for a letter and a mark, if there is one. -/
def compose? (a b : Nat) : Option Nat :=
  match syllable? a b with
  | some c => some c
  | none => (composites.find? fun (x, y, _) => x = a && y = b).map fun (_, _, c) => c

/-- Composes a letter with the characters after it. `kept` are those it was not composed
with, the last first, and `blocked` is the class of the last of them; a character is
out of reach behind one of its own class or of none. -/
def composeFrom (letter : Nat) (kept : List Nat) (blocked : Option Nat) : List Nat → List Nat
  | [] => letter :: kept.reverse
  | c :: rest =>
    let k := classOf c
    let within := match blocked with
      | none => true
      | some b => b < k
    match if within then compose? letter c else none with
    | some composed => composeFrom composed kept blocked rest
    | none =>
      if k = 0 then letter :: kept.reverse ++ composeFrom c [] none rest
      else composeFrom letter (c :: kept) (some k) rest

/-- The composed form of characters that are taken apart. -/
def compose : List Nat → List Nat
  | [] => []
  | c :: rest =>
    if classOf c = 0 then composeFrom c [] none rest else c :: compose rest

/-- The composed normal form. -/
def form (cs : List Char) : List Char :=
  let apart := cs.flatMap fun c => parts 4 c.toNat
  (compose (sortMarks [] apart)).map Char.ofNat

end IngestWatch.Text.Normal
