import IngestWatch.Text.Width.Table

/-!
How many columns a text takes on a terminal. Most characters count by themselves;
what follows a character matters where several are drawn as one: pictures with a
selector, a skin tone or joiners, and the Arabic ligature of lam and alef. The text
is therefore read from its end.
-/

namespace IngestWatch.Text.Width

/-- What the characters after the present one amount to. -/
inductive Follow where
  | plain
  | lineFeed
  | pictureSelector
  | textSelector
  | tone
  | picture
  | joinedPicture
  | joinedPictureSelector
  | alef
deriving DecidableEq, Repr

def isLam (n : Nat) : Bool :=
  n = 0x644 || (0x6B5 ≤ n && n ≤ 0x6B8) || n = 0x76A || n = 0x8A6 || n = 0x8C7

def isAlef (n : Nat) : Bool :=
  n = 0x622 || n = 0x623 || n = 0x625 || n = 0x627 || (0x671 ≤ n && n ≤ 0x673) || n = 0x675
    || n = 0x773 || n = 0x774 || (0x870 ≤ n && n ≤ 0x882)

def isTone (n : Nat) : Bool :=
  0x1F3FB ≤ n && n ≤ 0x1F3FF

/-- The columns of a character by itself, and what it amounts to for the one before. -/
def alone (n : Nat) : Nat × Follow :=
  if n = 0xFE0F then (0, .pictureSelector)
  else if n = 0xFE0E then (0, .textSelector)
  else if zeroWidth.contains n then (0, .plain)
  else if isTone n then (2, .tone)
  else if pictured.contains n then (if 0x1F1E6 ≤ n ∧ n ≤ 0x1F1FF then (1, .plain) else (2, .picture))
  else if isAlef n then (1, .alef)
  else if n = 0x17A4 then (2, .plain)
  else if n = 0x17D8 then (3, .plain)
  else (if doubleWidth.contains n then 2 else 1, .plain)

/-- The columns a character adds before what follows it. -/
def step (n : Nat) (follow : Follow) : Nat × Follow :=
  if n ≤ 0xA0 ∧ ¬ (follow = .pictureSelector ∨ follow = .joinedPictureSelector) then
    if n = 10 then (1, .lineFeed)
    else if n = 13 ∧ follow = .lineFeed then (0, .plain)
    else (1, .plain)
  else
    match follow with
    | .pictureSelector => if picturable.contains n then (2, .picture) else alone n
    | .joinedPictureSelector => if picturable.contains n then (0, .picture) else alone n
    | .textSelector =>
      if pictured.contains n ∧ ¬ (0x1F200 ≤ n ∧ n ≤ 0x1F2FF) then (1, .plain) else alone n
    | .tone => if toned.contains n then (0, .picture) else alone n
    | .picture => if n = 0x200D then (0, .joinedPicture) else alone n
    | .joinedPicture =>
      if n = 0xFE0F then (0, .joinedPictureSelector)
      else if isTone n then (0, .tone)
      else if pictured.contains n then (0, .picture)
      else alone n
    | .alef =>
      if isLam n then (0, .plain)
      else if zeroWidth.contains n then (0, .alef)
      else alone n
    | .plain | .lineFeed => alone n

end Width

/-- The columns of a text. -/
def width (cs : List Char) : Nat :=
  (cs.foldr (fun c (acc : Nat × Width.Follow) =>
    let s := Width.step c.toNat acc.2
    (acc.1 + s.1, s.2)) (0, .plain)).1

end IngestWatch.Text
