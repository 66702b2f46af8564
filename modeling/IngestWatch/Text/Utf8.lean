/-!
UTF-8: the bytes of a text, the text of well-formed bytes, and the text of any
bytes with U+FFFD for every maximal part that cannot be continued.
-/

namespace IngestWatch.Text

def utf8Bytes (cs : List Char) : List UInt8 :=
  cs.flatMap String.utf8EncodeChar

/-- What the bytes at the front of a sequence are. -/
inductive Utf8Front where
  | done
  | char (value : Char) (rest : List UInt8)
  | broken (rest : List UInt8)

/-- Is the byte a continuation byte between two bounds? -/
def continues (low high : Nat) (b : UInt8) : Bool :=
  low ≤ b.toNat && b.toNat ≤ high

/-- The bounds of the second byte after a given first byte; they exclude overlong
forms, surrogates and code points past U+10FFFF. -/
def secondBounds (first : Nat) : Nat × Nat :=
  if first = 0xE0 then (0xA0, 0xBF)
  else if first = 0xED then (0x80, 0x9F)
  else if first = 0xF0 then (0x90, 0xBF)
  else if first = 0xF4 then (0x80, 0x8F)
  else (0x80, 0xBF)

def joined (lead : Nat) (more : List UInt8) : Char :=
  Char.ofNat (more.foldl (fun n b => n * 64 + b.toNat % 64) lead)

/-- Splits the first character off. A broken front ends before the first byte that
cannot continue it. -/
def utf8Front : List UInt8 → Utf8Front
  | [] => .done
  | a :: rest =>
    let n := a.toNat
    if n < 0x80 then .char (Char.ofNat n) rest
    else if n < 0xC2 ∨ 0xF4 < n then .broken rest
    else
      let bounds := secondBounds n
      match rest with
      | [] => .broken []
      | b :: rest =>
        if ¬ continues bounds.1 bounds.2 b then .broken (b :: rest)
        else if n < 0xE0 then .char (joined (n % 32) [b]) rest
        else
          match rest with
          | [] => .broken []
          | c :: rest =>
            if ¬ continues 0x80 0xBF c then .broken (c :: rest)
            else if n < 0xF0 then .char (joined (n % 16) [b, c]) rest
            else
              match rest with
              | [] => .broken []
              | d :: rest =>
                if ¬ continues 0x80 0xBF d then .broken (d :: rest)
                else .char (joined (n % 8) [b, c, d]) rest

/-- `fuel` bounds the number of fronts; the number of bytes is enough. -/
def decodeFrom (onBroken : Option Char) : Nat → List UInt8 → Option (List Char)
  | 0, _ => some []
  | fuel + 1, bytes =>
    match utf8Front bytes with
    | .done => some []
    | .char c rest => (decodeFrom onBroken fuel rest).map (c :: ·)
    | .broken rest =>
      match onBroken with
      | none => none
      | some c => (decodeFrom onBroken fuel rest).map (c :: ·)

/-- The text of well-formed bytes. -/
def utf8Decode? (bytes : List UInt8) : Option (List Char) :=
  decodeFrom none (bytes.length + 1) bytes

/-- The text of any bytes. -/
def utf8DecodeLossy (bytes : List UInt8) : List Char :=
  (decodeFrom (some '\ufffd') (bytes.length + 1) bytes).getD []

end IngestWatch.Text
