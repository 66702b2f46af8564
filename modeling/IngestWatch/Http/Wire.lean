import IngestWatch.Decimal.Whole
import IngestWatch.Http.Exchange
import IngestWatch.Text.Utf8

/-!
Requests and responses as the bytes of a connection that carries one of each and is closed
behind the response.
-/

namespace IngestWatch.Http

/-- The bytes of a request. -/
def Request.bytes (r : Request) : List UInt8 :=
  Text.utf8Bytes <| String.toList <|
    s!"GET {r.target} HTTP/1.1\r\naccept: */*\r\nhost: {r.place}\r\nconnection: close\r\n\r\n"

/-- The host and the port of a request, whose place ends with the port. -/
def Request.address (r : Request) : String × String :=
  let (port, host) := (r.place.toList.reverse.span (· ≠ ':'))
  (String.ofList (host.drop 1).reverse, String.ofList port.reverse)

namespace Wire

/-- The first line of some bytes, without its end, and what is behind it. -/
def line? : List UInt8 → Option (List Char × List UInt8)
  | [] => none
  | 13 :: 10 :: rest => some ([], rest)
  | 10 :: rest => some ([], rest)
  | b :: rest => (line? rest).map fun (cs, rest) => (Char.ofNat b.toNat :: cs, rest)

theorem length_lt_of_line? {bytes rest : List UInt8} {cs : List Char}
    (h : line? bytes = some (cs, rest)) : rest.length < bytes.length := by
  fun_induction line? bytes generalizing cs rest with
  | case1 => simp at h
  | case2 _ =>
    obtain ⟨_, rfl⟩ : [] = cs ∧ _ = rest := by simpa using h
    simp only [List.length_cons]
    omega
  | case3 _ =>
    obtain ⟨_, rfl⟩ : [] = cs ∧ _ = rest := by simpa using h
    simp only [List.length_cons]
    omega
  | case4 b rest' _ _ ih =>
    simp only [Option.map_eq_some_iff, Prod.exists, Prod.mk.injEq] at h
    obtain ⟨_, r, found, _, rfl⟩ := h
    have := ih found
    simp only [List.length_cons]
    omega

/-- The status of a response from its first line. -/
def statusOf? (cs : List Char) : Option Nat :=
  match Text.splitAt ' ' cs with
  | version :: status :: _ =>
    if "HTTP/1.".toList.isPrefixOf version ∧ status.length = 3 then
      (Decimal.readUInt64 (String.ofList status)).toOption.map UInt64.toNat
    else none
  | _ => none

/-- The headers up to the empty line behind them, and what is behind that. -/
def headers? (bytes : List UInt8) : Option (List (String × String) × List UInt8) :=
  match _h : line? bytes with
  | none => none
  | some ([], rest) => some ([], rest)
  | some (cs, rest) => do
    let (name, value) ← Text.cutAt? ':' cs
    let (more, rest) ← headers? rest
    pure ((String.ofList name, String.ofList value) :: more, rest)
termination_by bytes.length
decreasing_by exact length_lt_of_line? _h

/-- The number that hexadecimal digits are. -/
def sizeOf? (cs : List Char) : Option Nat :=
  let digits := cs.takeWhile fun c => c ≠ ';' ∧ c ≠ ' '
  if digits.isEmpty then none
  else
    digits.foldlM (fun n c => do
      let d ← if c.isDigit then some (c.toNat - 48)
        else if 'a' ≤ c ∧ c ≤ 'f' then some (c.toNat - 87)
        else if 'A' ≤ c ∧ c ≤ 'F' then some (c.toNat - 55)
        else none
      pure (n * 16 + d)) 0

/-- The bytes of a body that comes in chunks, and whether all of it is there. -/
def chunks (bytes : List UInt8) : List UInt8 × Bool :=
  match _h : line? bytes with
  | none => ([], false)
  | some (cs, rest) =>
    match sizeOf? cs with
    | none => ([], false)
    | some 0 => ([], true)
    | some size =>
      let (more, whole) := chunks ((rest.drop size).drop 2)
      (rest.take size ++ more, whole)
termination_by bytes.length
decreasing_by
  have := length_lt_of_line? _h
  simp only [List.length_drop]
  omega

end Wire

/-- A response with the bytes behind its headers. The body comes in chunks, or is as long
as a header says, or reaches to the end. -/
def Response.ofBody (status : Nat) (headers : List (String × String)) (rest : List UInt8) :
    Response :=
  let r : Response := ⟨status, headers, rest, rest.length⟩
  match r.header? "transfer-encoding" with
  | some _ =>
    let (body, whole) := Wire.chunks rest
    ⟨status, headers, body, if whole then body.length else body.length + 1⟩
  | none =>
    match (r.header? "content-length").bind fun s => (Decimal.readUInt64 s).toOption with
    | some n => { r with length := n.toNat }
    | none => r

/-- The answer that the bytes of a whole connection are. -/
def Answer.ofBytes (bytes : List UInt8) : Answer :=
  let response? : Option Response := do
    let (cs, rest) ← Wire.line? bytes
    let (headers, rest) ← Wire.headers? rest
    pure (.ofBody (← Wire.statusOf? cs) headers rest)
  match response? with
  | some r => .response r
  | none => .broken

end IngestWatch.Http
