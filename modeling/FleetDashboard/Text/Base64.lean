/-!
# Padded base64

Reading text in the standard base64 alphabet with required padding. The causes of refusal name the
offending byte and its offset.
-/

namespace FleetDashboard.Text.Base64

/-- Why a text is not padded base64. -/
inductive Flaw where
  /-- A byte outside the alphabet, or padding in the wrong place. -/
  | symbol (byte : UInt8) (offset : Nat)
  /-- A last group of one symbol. -/
  | length (symbols : Nat)
  /-- The last symbol holds bits beyond the last byte. -/
  | lastSymbol (byte : UInt8) (offset : Nat)
  /-- Padding that is missing or not needed. -/
  | padding
deriving DecidableEq

/-- The wording of a flaw. -/
def Flaw.message : Flaw → String
  | .symbol byte offset => "Invalid symbol " ++ toString byte.toNat ++ ", offset "
      ++ toString offset ++ "."
  | .length symbols => "Invalid input length: " ++ toString symbols
  | .lastSymbol byte offset => "Invalid last symbol " ++ toString byte.toNat ++ ", offset "
      ++ toString offset ++ "."
  | .padding => "Invalid padding"

/-- The six bits that a symbol stands for. -/
def value? (b : UInt8) : Option Nat :=
  if 65 ≤ b && b ≤ 90 then some (b.toNat - 65)
  else if 97 ≤ b && b ≤ 122 then some (b.toNat - 71)
  else if 48 ≤ b && b ≤ 57 then some (b.toNat + 4)
  else if b = 43 then some 62
  else if b = 47 then some 63
  else none

/-- The padding byte, `=`. -/
def pad : UInt8 := 61

/-- The last group of at most four symbols, which starts at `offset`. -/
def decodeLast (offset : Nat) (group : List UInt8) : Except Flaw (List UInt8) :=
  let symbols := group.takeWhile (· != pad)
  let padding := group.dropWhile (· != pad)
  match symbols.zipIdx.find? fun (b, _) => (value? b).isNone with
  | some (b, i) => .error (.symbol b (offset + i))
  | none =>
    match padding.zipIdx.find? fun (b, _) => b != pad with
    | some _ => .error (.symbol pad (offset + symbols.length))
    | none =>
      match symbols.filterMap value? with
      | [] => if padding.isEmpty then .ok [] else .error (.symbol pad offset)
      | [_] =>
        if padding.isEmpty then .error (.length (offset + 1))
        else .error (.symbol pad (offset + 1))
      | [a, b] =>
        if padding.length != 2 then .error .padding
        else if b % 16 != 0 then
          .error (.lastSymbol (symbols.getLast?.getD pad) (offset + 1))
        else .ok [UInt8.ofNat (a * 4 + b / 16)]
      | [a, b, c] =>
        if padding.length != 1 then .error .padding
        else if c % 4 != 0 then
          .error (.lastSymbol (symbols.getLast?.getD pad) (offset + 2))
        else .ok [UInt8.ofNat (a * 4 + b / 16), UInt8.ofNat (b * 16 + c / 4)]
      | a :: b :: c :: d :: _ =>
        .ok [UInt8.ofNat (a * 4 + b / 16), UInt8.ofNat (b * 16 + c / 4),
          UInt8.ofNat (c * 64 + d)]

/-- The groups from `offset` on. -/
def decodeFrom (offset : Nat) : List UInt8 → Except Flaw (List UInt8)
  | a :: b :: c :: d :: e :: rest =>
    match [a, b, c, d].zipIdx.find? fun (x, _) => (value? x).isNone with
    | some (x, i) => .error (.symbol x (offset + i))
    | none => do
      let bytes ← decodeLast offset [a, b, c, d]
      let more ← decodeFrom (offset + 4) (e :: rest)
      return bytes ++ more
  | group => decodeLast offset group

/-- A lone last byte that is no symbol: it is reported before anything else. -/
def strayLast? (bytes : List UInt8) : Option UInt8 :=
  if bytes.length % 4 = 1 then
    bytes.getLast?.filter fun b => b != pad && (value? b).isNone
  else none

/-- The bytes that a padded base64 text stands for. -/
def decode (bytes : List UInt8) : Except Flaw (List UInt8) :=
  match strayLast? bytes with
  | some b => .error (.symbol b (bytes.length - 1))
  | none => decodeFrom 0 bytes

end FleetDashboard.Text.Base64
