/-!
# UTF-8

Reading bytes as UTF-8. The strict reader refuses bytes that are not well formed; the lenient one
writes U+FFFD for every maximal ill-formed run, as the standard recommends.
-/

namespace FleetDashboard.Text.Utf8

/-- What stands at the front of a byte sequence. -/
inductive Front where
  /-- A character and the number of bytes it takes. -/
  | char (c : Char) (width : Nat)
  /-- An ill-formed run and its width. -/
  | illFormed (width : Nat)

/-- Whether a byte continues a character. -/
def isContinuation (b : UInt8) : Bool :=
  0x80 ≤ b && b ≤ 0xBF

/-- The least and greatest second byte that a leading byte admits; narrower for the leading bytes
of overlong forms, surrogates and code points out of range. -/
def secondRange (lead : UInt8) : UInt8 × UInt8 :=
  if lead = 0xE0 then (0xA0, 0xBF)
  else if lead = 0xED then (0x80, 0x9F)
  else if lead = 0xF0 then (0x90, 0xBF)
  else if lead = 0xF4 then (0x80, 0x8F)
  else (0x80, 0xBF)

/-- The six payload bits of a continuation byte, put behind those read so far. -/
def append6 (acc : Nat) (b : UInt8) : Nat :=
  acc * 64 + b.toNat % 64

/-- The front of a sequence that starts with `lead`. -/
def front (lead : UInt8) (rest : List UInt8) : Front :=
  let second := fun b => (secondRange lead).1 ≤ b && b ≤ (secondRange lead).2
  if lead < 0x80 then .char (Char.ofNat lead.toNat) 1
  else if 0xC2 ≤ lead && lead ≤ 0xDF then
    match rest with
    | b :: _ =>
      if second b then .char (Char.ofNat (append6 (lead.toNat % 32) b)) 2 else .illFormed 1
    | [] => .illFormed 1
  else if 0xE0 ≤ lead && lead ≤ 0xEF then
    match rest with
    | b :: more =>
      if !second b then .illFormed 1
      else
        match more with
        | d :: _ =>
          if isContinuation d then
            .char (Char.ofNat (append6 (append6 (lead.toNat % 16) b) d)) 3
          else .illFormed 2
        | [] => .illFormed 2
    | [] => .illFormed 1
  else if 0xF0 ≤ lead && lead ≤ 0xF4 then
    match rest with
    | b :: more =>
      if !second b then .illFormed 1
      else
        match more with
        | d :: more =>
          if !isContinuation d then .illFormed 2
          else
            match more with
            | e :: _ =>
              if isContinuation e then
                .char (Char.ofNat (append6 (append6 (append6 (lead.toNat % 8) b) d) e)) 4
              else .illFormed 3
            | [] => .illFormed 3
        | [] => .illFormed 2
    | [] => .illFormed 1
  else .illFormed 1

/-- The width of a front less one: how many bytes after the leading one it takes. -/
def Front.extra : Front → Nat
  | .char _ width => width - 1
  | .illFormed width => width - 1

/-- The characters of well-formed bytes; nothing if they are ill-formed. -/
def decode? : List UInt8 → Option (List Char)
  | [] => some []
  | lead :: rest =>
    match front lead rest with
    | .char c width => (decode? (rest.drop (width - 1))).map (c :: ·)
    | .illFormed _ => none
termination_by bytes => bytes.length
decreasing_by simp only [List.length_drop, List.length_cons]; omega

/-- The characters of any bytes, with U+FFFD for what is ill-formed. -/
def decodeLossy : List UInt8 → List Char
  | [] => []
  | lead :: rest =>
    match front lead rest with
    | .char c width => c :: decodeLossy (rest.drop (width - 1))
    | .illFormed width => '\uFFFD' :: decodeLossy (rest.drop (width - 1))
termination_by bytes => bytes.length
decreasing_by all_goals simp only [List.length_drop, List.length_cons]; omega

/-- The bytes of a string. -/
def encode (s : String) : List UInt8 :=
  s.toUTF8.toList

end FleetDashboard.Text.Utf8
