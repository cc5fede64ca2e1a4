import FleetDashboard.Json.Basic
import FleetDashboard.StableSort
import FleetDashboard.Text.Percent
import FleetDashboard.Text.Pieces

/-!
# Reading JSON

A reader of JSON texts. A whole number that fits no 64-bit integer, and minus zero, are read as
doubles; a number too large for a double is refused, and so is a value that lies too deep. The
reader goes from left to right and reports the first flaw, together with the text that was left.

* `Json.Flaw`: why a text is no JSON value.
* `Json.read`: the value at the front of a text, with its fields as they are written.
* `Json.merged`: the value in which of several fields of one name the last one counts.
* `Json.parse?`: the merged value that makes up a text.
* `Json.sorted`: the value with its fields in order of their names.
-/

namespace FleetDashboard.Json

/-! ## Flaws -/

/-- Why a text is no JSON value. -/
inductive Flaw where
  /-- The text ends within an array. -/
  | arrayEnd
  /-- The text ends within an object. -/
  | objectEnd
  /-- The text ends within a string. -/
  | stringEnd
  /-- The text ends where a value is due. -/
  | valueEnd
  /-- No colon stands behind a field's name. -/
  | colon
  /-- Neither a comma nor the end of the array stands behind an item. -/
  | itemEnd
  /-- Neither a comma nor the end of the object stands behind a field. -/
  | fieldEnd
  /-- A word that begins like a known one and is none. -/
  | word
  /-- No value can begin like this. -/
  | value
  /-- A field's name is no string. -/
  | name
  /-- A number out of shape. -/
  | number
  /-- A number that is too large. -/
  | tooLarge
  /-- An escape that stands for nothing. -/
  | escape
  /-- One half of a surrogate pair alone. -/
  | surrogate
  /-- The first half of a surrogate pair with something else than an escape behind it. -/
  | halfPair
  /-- A control character in a string. -/
  | control
  /-- A comma behind the last item or field. -/
  | comma
  /-- Text behind the value. -/
  | trailing
  /-- Too many arrays and objects within each other. -/
  | depth
deriving DecidableEq

/-- The wording of a flaw. -/
def Flaw.message : Flaw → String
  | .arrayEnd => "EOF while parsing a list"
  | .objectEnd => "EOF while parsing an object"
  | .stringEnd => "EOF while parsing a string"
  | .valueEnd => "EOF while parsing a value"
  | .colon => "expected " ++ ticked ":"
  | .itemEnd => "expected " ++ ticked "," ++ " or " ++ ticked "]"
  | .fieldEnd => "expected " ++ ticked "," ++ " or " ++ ticked "\x7d"
  | .word => "expected ident"
  | .value => "expected value"
  | .name => "key must be a string"
  | .number => "invalid number"
  | .tooLarge => "number out of range"
  | .escape => "invalid escape"
  | .surrogate => "lone leading surrogate in hex escape"
  | .halfPair => "unexpected end of hex escape"
  | .control => "control character (\\u0000-\\u001F) found while parsing a string"
  | .comma => "trailing comma"
  | .trailing => "trailing characters"
  | .depth => "recursion limit exceeded"
where
  /-- A text between grave accents. -/
  ticked (s : String) : String :=
    let tick := String.singleton (Char.ofNat 0x60)
    tick ++ s ++ tick

/-- A flaw that ended a reading. -/
structure Mishap where
  /-- The flaw. -/
  flaw : Flaw
  /-- The text that was left. -/
  rest : List Char
  /-- How many bytes of that text the flaw takes up. -/
  width : Nat

/-- The text ends within something. -/
def Mishap.atEnd (flaw : Flaw) : Mishap :=
  { flaw, rest := [], width := 0 }

/-- The next byte is wrong. -/
def Mishap.next (flaw : Flaw) (rest : List Char) : Mishap :=
  { flaw, rest, width := 1 }

/-! ## Strings -/

/-- The text behind leading JSON blanks. -/
def skipBlanks (cs : List Char) : List Char :=
  cs.dropWhile fun c => c = ' ' || c = '\n' || c = '\t' || c = '\r'

/-- The value of four hexadecimal digits. -/
def hex4? (a b c d : Char) : Option Nat := do
  let digit := fun (x : Char) =>
    if x.toNat < 128 then (Text.Percent.hexValue? x.toNat.toUInt8).map UInt8.toNat else none
  return (((← digit a) * 16 + (← digit b)) * 16 + (← digit c)) * 16 + (← digit d)

/-- The character that a one-letter escape stands for. -/
def shortEscape? (c : Char) : Option Char :=
  match c with
  | '"' => some '"'
  | '\\' => some '\\'
  | '/' => some '/'
  | 'b' => some '\x08'
  | 'f' => some '\x0c'
  | 'n' => some '\n'
  | 'r' => some '\r'
  | 't' => some '\t'
  | _ => none

/-- The number that the four digits of an escape write; they take four bytes whatever they are. -/
def hex4 (cs : List Char) : Except Mishap Nat :=
  if (String.ofList (cs.take 4)).utf8ByteSize < 4 then .error (.atEnd .stringEnd)
  else
    match cs with
    | a :: b :: c :: d :: _ =>
      match hex4? a b c d with
      | some n => .ok n
      | none => .error { flaw := .escape, rest := cs, width := 4 }
    | _ => .error { flaw := .escape, rest := cs, width := 4 }

/-- The text behind one more character, which has to be the given one. -/
def expectPart (c : Char) : List Char → Except Mishap (List Char)
  | [] => .error (.atEnd .stringEnd)
  | d :: rest => if d = c then .ok rest else .error (.next .halfPair (d :: rest))

/-- The character of a code-point escape, given what stands behind its `u`, and how many characters
the escape takes there: four, or ten where two escapes make up a surrogate pair. -/
def unicodeEscape (cs : List Char) : Except Mishap (Char × Nat) := do
  let high ← hex4 cs
  if 0xDC00 ≤ high && high < 0xE000 then
    throw { flaw := .surrogate, rest := cs.drop 4, width := 0 }
  else if 0xD800 ≤ high && high < 0xDC00 then
    let second ← expectPart 'u' (← expectPart '\\' (cs.drop 4))
    let low ← hex4 second
    if 0xDC00 ≤ low && low < 0xE000 then
      return (Char.ofNat (0x10000 + (high - 0xD800) * 0x400 + (low - 0xDC00)), 10)
    else throw { flaw := .surrogate, rest := second.drop 4, width := 0 }
  else return (Char.ofNat high, 4)

/-- The characters up to the closing quote, and what follows it. -/
def readString : List Char → Except Mishap (List Char × List Char)
  | [] => .error (.atEnd .stringEnd)
  | '"' :: rest => .ok ([], rest)
  | '\\' :: 'u' :: rest =>
    match unicodeEscape rest with
    | .ok (c, width) => (readString (rest.drop width)).map fun (cs, r) => (c :: cs, r)
    | .error mishap => .error mishap
  | ['\\'] => .error (.atEnd .stringEnd)
  | '\\' :: e :: rest =>
    match shortEscape? e with
    | some c => (readString rest).map fun (cs, r) => (c :: cs, r)
    | none => .error (.next .escape (e :: rest))
  | c :: rest =>
    if c.toNat < 0x20 then .error (.next .control (c :: rest))
    else (readString rest).map fun (cs, r) => (c :: cs, r)
termination_by cs => cs.length
decreasing_by all_goals (simp only [List.length_drop, List.length_cons]; omega)

/-! ## Numbers -/

/-- The number that decimal digits write. -/
def digitsValue (cs : List Char) : Nat :=
  cs.foldl (fun n c => n * 10 + (c.toNat - '0'.toNat)) 0

/-- Whether a character is a decimal digit. -/
def isDigit (c : Char) : Bool :=
  '0' ≤ c && c ≤ '9'

/-- The digits in front of a text; there must be at least one. -/
def readDigits (cs : List Char) : Except Mishap (List Char × List Char) :=
  match cs with
  | [] => .error (.atEnd .valueEnd)
  | c :: _ =>
    if isDigit c then .ok (cs.takeWhile isDigit, cs.dropWhile isDigit)
    else .error (.next .number cs)

/-- The digits in front of the decimal point. A zero stands alone. -/
def readInteger (cs : List Char) : Except Mishap (List Char × List Char) :=
  match cs with
  | '0' :: d :: rest =>
    if isDigit d then .error (.next .number (d :: rest)) else .ok (['0'], d :: rest)
  | _ => readDigits cs

/-- The digits behind a decimal point, if there is one. -/
def readFraction (cs : List Char) : Except Mishap (Option (List Char) × List Char) :=
  match cs with
  | '.' :: rest => (readDigits rest).map fun (digits, rest) => (some digits, rest)
  | _ => .ok (none, cs)

/-- The exponent, if there is one. -/
def readExponent (cs : List Char) : Except Mishap (Option Int × List Char) :=
  match cs with
  | c :: rest =>
    if c = 'e' || c = 'E' then
      let (sign, rest) : Int × List Char :=
        match rest with
        | '-' :: r => (-1, r)
        | '+' :: r => (1, r)
        | r => (1, r)
      (readDigits rest).map fun (digits, rest) => (some (sign * (digitsValue digits : Int)), rest)
    else .ok (none, cs)
  | [] => .ok (none, cs)

/-- The value of a number from its parts. -/
def numberOf (negative : Bool) (whole : List Char) (fraction : Option (List Char))
    (exponent : Option Int) : Option Json :=
  let n := digitsValue whole
  let asDouble : Nat → Int → Option Json := fun digits e =>
    let x := Double.ofDecimal digits e
    if x.isFinite then some (.double (if negative then x.neg else x)) else none
  match fraction, exponent with
  | none, none =>
    if negative then
      if n = 0 || 9223372036854775808 < n then asDouble n 0 else some (.int (-(n : Int)))
    else if n < 18446744073709551616 then some (.int n) else asDouble n 0
  | f, e =>
    let places := f.getD []
    asDouble (digitsValue (whole ++ places)) (e.getD 0 - places.length)

/-- A number behind its sign. -/
def readMagnitude (negative : Bool) (cs : List Char) : Except Mishap (Json × List Char) := do
  let (whole, cs) ← readInteger cs
  let (fraction, cs) ← readFraction cs
  let (exponent, cs) ← readExponent cs
  match numberOf negative whole fraction exponent with
  | some number => return (number, cs)
  | none => throw { flaw := .tooLarge, rest := cs, width := 0 }

/-! ## Values -/

/-- The text behind a word. -/
def readWord : List Char → List Char → Except Mishap (List Char)
  | [], cs => .ok cs
  | _ :: _, [] => .error (.atEnd .valueEnd)
  | w :: ws, c :: cs => if w = c then readWord ws cs else .error (.next .word (c :: cs))

/-- How many arrays and objects may lie within each other. -/
def depthLimit : Nat := 127

mutual

/-- A value at the front of a text, and what follows it. At most `depth` arrays and objects may lie
within each other. -/
def readValue : Nat → Nat → List Char → Except Mishap (Json × List Char)
  | 0, _, _ => .error (.atEnd .valueEnd)
  | fuel + 1, depth, cs =>
    match skipBlanks cs with
    | [] => .error (.atEnd .valueEnd)
    | 'n' :: rest => (readWord "ull".toList rest).map (.null, ·)
    | 't' :: rest => (readWord "rue".toList rest).map (.bool true, ·)
    | 'f' :: rest => (readWord "alse".toList rest).map (.bool false, ·)
    | '"' :: rest => (readString rest).map fun (s, r) => (.str (String.ofList s), r)
    | '-' :: rest => readMagnitude true rest
    | '[' :: rest =>
      match depth, skipBlanks rest with
      | 0, _ => .error (.next .depth ('[' :: rest))
      | _, [] => .error (.atEnd .arrayEnd)
      | _, ']' :: r => .ok (.arr [], r)
      | depth + 1, r => (readItems fuel depth r).map fun (xs, r) => (.arr xs, r)
    | '\x7b' :: rest =>
      match depth, skipBlanks rest with
      | 0, _ => .error (.next .depth ('\x7b' :: rest))
      | _, [] => .error (.atEnd .objectEnd)
      | _, '\x7d' :: r => .ok (.obj [], r)
      | depth + 1, r => (readFields fuel depth r).map fun (fs, r) => (.obj fs, r)
    | c :: rest =>
      if isDigit c then readMagnitude false (c :: rest) else .error (.next .value (c :: rest))

/-- The items of an array up to its end. -/
def readItems : Nat → Nat → List Char → Except Mishap (List Json × List Char)
  | 0, _, _ => .error (.atEnd .arrayEnd)
  | fuel + 1, depth, cs => do
    let (x, rest) ← readValue fuel depth cs
    match skipBlanks rest with
    | [] => throw (.atEnd .arrayEnd)
    | ']' :: r => return ([x], r)
    | ',' :: r =>
      match skipBlanks r with
      | [] => throw (.atEnd .valueEnd)
      | ']' :: r => throw (.next .comma (']' :: r))
      | r =>
        let (xs, r) ← readItems fuel depth r
        return (x :: xs, r)
    | r => throw (.next .itemEnd r)

/-- The fields of an object up to its end. -/
def readFields : Nat → Nat → List Char → Except Mishap (List (String × Json) × List Char)
  | 0, _, _ => .error (.atEnd .objectEnd)
  | fuel + 1, depth, cs => do
    match skipBlanks cs with
    | '"' :: rest =>
      let (name, rest) ← readString rest
      match skipBlanks rest with
      | [] => throw (.atEnd .objectEnd)
      | ':' :: rest =>
        let (value, rest) ← readValue fuel depth rest
        let field := (String.ofList name, value)
        match skipBlanks rest with
        | [] => throw (.atEnd .objectEnd)
        | '\x7d' :: r => return ([field], r)
        | ',' :: r =>
          match skipBlanks r with
          | [] => throw (.atEnd .valueEnd)
          | '\x7d' :: r => throw (.next .comma ('\x7d' :: r))
          | r =>
            let (fields, r) ← readFields fuel depth r
            return (field :: fields, r)
        | r => throw (.next .fieldEnd r)
      | r => throw (.next .colon r)
    | r => throw (.next .name r)

end

/-- The value at the front of a text, its fields as they are written, and what follows it. -/
def read (cs : List Char) : Except Mishap (Json × List Char) :=
  readValue (cs.length + 1) depthLimit cs

/-- The value that makes up a text, with nothing but blanks around it. -/
def readAll? (cs : List Char) : Option Json :=
  match read cs with
  | .ok (value, rest) => if (skipBlanks rest).isEmpty then some value else none
  | .error _ => none

/-! ## Fields of one name -/

/-- The fields with one more at the end; a field of that name already there takes the value. -/
def putField (name : String) (value : Json) : List (String × Json) → List (String × Json)
  | [] => [(name, value)]
  | (k, v) :: rest =>
    if k == name then (k, value) :: rest else (k, v) :: putField name value rest

/-- The fields, of which the last one of a name counts. -/
def lastFields (fields : List (String × Json)) : List (String × Json) :=
  fields.foldl (fun before (name, value) => putField name value before) []

mutual

/-- The value in which the last field of a name counts. -/
def merged : Json → Json
  | .arr items => .arr (mergedItems items)
  | .obj fields => .obj (lastFields (mergedFields fields))
  | value => value

/-- The items in which the last field of a name counts. -/
def mergedItems : List Json → List Json
  | [] => []
  | x :: xs => merged x :: mergedItems xs

/-- The fields in whose values the last field of a name counts. -/
def mergedFields : List (String × Json) → List (String × Json)
  | [] => []
  | (name, value) :: rest => (name, merged value) :: mergedFields rest

end

/-- The value that a text holds, with nothing but blanks around it. -/
def parse? (s : String) : Option Json :=
  (readAll? s.toList).map merged

/-! ## Order of fields -/

/-- Fields in order of their names. -/
def sortFields (fields : List (String × Json)) : List (String × Json) :=
  stableSort (fun a b => Text.compare a.1 b.1) fields

mutual

/-- The value with its fields in order of their names. -/
def sorted : Json → Json
  | .arr items => .arr (sortedItems items)
  | .obj fields => .obj (sortFields (sortedFields fields))
  | value => value

/-- The items with their fields in order. -/
def sortedItems : List Json → List Json
  | [] => []
  | x :: xs => sorted x :: sortedItems xs

/-- The fields, in whose values the fields are in order. -/
def sortedFields : List (String × Json) → List (String × Json)
  | [] => []
  | (name, value) :: rest => (name, sorted value) :: sortedFields rest

end

end FleetDashboard.Json
