import FleetDashboard.Json.Reader

/-!
# Places in JSON texts

Where something stands in a JSON text: a line, and how many bytes of that line come before. A value
inside a document is named by the steps that lead to it.

* `Json.Place`: a place, with its wording.
* `Json.Step`: one step on the way to a place; `Json.Step.follow` takes it in a text.
* `Json.seat`: the text from the place on where a value is said to stand.
-/

namespace FleetDashboard.Json

/-! ## Lines and columns -/

/-- A place in a text. -/
structure Place where
  /-- The line, from 1. -/
  line : Nat
  /-- The bytes before it in that line. -/
  column : Nat
deriving DecidableEq

namespace Place

/-- The byte that ends a line. -/
def lineEnd : UInt8 := 10

/-- The place behind one more byte. -/
def next (place : Place) (byte : UInt8) : Place :=
  if byte = lineEnd then { line := place.line + 1, column := 0 }
  else { place with column := place.column + 1 }

/-- The place behind some bytes. -/
def behind (bytes : List UInt8) : Place :=
  bytes.foldl next { line := 1, column := 0 }

/-- The place in a text from which on `rest` is left, and then `width` bytes further on. -/
def before (text rest : List Char) (width : Nat) : Place :=
  let bytes := Text.Utf8.encode (String.ofList text)
  behind (bytes.take (bytes.length - (String.ofList rest).utf8ByteSize + width))

/-- The wording of a place. -/
def text (place : Place) : String :=
  " at line " ++ toString place.line ++ " column " ++ toString place.column

end Place

/-! ## Steps -/

/-- One step on the way to a place. -/
inductive Step where
  /-- Into the value of a field. -/
  | field (name : String)
  /-- Into an item. -/
  | item (index : Nat)
  /-- Behind a field: to the comma there, or behind the end of the object. -/
  | behindField (name : String)
  /-- Behind the opening bracket of an array, and behind the closing one of an empty array. -/
  | behindBracket
  /-- Behind the value. -/
  | behind
deriving DecidableEq

/-- The text behind its first character, if that is the given one, and blanks. -/
def skipMark (c : Char) (cs : List Char) : List Char :=
  match cs with
  | d :: rest => if d = c then skipBlanks rest else cs
  | [] => []

/-- The text behind a value and blanks. -/
def skipValue (cs : List Char) : List Char :=
  match read cs with
  | .ok (_, rest) => skipBlanks rest
  | .error _ => []

/-- The text from the value of the first field of a name on, given the text from some field on. -/
def seekField (name : String) : Nat → List Char → List Char
  | 0, cs => cs
  | fuel + 1, cs =>
    match skipBlanks cs with
    | '"' :: rest =>
      match readString rest with
      | .ok (own, rest) =>
        let value := skipMark ':' (skipBlanks rest)
        if String.ofList own = name then value
        else seekField name fuel (skipMark ',' (skipValue value))
      | .error _ => []
    | cs => cs

/-- The text from an item on, given the text from the first item on. -/
def seekItem : Nat → List Char → List Char
  | 0, cs => cs
  | index + 1, cs => seekItem index (skipMark ',' (skipValue cs))

namespace Step

/-- Whether the step ends the way. -/
def isLast : Step → Bool
  | .field _ => false
  | .item _ => false
  | _ => true

/-- The text from where a step leads on, given the text from a value on. -/
def follow (step : Step) (cs : List Char) : List Char :=
  let cs := skipBlanks cs
  match step with
  | .field name => seekField name cs.length (skipMark '\x7b' cs)
  | .item index => seekItem index (skipMark '[' cs)
  | .behindField name =>
    match skipValue (seekField name cs.length (skipMark '\x7b' cs)) with
    | '\x7d' :: rest => rest
    | rest => rest
  | .behindBracket =>
    match skipMark '[' cs with
    | ']' :: rest => rest
    | rest => rest
  | .behind =>
    match read cs with
    | .ok (_, rest) => rest
    | .error _ => []

end Step

/-- The text from where a value is said to stand: an array or an object at its beginning, any other
value at its end. -/
def seat (cs : List Char) : List Char :=
  match skipBlanks cs with
  | '[' :: rest => '[' :: rest
  | '\x7b' :: rest => '\x7b' :: rest
  | cs => Step.behind.follow cs

end FleetDashboard.Json
