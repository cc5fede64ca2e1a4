import FleetDashboard.Cedar.Expression
import FleetDashboard.Text.Blank

/-!
# Tokens of policy texts

A policy text is cut into words, numbers, quoted texts, blanks to be filled in and signs. White
space and comments, which start with two slashes and end with the line, stand between tokens.

* `Token`: a token.
* `tokens?`: the tokens of a text.
* `unescape?`, `pattern?`: what the content of a quoted text stands for, as a text or as a pattern.
-/

namespace FleetDashboard.Cedar

/-! ## Tokens -/

/-- A token of a policy text. -/
inductive Token where
  /-- A word. -/
  | word (name : String)
  /-- A whole number. -/
  | number (n : Nat)
  /-- The content of a quoted text, as it is written. -/
  | quoted (content : List Char)
  /-- A blank to be filled in, by its name. -/
  | blank (name : String)
  /-- A sign of one or two characters. -/
  | sign (text : String)
deriving DecidableEq

/-- Whether a character may start a word. -/
def isWordStart (c : Char) : Bool :=
  c.isAlpha || c = '_'

/-- Whether a character may stand in a word. -/
def isWordChar (c : Char) : Bool :=
  c.isAlphanum || c = '_'

/-- The signs, those of two characters first. -/
def signs : List String :=
  ["::", "==", "!=", "<=", ">=", "||", "&&", "@", ".", ",", ";", ":", "(", ")", "\x7b", "\x7d",
    "[", "]", "<", ">", "+", "-", "*", "!"]

/-- The content of a quoted text up to its closing quote, and what follows. A backslash keeps the
character behind it, which may not end the line, from being the closing quote. -/
def quotedContent? : List Char → Option (List Char × List Char)
  | [] => none
  | '"' :: rest => some ([], rest)
  | '\\' :: c :: rest =>
    if c = '\n' then none
    else (quotedContent? rest).map fun (cs, r) => ('\\' :: c :: cs, r)
  | c :: rest => (quotedContent? rest).map fun (cs, r) => (c :: cs, r)

/-- The sign at the front of a text. -/
def sign? (cs : List Char) : Option (Token × List Char) :=
  signs.findSome? fun s => (Text.strip? s.toList cs).map fun rest => (.sign s, rest)

/-- The token at the front of a text that starts with neither a blank nor a comment. -/
def token? : List Char → Option (Token × List Char)
  | [] => none
  | '"' :: rest => (quotedContent? rest).map fun (cs, r) => (.quoted cs, r)
  | '?' :: rest =>
    if rest.head?.any isWordStart then
      some (.blank (String.ofList (rest.takeWhile isWordChar)), rest.dropWhile isWordChar)
    else none
  | c :: rest =>
    if isWordStart c then
      some (.word (String.ofList (c :: rest.takeWhile isWordChar)), rest.dropWhile isWordChar)
    else if c.isDigit then
      (Text.decimal? (c :: rest.takeWhile (·.isDigit))).map fun n =>
        (.number n, rest.dropWhile (·.isDigit))
    else sign? (c :: rest)

/-- Whether a character ends a line. -/
def endsLine (c : Char) : Bool :=
  c = '\n' || c = '\r'

/-- The tokens of a text; at most `fuel` steps are taken, of which each leaves less text. -/
def tokensWithin : Nat → List Char → Option (List Token)
  | _, [] => some []
  | 0, _ => none
  | fuel + 1, '/' :: '/' :: rest => tokensWithin fuel (rest.dropWhile fun c => !endsLine c)
  | fuel + 1, c :: rest =>
    if Text.isBlank c then tokensWithin fuel rest
    else do
      let (token, rest) ← token? (c :: rest)
      return token :: (← tokensWithin fuel rest)

/-- The tokens of a text. -/
def tokens? (text : String) : Option (List Token) :=
  tokensWithin text.toList.length text.toList

/-! ## Quoted texts -/

/-- The character that a one-letter escape stands for. -/
def letterEscape? (c : Char) : Option Char :=
  match c with
  | 'n' => some '\n'
  | 'r' => some '\r'
  | 't' => some '\t'
  | '0' => some '\x00'
  | '\\' => some '\\'
  | '"' => some '"'
  | '\'' => some '\''
  | _ => none

/-- The character of a code point in braces, and what follows them. Underscores may stand between
the digits, of which there are at most six. -/
def braced? (cs : List Char) : Option (Char × List Char) := do
  let rest ← Text.strip? ['\x7b'] cs
  let (written, rest) ← Text.splitOnce '\x7d' rest
  let digits := written.filter (· ≠ '_')
  let n ← Text.hexadecimal? digits
  if written.head? ≠ some '_' && digits.length ≤ 6 && n.isValidChar then
    return (Char.ofNat n, rest)
  else none

/-- The character of an escape behind its backslash, and what follows it. -/
def escape? : List Char → Option (Char × List Char)
  | [] => none
  | 'x' :: rest => do
    if rest.length < 2 then none
    let n ← Text.hexadecimal? (rest.take 2)
    if n < 0x80 then return (Char.ofNat n, rest.drop 2) else none
  | 'u' :: rest => braced? rest
  | c :: rest => (letterEscape? c).map fun d => (d, rest)

/-- The pieces that a quoted content stands for. In a `starred` content a star is for any
characters, and a star behind a backslash for itself. At most `fuel` steps are taken, of which each
leaves less text. -/
def unescapeWithin (starred : Bool) : Nat → List Char → Option (List PatternPiece)
  | _, [] => some []
  | 0, _ => none
  | fuel + 1, '\\' :: rest =>
    match starred, rest with
    | true, '*' :: more => (unescapeWithin starred fuel more).map (.char '*' :: ·)
    | _, _ => do
      let (c, more) ← escape? rest
      return pieceOf c :: (← unescapeWithin starred fuel more)
  | fuel + 1, c :: rest =>
    if c = '\r' then none else (unescapeWithin starred fuel rest).map (pieceOf c :: ·)
where
  /-- The piece of a character. -/
  pieceOf (c : Char) : PatternPiece :=
    if starred && c = '*' then .anything else .char c

/-- The pattern that a quoted content stands for. -/
def pattern? (content : List Char) : Option (List PatternPiece) :=
  unescapeWithin true content.length content

/-- The text that a quoted content stands for. -/
def unescape? (content : List Char) : Option String :=
  (unescapeWithin false content.length content).map fun pieces =>
    String.ofList (pieces.filterMap fun
      | .char c => some c
      | .anything => none)

end FleetDashboard.Cedar
