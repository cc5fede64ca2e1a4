import FleetDashboard.Text.Alphanumeric
import FleetDashboard.Text.Digits
import FleetDashboard.Text.Pieces

/-!
# Patterns for field values

A log filter may test the value of a field with a regular expression. Here it is only decided
whether a text is one: groups and brackets match, each repetition has something to repeat, and
escapes and flags are known. Counted repetitions and escapes in braces are left out, for a brace
ends the field in a filter; so are word boundaries, which the automaton of a filter cannot follow.

* `Pattern.escape?`: what an escape stands for.
* `Pattern.afterClass?`: what follows a bracketed class.
* `Pattern.isPattern`: whether a text is a pattern.
-/

namespace FleetDashboard.Telemetry.Pattern

/-! ## Escapes -/

/-- What an escape stands for. -/
inductive Escape where
  /-- One character. -/
  | single (c : Char)
  /-- A class of characters. -/
  | many
  /-- A place in the text. -/
  | place
deriving DecidableEq

/-- A code point in exactly `count` hexadecimal digits, and what follows it. -/
def codePoint? (count : Nat) (cs : List Char) : Option (Escape × List Char) := do
  if cs.length < count then none
  let n ← Text.hexadecimal? (cs.take count)
  if n.isValidChar then return (.single (Char.ofNat n), cs.drop count) else none

/-- Whether a letter names a class of characters by their kind. -/
def isKind (c : Char) : Bool :=
  ['c', 'l', 'm', 'n', 'p', 's', 'z'].contains c.toLower

/-- The escape behind a backslash, and what follows it. ASCII marks stand for themselves. -/
def escape? : List Char → Option (Escape × List Char)
  | [] => none
  | c :: rest =>
    match c with
    | 'x' => codePoint? 2 rest
    | 'u' => codePoint? 4 rest
    | 'U' => codePoint? 8 rest
    | 'a' => some (.single '\x07', rest)
    | 'f' => some (.single '\x0c', rest)
    | 't' => some (.single '\t', rest)
    | 'n' => some (.single '\n', rest)
    | 'r' => some (.single '\r', rest)
    | 'v' => some (.single '\x0b', rest)
    | 'A' => some (.place, rest)
    | 'z' => some (.place, rest)
    | 'p' => if rest.head?.any isKind then some (.many, rest.drop 1) else none
    | 'P' => if rest.head?.any isKind then some (.many, rest.drop 1) else none
    | _ =>
      if ['d', 'D', 's', 'S', 'w', 'W'].contains c then some (.many, rest)
      else if c.toNat < 0x80 && !c.isAlphanum && c ≠ '<' && c ≠ '>' then some (.single c, rest)
      else none

/-! ## Bracketed classes -/

/-- The names of classes within brackets. -/
def classNames : List String :=
  ["alnum", "alpha", "ascii", "blank", "cntrl", "digit", "graph", "lower", "print", "punct",
    "space", "upper", "word", "xdigit"]

/-- What follows a named class whose opening bracket has been read: `:alpha:]`. -/
def afterNamed? (cs : List Char) : Option (List Char) := do
  let inner ← Text.strip? [':'] cs
  let inner := if inner.head? = some '^' then inner.drop 1 else inner
  let name := inner.takeWhile (· ≠ ':')
  let rest ← Text.strip? [':', ']'] (inner.drop name.length)
  if classNames.contains (String.ofList name) then some rest else none

/-- What follows the start of a class: the sign that turns it round, dashes, and else a closing
bracket that counts as a character. -/
def afterStart (cs : List Char) : List Char :=
  let cs := if cs.head? = some '^' then cs.drop 1 else cs
  let inner := cs.dropWhile (· = '-')
  if inner.length = cs.length && inner.head? = some ']' then inner.drop 1 else inner

/-- One character or escape within brackets. -/
def item? : List Char → Option (Escape × List Char)
  | [] => none
  | '\\' :: rest => escape? rest
  | c :: rest => some (.single c, rest)

/-- What follows an item or range of a class. The ends of a range are characters in order. -/
def afterRange? (cs : List Char) : Option (List Char) := do
  let (first, rest) ← item? cs
  if first = .place then none
  match rest with
  | '-' :: next :: more =>
    if next = ']' || next = '-' then return rest
    else
      match first, ← item? (next :: more) with
      | .single low, (.single high, behind) => if low ≤ high then some behind else none
      | _, _ => none
  | _ => return rest

/-- Whether two characters join or cut classes. -/
def isSetMark (c d : Char) : Bool :=
  c = d && (c = '&' || c = '-' || c = '~')

/-- What follows the classes, `depth` deep in each other, in which a text starts. At most `fuel`
steps are taken, of which each leaves less text. -/
def afterClasses? : Nat → Nat → List Char → Option (List Char)
  | _, 0, cs => some cs
  | 0, _, _ => none
  | _, _, [] => none
  | fuel + 1, depth + 1, '[' :: rest =>
    match afterNamed? rest with
    | some behind => afterClasses? fuel (depth + 1) behind
    | none => afterClasses? fuel (depth + 2) (afterStart rest)
  | fuel + 1, depth + 1, ']' :: rest => afterClasses? fuel depth rest
  | fuel + 1, depth + 1, c :: rest =>
    if rest.head?.any (isSetMark c) then afterClasses? fuel (depth + 1) (rest.drop 1)
    else (afterRange? (c :: rest)).bind (afterClasses? fuel (depth + 1))

/-- What follows a class whose opening bracket has been read. -/
def afterClass? (cs : List Char) : Option (List Char) :=
  afterClasses? cs.length 1 (afterStart cs)

/-! ## Groups -/

/-- Whether a character may start the name of a group. -/
def isNameStart (c : Char) : Bool :=
  c = '_' || (Text.isAlphanumeric c && !c.isDigit)

/-- Whether a character may stand in the name of a group. -/
def isNameChar (c : Char) : Bool :=
  ['_', '.', '[', ']'].contains c || Text.isAlphanumeric c

/-- The name of a group up to its closing bracket, and what follows it. -/
def groupName? (cs : List Char) : Option (List Char × List Char) := do
  let (name, rest) ← Text.splitOnce '>' cs
  if name.head?.any isNameStart && name.all isNameChar then some (name, rest) else none

/-- Whether these are flags, each at most once, of which those behind a dash are taken back. -/
def areFlags (flags : List Char) : Bool :=
  flags.all (['i', 'm', 's', 'U', 'u', 'R', 'x', '-'].contains ·)
    && flags.eraseDups.length == flags.length && flags.getLast? != some '-'

/-- How a group starts. -/
inductive Opening where
  /-- A group opens, perhaps with a name. -/
  | group (name : Option (List Char))
  /-- Flags are set for what follows, and there is no group. -/
  | flags
deriving DecidableEq

/-- The start of a group whose parenthesis has been read. -/
def opening? : List Char → Option (Opening × List Char)
  | '?' :: 'P' :: '<' :: rest => (groupName? rest).map fun (name, r) => (.group (some name), r)
  | '?' :: '<' :: rest => (groupName? rest).map fun (name, r) => (.group (some name), r)
  | '?' :: rest =>
    let flags := rest.takeWhile fun c => c ≠ ':' && c ≠ ')'
    match rest.drop flags.length with
    | ':' :: behind => if areFlags flags then some (.group none, behind) else none
    | _ :: behind => if areFlags flags && !flags.isEmpty then some (.flags, behind) else none
    | [] => none
  | rest => some (.group none, rest)

/-! ## Patterns -/

/-- What has been seen of a pattern. -/
structure Scan where
  /-- How many groups are open. -/
  depth : Nat
  /-- Whether something stands in front that can be repeated. -/
  repeatable : Bool
  /-- The names of groups so far. -/
  names : List (List Char)

/-- Whether a pattern goes on well. At most `fuel` steps are taken, of which each leaves less
text. -/
def goesOn : Nat → Scan → List Char → Bool
  | _, scan, [] => scan.depth == 0
  | 0, _, _ => false
  | fuel + 1, scan, c :: rest =>
    match c with
    | '(' =>
      match opening? rest with
      | some (.group none, behind) =>
        goesOn fuel { scan with depth := scan.depth + 1, repeatable := false } behind
      | some (.group (some name), behind) =>
        !scan.names.contains name
          && goesOn fuel
            { depth := scan.depth + 1, repeatable := false, names := name :: scan.names } behind
      | some (.flags, behind) => goesOn fuel { scan with repeatable := false } behind
      | none => false
    | ')' =>
      scan.depth != 0
        && goesOn fuel { scan with depth := scan.depth - 1, repeatable := true } rest
    | '|' => goesOn fuel { scan with repeatable := false } rest
    | '[' =>
      match afterClass? rest with
      | some behind => goesOn fuel { scan with repeatable := true } behind
      | none => false
    | '\\' =>
      match escape? rest with
      | some (_, behind) => goesOn fuel { scan with repeatable := true } behind
      | none => false
    | '\x7b' => false
    | _ =>
      (!(['?', '*', '+'].contains c) || scan.repeatable)
        && goesOn fuel { scan with repeatable := true } rest

/-- Whether a text is a pattern. -/
def isPattern (cs : List Char) : Bool :=
  goesOn cs.length { depth := 0, repeatable := false, names := [] } cs

end FleetDashboard.Telemetry.Pattern
