import FleetDashboard.Text.Pieces

/-!
# Addresses

A URI in its parts: a scheme, an authority, a path and a query. A text with a scheme needs an
authority behind it; a text without one is a path, when it starts with a slash, or else an authority
alone. A fragment is dropped.

* `Uri.parse`: the parts of a text, or the first flaw in it.
* `Uri.text`: the text of the parts; an address with a scheme always shows a path.
-/

namespace FleetDashboard

/-- A URI in its parts. -/
structure Uri where
  /-- The scheme, if there is one. -/
  scheme : Option String
  /-- The authority; empty for a path alone. -/
  authority : String
  /-- The path as written, which may be empty. -/
  writtenPath : String
  /-- The query, if there is one. -/
  query : Option String
deriving DecidableEq

/-- What is wrong with the text of a URI. -/
inductive UriFlaw where
  /-- Nothing where an address is needed. -/
  | empty
  /-- More than 65534 bytes. -/
  | tooLong
  /-- A scheme of more than 64 characters. -/
  | longScheme
  /-- A character that has to be escaped. -/
  | character
  /-- An authority out of shape. -/
  | authority
  /-- Parts that do not go together. -/
  | shape
deriving DecidableEq

/-- The wording of a flaw. -/
def UriFlaw.message : UriFlaw → String
  | .empty => "empty string"
  | .tooLong => "uri too long"
  | .longScheme => "scheme too long"
  | .character => "invalid uri character"
  | .authority => "invalid authority"
  | .shape => "invalid format"

namespace Uri

/-! ## Characters -/

/-- Whether a character may stand in a scheme. -/
def isSchemeChar (c : Char) : Bool :=
  c.isAlphanum || "+-.~".toList.contains c

/-- Whether a character may stand in an authority; percent signs are counted apart. -/
def isAuthorityChar (c : Char) : Bool :=
  c.isAlphanum || "!$&'()*+,-.:;=@[]_~".toList.contains c

/-- Whether a character ends an authority. -/
def endsAuthority (c : Char) : Bool :=
  c = '/' || c = '?' || c = '#'

/-- Whether a character may stand in a path. -/
def isPathChar (c : Char) : Bool :=
  c = '!' || ('$' ≤ c && c ≤ ';') || c = '=' || ('@' ≤ c && c ≤ '_') || ('a' ≤ c && c ≤ 'z')
    || "|~\"\x7b\x7d".toList.contains c || 0x7F ≤ c.toNat

/-- Whether a character may stand in a query: all that shows, but for the quote, the number sign and
the angle brackets. -/
def isQueryChar (c : Char) : Bool :=
  c = '!' || ('$' ≤ c && c ≤ ';') || c = '=' || '?' ≤ c

/-! ## The authority -/

/-- What has been seen of an authority. -/
structure AuthorityScan where
  /-- The colons since the user part or the brackets. -/
  colons : Nat
  /-- Whether a bracket was opened. -/
  opened : Bool
  /-- Whether it was closed. -/
  closed : Bool
  /-- Whether there was a percent sign since the user part or the brackets. -/
  percent : Bool
deriving DecidableEq

/-- One more character of an authority. -/
def AuthorityScan.step (scan : AuthorityScan) (c : Char) : Except UriFlaw AuthorityScan :=
  if c = ':' then
    if scan.colons ≥ 8 then .error .authority else .ok { scan with colons := scan.colons + 1 }
  else if c = '[' then
    if scan.percent || scan.opened then .error .authority else .ok { scan with opened := true }
  else if c = ']' then
    if !scan.opened || scan.closed then .error .authority
    else .ok { scan with closed := true, colons := 0, percent := false }
  else if c = '@' then .ok { scan with colons := 0, percent := false }
  else if c = '%' then .ok { scan with percent := true }
  else if isAuthorityChar c then .ok scan
  else .error .character

/-- Whether an authority that was seen whole is in shape. -/
def AuthorityScan.isSound (scan : AuthorityScan) : Bool :=
  scan.opened == scan.closed && scan.colons ≤ 1 && !scan.percent

/-- Checks an authority: brackets match, at most one colon tells the port apart, something stands
behind the user part, and the host holds no percent sign. -/
def checkAuthority (cs : List Char) : Except UriFlaw Unit := do
  let scan ← cs.foldlM AuthorityScan.step
    { colons := 0, opened := false, closed := false, percent := false }
  if scan.isSound && cs.getLast? != some '@' then .ok () else .error .authority

/-! ## Scheme, path and query -/

/-- The scheme in front of a text, and what follows it. The two usual schemes are written in small
letters. A text of no more than the three marks has no scheme. -/
def splitScheme (cs : List Char) : Except UriFlaw (Option String × List Char) :=
  let lead := cs.takeWhile isSchemeChar
  match cs.drop lead.length with
  | ':' :: '/' :: '/' :: rest =>
    if lead.isEmpty && rest.isEmpty then .ok (none, cs)
    else
      let scheme := String.ofList lead
      let small := Text.asciiLower scheme
      if small = "http" || small = "https" then .ok (some small, rest)
      else if lead.length > 64 then .error .longScheme
      else .ok (some scheme, rest)
  | _ => .ok (none, cs)

/-- A path and a query, the fragment left out. -/
def splitPath (cs : List Char) : Except UriFlaw (String × Option String) :=
  let kept := cs.takeWhile (· ≠ '#')
  let path := kept.takeWhile (· ≠ '?')
  let query :=
    match kept.drop path.length with
    | [] => none
    | _ :: query => some query
  if path.all isPathChar && (query.getD []).all isQueryChar then
    .ok (String.ofList path, query.map String.ofList)
  else .error .character

/-- The greatest number of bytes in an address. -/
def maxBytes : Nat := 65534

/-- The parts of a text. -/
def parse (s : String) : Except UriFlaw Uri :=
  if s.utf8ByteSize > maxBytes then .error .tooLong
  else
    match s.toList with
    | [] => .error .empty
    | '/' :: cs => do
      let (path, query) ← splitPath ('/' :: cs)
      return { scheme := none, authority := "", writtenPath := path, query }
    | ['*'] => .ok { scheme := none, authority := "", writtenPath := "*", query := none }
    | cs => do
      let (scheme, rest) ← splitScheme cs
      let authority := rest.takeWhile fun c => !endsAuthority c
      let tail := rest.drop authority.length
      if rest.isEmpty then throw .empty
      checkAuthority authority
      match scheme with
      | none =>
        if tail.isEmpty then
          return { scheme, authority := String.ofList authority, writtenPath := "", query := none }
        else throw (if cs.length = 1 then .character else .shape)
      | some _ =>
        if authority.isEmpty then throw .shape
        let (path, query) ← splitPath tail
        return { scheme, authority := String.ofList authority, writtenPath := path, query }

/-- The path; one that is not written is the root, unless the address is an authority alone. -/
def path (uri : Uri) : String :=
  if uri.writtenPath ≠ "" then uri.writtenPath
  else if uri.scheme.isSome || uri.query.isSome then "/"
  else ""

/-- The text of a URI. -/
def text (uri : Uri) : String :=
  (match uri.scheme with
    | some scheme => scheme ++ "://"
    | none => "")
    ++ uri.authority ++ uri.path
    ++ (match uri.query with
      | some query => "?" ++ query
      | none => "")

end Uri

end FleetDashboard
