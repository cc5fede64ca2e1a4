import FleetDashboard.Text.Digits
import FleetDashboard.Text.Pieces

/-!
# Internet addresses

Addresses of the two versions of the internet protocol, alone or as a range that shares its first
bits. Four decimal numbers make up an address of version 4, eight hexadecimal ones an address of
version 6, in which one run of zeros may be left out.

* `AddressRange.ofText?`: the address or range that a text writes.
* `AddressRange.isWithin`: whether one range lies in another.
-/

namespace FleetDashboard.Cedar

/-- The versions of the internet protocol. -/
inductive AddressVersion where
  | four
  | six
deriving DecidableEq

namespace AddressVersion

/-- The bits of an address. -/
def bits : AddressVersion → Nat
  | .four => 32
  | .six => 128

end AddressVersion

/-- An address with the number of its first bits that count. -/
structure AddressRange where
  /-- The version. -/
  version : AddressVersion
  /-- The address as a number. -/
  address : Nat
  /-- How many of the first bits count; all of them for a single address. -/
  counted : Nat
deriving DecidableEq

namespace AddressRange

/-! ## Reading -/

/-- A decimal number of at most `most`, without needless zeros. -/
def decimal? (most : Nat) (cs : List Char) : Option Nat := do
  let n ← Text.decimal? cs
  if n ≤ most && (cs.head? ≠ some '0' || cs.length = 1) then return n else none

/-- The number that parts of `width` bits each make up. -/
def joined (width : Nat) (parts : List Nat) : Nat :=
  parts.foldl (fun n part => n * Nat.pow 2 width + part) 0

/-- An address of version 4. -/
def four? (cs : List Char) : Option Nat := do
  let parts ← (Text.split '.' cs).mapM (decimal? 255)
  if parts.length = 4 then return joined 8 parts else none

/-- The groups of an address of version 6 between colons; an empty text has none. -/
def groups? (cs : List Char) : Option (List Nat) :=
  if cs.isEmpty then some []
  else (Text.split ':' cs).mapM fun group =>
    if group.length ≤ 4 then Text.hexadecimal? group else none

/-- The text before and after the first two colons in a row. -/
def splitAtGap : List Char → Option (List Char × List Char)
  | [] => none
  | [_] => none
  | c :: d :: rest =>
    if c = ':' && d = ':' then some ([], rest)
    else (splitAtGap (d :: rest)).map fun (before, after) => (c :: before, after)

/-- An address of version 6. A gap stands for at least one group of zero. -/
def six? (cs : List Char) : Option Nat := do
  match splitAtGap cs with
  | none =>
    let groups ← groups? cs
    if groups.length = 8 then return joined 16 groups else none
  | some (before, after) =>
    let first ← groups? before
    let last ← groups? after
    if first.length + last.length ≤ 7 then
      return joined 16 (first ++ List.replicate (8 - first.length - last.length) 0 ++ last)
    else none

/-- A single address, with its version. -/
def single? (cs : List Char) : Option (AddressVersion × Nat) :=
  match four? cs with
  | some n => some (.four, n)
  | none => (six? cs).map fun n => (.six, n)

/-- The range that a text writes: an address, perhaps with a slash and the number of bits that
count. -/
def ofText? (s : String) : Option AddressRange :=
  match Text.splitOnce '/' s.toList with
  | none => (single? s.toList).map fun (version, address) =>
      { version, address, counted := version.bits }
  | some (before, after) => do
    let (version, address) ← single? before
    let counted ← decimal? version.bits after
    return { version, address, counted }

/-! ## Ranges -/

/-- How many addresses share the bits that count. -/
def size (range : AddressRange) : Nat :=
  Nat.pow 2 (range.version.bits - range.counted)

/-- The first address of the range. -/
def first (range : AddressRange) : Nat :=
  range.address / range.size * range.size

/-- The last address of the range. -/
def last (range : AddressRange) : Nat :=
  range.first + (range.size - 1)

/-- Whether the range lies in another one of its version. -/
def isWithin (range other : AddressRange) : Bool :=
  range.version == other.version && other.first ≤ range.first && range.last ≤ other.last

/-- The addresses by which a machine reaches itself. -/
def loopback : AddressVersion → AddressRange
  | .four => { version := .four, address := 0x7F000000, counted := 8 }
  | .six => { version := .six, address := 1, counted := 128 }

/-- The addresses of groups of machines. -/
def multicast : AddressVersion → AddressRange
  | .four => { version := .four, address := 0xE0000000, counted := 4 }
  | .six => { version := .six, address := 0xFF000000000000000000000000000000, counted := 8 }

end AddressRange

end FleetDashboard.Cedar
