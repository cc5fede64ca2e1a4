import FleetDashboard.Json.Basic
import FleetDashboard.Text.Blank
import FleetDashboard.Text.Pieces
import FleetDashboard.Text.Quoted

/-!
# Version records

The record that a control-plane component prints about itself,
`version.Info{GitVersion:"v1.9.0", GitCommit:"abc", ...}`. Reading takes the pairs between the first
opening brace and the next closing one; a key that is given more than once has its last value.

* `VersionRecord.parse` reads the record out of a component's output.
* `VersionRecord.text` prints it.
-/

namespace FleetDashboard

/-- The keys of a version record. -/
inductive VersionKey where
  | gitVersion
  | gitCommit
  | gitTreeState
  | buildDate
  | goVersion
  | compiler
  | platform
deriving DecidableEq

namespace VersionKey

/-- The keys in printed order. -/
def all : List VersionKey :=
  [.gitVersion, .gitCommit, .gitTreeState, .buildDate, .goVersion, .compiler, .platform]

/-- The key's name in printed records. -/
def name : VersionKey → String
  | .gitVersion => "GitVersion"
  | .gitCommit => "GitCommit"
  | .gitTreeState => "GitTreeState"
  | .buildDate => "BuildDate"
  | .goVersion => "GoVersion"
  | .compiler => "Compiler"
  | .platform => "Platform"

/-- The key's name in response bodies. -/
def jsonName : VersionKey → String
  | .gitVersion => "gitVersion"
  | .gitCommit => "gitCommit"
  | .gitTreeState => "gitTreeState"
  | .buildDate => "buildDate"
  | .goVersion => "goVersion"
  | .compiler => "compiler"
  | .platform => "platform"

/-- The key of a name. -/
def ofName? (name : String) : Option VersionKey :=
  all.find? fun key => key.name == name

end VersionKey

/-- The version of a control-plane component. -/
structure VersionRecord where
  /-- Release tag. -/
  gitVersion : String
  /-- Commit hash. -/
  gitCommit : String
  /-- `clean` or `dirty`. -/
  gitTreeState : String
  /-- When it was built. -/
  buildDate : String
  /-- The toolchain's version. -/
  goVersion : String
  /-- The compiler's name. -/
  compiler : String
  /-- Operating system and architecture. -/
  platform : String
deriving DecidableEq

namespace VersionRecord

/-- The record without any value. -/
def empty : VersionRecord :=
  ⟨"", "", "", "", "", "", ""⟩

/-- The value of a key. -/
def get (record : VersionRecord) : VersionKey → String
  | .gitVersion => record.gitVersion
  | .gitCommit => record.gitCommit
  | .gitTreeState => record.gitTreeState
  | .buildDate => record.buildDate
  | .goVersion => record.goVersion
  | .compiler => record.compiler
  | .platform => record.platform

/-- The record with the value of a key replaced. -/
def set (record : VersionRecord) (key : VersionKey) (value : String) : VersionRecord :=
  match key with
  | .gitVersion => { record with gitVersion := value }
  | .gitCommit => { record with gitCommit := value }
  | .gitTreeState => { record with gitTreeState := value }
  | .buildDate => { record with buildDate := value }
  | .goVersion => { record with goVersion := value }
  | .compiler => { record with compiler := value }
  | .platform => { record with platform := value }

/-- A value that was set is found again, and no other changes. -/
@[simp]
theorem get_set (record : VersionRecord) (key other : VersionKey) (value : String) :
    (record.set key value).get other = if other = key then value else record.get other := by
  cases key <;> cases other <;> rfl

@[simp]
theorem get_empty (key : VersionKey) : empty.get key = "" := by
  cases key <;> rfl

/-- Records with the same values are equal. -/
theorem ext_get {a b : VersionRecord} (h : ∀ key, a.get key = b.get key) : a = b := by
  have h1 := h .gitVersion
  have h2 := h .gitCommit
  have h3 := h .gitTreeState
  have h4 := h .buildDate
  have h5 := h .goVersion
  have h6 := h .compiler
  have h7 := h .platform
  cases a
  cases b
  simp_all [get]

/-! ## Reading -/

/-- The text between the first opening brace and the next closing one. -/
def braced? (cs : List Char) : Option (List Char) := do
  let (_, inside) ← Text.splitOnce '\x7b' cs
  let (body, _) ← Text.splitOnce '\x7d' inside
  return body

/-- The value in one piece behind its colon: without blanks around it, then without the quotes at
either end. -/
def valueOf (cs : List Char) : String :=
  String.ofList (Text.trimWhile (· == '"') (Text.trim cs))

/-- The known key and the value of one piece. -/
def entry? (piece : List Char) : Option (VersionKey × String) := do
  let (name, value) ← Text.splitOnce ':' (Text.trim piece)
  let key ← VersionKey.ofName? (String.ofList (Text.trim name))
  return (key, valueOf value)

/-- The entries of the braced text, in order. -/
def entries (body : List Char) : List (VersionKey × String) :=
  (Text.split ',' body).filterMap entry?

/-- The record printed in a component's output; without braces it is empty. -/
def parse (output : String) : VersionRecord :=
  match braced? output.toList with
  | some body => (entries body).foldl (fun record (key, value) => record.set key value) empty
  | none => empty

/-! ## Printing -/

/-- One printed pair. -/
def pairText (record : VersionRecord) (key : VersionKey) : String :=
  key.name ++ ":" ++ Text.quote (record.get key)

/-- The printed record. -/
def text (record : VersionRecord) : String :=
  "version.Info\x7b" ++ ", ".intercalate (VersionKey.all.map record.pairText) ++ "\x7d"

/-- The form in response bodies. -/
def toJson (record : VersionRecord) : Json :=
  .obj (VersionKey.all.map fun key => (key.jsonName, .str (record.get key)))

end VersionRecord

end FleetDashboard
