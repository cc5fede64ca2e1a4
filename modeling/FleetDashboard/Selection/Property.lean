import FleetDashboard.Text.Pieces

/-!
# Properties of listed items

The names under which a listing can be filtered and sorted: eight fixed words, the labels behind
`label:`, and any other text.

Main statement: a property is written as it was read (`text_parse`).
-/

namespace FleetDashboard.Selection

/-- A property of an item. -/
inductive Property where
  /-- The item's name. -/
  | objectName
  /-- The namespace it lies in. -/
  | objectNamespace
  /-- When it was created. -/
  | created
  /-- Its status or phase. -/
  | status
  /-- Its type, such as a secret's. -/
  | typeName
  /-- Its kind. -/
  | kind
  /-- A processor figure. -/
  | cpu
  /-- A memory figure. -/
  | memory
  /-- The value of a label. -/
  | label (key : String)
  /-- Whatever else an item may show. -/
  | other (name : String)
deriving DecidableEq

namespace Property

/-- The text in front of a label's key. -/
def labelLead : String := "label:"

/-- The property that a text names. -/
def parse (s : String) : Property :=
  if s = "name" then .objectName
  else if s = "namespace" then .objectNamespace
  else if s = "creationTimestamp" then .created
  else if s = "status" then .status
  else if s = "type" then .typeName
  else if s = "kind" then .kind
  else if s = "cpu" then .cpu
  else if s = "memory" then .memory
  else
    match Text.stripLead? labelLead s with
    | some key => .label key
    | none => .other s

/-- The text that names a property. -/
def text : Property → String
  | .objectName => "name"
  | .objectNamespace => "namespace"
  | .created => "creationTimestamp"
  | .status => "status"
  | .typeName => "type"
  | .kind => "kind"
  | .cpu => "cpu"
  | .memory => "memory"
  | .label key => labelLead ++ key
  | .other name => name

/-- A property is written as it was read. -/
@[simp]
theorem text_parse (s : String) : (parse s).text = s := by
  unfold parse
  repeat' split
  all_goals simp_all [text, Text.stripLead?_eq_some_iff]

end Property

end FleetDashboard.Selection
