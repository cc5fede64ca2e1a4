import FleetDashboard.ClientError
import FleetDashboard.Text.Pieces
import FleetDashboard.Text.Quoted

/-!
# Names of member clusters

A member's name is put into a path, so only names of one harmless shape are let in: labels of small
letters, digits and inner hyphens, with dots between them.
-/

namespace FleetDashboard.ClusterName

/-- The greatest length of a name. -/
def maxName : Nat := 253

/-- The greatest length of a label. -/
def maxLabel : Nat := 63

/-- Whether a character may stand in a label. -/
def isLabelChar (c : Char) : Bool :=
  ('a' ≤ c && c ≤ 'z') || ('0' ≤ c && c ≤ '9') || c = '-'

/-- Whether a text is a label: it is neither empty nor too long, and no hyphen stands at an end. -/
def isLabel (cs : List Char) : Bool :=
  cs ≠ [] && cs.length ≤ maxLabel && cs.all isLabelChar && cs.head? ≠ some '-'
    && cs.getLast? ≠ some '-'

/-- Whether a text is a name. -/
def isName (name : String) : Bool :=
  name ≠ "" && name.utf8ByteSize ≤ maxName && (Text.split '.' name.toList).all isLabel

/-- Accepts names only. -/
def validate (name : String) : Except ClientError Unit :=
  if isName name then .ok ()
  else .error (.construction ("invalid member cluster name " ++ Text.quote name))

end FleetDashboard.ClusterName
