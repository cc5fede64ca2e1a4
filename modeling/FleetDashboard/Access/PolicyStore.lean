import FleetDashboard.Access.Gate
import FleetDashboard.Cedar.Reader

/-!
# The active policies

The policies in force can be replaced while requests are served: by a new text, or by reading their
file again. A replacement that cannot be read leaves the policies in force as they are.

The reader and the evaluator of policies are parameters; `cedar` fills them in.
-/

namespace FleetDashboard

/-- How policy texts are read and requests decided. -/
structure PolicyLanguage (π : Type) where
  /-- The policies of a text, or why it cannot be read. -/
  parse : String → Except String π
  /-- Whether policies allow a user a cluster. -/
  evaluate : π → (user cluster : String) → Except PolicyFailure Bool

/-- The policies in force, and whether a file holds their text. -/
structure PolicyStore (π : Type) where
  /-- The policies in force. -/
  active : π
  /-- Whether they are read from a file. -/
  fromFile : Bool

/-- What can be done to a policy store. -/
inductive PolicyUpdate where
  /-- Replacing the policies by those of a text. -/
  | replace (text : String)
  /-- Reading the file again, which holds the given text or cannot be read. -/
  | reload (file : Option String)
deriving DecidableEq

namespace PolicyStore

variable {π : Type}

/-- The policies of a text. -/
def read (language : PolicyLanguage π) (text : String) : Except ClientError π :=
  match language.parse text with
  | .ok policies => .ok policies
  | .error reason => .error (.config ("invalid Cedar policy: " ++ reason))

/-- The policies of a file that holds the given text or cannot be read. -/
def readFile (language : PolicyLanguage π) (file : Option String) : Except ClientError π :=
  match file with
  | some text => read language text
  | none => .error (.config "failed to read the policy file")

/-- A store of the policies of a text. -/
def ofText (language : PolicyLanguage π) (text : String) : Except ClientError (PolicyStore π) := do
  return { active := ← read language text, fromFile := false }

/-- A store of the policies of a file. -/
def ofFile (language : PolicyLanguage π) (file : Option String) :
    Except ClientError (PolicyStore π) := do
  return { active := ← readFile language file, fromFile := true }

/-- The policies that an update brings, or why it fails. -/
def incoming (language : PolicyLanguage π) (store : PolicyStore π) :
    PolicyUpdate → Except ClientError π
  | .replace text => read language text
  | .reload file =>
    if store.fromFile then readFile language file
    else .error (.config "policy was not loaded from a file")

/-- One update: its outcome, and the store afterwards. -/
def update (language : PolicyLanguage π) (store : PolicyStore π) (change : PolicyUpdate) :
    Except ClientError Unit × PolicyStore π :=
  match store.incoming language change with
  | .ok policies => (.ok (), { store with active := policies })
  | .error e => (.error e, store)

/-- One reload for each trigger, with what the file holds at the time. Failures are passed over. -/
def reloadOn (language : PolicyLanguage π) (store : PolicyStore π)
    (triggers : List (Option String)) : PolicyStore π :=
  triggers.foldl (fun store file => (store.update language (.reload file)).2) store

/-- Whether the policies in force allow a user a cluster. -/
def hasAccess (language : PolicyLanguage π) (store : PolicyStore π) (user cluster : String) :
    Except PolicyFailure Bool :=
  language.evaluate store.active user cluster

/-- The access policy of a store, which answers at once. -/
def accessPolicy (language : PolicyLanguage π) (store : PolicyStore π) : AccessPolicy :=
  fun user cluster => .done (store.hasAccess language user cluster)

end PolicyStore

/-- The language of the policy files. -/
def cedar : PolicyLanguage (List Cedar.Policy) where
  parse text :=
    match Cedar.parse? text with
    | some policies => .ok policies
    | none => .error "the text is no policy"
  evaluate policies user cluster := .ok (Cedar.allows policies (Cedar.accessRequest user cluster))

end FleetDashboard
