import FleetDashboard.Connection.Basic
import FleetDashboard.Json.Basic

/-!
# Kubeconfig files

A kubeconfig names clusters, users and contexts; a context pairs a cluster with a user. Loading one
picks a context, the current one unless another is asked for. An unknown user stands for no
credentials; whatever else is missing is an error.
-/

namespace FleetDashboard

/-- A kubeconfig, its entries by name. An entry may lack its body. -/
structure Kubeconfig where
  /-- The contexts. -/
  contexts : List (String × Option Json)
  /-- The clusters. -/
  clusters : List (String × Option Json)
  /-- The users. -/
  users : List (String × Option Json)
  /-- The current context. -/
  currentContext : Option String

/-- What a kubeconfig lacks. -/
inductive KubeconfigFlaw where
  /-- No context is asked for and none is current. -/
  | noContext
  /-- There is no context of the name. -/
  | context (name : String)
  /-- There is no cluster of the name. -/
  | cluster (name : String)
  /-- The cluster has no address. -/
  | noServer
  /-- The cluster's address is flawed. -/
  | server (flaw : UriFlaw)
deriving DecidableEq

/-- The wording of a flaw. -/
def KubeconfigFlaw.message : KubeconfigFlaw → String
  | .noContext => "failed to determine current context"
  | .context name => "failed to load current context: " ++ name
  | .cluster name => "failed to load the cluster of context: " ++ name
  | .noServer => "cluster url is missing on selected cluster"
  | .server flaw => "failed to parse cluster url: " ++ flaw.message

namespace Kubeconfig

/-- The text of a field, if it is there. -/
def text? (j : Json) (name : String) : Option String :=
  (j.value? name).bind Json.str?

/-- The entries of a list, each under its name, with the body in the given field. -/
def entries (j : Json) (list body : String) : List (String × Option Json) :=
  ((j.value? list).map Json.items |>.getD []).map fun entry =>
    ((text? entry "name").getD "", entry.value? body)

/-- The kubeconfig in a file's content. -/
def ofJson (j : Json) : Kubeconfig :=
  { contexts := entries j "contexts" "context"
    clusters := entries j "clusters" "cluster"
    users := entries j "users" "user"
    currentContext := text? j "current-context" }

/-- The body of the first entry of a name. -/
def body? (name : String) (entries : List (String × Option Json)) : Option Json :=
  (entries.find? fun entry => entry.1 == name).bind (·.2)

/-- The credentials of a user. -/
def credentialsOf (user : Json) : Credentials :=
  { token := text? user "token"
    username := text? user "username"
    password := text? user "password"
    actAs := text? user "as"
    actAsGroups := (user.value? "as-groups").map fun groups => groups.items.filterMap Json.str? }

/-- The endpoint of a context. -/
def load (config : Kubeconfig) (context : Option String) : Except KubeconfigFlaw Endpoint :=
  match context <|> config.currentContext with
  | none => .error .noContext
  | some name =>
    match body? name config.contexts with
    | none => .error (.context name)
    | some body =>
      let clusterName := (text? body "cluster").getD ""
      match body? clusterName config.clusters with
      | none => .error (.cluster clusterName)
      | some cluster =>
        match (text? cluster "server").map Uri.parse with
        | none => .error .noServer
        | some (.error flaw) => .error (.server flaw)
        | some (.ok address) =>
          let user := (text? body "user").bind fun user => body? user config.users
          .ok { Endpoint.ofAddress address with
            acceptInvalidCerts :=
              ((cluster.value? "insecure-skip-tls-verify").bind Json.bool?).getD false
            credentials := (user.map credentialsOf).getD .none }

end Kubeconfig

end FleetDashboard
