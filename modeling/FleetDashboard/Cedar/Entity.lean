/-!
# Entities and requests

Policies are about entities: users, actions and clusters, each with a type and an identifier. A
request asks whether a principal may perform an action on a resource.
-/

namespace FleetDashboard.Cedar

/-- The type of an entity: its name and the namespaces around it. -/
abbrev TypeName := List String

/-- An entity. -/
structure Entity where
  /-- Its type. -/
  type : TypeName
  /-- Its identifier within the type. -/
  id : String
deriving DecidableEq

/-- Whether the entity is an action, in whatever namespace. -/
def Entity.isAction (entity : Entity) : Bool :=
  entity.type.getLast? == some "Action"

/-- A request. -/
structure Request where
  /-- Who acts. -/
  principal : Entity
  /-- What is done. -/
  action : Entity
  /-- To what it is done. -/
  resource : Entity
deriving DecidableEq

/-- The parts of a request. -/
inductive Part where
  | principal
  | action
  | resource
deriving DecidableEq

namespace Part

/-- The parts in the order in which policies name them. -/
def all : List Part := [.principal, .action, .resource]

/-- The name of a part in policies. -/
def name : Part → String
  | .principal => "principal"
  | .action => "action"
  | .resource => "resource"

/-- The part of a name. -/
def ofName? (name : String) : Option Part :=
  all.find? fun part => part.name == name

end Part

/-- A part of a request. -/
def Request.part (request : Request) : Part → Entity
  | .principal => request.principal
  | .action => request.action
  | .resource => request.resource

/-- The request by which a user accesses a cluster. -/
def accessRequest (user cluster : String) : Request :=
  { principal := ⟨["Dashboard", "User"], user⟩
    action := ⟨["Dashboard", "Action"], "AccessCluster"⟩
    resource := ⟨["Dashboard", "Cluster"], cluster⟩ }

end FleetDashboard.Cedar
