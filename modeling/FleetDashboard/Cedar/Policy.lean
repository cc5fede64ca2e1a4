import FleetDashboard.Cedar.Expression

/-!
# Access policies

Policies permit or forbid a principal to perform an action on a resource. A request is allowed when
no policy that forbids applies and some policy that permits does. A policy one of whose conditions
has no truth does not apply.
-/

namespace FleetDashboard.Cedar

/-- What a policy's head asks of one part. -/
inductive HeadTest where
  /-- Nothing. -/
  | any
  /-- To be the entity. -/
  | equals (entity : Entity)
  /-- To be in one of the entities. -/
  | within (entities : List Entity)
  /-- To be of the type. -/
  | ofType (type : TypeName)
  /-- To be of the type and in the entity. -/
  | ofTypeWithin (type : TypeName) (entity : Entity)
  /-- What is yet to be filled in; until then nothing passes. -/
  | blank
deriving DecidableEq

/-- Whether an entity passes a test. -/
def HeadTest.holds (test : HeadTest) (entity : Entity) : Bool :=
  match test with
  | .any => true
  | .equals e => entity == e
  | .within es => es.contains entity
  | .ofType t => entity.type == t
  | .ofTypeWithin t e => entity.type == t && entity == e
  | .blank => false

/-- A condition that has to be true, or false. -/
structure Clause where
  /-- The truth that is asked for. -/
  wanted : Bool
  /-- The condition. -/
  condition : Expr

/-- Whether a clause is met by a request. -/
def Clause.holds (clause : Clause) (request : Request) : Bool :=
  clause.condition.truth request == some clause.wanted

/-- A policy. -/
structure Policy where
  /-- Whether it permits, or forbids. -/
  permits : Bool
  /-- What it asks of the principal. -/
  principal : HeadTest
  /-- What it asks of the action. -/
  action : HeadTest
  /-- What it asks of the resource. -/
  resource : HeadTest
  /-- Its further conditions. -/
  clauses : List Clause

/-- Whether a policy applies to a request. -/
def Policy.applies (policy : Policy) (request : Request) : Bool :=
  policy.principal.holds request.principal && policy.action.holds request.action
    && policy.resource.holds request.resource
    && policy.clauses.all fun clause => clause.holds request

/-- Whether policies allow a request. -/
def allows (policies : List Policy) (request : Request) : Bool :=
  let applying := policies.filter fun policy => policy.applies request
  applying.any (·.permits) && applying.all (·.permits)

end FleetDashboard.Cedar
