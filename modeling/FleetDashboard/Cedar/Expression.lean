import FleetDashboard.Cedar.Extension
import FleetDashboard.StableSort

/-!
# Expressions

The conditions of policies. Entities have no attributes, no tags and no parents: an attribute of an
entity is never there, reading one has no value, and being in an entity is being it. An expression
whose parts do not fit together has no value either.

* `Expr`: an expression.
* `Expr.eval`: its value for a request.
-/

namespace FleetDashboard.Cedar

/-! ## Syntax -/

/-- The names that stand for something in an expression. -/
inductive Variable where
  /-- A part of the request. -/
  | part (part : Part)
  /-- The circumstances of the request, a record without fields. -/
  | context
deriving DecidableEq

/-- The variable of a name. -/
def Variable.ofName? (name : String) : Option Variable :=
  if name = "context" then some .context else (Part.ofName? name).map .part

/-- The operators between two values. -/
inductive Operator where
  | equals
  | less
  | lessOrEquals
  | within
  | plus
  | minus
  | times
  | contains
  | containsAll
  | containsAny
  | hasTag
  | getTag
deriving DecidableEq

/-- A piece of a pattern for texts. -/
inductive PatternPiece where
  /-- One character. -/
  | char (c : Char)
  /-- Any characters. -/
  | anything
deriving DecidableEq

/-- An expression. -/
inductive Expr where
  /-- A truth value. -/
  | bool (b : Bool)
  /-- A whole number. -/
  | int (n : Int)
  /-- A text. -/
  | text (s : String)
  /-- An entity. -/
  | entity (e : Entity)
  /-- A variable. -/
  | var (v : Variable)
  /-- One of two, by the truth of a third. -/
  | ite (condition yes no : Expr)
  /-- Whether both hold; the second counts only if the first holds. -/
  | both (left right : Expr)
  /-- Whether one holds; the second counts only if the first does not hold. -/
  | either (left right : Expr)
  /-- Whether it does not hold. -/
  | not (operand : Expr)
  /-- The number with the other sign. -/
  | negative (operand : Expr)
  /-- An operator between two values. -/
  | binary (operator : Operator) (left right : Expr)
  /-- Whether a text has the form of a pattern. -/
  | like (operand : Expr) (pattern : List PatternPiece)
  /-- Whether an entity is of a type. -/
  | isOfType (operand : Expr) (type : TypeName)
  /-- Whether there is an attribute. -/
  | has (operand : Expr) (name : String)
  /-- An attribute. -/
  | get (operand : Expr) (name : String)
  /-- Whether a set is empty. -/
  | isEmpty (operand : Expr)
  /-- A set. -/
  | set (items : List Expr)
  /-- A record. -/
  | record (fields : List (String × Expr))
  /-- A call of an extension function. -/
  | call (function : Extension) (arguments : List Expr)

/-! ## Values -/

/-- Whether a text has the form of a pattern. -/
def matchesPattern : List PatternPiece → List Char → Bool
  | [], cs => cs.isEmpty
  | .char c :: pattern, d :: cs => c == d && matchesPattern pattern cs
  | .char _ :: _, [] => false
  | .anything :: pattern, [] => matchesPattern pattern []
  | .anything :: pattern, c :: cs =>
    matchesPattern pattern (c :: cs) || matchesPattern (.anything :: pattern) cs
termination_by pattern cs => pattern.length + cs.length

/-- Whether two values are in order, where `inOrder` says it of numbers. Only whole numbers, moments
and durations have an order. -/
def ordered? (inOrder : Int → Int → Bool) : Value → Value → Option Value
  | .int a, .int b => some (.bool (inOrder a b))
  | .moment a, .moment b => some (.bool (inOrder a b))
  | .duration a, .duration b => some (.bool (inOrder a b))
  | _, _ => none

/-- The entities in which an entity may be: one, or those of a set. -/
def places? : Value → Option (List Entity)
  | .entity e => some [e]
  | .set items => items.mapM Value.toEntity?
  | _ => none

/-- The value of an operator between two values. -/
def Operator.valueOf? (operator : Operator) (a b : Value) : Option Value :=
  match operator with
  | .equals => some (.bool (a.same b))
  | .less => ordered? (· < ·) a b
  | .lessOrEquals => ordered? (· ≤ ·) a b
  | .within => do return .bool ((← places? b).contains (← a.toEntity?))
  | .plus => do Value.ofInt? ((← a.toInt?) + (← b.toInt?))
  | .minus => do Value.ofInt? ((← a.toInt?) - (← b.toInt?))
  | .times => do Value.ofInt? ((← a.toInt?) * (← b.toInt?))
  | .contains => do return .bool (Value.isIn (← a.toSet?) b)
  | .containsAll => do return .bool (Value.allIn (← b.toSet?) (← a.toSet?))
  | .containsAny => do
    let items ← a.toSet?
    return .bool ((← b.toSet?).any fun y => Value.isIn items y)
  | .hasTag => do
    discard a.toEntity?
    discard b.toText?
    return .bool false
  | .getTag => none

/-- Whether a value has an attribute; only records and entities can have one. -/
def hasAttribute? (name : String) : Value → Option Value
  | .record fields => some (.bool (fields.any (·.1 == name)))
  | .entity _ => some (.bool false)
  | _ => none

/-- An attribute of a value. -/
def attribute? (name : String) : Value → Option Value
  | .record fields => (fields.find? (·.1 == name)).map (·.2)
  | _ => none

/-- The value of a variable. -/
def Variable.eval (name : Variable) (request : Request) : Value :=
  match name with
  | .part p => .entity (request.part p)
  | .context => .record []

namespace Expr

mutual

/-- The value of an expression for a request; none if it cannot be found. -/
def eval (request : Request) : Expr → Option Value
  | .bool b => some (.bool b)
  | .int n => some (.int n)
  | .text s => some (.text s)
  | .entity e => some (.entity e)
  | .var v => some (v.eval request)
  | .ite condition yes no =>
    match (eval request condition).bind Value.toBool? with
    | some true => eval request yes
    | some false => eval request no
    | none => none
  | .both left right =>
    match (eval request left).bind Value.toBool? with
    | some true => ((eval request right).bind Value.toBool?).map .bool
    | some false => some (.bool false)
    | none => none
  | .either left right =>
    match (eval request left).bind Value.toBool? with
    | some true => some (.bool true)
    | some false => ((eval request right).bind Value.toBool?).map .bool
    | none => none
  | .not operand => ((eval request operand).bind Value.toBool?).map fun b => .bool !b
  | .negative operand => ((eval request operand).bind Value.toInt?).bind fun n => Value.ofInt? (-n)
  | .binary operator left right =>
    match eval request left, eval request right with
    | some a, some b => operator.valueOf? a b
    | _, _ => none
  | .like operand pattern =>
    ((eval request operand).bind Value.toText?).map fun s =>
      .bool (matchesPattern pattern s.toList)
  | .isOfType operand type =>
    ((eval request operand).bind Value.toEntity?).map fun e => .bool (e.type == type)
  | .has operand name => (eval request operand).bind (hasAttribute? name)
  | .get operand name => (eval request operand).bind (attribute? name)
  | .isEmpty operand => ((eval request operand).bind Value.toSet?).map fun xs => .bool xs.isEmpty
  | .set items => (evalAll request items).map .set
  | .record fields =>
    (evalFields request fields).map fun fs =>
      .record (stableSort (fun a b => Text.compare a.1 b.1) fs)
  | .call function arguments => (evalAll request arguments).bind function.valueOf?

/-- The values of expressions, if all have one. -/
def evalAll (request : Request) : List Expr → Option (List Value)
  | [] => some []
  | e :: es =>
    match eval request e, evalAll request es with
    | some v, some vs => some (v :: vs)
    | _, _ => none

/-- The values of fields, if all have one. -/
def evalFields (request : Request) : List (String × Expr) → Option (List (String × Value))
  | [] => some []
  | (name, e) :: fields =>
    match eval request e, evalFields request fields with
    | some v, some vs => some ((name, v) :: vs)
    | _, _ => none

end

/-- Whether an expression is true, or false; none if it is neither. -/
def truth (e : Expr) (request : Request) : Option Bool :=
  (e.eval request).bind Value.toBool?

end Expr

end FleetDashboard.Cedar
