import FleetDashboard.Cedar.Policy
import FleetDashboard.Cedar.Token

/-!
# Reading policies

Policies are read from their tokens one after the other: annotations, an effect, a head with a test
for each part of the request, further conditions, a semicolon. Operators bind in the usual order;
of those that compare only one may stand between two operands. A comma may stand behind the last
item of a list.

* `Expr.read`: an expression.
* `readPolicy`: a policy.
* `parse?`: the policies of a text.
-/

namespace FleetDashboard.Cedar

/-! ## Names -/

/-- The words that are no names. -/
def reservedWords : List String :=
  ["true", "false", "if", "then", "else", "in", "is", "like", "has", "__cedar"]

/-- Whether a word may be a name. -/
def isName (word : String) : Bool :=
  !reservedWords.contains word

/-- A path of names behind its first ones; it ends in front of two colons with a quoted text. -/
def readPathFrom (path : TypeName) : List Token → Option (TypeName × List Token)
  | .sign "::" :: .word name :: rest =>
    if isName name then readPathFrom (path ++ [name]) rest else none
  | rest => some (path, rest)

/-- A path of names, such as a type. -/
def readPath : List Token → Option (TypeName × List Token)
  | .word name :: rest => if isName name then readPathFrom [name] rest else none
  | _ => none

/-- One given sign. -/
def readSign (text : String) : List Token → Option (List Token)
  | .sign other :: rest => if text = other then some rest else none
  | _ => none

/-- One given word. -/
def readWord (name : String) : List Token → Option (List Token)
  | .word other :: rest => if name = other then some rest else none
  | _ => none

/-! ## Expressions -/

namespace Expr

/-- The operators that compare, with the expression that each makes of its operands. -/
def comparison? : Token → Option (Expr → Expr → Expr)
  | .sign "==" => some (.binary .equals)
  | .sign "!=" => some fun a b => .not (.binary .equals a b)
  | .sign "<" => some (.binary .less)
  | .sign "<=" => some (.binary .lessOrEquals)
  | .sign ">" => some fun a b => .not (.binary .lessOrEquals a b)
  | .sign ">=" => some fun a b => .not (.binary .less a b)
  | .word "in" => some (.binary .within)
  | _ => none

/-- Whether there are all attributes of a path, each an attribute of the one before. -/
def hasPath (operand : Expr) (first : String) : List String → Expr
  | [] => .has operand first
  | next :: rest => .both (.has operand first) (hasPath (.get operand first) next rest)

/-- The names behind points. -/
def readPoints : List Token → Option (List String × List Token)
  | .sign "." :: .word name :: rest =>
    if isName name then (readPoints rest).map fun (names, r) => (name :: names, r) else none
  | rest => some ([], rest)

/-- The attributes asked for behind `has`: a quoted text, or names with points between them. -/
def readHas (operand : Expr) : List Token → Option (Expr × List Token)
  | .quoted content :: rest => (unescape? content).map fun name => (.has operand name, rest)
  | .word name :: rest =>
    if isName name then
      (readPoints rest).map fun (names, r) => (hasPath operand name names, r)
    else none
  | _ => none

/-- The call of a method by its name. -/
def method? (name : String) (target : Expr) (arguments : List Expr) : Option Expr :=
  match name, arguments with
  | "contains", [e] => some (.binary .contains target e)
  | "containsAll", [e] => some (.binary .containsAll target e)
  | "containsAny", [e] => some (.binary .containsAny target e)
  | "hasTag", [e] => some (.binary .hasTag target e)
  | "getTag", [e] => some (.binary .getTag target e)
  | "isEmpty", [] => some (.isEmpty target)
  | _, _ =>
    (Extension.find? Extension.methods name).map fun f => .call f (target :: arguments)

/-- The function that a path of names is. -/
def functionOf? : TypeName → Option Extension
  | [name] => Extension.find? Extension.functions name
  | _ => none

/-- The variable that a path of names is. -/
def variableOf? : TypeName → Option Expr
  | [name] => (Variable.ofName? name).map .var
  | _ => none

/-- Whether a token goes on with an operand: a point, a bracket or a parenthesis. -/
def goesOn : Option Token → Bool
  | some (.sign s) => [".", "[", "("].contains s
  | _ => false

/-- How many times a sign stands in front. -/
def countSign (text : String) (ts : List Token) : Nat :=
  (ts.takeWhile (· == .sign text)).length

/-- The most signs in a row that turn an operand round. -/
def maxTurns : Nat := 4

/-- The greatest whole number that an expression can write. -/
def maxInt : Nat := 9223372036854775807

mutual

/-- An expression. Each function of this group goes at most `fuel` deep. -/
def readWithin : Nat → List Token → Option (Expr × List Token)
  | 0, _ => none
  | fuel + 1, .word "if" :: rest => do
    let (condition, rest) ← readWithin fuel rest
    let rest ← readWord "then" rest
    let (yes, rest) ← readWithin fuel rest
    let rest ← readWord "else" rest
    let (no, rest) ← readWithin fuel rest
    return (.ite condition yes no, rest)
  | fuel + 1, ts => do
    let (first, rest) ← readBoth fuel ts
    readEitherFrom fuel first rest

/-- Further operands of which one has to hold. -/
def readEitherFrom : Nat → Expr → List Token → Option (Expr × List Token)
  | 0, _, _ => none
  | fuel + 1, left, .sign "||" :: rest => do
    let (right, rest) ← readBoth fuel rest
    readEitherFrom fuel (.either left right) rest
  | _, left, rest => some (left, rest)

/-- Operands that all have to hold. -/
def readBoth : Nat → List Token → Option (Expr × List Token)
  | 0, _ => none
  | fuel + 1, ts => do
    let (first, rest) ← readRelation fuel ts
    readBothFrom fuel first rest

/-- Further operands that have to hold. -/
def readBothFrom : Nat → Expr → List Token → Option (Expr × List Token)
  | 0, _, _ => none
  | fuel + 1, left, .sign "&&" :: rest => do
    let (right, rest) ← readRelation fuel rest
    readBothFrom fuel (.both left right) rest
  | _, left, rest => some (left, rest)

/-- An operand, perhaps compared with another one. -/
def readRelation : Nat → List Token → Option (Expr × List Token)
  | 0, _ => none
  | fuel + 1, ts => do
    let (left, rest) ← readSum fuel ts
    match rest with
    | .word "has" :: rest => readHas left rest
    | .word "like" :: .quoted content :: rest =>
      (pattern? content).map fun pattern => (.like left pattern, rest)
    | .word "is" :: rest =>
      let (type, rest) ← readPath rest
      match rest with
      | .word "in" :: rest =>
        let (place, rest) ← readSum fuel rest
        return (.both (.isOfType left type) (.binary .within left place), rest)
      | _ => return (.isOfType left type, rest)
    | token :: others =>
      match comparison? token with
      | some compare =>
        let (right, rest) ← readSum fuel others
        return (compare left right, rest)
      | none => return (left, rest)
    | [] => return (left, rest)

/-- A sum. -/
def readSum : Nat → List Token → Option (Expr × List Token)
  | 0, _ => none
  | fuel + 1, ts => do
    let (first, rest) ← readProduct fuel ts
    readSumFrom fuel first rest

/-- Further terms of a sum. -/
def readSumFrom : Nat → Expr → List Token → Option (Expr × List Token)
  | 0, _, _ => none
  | fuel + 1, left, .sign "+" :: rest => do
    let (right, rest) ← readProduct fuel rest
    readSumFrom fuel (.binary .plus left right) rest
  | fuel + 1, left, .sign "-" :: rest => do
    let (right, rest) ← readProduct fuel rest
    readSumFrom fuel (.binary .minus left right) rest
  | _, left, rest => some (left, rest)

/-- A product. -/
def readProduct : Nat → List Token → Option (Expr × List Token)
  | 0, _ => none
  | fuel + 1, ts => do
    let (first, rest) ← readTurned fuel ts
    readProductFrom fuel first rest

/-- Further factors of a product. -/
def readProductFrom : Nat → Expr → List Token → Option (Expr × List Token)
  | 0, _, _ => none
  | fuel + 1, left, .sign "*" :: rest => do
    let (right, rest) ← readTurned fuel rest
    readProductFrom fuel (.binary .times left right) rest
  | _, left, rest => some (left, rest)

/-- An operand that signs in front may turn round. A minus sign belongs to the number behind it,
which may then be one greater than without. -/
def readTurned : Nat → List Token → Option (Expr × List Token)
  | 0, _ => none
  | fuel + 1, ts =>
    let nots := countSign "!" ts
    let minuses := countSign "-" ts
    if maxTurns < nots || maxTurns < minuses then none
    else if 0 < minuses then
      match ts.drop minuses with
      | .number n :: rest =>
        if goesOn rest.head? then do
          let (e, rest) ← readOperand fuel (.number n :: rest)
          return (Nat.repeat .negative minuses e, rest)
        else if n ≤ maxInt + 1 then
          some (Nat.repeat .negative (minuses - 1) (.int (-n)), rest)
        else none
      | rest => do
        let (e, rest) ← readOperand fuel rest
        return (Nat.repeat .negative minuses e, rest)
    else do
      let (e, rest) ← readOperand fuel (ts.drop nots)
      return (Nat.repeat .not nots e, rest)

/-- An operand with what is taken of it. -/
def readOperand : Nat → List Token → Option (Expr × List Token)
  | 0, _ => none
  | fuel + 1, ts => do
    let (e, rest) ← readPrimary fuel ts
    readAccesses fuel e rest

/-- Attributes and methods behind an operand. -/
def readAccesses : Nat → Expr → List Token → Option (Expr × List Token)
  | 0, _, _ => none
  | fuel + 1, e, .sign "." :: .word name :: .sign "(" :: rest =>
    if isName name then do
      let (arguments, rest) ← readItems fuel ")" rest
      let call ← method? name e arguments
      readAccesses fuel call rest
    else none
  | fuel + 1, e, .sign "." :: .word name :: rest =>
    if isName name then readAccesses fuel (.get e name) rest else none
  | fuel + 1, e, .sign "[" :: .quoted content :: .sign "]" :: rest => do
    let name ← unescape? content
    readAccesses fuel (.get e name) rest
  | _, e, rest => some (e, rest)

/-- An operand alone. -/
def readPrimary : Nat → List Token → Option (Expr × List Token)
  | 0, _ => none
  | _, .word "true" :: rest => some (.bool true, rest)
  | _, .word "false" :: rest => some (.bool false, rest)
  | _, .number n :: rest => if n ≤ maxInt then some (.int n, rest) else none
  | _, .quoted content :: rest => (unescape? content).map fun s => (.text s, rest)
  | fuel + 1, .sign "(" :: rest => do
    let (e, rest) ← readWithin fuel rest
    return (e, ← readSign ")" rest)
  | fuel + 1, .sign "[" :: rest => do
    let (items, rest) ← readItems fuel "]" rest
    return (.set items, rest)
  | fuel + 1, .sign "\x7b" :: rest => do
    let (fields, rest) ← readFields fuel rest
    if (fields.map (·.1)).Nodup then return (.record fields, rest) else none
  | fuel + 1, ts => do
    let (path, rest) ← readPath ts
    match rest with
    | .sign "::" :: .quoted content :: rest =>
      let id ← unescape? content
      return (.entity { type := path, id }, rest)
    | .sign "(" :: rest =>
      let function ← functionOf? path
      let (arguments, rest) ← readItems fuel ")" rest
      return (.call function arguments, rest)
    | _ =>
      return (← variableOf? path, rest)

/-- Expressions with commas between them, up to a closing sign. -/
def readItems : Nat → String → List Token → Option (List Expr × List Token)
  | 0, _, _ => none
  | fuel + 1, close, ts =>
    match readSign close ts with
    | some rest => some ([], rest)
    | none => do
      let (e, rest) ← readWithin fuel ts
      match readSign "," rest with
      | some rest =>
        let (es, rest) ← readItems fuel close rest
        return (e :: es, rest)
      | none => return ([e], ← readSign close rest)

/-- The fields of a record with commas between them, up to its closing brace. -/
def readFields : Nat → List Token → Option (List (String × Expr) × List Token)
  | 0, _ => none
  | fuel + 1, ts =>
    match readSign "\x7d" ts with
    | some rest => some ([], rest)
    | none => do
      let (name, rest) ←
        match ts with
        | .word name :: rest => if isName name then some (name, rest) else none
        | .quoted content :: rest => (unescape? content).map fun name => (name, rest)
        | _ => none
      let rest ← readSign ":" rest
      let (e, rest) ← readWithin fuel rest
      match readSign "," rest with
      | some rest =>
        let (fields, rest) ← readFields fuel rest
        return ((name, e) :: fields, rest)
      | none => return ([(name, e)], ← readSign "\x7d" rest)

end

/-- An expression. A token takes the functions above at most a dozen steps deeper. -/
def read (ts : List Token) : Option (Expr × List Token) :=
  readWithin (12 * (ts.length + 1)) ts

end Expr

/-! ## The head of a policy -/

/-- Where a policy's head asks a part to be. -/
inductive Place where
  /-- At an entity. -/
  | one (entity : Entity)
  /-- At one of a list of entities. -/
  | many (entities : List Entity)
  /-- At what is yet to be filled in, under a name. -/
  | blank (name : String)
deriving DecidableEq

mutual

/-- A place: an entity, a list of them, or a blank, perhaps in parentheses. It goes at most `fuel`
deep. -/
def readPlaceWithin : Nat → List Token → Option (Place × List Token)
  | 0, _ => none
  | fuel + 1, .sign "(" :: rest => do
    let (place, rest) ← readPlaceWithin fuel rest
    return (place, ← readSign ")" rest)
  | fuel + 1, .sign "[" :: rest => do
    let (entities, rest) ← readEntities fuel rest
    return (.many entities, rest)
  | _, .blank name :: rest => some (.blank name, rest)
  | _, ts => do
    let (path, rest) ← readPath ts
    match rest with
    | .sign "::" :: .quoted content :: rest =>
      let id ← unescape? content
      return (.one { type := path, id }, rest)
    | _ => none

/-- Entities with commas between them, up to a closing bracket. -/
def readEntities : Nat → List Token → Option (List Entity × List Token)
  | 0, _ => none
  | fuel + 1, ts =>
    match readSign "]" ts with
    | some rest => some ([], rest)
    | none => do
      let (place, rest) ← readPlaceWithin fuel ts
      let entity ←
        match place with
        | .one entity => some entity
        | _ => none
      match readSign "," rest with
      | some rest =>
        let (entities, rest) ← readEntities fuel rest
        return (entity :: entities, rest)
      | none => return ([entity], ← readSign "]" rest)

end

/-- A place. -/
def readPlace (ts : List Token) : Option (Place × List Token) :=
  readPlaceWithin (ts.length + 1) ts

/-- The test of being at a place, or in it. Only an action may be tested against a list, and only
against actions; a blank is for the part whose name it has, and never for an action. -/
def Place.test? (part : Part) (within : Bool) : Place → Option HeadTest
  | .one entity =>
    if part = .action && !entity.isAction then none
    else some (if within then .within [entity] else .equals entity)
  | .many entities =>
    if part = .action && within && entities.all (·.isAction) then some (.within entities) else none
  | .blank name => if part ≠ .action && name = part.name then some .blank else none

/-- The test of being of a type and in a place. -/
def Place.typedTest? (part : Part) (type : TypeName) : Place → Option HeadTest
  | .one entity => some (.ofTypeWithin type entity)
  | .many _ => none
  | .blank name => if name = part.name then some .blank else none

/-- The test behind a part's name in the head of a policy. An action is never tested for its
type. -/
def readTest (part : Part) : List Token → Option (HeadTest × List Token)
  | .sign "==" :: rest => do
    let (place, rest) ← readPlace rest
    return (← place.test? part false, rest)
  | .word "in" :: rest => do
    let (place, rest) ← readPlace rest
    return (← place.test? part true, rest)
  | .word "is" :: rest =>
    if part = .action then none
    else do
      let (type, rest) ← readPath rest
      match rest with
      | .word "in" :: rest =>
        let (place, rest) ← readPlace rest
        return (← place.typedTest? part type, rest)
      | _ => return (.ofType type, rest)
  | rest => some (.any, rest)

/-- A part's name and its test. -/
def readPart (part : Part) (ts : List Token) : Option (HeadTest × List Token) := do
  readTest part (← readWord part.name ts)

/-! ## Policies -/

/-- The annotations in front of a policy, each a name that may have a text. They have no effect but
that no name may come twice. -/
def readAnnotations (seen : List String) : List Token → Option (List Token)
  | .sign "@" :: .word name :: .sign "(" :: .quoted content :: .sign ")" :: rest =>
    if seen.contains name || (unescape? content).isNone then none
    else readAnnotations (name :: seen) rest
  | .sign "@" :: .word name :: rest =>
    if seen.contains name then none else readAnnotations (name :: seen) rest
  | rest => some rest

/-- The clauses up to the semicolon that ends a policy, at most `fuel` of them. -/
def readClauses : Nat → List Token → Option (List Clause × List Token)
  | _, .sign ";" :: rest => some ([], rest)
  | fuel + 1, .word name :: .sign "\x7b" :: rest => do
    let wanted ← if name = "when" then some true else if name = "unless" then some false else none
    let (condition, rest) ← Expr.read rest
    let rest ← readSign "\x7d" rest
    let (more, rest) ← readClauses fuel rest
    return ({ wanted, condition } :: more, rest)
  | _, _ => none

/-- The effect that a policy has when it applies: whether it permits. -/
def readEffect : List Token → Option (Bool × List Token)
  | .word "permit" :: rest => some (true, rest)
  | .word "forbid" :: rest => some (false, rest)
  | _ => none

/-- One policy. -/
def readPolicy (ts : List Token) : Option (Policy × List Token) := do
  let rest ← readAnnotations [] ts
  let (permits, rest) ← readEffect rest
  let rest ← readSign "(" rest
  let (principal, rest) ← readPart .principal rest
  let rest ← readSign "," rest
  let (action, rest) ← readPart .action rest
  let rest ← readSign "," rest
  let (resource, rest) ← readPart .resource rest
  let rest := (readSign "," rest).getD rest
  let rest ← readSign ")" rest
  let (clauses, rest) ← readClauses rest.length rest
  return ({ permits, principal, action, resource, clauses }, rest)

/-- Policies up to the end, at most `fuel` of them. -/
def readPolicies : Nat → List Token → Option (List Policy)
  | _, [] => some []
  | 0, _ => none
  | fuel + 1, ts => do
    let (policy, rest) ← readPolicy ts
    return policy :: (← readPolicies fuel rest)

/-- The policies of a text; nothing if it cannot be read. -/
def parse? (text : String) : Option (List Policy) := do
  let ts ← tokens? text
  readPolicies ts.length ts

end FleetDashboard.Cedar
