import Effects.Failure
import Effects.Value

/-!
# Expressions

The value language of scripts. Every expression has a value: an operand of the wrong type counts as
zero, as an empty list or as `null`, so evaluation never fails.
-/

namespace Effects.Script

/-- An expression. -/
inductive Expr where
  /-- A constant. -/
  | const (v : Value)
  /-- A list of the values of expressions. -/
  | list (items : List Expr)
  /-- An object of the values of expressions. -/
  | obj (fields : List (String × Expr))
  /-- A variable. -/
  | var (name : String)
  /-- A field of an object. -/
  | get (e key : Expr)
  /-- The sum of two numbers. -/
  | add (a b : Expr)
  /-- The product of two numbers. -/
  | mul (a b : Expr)
  /-- Whether one number is below another. -/
  | lt (a b : Expr)
  /-- Whether two values are equal. -/
  | eq (a b : Expr)
  /-- Whether a value is other than `true`. -/
  | not (e : Expr)
  /-- A choice by a truth value. -/
  | cond (c a b : Expr)
  /-- The text of a value. -/
  | str (e : Expr)
  /-- The concatenation of plain texts. -/
  | cat (items : List Expr)
  /-- A text, otherwise `null`. -/
  | asStr (e : Expr)
  /-- A number, otherwise `null`. -/
  | asNum (e : Expr)
  /-- A truth value, otherwise `null`. -/
  | asBool (e : Expr)
  /-- A list, otherwise `null`. -/
  | asList (e : Expr)
  /-- Whether a value is `null`. -/
  | isNull (e : Expr)
  /-- The length of a list. -/
  | len (e : Expr)
  /-- An element of a list. -/
  | at (l i : Expr)
  /-- A list with one more element. -/
  | push (l e : Expr)
  /-- The numbers from zero up to, and without, a bound. -/
  | range (n : Expr)
  /-- A text repeated. -/
  | rep (n s : Expr)
  /-- A value inside one-element lists. -/
  | nest (n e : Expr)

/-- A value as a number; what is no number counts as zero. -/
def number (v : Value) : Float := v.asNum?.getD 0

/-- A value as a count: truncated, with nothing below zero. -/
def count (v : Value) : Nat := (number v).toUInt64.toNat

/-- A value as a condition. -/
def truthy (v : Value) : Bool :=
  match v with
  | .bool b => b
  | _ => false

/-- A value as a list; what is no list counts as empty. -/
def elements (v : Value) : List Value := v.asList?.getD []

/-- A whole number as a value. -/
def ofNat (n : Nat) : Value := .num (Decimal.ofInt n)

/-- The value itself if a condition holds, otherwise `null`. -/
def keepIf (condition : Bool) (v : Value) : Value := if condition then v else .null

/-- A value inside a number of one-element lists. -/
def nested : Nat → Value → Value
  | 0, v => v
  | n + 1, v => nested n (.list [v])

mutual

/-- The value of an expression, given the values of the variables. A variable without a value is
`null`. -/
def Expr.eval (vars : List (String × Value)) : Expr → Value
  | .const v => v
  | .list items => .list (evalItems vars items)
  | .obj fields => .ofFields (evalFields vars fields)
  | .var name => (vars.lookup name).getD .null
  | .get e key => ((e.eval vars).get? (key.eval vars).plain).getD .null
  | .add a b => .num (number (a.eval vars) + number (b.eval vars))
  | .mul a b => .num (number (a.eval vars) * number (b.eval vars))
  | .lt a b => .bool (number (a.eval vars) < number (b.eval vars))
  | .eq a b => .bool (a.eval vars == b.eval vars)
  | .not e => .bool (!truthy (e.eval vars))
  | .cond c a b => if truthy (c.eval vars) then a.eval vars else b.eval vars
  | .str e => .str (e.eval vars).render
  | .cat items => .str (String.join ((evalItems vars items).map Value.plain))
  | .asStr e => let v := e.eval vars; keepIf v.asStr?.isSome v
  | .asNum e => let v := e.eval vars; keepIf v.asNum?.isSome v
  | .asBool e => let v := e.eval vars; keepIf v.asBool?.isSome v
  | .asList e => let v := e.eval vars; keepIf v.asList?.isSome v
  | .isNull e => .bool (e.eval vars).isNull
  | .len e => ofNat (elements (e.eval vars)).length
  | .at l i => (elements (l.eval vars))[count (i.eval vars)]?.getD .null
  | .push l e => .list (elements (l.eval vars) ++ [e.eval vars])
  | .range n => .list ((List.range (count (n.eval vars))).map ofNat)
  | .rep n s => .str (String.join (List.replicate (count (n.eval vars)) (s.eval vars).plain))
  | .nest n e => nested (count (n.eval vars)) (e.eval vars)

/-- The values of the elements of a list. -/
def evalItems (vars : List (String × Value)) : List Expr → List Value
  | [] => []
  | e :: rest => e.eval vars :: evalItems vars rest

/-- The values of the fields of an object. -/
def evalFields (vars : List (String × Value)) : List (String × Expr) → List (String × Value)
  | [] => []
  | (name, e) :: rest => (name, e.eval vars) :: evalFields vars rest

end

/-- A failure whose texts are computed. -/
inductive FailureExpr where
  | unhandledCommand (kind : Expr)
  | asyncFailure (source : FailureExpr)
  | escapeLeak (token state : Expr)
  | alreadyCompleted
  | payloadMismatch (kind expected : Expr)
  | handler (kind message : Expr)
  | abandoned

/-- The failure, given the values of the variables. -/
def FailureExpr.eval (vars : List (String × Value)) : FailureExpr → Failure
  | .unhandledCommand kind => .unhandledCommand (kind.eval vars).plain
  | .asyncFailure source => .asyncFailure (source.eval vars)
  | .escapeLeak token state => .escapeLeak (token.eval vars).plain (state.eval vars).plain
  | .alreadyCompleted => .alreadyCompleted
  | .payloadMismatch kind expected =>
    .payloadMismatch (kind.eval vars).plain (expected.eval vars).plain
  | .handler kind message => .handler (kind.eval vars).plain (message.eval vars).plain
  | .abandoned => .abandoned

end Effects.Script
