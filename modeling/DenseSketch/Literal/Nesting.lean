import DenseSketch.Literal.Token

/-!
# Nesting of expressions

How deep an expression is nested, as far as its tokens show: within the open brackets, every sign in
front of an operand, every member, call and access behind one, and every operator adds a level.  A
comma starts anew.
-/

namespace DenseSketch.Literal

/-- The levels at one place within brackets. -/
structure Levels where
  /-- The levels of the brackets around the place. -/
  around : Nat := 0
  /-- The operators so far. -/
  operators : Nat := 0
  /-- The signs, members, calls and accesses of the operand. -/
  operand : Nat := 0

namespace Levels

def total (l : Levels) : Nat := l.around + l.operators + l.operand

/-- Behind an operator, in front of the next operand. -/
def behindOperator (l : Levels) : Levels :=
  { l with operators := l.operators + 1, operand := 0 }

def deeper (l : Levels) (levels : Nat) : Levels := { l with operand := l.operand + levels }

def restarted (l : Levels) : Levels := { around := l.around }

end Levels

namespace Token

structure Weights where
  bracket : Nat
  operator : Nat
  trailer : Nat
  sign : Nat
  power : Nat
  function : Nat

/-- Does the token end an operand, so that a bracket behind it belongs to the operand? -/
def endsOperand : Token → Bool
  | .punctuation mark => closings.contains mark
  | .keyword _ => false
  | _ => true

def leftOperators : List String :=
  ["+", "-", "*", "/", "//", "%", "@", "<<", ">>", "&", "^", "|"]

def levelsBehind (w : Weights) (isBehindOperand : Bool) (l : Levels) : Token → Levels
  | .punctuation "," => l.restarted
  | .punctuation "**" => l.deeper w.power
  | .punctuation "." => l.deeper w.trailer
  | .punctuation "~" => l.deeper w.sign
  | .punctuation mark =>
    if !leftOperators.contains mark then l
    else if !isBehindOperand then l.deeper w.sign
    else if w.operator = 0 then { l with operand := 0 }
    else l.behindOperator
  | .keyword "not" => l.deeper w.sign
  | .keyword "else" => l.deeper w.sign
  | .keyword "lambda" => l.deeper w.function
  | .keyword "and" | .keyword "or" => l.restarted
  | _ => l

/-- The greatest number of levels at any place, given the one so far.  `outer` are the levels in
    front of the open brackets, each with those that its bracket adds to the operand. -/
def deepest (w : Weights) (most : Nat) (isBehindOperand : Bool) (l : Levels)
    (outer : List (Levels × Nat)) : List Token → Nat
  | [] => most
  | t :: rest =>
    match t with
    | .punctuation mark =>
      if openings.contains mark then
        let trailer := if isBehindOperand then w.trailer else 0
        let inner : Levels := { around := l.total + w.bracket }
        deepest w (max most inner.total) false inner ((l, trailer) :: outer) rest
      else if closings.contains mark then
        match outer with
        | (before, trailer) :: outer =>
          let l := before.deeper trailer
          deepest w (max most l.total) true l outer rest
        | [] => deepest w most true l [] rest
      else
        let l := levelsBehind w isBehindOperand l t
        deepest w (max most l.total) (endsOperand t) l outer rest
    | t =>
      let l := levelsBehind w isBehindOperand l t
      deepest w (max most l.total) (endsOperand t) l outer rest

/-- How deep the nodes of an expression are nested. -/
def nesting (ts : List Token) : Nat :=
  deepest ⟨1, 1, 1, 1, 1, 1⟩ 0 false {} [] ts

/-- How many rules of the reader wait for each other. -/
def room (ts : List Token) : Nat :=
  deepest ⟨28, 0, 0, 1, 2, 2⟩ 0 false {} [] ts

end Token

end DenseSketch.Literal
