namespace PipeArrow

inductive AtomKind where
  | identity | number | string
  deriving DecidableEq, Repr

/-- A value, a call or a function, and the stages that it is piped through. -/
inductive Expr where
  | atom (kind : AtomKind) (text : String) (stages : List Expr)
  | call (name : String) (args : List Expr) (stages : List Expr)
  /-- A function, with the values of all tokens before its arrow. -/
  | function (params : List String) (body : Expr) (stages : List Expr)
  deriving Repr, Inhabited

namespace Expr

def identity (text : String) : Expr := atom .identity text []

def number (text : String) : Expr := atom .number text []

def string (text : String) : Expr := atom .string text []

def stages : Expr → List Expr
  | atom _ _ stages | call _ _ stages | function _ _ stages => stages

def pipeInto (more : List Expr) : Expr → Expr
  | atom kind text stages => atom kind text (stages ++ more)
  | call name args stages => call name args (stages ++ more)
  | function params body stages => function params body (stages ++ more)

def literal? : Expr → Option String
  | atom _ text _ => some text
  | call _ _ _ | function _ _ _ => none

end Expr

inductive Statement where
  | assignment (name : String) (expr : Expr)
  | expression (expr : Expr)
  deriving Repr, Inhabited

end PipeArrow
