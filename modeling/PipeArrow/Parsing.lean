import PipeArrow.Expr.Basic
import PipeArrow.Fault

/-!
Reading expressions and statements from tokens. No operator binds stronger than another: an
expression is a value, one call or one function, and the stages behind it. A reader is given the
tokens from its first one on and tells how many of them it has read.
-/

namespace PipeArrow

namespace Parsing

inductive Role where
  /-- A statement, or the right side of an assignment. -/
  | statement
  /-- Between parentheses. -/
  | group
  /-- Behind a pipe. -/
  | stage
  /-- Behind an arrow. -/
  | body
  deriving DecidableEq, Repr

inductive Stop where
  | tokensEnd
  /-- At the second of two newlines, which it has read. -/
  | blankLine
  /-- At a closing parenthesis, which only a group has read. -/
  | close
  /-- At a pipe, which it has not read. -/
  | pipe
  /-- Behind a group. -/
  | group
  /-- Behind a number that stands alone. -/
  | number
  deriving DecidableEq, Repr

/-- Where a reader stands: its role, whether a group is around it, and the span of the token that
opened it. -/
structure Frame where
  role : Role
  inGroup : Bool
  origin : Span
  deriving DecidableEq, Repr

namespace Frame

def statement (origin : Span) : Frame := ⟨.statement, false, origin⟩

def child (f : Frame) (role : Role) (origin : Span) : Frame :=
  ⟨role, f.inGroup || role = .group, origin⟩

def missing (f : Frame) : Fault :=
  match f.role with
  | .stage => .danglingPipe f.origin
  | .body => .danglingArrow f.origin
  | .group => .unclosedParen f.origin
  | .statement => .unexpectedEnd "expected an expression" f.origin

def empty (f : Frame) : Fault :=
  match f.role with
  | .stage => .danglingPipe f.origin
  | .body => .danglingArrow f.origin
  | .group | .statement => .emptyExpression f.origin

end Frame

structure Reading where
  expr : Expr
  width : Nat
  stop : Stop
  deriving Repr

structure Parts where
  items : List Expr
  operator : Option String
  function : Option Expr
  stages : List Expr
  width : Nat
  stop : Stop
  deriving Repr

namespace Parts

def ending (width : Nat) (stop : Stop) : Parts := ⟨[], none, none, [], width, stop⟩

def addItem (e : Expr) (p : Parts) : Parts := { p with items := e :: p.items }

/-- Adds an operator before all other parts; of several operators the last one counts. -/
def addOperator (name : String) (p : Parts) : Parts :=
  { p with operator := p.operator.or (some name) }

def addStage (e : Expr) (p : Parts) : Parts := { p with stages := e :: p.stages }

/-- The value, call or function of the parts. Without an operator the first item is the name of the
call. -/
def head (p : Parts) (frame : Frame) : Except Fault Expr :=
  match p.function, p.operator, p.items with
  | some function, _, _ => .ok function
  | none, some name, args => .ok (.call name args [])
  | none, none, [] => .error frame.empty
  | none, none, [e] => .ok e
  | none, none, callee :: args =>
    match callee.literal? with
    | some name => .ok (.call name args [])
    | none => .error (.malformed "A parenthesized group cannot be called" frame.origin)

end Parts

def continuedNumber (next : Token) : Fault :=
  .malformed ("Expressions that begin with a number cannot be followed by anything else " ++
    s!"(found {next.text})") next.span

/-- A number takes the whole expression, which ends with its line. -/
def readNumber (number : Token) : List Token → Except Fault Reading
  | next :: _ =>
    if next.mark = .newline then .ok ⟨.number number.value, 1, .number⟩
    else .error (continuedNumber next)
  | [] => .ok ⟨.number number.value, 1, .number⟩

/-- Reads the parts of an expression that begins at `start`, from behind its first `read` tokens on.
`afterNewline` tells whether the last of these is a newline, and `readChild` reads the expressions
inside. -/
def readParts (readChild : Role → Span → List Token → Except Fault Reading) (frame : Frame)
    (start : List Token) (afterNewline : Bool) (read : Nat) : List Token → Except Fault Parts
  | [] => .ok (.ending read .tokensEnd)
  | token :: rest =>
    match token.mark with
    | .identity =>
      (readParts readChild frame start false (read + 1) rest).map
        (·.addItem (.identity token.value))
    | .number =>
      (readParts readChild frame start false (read + 1) rest).map (·.addItem (.number token.value))
    | .string =>
      (readParts readChild frame start false (read + 1) rest).map (·.addItem (.string token.value))
    | .operator =>
      (readParts readChild frame start false (read + 1) rest).map (·.addOperator token.value)
    | .newline =>
      if afterNewline then .ok (.ending (read + 1) .blankLine)
      else readParts readChild frame start true (read + 1) rest
    | .arrow =>
      (readChild .body token.span rest).map fun body =>
        let closed := if body.stop = .close ∧ frame.role = .group then 1 else 0
        { Parts.ending (read + 1 + body.width + closed) body.stop with
          function := some (.function ((start.take read).map (·.value)) body.expr []) }
    | .parenOpen => do
      let group ← readChild .group token.span rest
      if group.stop = .close then
        return (Parts.ending (read + 1 + group.width) .group).addItem group.expr
      else throw (.unclosedParen token.span)
    | .parenClose =>
      if frame.role = .group then .ok (.ending (read + 1) .close)
      else if frame.inGroup then .ok (.ending read .close)
      else .error (.unmatchedParen token.span)
    | .pipe =>
      if frame.role = .stage then .ok (.ending read .pipe)
      else
        match readChild .stage token.span rest with
        | .error fault => .error fault
        | .ok stage =>
          if stage.stop = .blankLine ∨ stage.stop = .tokensEnd then
            .ok ((Parts.ending (read + 1 + stage.width) stage.stop).addStage stage.expr)
          else
            (readParts readChild frame start false (read + 1 + stage.width)
              (rest.drop stage.width)).map (·.addStage stage.expr)
    | .equals | .comment | .other => readParts readChild frame start false (read + 1) rest
termination_by rest => rest.length
decreasing_by
  all_goals simp only [List.length_drop, List.length_cons]
  all_goals omega

/-- A group owns the closing parenthesis behind its parts, and nothing else may stand behind a group
that ends it. -/
def closeGroup (frame : Frame) (start : List Token) (p : Parts) : Except Fault Parts :=
  if frame.role = .group ∧ p.stop ≠ .close then
    match start.drop p.width with
    | next :: _ =>
      if next.mark = .parenClose then .ok { p with width := p.width + 1, stop := .close }
      else if p.stop = .group then .error (.trailingAfterGroup next.span)
      else .ok p
    | [] => .ok p
  else .ok p

/-- Reads an expression, with at most `budget` expressions inside one another. -/
def readNested (limit : Nat) : Nat → Frame → List Token → Except Fault Reading
  | 0, frame, _ => .error (.depthLimit limit frame.origin)
  | budget + 1, frame, start =>
    match start with
    | [] => .error frame.missing
    | first :: rest =>
      if first.mark = .number then readNumber first rest
      else do
        let readChild role origin := readNested limit budget (frame.child role origin)
        let parts ← readParts readChild frame start false 0 start
        let parts ← closeGroup frame start parts
        let head ← parts.head frame
        return ⟨head.pipeInto parts.stages, parts.width, parts.stop⟩

def readTop (limit : Nat) (origin : Span) (tokens : List Token) : Except Fault Reading :=
  readNested limit (limit + 1) (.statement origin) tokens

/-- The span of the token at an index, or of the last one, or of no text if there are no tokens. -/
def spanAt (tokens : List Token) (index : Nat) : Span :=
  match tokens[index]? with
  | some token => token.span
  | none => (tokens.getLast?.map (·.span)).getD .zero

end Parsing

open Parsing in
/-- Reads the expression that begins at the token with this index, and tells the index of its last
token. -/
def readExpression (limit : Nat) (tokens : List Token) (index : Nat) :
    Except Fault (Expr × Nat) :=
  (readTop limit (spanAt tokens index) (tokens.drop index)).map fun r =>
    (r.expr, index + r.width - 1)

namespace Parsing

inductive Opening where
  | skipped
  /-- Nothing, as it closes what is not open. -/
  | closing
  | expression
  /-- An assignment, with this token behind the name. -/
  | assignment (equals : Token)
  deriving DecidableEq, Repr

def opening (token : Token) (rest : List Token) : Opening :=
  match token.mark with
  | .identity =>
    match rest with
    | next :: _ => if next.mark = .equals then .assignment next else .expression
    | [] => .expression
  | .number | .operator | .string | .parenOpen => .expression
  | .parenClose => .closing
  | .newline | .arrow | .pipe | .equals | .comment | .other => .skipped

end Parsing

open Parsing in
def parseProgram (limit : Nat) : List Token → Except Fault (List Statement)
  | [] => .ok []
  | token :: rest =>
    match opening token rest with
    | .skipped => parseProgram limit rest
    | .closing => .error (.unmatchedParen token.span)
    | .expression =>
      match readTop limit token.span (token :: rest) with
      | .error fault => .error fault
      | .ok r => (parseProgram limit (rest.drop (r.width - 1))).map (.expression r.expr :: ·)
    | .assignment equals =>
      match readTop limit equals.span rest.tail with
      | .error fault => .error fault
      | .ok r =>
        (parseProgram limit (rest.tail.drop r.width)).map (.assignment token.value r.expr :: ·)
termination_by tokens => tokens.length
decreasing_by
  all_goals simp only [List.length_drop, List.length_cons, List.length_tail]
  all_goals omega

def defaultDepth : Nat := 256

end PipeArrow
