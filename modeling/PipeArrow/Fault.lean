import PipeArrow.Token

namespace PipeArrow

inductive Fault where
  | unrecognized (c : Char) (span : Span)
  | unterminated (rule : String) (span : Span)
  | malformed (message : String) (span : Span)
  | unexpectedEnd (context : String) (span : Span)
  | unclosedParen (span : Span)
  | unmatchedParen (span : Span)
  | trailingAfterGroup (span : Span)
  | danglingPipe (span : Span)
  | danglingArrow (span : Span)
  | emptyExpression (span : Span)
  | depthLimit (limit : Nat) (span : Span)
  | invalidRule (name message : String)
  | config (message : String)
  | unreadable (message : String)
  deriving DecidableEq, Repr, Inhabited

namespace Fault

def message : Fault → String
  | unrecognized c span => s!"Unrecognized input {Text.quoteChar c} at offset {span.start}"
  | unterminated rule span =>
    s!"Unterminated {rule}: no closing delimiter after offset {span.start}"
  | malformed message _ => s!"Syntax error: {message}"
  | unexpectedEnd context _ => s!"Unexpected end of input: {context}"
  | unclosedParen _ => "Unclosed parenthesis"
  | unmatchedParen _ => "Unmatched closing parenthesis"
  | trailingAfterGroup _ =>
    "Unexpected token after a nested group; the group must be closed here"
  | danglingPipe _ => "Pipe is not followed by an expression"
  | danglingArrow _ => "Arrow is not followed by a function body"
  | emptyExpression _ => "Expected expression"
  | depthLimit limit _ => s!"Expression nesting exceeds the limit of {limit}"
  | invalidRule name message => s!"Invalid rule {name}: {message}"
  | config message => s!"Configuration error: {message}"
  | unreadable message => s!"IO error: {message}"

def span? : Fault → Option Span
  | unrecognized _ span | unterminated _ span | malformed _ span | unexpectedEnd _ span
  | unclosedParen span | unmatchedParen span | trailingAfterGroup span | danglingPipe span
  | danglingArrow span | emptyExpression span | depthLimit _ span => some span
  | invalidRule _ _ | config _ | unreadable _ => none

end Fault

end PipeArrow
