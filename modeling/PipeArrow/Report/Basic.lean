import PipeArrow.Program

namespace PipeArrow

inductive Severity where
  | error | warning
  deriving DecidableEq, Repr

structure Location where
  file : String
  start : Nat
  stop : Nat
  deriving DecidableEq, Repr

namespace Location

def ofSpan (file : String) (span : Span) : Location := ⟨file, span.start, span.stop⟩

end Location

structure Finding where
  code : String
  severity : Severity
  message : String
  location : Option Location
  /-- What may be done about it. -/
  hint : Option String
  deriving DecidableEq, Repr

structure Stats where
  tokens : Nat
  statements : Nat
  /-- The characters that were skipped, blanks among them. -/
  skipped : Nat
  deriving DecidableEq, Repr

structure Report where
  success : Bool
  file : String
  findings : List Finding
  stats : Stats
  deriving DecidableEq, Repr

namespace Fault

def code : Fault → String
  | malformed _ _ => "E0001"
  | unexpectedEnd _ _ => "E0002"
  | unclosedParen _ => "E0003"
  | unmatchedParen _ => "E0004"
  | danglingPipe _ => "E0005"
  | danglingArrow _ => "E0006"
  | emptyExpression _ => "E0007"
  | depthLimit _ _ => "E0008"
  | unrecognized _ _ => "E0009"
  | unterminated _ _ => "E0010"
  | invalidRule _ _ => "E0011"
  | config _ => "E0012"
  | unreadable _ => "E0013"
  | trailingAfterGroup _ => "E0014"

def hint? : Fault → Option String
  | malformed _ _ => some "Put the number on its own line, or move it after a name"
  | unexpectedEnd _ _ => some "Add an expression after '='"
  | unclosedParen _ => some "Add the missing ')'"
  | unmatchedParen _ => some "Remove the extra ')'"
  | trailingAfterGroup _ =>
    some "Close the group right after its nested group, or split the expression"
  | danglingPipe _ => some "Add an expression after '|'"
  | danglingArrow _ => some "Add a function body after '->'"
  | depthLimit _ _ => some "Flatten the expression or raise --max-depth"
  | unrecognized _ _ => some "Add a rule for this input or drop --strict"
  | unterminated _ _ => some "Add the closing delimiter"
  | emptyExpression _ | invalidRule _ _ | config _ | unreadable _ => none

end Fault

namespace Finding

def ofFault (file : String) (fault : Fault) : Finding :=
  ⟨fault.code, .error, fault.message, fault.span?.map (Location.ofSpan file), fault.hint?⟩

/-- The warning about something that a text has. Skipped blanks are nothing to warn of. -/
def ofDiagnostic? (file : String) : Diagnostic → Option Finding
  | .unrecognized c span =>
    if Unicode.whiteSpace c then none
    else
      some ⟨"W0001", .warning, s!"Unrecognized character {Text.quoteChar c} was skipped",
        some (.ofSpan file span), none⟩
  | .unterminated rule span =>
    some ⟨"W0002", .warning, s!"{rule} is never closed", some (.ofSpan file span), none⟩

end Finding

namespace Report

def ofProgram (file : String) (p : Program) : Report :=
  ⟨true, file, p.lexed.diagnostics.filterMap (Finding.ofDiagnostic? file),
    ⟨p.lexed.tokens.length, p.statements.length, p.lexed.skipped⟩⟩

def ofFault (file : String) (fault : Fault) : Report :=
  ⟨false, file, [.ofFault file fault], ⟨0, 0, 0⟩⟩

def ofOutcome (file : String) : Except Fault Program → Report
  | .ok p => ofProgram file p
  | .error fault => ofFault file fault

end Report

end PipeArrow
