import PipeArrow.Expr.Json
import PipeArrow.Report.Json
import PipeArrow.RuleSet.Builtin
import PipeArrow.RuleSet.Document

namespace PipeArrow

namespace CommandLine

inductive Command where
  | tokens | parse | check
  deriving DecidableEq, Repr

def Command.ofName? : String → Option Command
  | "tokens" => some tokens
  | "parse" => some parse
  | "check" => some check
  | _ => none

inductive Setting where
  | rules (file : String)
  | maxDepth (text : String)
  | strict
  deriving DecidableEq, Repr

/-- What an argument, or an option with the value behind it, is. -/
inductive Piece where
  | setting (s : Setting)
  | word (text : String)
  /-- Two hyphens alone, behind which all arguments are words. -/
  | separator
  | version
  | help
  | unknown
  deriving DecidableEq, Repr

def splitOption (cs : List Char) : String × Option String :=
  let name := String.ofList (cs.takeWhile (· ≠ '='))
  match cs.dropWhile (· ≠ '=') with
  | [] => (name, none)
  | _ :: value => (name, some (String.ofList value))

/-- Whether an argument is no option, and so may be the value of one. A hyphen alone is none. -/
def isWord (argument : String) : Bool :=
  match argument.toList with
  | '-' :: _ :: _ => false
  | _ => true

/-- The option that a name and the text behind its equals sign make without more arguments. -/
def closedOption : String × Option String → Piece
  | ("rules", some value) => .setting (.rules value)
  | ("max-depth", some value) => .setting (.maxDepth value)
  | ("strict", none) => .setting .strict
  | ("version", none) => .version
  | ("help", none) => .help
  | _ => .unknown

/-- The option of a name that has to have a value. -/
def openOption? : String × Option String → Option (String → Setting)
  | ("rules", none) => some .rules
  | ("max-depth", none) => some .maxDepth
  | _ => none

def shortOption : Char → Piece
  | 'V' => .version
  | 'h' => .help
  | _ => .unknown

def pieces : List String → List Piece
  | [] => []
  | argument :: rest =>
    match argument.toList with
    | ['-', '-'] => .separator :: rest.map .word
    | '-' :: '-' :: cs =>
      match openOption? (splitOption cs) with
      | none => closedOption (splitOption cs) :: pieces rest
      | some option =>
        match rest with
        | value :: rest =>
          if isWord value then .setting (option value) :: pieces rest else [.unknown]
        | [] => [.unknown]
    | '-' :: c :: _ => shortOption c :: pieces rest
    | _ => .word argument :: pieces rest

structure Settings where
  rules : Option String
  maxDepth : Option Nat
  strict : Bool
  deriving DecidableEq, Repr

/-- A number in decimal digits, below 2^64, maybe behind a plus sign. -/
def depth? (text : String) : Option Nat :=
  let digits := match text.toList with
    | '+' :: ds => ds
    | ds => ds
  let n := Json.digitsValue digits
  if digits ≠ [] ∧ digits.all Char.isDigit ∧ n < Json.countLimit then some n else none

namespace Settings

def none : Settings := ⟨.none, .none, false⟩

/-- Adds an option, which must be usable and not be there yet. -/
def add? (s : Settings) : Setting → Option Settings
  | .rules file => if s.rules.isSome ∨ file = "" then .none else some { s with rules := some file }
  | .maxDepth text =>
    if s.maxDepth.isSome then .none
    else (depth? text).map fun n => { s with maxDepth := some n }
  | .strict => if s.strict then .none else some { s with strict := true }

/-- The options of both sides, of which those behind the command's name count more. -/
def followedBy (a b : Settings) : Settings :=
  ⟨b.rules.or a.rules, b.maxDepth.or a.maxDepth, a.strict || b.strict⟩

end Settings

structure Request where
  command : Command
  input : String
  settings : Settings
  deriving DecidableEq, Repr

inductive Invocation where
  | run (request : Request)
  | version
  | help
  | refused
  deriving DecidableEq, Repr

def behindCommand (command : Command) (outer inner : Settings) (input : Option String) :
    List Piece → Invocation
  | [] =>
    match input with
    | some input => .run ⟨command, input, outer.followedBy inner⟩
    | none => .refused
  | .setting s :: rest =>
    match inner.add? s with
    | some inner => behindCommand command outer inner input rest
    | none => .refused
  | .word text :: rest =>
    if input.isSome ∨ text = "" then .refused
    else behindCommand command outer inner (some text) rest
  | .separator :: rest => behindCommand command outer inner input rest
  | .help :: _ => .help
  | .version :: _ | .unknown :: _ => .refused

/-- Reads what stands before the command's name, and then all else. -/
def beforeCommand (outer : Settings) : List Piece → Invocation
  | .setting s :: rest =>
    match outer.add? s with
    | some outer => beforeCommand outer rest
    | none => .refused
  | .word "help" :: rest =>
    match rest with
    | [] => .help
    | [.word text] => if (Command.ofName? text).isSome ∨ text = "help" then .help else .refused
    | _ => .refused
  | .word text :: rest =>
    match Command.ofName? text with
    | some command => behindCommand command outer .none none rest
    | none => .refused
  | .version :: _ => .version
  | .help :: _ => .help
  | [] | .separator :: _ | .unknown :: _ => .refused

def Invocation.ofArguments (arguments : List String) : Invocation :=
  beforeCommand .none (pieces arguments)

inductive Stored where
  | missing
  | directory
  | bytes (content : ByteArray)

def Stored.text : Stored → Except String String
  | missing => .error "No such file or directory (os error 2)"
  | directory => .error "Is a directory (os error 21)"
  | bytes content =>
    match String.fromUTF8? content with
    | some text => .ok text
    | none => .error "stream did not contain valid UTF-8"

structure Answer where
  code : Nat
  stdout : String
  stderr : String
  deriving DecidableEq, Repr

namespace Answer

def success (stdout : String) : Answer := ⟨0, stdout, ""⟩

def failure (message : String) : Answer := ⟨1, "", s!"Error: {message}\n"⟩

end Answer

namespace Request

def options (r : Request) : Options := ⟨r.settings.strict, r.settings.maxDepth.getD defaultDepth⟩

def source (r : Request) (files : String → Stored) : Except String String :=
  ((files r.input).text).mapError fun problem => s!"failed to read {r.input}: {problem}"

def rules (r : Request) (files : String → Stored) : Except Fault RuleSet :=
  match r.settings.rules with
  | none => .ok RuleSet.builtin
  | some file =>
    match (files file).text with
    | .ok text => RuleSet.ofDocument text
    | .error problem => .error (.unreadable s!"Failed to read {file}: {problem}")

def rulesMessage (r : Request) (fault : Fault) : String :=
  match r.settings.rules with
  | some file => s!"failed to load rules from {file}: {fault.message}"
  | none => fault.message

/-- The output of a command that prints what `print` makes of the text, or what is wrong. -/
def printed (r : Request) (files : String → Stored)
    (print : RuleSet → String → Except Fault String) : Answer :=
  match r.source files with
  | .error message => .failure message
  | .ok text =>
    match r.rules files with
    | .error fault => .failure (r.rulesMessage fault)
    | .ok rules =>
      match print rules text with
      | .error fault => .failure fault.message
      | .ok output => .success output

def printTokens (r : Request) (rules : RuleSet) (text : String) : Except Fault String :=
  (rules.lex r.options.strict text).map fun lexed =>
    String.join (lexed.tokens.map fun t => t.text ++ "\n")

def printStatements (statements : List Statement) : String :=
  String.join (statements.map fun s => s.toJson.text .pretty ++ "\n")

def report (r : Request) (files : String → Stored) : Report :=
  match r.source files with
  | .error message => .ofFault r.input (.unreadable message)
  | .ok text =>
    .ofOutcome r.input ((r.rules files).bind fun rules => Program.ofText text rules r.options)

def answer (r : Request) (files : String → Stored) : Answer :=
  match r.command with
  | .tokens => r.printed files r.printTokens
  | .parse =>
    r.printed files fun rules text =>
      (Program.ofText text rules r.options).map fun p => printStatements p.statements
  | .check =>
    let report := r.report files
    ⟨if report.success then 0 else 1, report.text .pretty ++ "\n", ""⟩

end Request

def versionLine : String := "pipesc 0.1.0\n"

def helpText : String :=
  "Usage: pipesc [--rules FILE] [--max-depth N] [--strict] tokens|parse|check INPUT\n"

def respond (arguments : List String) (files : String → Stored) : Answer :=
  match Invocation.ofArguments arguments with
  | .run request => request.answer files
  | .version => .success versionLine
  | .help => .success helpText
  | .refused => ⟨2, "", helpText⟩

def filesOf (arguments : List String) : List String :=
  match Invocation.ofArguments arguments with
  | .run request => request.input :: request.settings.rules.toList
  | _ => []

end CommandLine

end PipeArrow
