import PipeArrow.RuleSet.Basic

namespace PipeArrow

/-- What a rule finds at the beginning of a text. A match may take more than its value. -/
inductive Attempt where
  | matched (value : List Char) (width : Nat)
  | missed
  /-- A boundary begins here and never ends. -/
  | unterminated
  deriving DecidableEq, Repr

namespace Lexing

def spend? (c : Char) : List (Char × Nat) → Option (List (Char × Nat))
  | [] => some []
  | (d, n) :: rest =>
    if c = d then
      match n with
      | 0 => none
      | n + 1 => some ((d, n) :: rest)
    else (spend? c rest).map ((d, n) :: ·)

/-- The longest beginning of a text in `tail` that keeps within the limits. -/
def takeTail (tail : Char → Bool) : List (Char × Nat) → List Char → List Char
  | _, [] => []
  | left, c :: cs =>
    if tail c then
      match spend? c left with
      | some left => c :: takeTail tail left cs
      | none => []
    else []

def takeOptionalTail (tail : Option (Char → Bool)) (left : List (Char × Nat)) (cs : List Char) :
    List Char :=
  match tail with
  | some tail => takeTail tail left cs
  | none => []

/-- The longest beginning of a text that has a head, if one is asked for, and then a tail. -/
def takeRun (head tail : Option (Char → Bool)) (limits : List (Char × Nat)) (cs : List Char) :
    List Char :=
  match head, cs with
  | none, cs => takeOptionalTail tail limits cs
  | some _, [] => []
  | some head, c :: cs => if head c then c :: takeOptionalTail tail limits cs else []

/-- What stands before the first occurrence of `closing` that begins inside the text. -/
def before? (closing : List Char) : List Char → Option (List Char)
  | [] => none
  | c :: cs =>
    if closing.isPrefixOf (c :: cs) then some []
    else (before? closing cs).map (c :: ·)

def matchedAll (value : List Char) : Attempt := .matched value value.length

def attemptBoundary (opening closing cs : List Char) : Attempt :=
  if opening.isPrefixOf cs then
    match before? closing (cs.drop opening.length) with
    | some inner => .matched (opening ++ inner) (opening.length + inner.length + closing.length)
    | none => .unterminated
  else .missed

variable [RegexEngine]

def attempt (rule : Rule) (cs : List Char) : Attempt :=
  match rule with
  | .equals literal => if literal.toList.isPrefixOf cs then matchedAll literal.toList else .missed
  | .oneOf literals =>
    match literals.find? (·.toList.isPrefixOf cs) with
    | some literal => matchedAll literal.toList
    | none => .missed
  | .pattern p => matchedAll (takeRun (p.head.map (·.has)) (p.tail.map (·.has)) p.limits.entries cs)
  | .boundary opening closing => attemptBoundary opening.toList closing.toList cs

structure Hit where
  kind : String
  value : List Char
  width : Nat
  deriving DecidableEq, Repr

/-- Tries the rules in order, at an offset, until one matches more than nothing, and tells the names
of the rules before it that are not terminated. The first of these refuses a strict reading. -/
def firstHit (strict : Bool) (offset : Nat) (cs : List Char) :
    List (String × Rule) → Except Fault (List String × Option Hit)
  | [] => .ok ([], none)
  | (name, rule) :: entries =>
    match attempt rule cs with
    | .matched value width =>
      if value.isEmpty then firstHit strict offset cs entries
      else .ok ([], some ⟨name, value, width⟩)
    | .missed => firstHit strict offset cs entries
    | .unterminated =>
      if strict then .error (.unterminated name (.point offset))
      else (firstHit strict offset cs entries).map fun found => (name :: found.1, found.2)

end Lexing

inductive Diagnostic where
  /-- A character that no rule matched; it was skipped. -/
  | unrecognized (c : Char) (span : Span)
  /-- A boundary of this rule began and never ended. -/
  | unterminated (rule : String) (span : Span)
  deriving DecidableEq, Repr

namespace Diagnostic

def span : Diagnostic → Span
  | unrecognized _ span | unterminated _ span => span

def isSkip : Diagnostic → Bool
  | unrecognized _ _ => true
  | unterminated _ _ => false

end Diagnostic

structure Visit where
  offset : Nat
  /-- The character there. -/
  char : Char
  /-- The rules that begin a boundary there which never ends, up to the one that wins. -/
  unterminated : List String
  hit : Option Lexing.Hit
  deriving DecidableEq, Repr

namespace Visit

variable [RegexEngine]

/-- What the rules make of the text `c :: cs` at an offset. A strict reading may skip blanks only. -/
def of (rules : RuleSet) (strict : Bool) (offset : Nat) (c : Char) (cs : List Char) :
    Except Fault Visit :=
  match Lexing.firstHit strict offset (c :: cs) rules.entries with
  | .error fault => .error fault
  | .ok (unterminated, hit) =>
    if strict ∧ hit.isNone ∧ ¬ Unicode.whiteSpace c then
      .error (.unrecognized c ⟨offset, offset + 1⟩)
    else .ok ⟨offset, c, unterminated, hit⟩

def width (v : Visit) : Nat :=
  match v.hit with
  | some hit => hit.width
  | none => 1

def token? (v : Visit) : Option Token :=
  v.hit.map fun hit => ⟨hit.kind, String.ofList hit.value, ⟨v.offset, v.offset + hit.width⟩⟩

def diagnostics (v : Visit) : List Diagnostic :=
  v.unterminated.map (.unterminated · (.point v.offset)) ++
    match v.hit with
    | some _ => []
    | none => [.unrecognized v.char ⟨v.offset, v.offset + 1⟩]

end Visit

structure Lexed where
  tokens : List Token
  diagnostics : List Diagnostic
  deriving DecidableEq, Repr

namespace Lexed

def ofVisits (visits : List Visit) : Lexed :=
  ⟨visits.filterMap Visit.token?, visits.flatMap Visit.diagnostics⟩

def skipped (l : Lexed) : Nat := l.diagnostics.countP Diagnostic.isSkip

def unterminated (l : Lexed) : Nat := l.diagnostics.countP (!·.isSkip)

end Lexed

namespace RuleSet

variable [RegexEngine]

/-- Goes through a text that begins at an offset. A strict reading ends at its first fault. -/
def visits (rules : RuleSet) (strict : Bool) (offset : Nat) :
    List Char → Except Fault (List Visit)
  | [] => .ok []
  | c :: cs =>
    match Visit.of rules strict offset c cs with
    | .error fault => .error fault
    | .ok v => (rules.visits strict (offset + v.width) (cs.drop (v.width - 1))).map (v :: ·)
termination_by cs => cs.length
decreasing_by rw [List.length_drop, List.length_cons]; omega

def lex (rules : RuleSet) (strict : Bool) (text : String) : Except Fault Lexed :=
  (rules.visits strict 0 text.toList).map Lexed.ofVisits

end RuleSet

end PipeArrow
