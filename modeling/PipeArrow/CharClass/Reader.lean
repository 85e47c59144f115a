import PipeArrow.CharClass.Expr
import PipeArrow.Unicode.Property

namespace PipeArrow.CharClass

/-- What is left of the text, whether blanks are dropped, and the names of the groups so far. -/
structure ReaderState where
  rest : List Char
  verbose : Bool
  names : List String

abbrev Reader := StateT ReaderState Option

namespace Reader

def rest : Reader (List Char) := return (← get).rest

def setRest (cs : List Char) : Reader Unit := modify ({ · with rest := cs })

def dropBlank : Bool → List Char → List Char
  | _, [] => []
  | inComment, c :: cs =>
    if inComment then dropBlank (c != '\n') cs
    else if Unicode.whiteSpace c then dropBlank false cs
    else if c = '#' then dropBlank true cs
    else c :: cs

/-- Under `verbose`, drops the blanks and comments that come next. -/
def skipBlank : Reader Unit :=
  modify fun s => if s.verbose then { s with rest := dropBlank false s.rest } else s

def advance (cs : List Char) : Reader Unit := do
  setRest cs
  skipBlank

def takeWhile (p : Char → Bool) : Nat → Reader (List Char)
  | 0 => return []
  | n + 1 => do
    match ← rest with
    | c :: cs =>
      if p c then
        advance cs
        return c :: (← takeWhile p n)
      else return []
    | [] => return []

def takeAll (p : Char → Bool) : Reader (List Char) := do takeWhile p (← rest).length

def expect (c : Char) : Reader Unit := do
  match ← rest with
  | d :: cs => if c = d then setRest cs else failure
  | [] => failure

def isHex (c : Char) : Bool :=
  ('0' ≤ c && c ≤ '9') || ('a' ≤ c && c ≤ 'f') || ('A' ≤ c && c ≤ 'F')

def hexValue (digits : List Char) : Nat :=
  digits.foldl (fun n c => 16 * n + Unicode.digitValue c) 0

def scalar? (n : Nat) : Option Char := if n.isValidChar then some (Char.ofNat n) else none

/-- Reads a code point: between braces any number of digits, else just `width`. -/
def codePoint (width : Nat) : Reader Char := do
  skipBlank
  match ← rest with
  | '\x7b' :: cs =>
    advance cs
    let digits ← takeAll isHex
    expect '\x7d'
    skipBlank
    guard (digits ≠ [])
    scalar? (hexValue digits)
  | _ =>
    let digits ← takeWhile isHex width
    guard (digits.length = width)
    scalar? (hexValue digits)

/-- The two parts of a text around the first place where `mark` stands. -/
def splitAt? (mark : List Char) : List Char → Option (List Char × List Char)
  | [] => none
  | c :: cs =>
    if mark.isPrefixOf (c :: cs) then some ([], (c :: cs).drop mark.length)
    else (splitAt? mark cs).map fun (before, after) => (c :: before, after)

def propertyName (cs : List Char) : PropertyName :=
  let value (differs : Bool) (parts : List Char × List Char) : PropertyName :=
    .withValue (String.ofList parts.1) (String.ofList parts.2) differs
  match splitAt? ['!', '='] cs with
  | some parts => value true parts
  | none =>
    match splitAt? [':'] cs <|> splitAt? ['='] cs with
    | some parts => value false parts
    | none => .alone (String.ofList cs)

def property : Reader PropertyName := do
  skipBlank
  match ← rest with
  | '\x7b' :: cs =>
    advance cs
    let name ← takeAll (· ≠ '\x7d')
    expect '\x7d'
    return propertyName name
  | c :: cs =>
    guard (c ≠ '\\')
    advance cs
    return .alone (String.singleton c)
  | [] => failure

/-- Reads what stands between braces behind `\b`, unless a count of repetitions stands there. -/
def boundaryKind : Reader Anchor := do
  let before ← get
  match before.rest with
  | '\x7b' :: cs =>
    advance cs
    let isNamed (c : Char) : Bool := c.isAlpha || c = '-'
    match ← rest with
    | [] => failure
    | c :: _ =>
      if isNamed c then
        let name ← takeAll isNamed
        expect '\x7d'
        match String.ofList name with
        | "start" => return .wordStart
        | "end" => return .wordEnd
        | "start-half" => return .wordStartHalf
        | "end-half" => return .wordEndHalf
        | _ => failure
      else
        set before
        return .wordBoundary
  | _ => return .wordBoundary

/-- Characters that a backslash may stand before without a meaning of their own. -/
def isEscapable (c : Char) : Bool := c.toNat < 128 && !c.isAlphanum && c ≠ '<' && c ≠ '>'

def escape : Reader Expr := do
  match ← rest with
  | [] => failure
  | c :: cs =>
    setRest cs
    match c with
    | 'x' =>
      skipBlank
      match ← rest with
      | '\x7b' :: _ => return .literal (← codePoint 2)
      | _ => return .byte (← codePoint 2)
    | 'u' => return .literal (← codePoint 4)
    | 'U' => return .literal (← codePoint 8)
    | 'p' => return .property (← property) false
    | 'P' => return .property (← property) true
    | 'd' => return .shorthand .digit false
    | 'D' => return .shorthand .digit true
    | 's' => return .shorthand .space false
    | 'S' => return .shorthand .space true
    | 'w' => return .shorthand .word false
    | 'W' => return .shorthand .word true
    | 'a' => return .literal '\x07'
    | 'f' => return .literal '\x0c'
    | 't' => return .literal '\t'
    | 'n' => return .literal '\n'
    | 'r' => return .literal '\r'
    | 'v' => return .literal '\x0b'
    | 'A' => return .anchor .textStart
    | 'z' => return .anchor .textEnd
    | 'b' => return .anchor (← boundaryKind)
    | 'B' => return .anchor .notWordBoundary
    | '<' => return .anchor .wordStart
    | '>' => return .anchor .wordEnd
    | c => if isEscapable c then return .literal c else failure

/-- A class such as `[:alpha:]` behind its opening bracket, and the rest behind it. -/
def posixClass? (cs : List Char) : Option (SetExpr × List Char) :=
  match cs with
  | ':' :: cs =>
    let (negated, cs) := match cs with
      | '^' :: cs => (true, cs)
      | _ => (false, cs)
    match cs.dropWhile (· ≠ ':') with
    | ':' :: ']' :: after =>
      (PosixClass.ofName? (String.ofList (cs.takeWhile (· ≠ ':')))).map
        fun name => (.posix name negated, after)
    | _ => none
  | _ => none

/-- Reads one member of a set: an escape, or a character that stands for itself. -/
def setMember : Reader Expr := do
  match ← rest with
  | '\\' :: cs =>
    setRest cs
    escape
  | c :: cs =>
    setRest cs
    return .literal c
  | [] => failure

def memberSet? : Expr → Option SetExpr
  | .literal c | .byte c => some (.literal c)
  | .shorthand name negated => some (.shorthand name negated)
  | .property name negated => some (.property name negated)
  | _ => none

def memberLiteral? : Expr → Option Char
  | .literal c | .byte c => some c
  | _ => none

/-- Whether the hyphen before `cs` stands for itself or for a difference, and not for a range.
Under `verbose`, blanks before the next character do not count, and neither does one `#`. -/
def endsMember (verbose : Bool) (cs : List Char) : Bool :=
  let next :=
    if verbose then
      match cs.dropWhile Unicode.whiteSpace with
      | '#' :: after => after.dropWhile Unicode.whiteSpace
      | after => after
    else cs
  match next with
  | ']' :: _ | '-' :: _ => true
  | _ => false

def setItem : Reader SetExpr := do
  let first ← setMember
  skipBlank
  let s ← get
  match s.rest with
  | [] => failure
  | '-' :: cs =>
    if endsMember s.verbose cs then memberSet? first
    else
      advance cs
      let last ← setMember
      let low ← memberLiteral? first
      let high ← memberLiteral? last
      guard (low ≤ high)
      return .range low high
  | _ => memberSet? first

def leadingHyphens : Nat → Reader (List SetExpr)
  | 0 => return []
  | n + 1 => do
    match ← rest with
    | '-' :: cs =>
      advance cs
      return .literal '-' :: (← leadingHyphens n)
    | _ => return []

/-- Reads the beginning of a set behind its bracket: whether it is negated, and the characters that
stand for themselves only there. -/
def setOpening : Reader (Bool × List SetExpr) := do
  skipBlank
  let negated ← (do
    match ← rest with
    | '^' :: cs =>
      advance cs
      return true
    | _ => return false)
  let hyphens ← leadingHyphens (← rest).length
  match hyphens, ← rest with
  | [], ']' :: cs =>
    advance cs
    return (negated, [.literal ']'])
  | _, _ => return (negated, hyphens)

/-- The set of the operation that waits for its right side, or that side alone. -/
def combine (pending : Option (SetOperation × SetExpr)) (items : List SetExpr) : SetExpr :=
  let right := SetExpr.unionOf items.reverse
  match pending with
  | some (op, left) => .operation op left right
  | none => right

mutual

def bracketed : Nat → Reader (Bool × SetExpr)
  | 0 => failure
  | fuel + 1 => do
    let (negated, items) ← setOpening
    return (negated, ← setBody fuel items none)

/-- Reads the rest of a set. `items` are the members of the current union, the last one first, and
`pending` is the operation whose right side this union is. -/
def setBody : Nat → List SetExpr → Option (SetOperation × SetExpr) → Reader SetExpr
  | 0, _, _ => failure
  | fuel + 1, items, pending => do
    skipBlank
    match ← rest with
    | [] => failure
    | '[' :: cs =>
      match posixClass? cs with
      | some (item, after) =>
        setRest after
        setBody fuel (item :: items) pending
      | none =>
        setRest cs
        let (negated, set) ← bracketed fuel
        setBody fuel (.bracketed negated set :: items) pending
    | ']' :: cs =>
      setRest cs
      return combine pending items
    | '&' :: '&' :: cs =>
      setRest cs
      setBody fuel [] (some (.intersection, combine pending items))
    | '-' :: '-' :: cs =>
      setRest cs
      setBody fuel [] (some (.difference, combine pending items))
    | '~' :: '~' :: cs =>
      setRest cs
      setBody fuel [] (some (.symmetricDifference, combine pending items))
    | _ =>
      let item ← setItem
      setBody fuel (item :: items) pending

end

/-- Reads flag letters up to a colon or a closing parenthesis, which is left. -/
def flagLetters? (on : Bool) (seen : FlagSettings) :
    List Char → Option (FlagSettings × List Char)
  | ':' :: cs => some (seen.reverse, ':' :: cs)
  | ')' :: cs => some (seen.reverse, ')' :: cs)
  | '-' :: cs =>
    match on, cs with
    | false, _ | _, ':' :: _ | _, ')' :: _ => none
    | true, cs => flagLetters? false seen cs
  | c :: cs => do
    let flag ← Flag.ofLetter? c
    guard (flag ∉ seen.map (·.1))
    flagLetters? on ((flag, on) :: seen) cs
  | [] => none

def isNameStart (c : Char) : Bool := c = '_' || Unicode.alphabetic c

def isNameCharacter (c : Char) : Bool :=
  c ∈ ['_', '.', '[', ']'] || Unicode.alphabetic c || Unicode.numeric c

def groupName : Reader Unit := do
  let cs ← rest
  let name := cs.takeWhile (· ≠ '>')
  match name with
  | [] => failure
  | c :: more =>
    guard (isNameStart c ∧ more.all isNameCharacter)
    let name := String.ofList name
    let s ← get
    guard (name ∉ s.names)
    set { s with names := name :: s.names, rest := cs.drop name.length }
    expect '>'

/-- Reads the opening of a group behind its parenthesis: the settings of the group, and what it
makes of its body, unless it has none and its settings hold from here on. -/
def groupOpening : Reader (FlagSettings × Option (Expr → Expr)) := do
  skipBlank
  match ← rest with
  | '?' :: '=' :: _ | '?' :: '!' :: _ | '?' :: '<' :: '=' :: _ | '?' :: '<' :: '!' :: _ => failure
  | '?' :: 'P' :: '<' :: cs | '?' :: '<' :: cs =>
    setRest cs
    groupName
    return ([], some .capture)
  | '?' :: cs =>
    let (settings, after) ← flagLetters? true [] cs
    match after with
    | ':' :: after =>
      setRest after
      return (settings, some (.group settings))
    | ')' :: after =>
      guard (settings ≠ [])
      setRest after
      return (settings, none)
    | _ => failure
  | _ => return ([], some .capture)

def setVerbose (settings : FlagSettings) : Reader Unit :=
  match settings.lookup .verbose with
  | some on => modify ({ · with verbose := on })
  | none => return ()

def isRepeatable : Expr → Bool
  | .flags _ => false
  | _ => true

def repetitionLimit : Nat := 4294967296

def isAsciiDigit (c : Char) : Bool := '0' ≤ c && c ≤ '9'

def repetitionCount : Reader Nat := do
  setRest ((← rest).dropWhile Unicode.whiteSpace)
  let digits ← takeAll isAsciiDigit
  setRest ((← rest).dropWhile Unicode.whiteSpace)
  let n := digits.foldl (fun n c => 10 * n + Unicode.digitValue c) 0
  guard (digits ≠ [] ∧ n < repetitionLimit)
  return n

def repetitionCounts : Reader (Nat × Option Nat) := do
  skipBlank
  let min ← repetitionCount
  match ← rest with
  | ',' :: cs =>
    advance cs
    match ← rest with
    | '\x7d' :: cs =>
      setRest cs
      return (min, none)
    | _ =>
      let max ← repetitionCount
      expect '\x7d'
      guard (min ≤ max)
      return (min, some max)
  | _ =>
    expect '\x7d'
    return (min, some min)

def skipLazy : Reader Unit := do
  match ← rest with
  | '?' :: cs => setRest cs
  | _ => return ()

/-- The items of a sequence, the last one first, with the last one repeated. -/
def repeatLast (min : Nat) (max : Option Nat) : List Expr → Reader (List Expr)
  | [] => failure
  | e :: items => if isRepeatable e then return .repetition min max e :: items else failure

mutual

def branches : Nat → Reader (List Expr)
  | 0 => failure
  | fuel + 1 => do
    let branch := Expr.sequenceOf (← items fuel [])
    match ← rest with
    | '|' :: cs =>
      setRest cs
      return branch :: (← branches fuel)
    | _ => return [branch]

/-- Reads items up to a bar, a closing parenthesis or the end. `read` are the items so far, the last
one first. -/
def items : Nat → List Expr → Reader (List Expr)
  | 0, _ => failure
  | fuel + 1, read => do
    skipBlank
    match ← rest with
    | [] | ')' :: _ | '|' :: _ => return read.reverse
    | '(' :: cs =>
      setRest cs
      let outside := (← get).verbose
      let (settings, group?) ← groupOpening
      setVerbose settings
      match group? with
      | some group =>
        let body := Expr.alternativesOf (← branches fuel)
        expect ')'
        modify ({ · with verbose := outside })
        items fuel (group body :: read)
      | none => items fuel (.flags settings :: read)
    | '[' :: cs =>
      setRest cs
      let (negated, set) ← bracketed fuel
      items fuel (.bracketed negated set :: read)
    | '?' :: cs =>
      setRest cs
      skipLazy
      items fuel (← repeatLast 0 (some 1) read)
    | '*' :: cs =>
      setRest cs
      skipLazy
      items fuel (← repeatLast 0 none read)
    | '+' :: cs =>
      setRest cs
      skipLazy
      items fuel (← repeatLast 1 none read)
    | '\x7b' :: cs =>
      setRest cs
      let (min, max) ← repetitionCounts
      skipBlank
      skipLazy
      items fuel (← repeatLast min max read)
    | '\\' :: cs =>
      setRest cs
      let e ← escape
      items fuel (e :: read)
    | '.' :: cs =>
      setRest cs
      items fuel (.dot :: read)
    | '^' :: cs =>
      setRest cs
      items fuel (.anchor .lineStart :: read)
    | '$' :: cs =>
      setRest cs
      items fuel (.anchor .lineEnd :: read)
    | c :: cs =>
      setRest cs
      items fuel (.literal c :: read)

end

end Reader

namespace Expr

/-- The expression of a text, if it has one that is not nested too deep. -/
def ofChars? (cs : List Char) : Option Expr := do
  let (branches, s) ← (Reader.branches (2 * cs.length + 2)).run ⟨cs, false, []⟩
  let e := alternativesOf branches
  guard (s.rest = [] ∧ e.depth ≤ depthLimit)
  return e

end Expr

end PipeArrow.CharClass
