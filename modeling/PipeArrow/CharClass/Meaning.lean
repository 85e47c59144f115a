import PipeArrow.CharClass.Expr
import PipeArrow.Unicode.CaseFolding
import PipeArrow.Unicode.Named

namespace PipeArrow.CharClass

structure Match where
  before : Bool
  across : Bool
  behind : Bool
  deriving DecidableEq, Repr

namespace Match

def none : Match := ⟨false, false, false⟩

def empty : Match := ⟨true, false, true⟩

def both (a b : Match) : Match :=
  ⟨a.before && b.before, (a.before && b.across) || (a.across && b.behind), a.behind && b.behind⟩

def either (a b : Match) : Match :=
  ⟨a.before || b.before, a.across || b.across, a.behind || b.behind⟩

def power (m : Match) : Nat → Match
  | 0 => empty
  | 1 => m
  | _ + 2 => m.both m

/-- At least `min` and at most `max` times. From two on, the number of times makes no difference,
so the first three numbers stand for all. -/
def repeated (m : Match) (min : Nat) (max : Option Nat) : Match :=
  let counts := [min, min + 1, min + 2].filter fun n => max.all (n ≤ ·)
  counts.foldl (fun found n => found.either (m.power n)) none

def isSome (m : Match) : Bool := m.before || m.across || m.behind

end Match

/-- What an expression matches, for each character that the text may hold. -/
abbrev Meaning := Char → Match

structure Mode where
  ignoreCase : Bool
  multiLine : Bool
  dotMatchesNewline : Bool
  unicode : Bool
  crlf : Bool
  deriving DecidableEq, Repr

namespace Mode

def initial : Mode := ⟨false, false, false, true, false⟩

def set (mode : Mode) : Flag × Bool → Mode
  | (.ignoreCase, on) => { mode with ignoreCase := on }
  | (.multiLine, on) => { mode with multiLine := on }
  | (.dotMatchesNewline, on) => { mode with dotMatchesNewline := on }
  | (.unicode, on) => { mode with unicode := on }
  | (.crlf, on) => { mode with crlf := on }
  | (.swapGreed, _) | (.verbose, _) => mode

def setAll (mode : Mode) (settings : FlagSettings) : Mode := settings.foldl set mode

end Mode

def inRange (first last c : Char) : Bool := first ≤ c && c ≤ last

def isAscii (c : Char) : Bool := c.toNat < 128

def toggleAsciiCase (c : Char) : Char := if c.isUpper then c.toLower else c.toUpper

def ignoringCase (mode : Mode) (set : Char → Bool) : Char → Bool :=
  if !mode.ignoreCase then set
  else if mode.unicode then fun c => (Unicode.caseVariants c).any set
  else fun c => set c || set (toggleAsciiCase c)

/-- The complement of a set. Without Unicode there is none, as it would hold bytes that are no
text. -/
def complement? (mode : Mode) (negated : Bool) (set : Char → Bool) : Option (Char → Bool) :=
  if !negated then some set
  else if mode.unicode then some fun c => !set c
  else none

namespace PosixClass

def has (name : PosixClass) (c : Char) : Bool :=
  match name with
  | alnum => inRange '0' '9' c || inRange 'A' 'Z' c || inRange 'a' 'z' c
  | alpha => inRange 'A' 'Z' c || inRange 'a' 'z' c
  | ascii => isAscii c
  | blank => c = '\t' || c = ' '
  | cntrl => c.toNat < 0x20 || c.toNat = 0x7F
  | digit => inRange '0' '9' c
  | graph => inRange '!' '~' c
  | lower => inRange 'a' 'z' c
  | print => inRange ' ' '~' c
  | punct => inRange '!' '/' c || inRange ':' '@' c || inRange '[' '\x60' c || inRange '\x7b' '~' c
  | space => inRange '\t' '\r' c || c = ' '
  | upper => inRange 'A' 'Z' c
  | word => inRange '0' '9' c || inRange 'A' 'Z' c || c = '_' || inRange 'a' 'z' c
  | xdigit => inRange '0' '9' c || inRange 'A' 'F' c || inRange 'a' 'f' c

end PosixClass

namespace Shorthand

def has (unicode : Bool) : Shorthand → Char → Bool
  | digit => if unicode then Unicode.decimalDigit else PosixClass.digit.has
  | space => if unicode then Unicode.whiteSpace else PosixClass.space.has
  | word => if unicode then Unicode.wordCharacter else PosixClass.word.has

end Shorthand

namespace PropertyName

def property? : PropertyName → Option Unicode.Property
  | alone name => Unicode.propertyNamed? name
  | withValue name value _ => Unicode.propertyValued? name value

end PropertyName

namespace SetOperation

def apply : SetOperation → Bool → Bool → Bool
  | intersection, l, r => l && r
  | difference, l, r => l && !r
  | symmetricDifference, l, r => l ^^ r

end SetOperation

/-- The set of a property by its name, which has a meaning only under Unicode. -/
def propertySet? (mode : Mode) (name : PropertyName) (negated : Bool) : Option (Char → Bool) := do
  guard mode.unicode
  complement? mode (negated ^^ name.differs) (ignoringCase mode (← name.property?))

namespace SetExpr

mutual

/-- The characters of a set. Without Unicode it may hold ASCII characters only. -/
def members? (mode : Mode) : SetExpr → Option (Char → Bool)
  | literal c => if mode.unicode || isAscii c then some (· == c) else none
  | range first last =>
    if mode.unicode || isAscii last then some (inRange first last) else none
  | posix name negated => complement? mode negated (ignoringCase mode name.has)
  | shorthand name negated => complement? mode negated (name.has mode.unicode)
  | property name negated => propertySet? mode name negated
  | bracketed negated set => do complement? mode negated (ignoringCase mode (← set.members? mode))
  | union sets => membersOfAny? mode sets
  | operation op left right => do
    let l := ignoringCase mode (← left.members? mode)
    let r := ignoringCase mode (← right.members? mode)
    return fun c => op.apply (l c) (r c)

def membersOfAny? (mode : Mode) : List SetExpr → Option (Char → Bool)
  | [] => some fun _ => false
  | s :: sets => do
    let first ← s.members? mode
    let others ← membersOfAny? mode sets
    return fun c => first c || others c

end

end SetExpr

namespace Anchor

/-- Where an anchor holds. At either position it sees the character on one side, and the end of the
text on the other. -/
def meaning (mode : Mode) (a : Anchor) : Meaning := fun c =>
  let isWord := Shorthand.word.has mode.unicode c
  let endsLine := c = '\n' || (mode.crlf && c = '\r')
  match a with
  | textStart => ⟨true, false, false⟩
  | textEnd => ⟨false, false, true⟩
  | lineStart => ⟨true, false, mode.multiLine && endsLine⟩
  | lineEnd => ⟨mode.multiLine && endsLine, false, true⟩
  | wordBoundary => ⟨isWord, false, isWord⟩
  | notWordBoundary => ⟨!isWord, false, !isWord⟩
  | wordStart => ⟨isWord, false, false⟩
  | wordEnd => ⟨false, false, isWord⟩
  | wordStartHalf => ⟨true, false, !isWord⟩
  | wordEndHalf => ⟨!isWord, false, true⟩

end Anchor

def meaningOfSet (set : Char → Bool) : Meaning := fun c => ⟨false, set c, false⟩

namespace Expr

def dotMembers (mode : Mode) (c : Char) : Bool :=
  mode.dotMatchesNewline || (c ≠ '\n' && !(mode.crlf && c = '\r'))

mutual

/-- The meaning of an expression, and the mode behind it. -/
def meaning? (mode : Mode) : Expr → Option (Meaning × Mode)
  | literal c => some (meaningOfSet (ignoringCase mode (· == c)), mode)
  | byte c =>
    if mode.unicode || isAscii c then some (meaningOfSet (ignoringCase mode (· == c)), mode)
    else none
  | dot => if mode.unicode then some (meaningOfSet (dotMembers mode), mode) else none
  | anchor a => some (a.meaning mode, mode)
  | shorthand name negated => do
    return (meaningOfSet (← complement? mode negated (name.has mode.unicode)), mode)
  | property name negated => do return (meaningOfSet (← propertySet? mode name negated), mode)
  | bracketed negated set => do
    let members := ignoringCase mode (← set.members? mode)
    return (meaningOfSet (← complement? mode negated members), mode)
  | flags settings => some (fun _ => Match.empty, mode.setAll settings)
  | group settings body => do
    let (m, _) ← body.meaning? (mode.setAll settings)
    return (m, mode)
  | capture body => do
    let (m, _) ← body.meaning? mode
    return (m, mode)
  | repetition min max body => do
    let (m, mode) ← body.meaning? mode
    return (fun c => (m c).repeated min max, mode)
  | sequence items => meaningOfAll? mode items
  | alternatives branches => meaningOfAny? mode branches

def meaningOfAll? (mode : Mode) : List Expr → Option (Meaning × Mode)
  | [] => some (fun _ => Match.empty, mode)
  | e :: items => do
    let (first, mode) ← e.meaning? mode
    let (others, mode) ← meaningOfAll? mode items
    return (fun c => (first c).both (others c), mode)

def meaningOfAny? (mode : Mode) : List Expr → Option (Meaning × Mode)
  | [] => some (fun _ => Match.none, mode)
  | e :: branches => do
    let (first, mode) ← e.meaning? mode
    let (others, mode) ← meaningOfAny? mode branches
    return (fun c => (first c).either (others c), mode)

end

end Expr

end PipeArrow.CharClass
