namespace PipeArrow.CharClass

inductive Flag where
  | ignoreCase | multiLine | dotMatchesNewline | swapGreed | unicode | crlf | verbose
  deriving DecidableEq, Repr

namespace Flag

def ofLetter? : Char → Option Flag
  | 'i' => some ignoreCase
  | 'm' => some multiLine
  | 's' => some dotMatchesNewline
  | 'U' => some swapGreed
  | 'u' => some unicode
  | 'R' => some crlf
  | 'x' => some verbose
  | _ => none

end Flag

/-- The flags that a group turns on or off. -/
abbrev FlagSettings := List (Flag × Bool)

inductive Anchor where
  | lineStart | lineEnd | textStart | textEnd
  | wordBoundary | notWordBoundary
  | wordStart | wordEnd | wordStartHalf | wordEndHalf
  deriving DecidableEq, Repr

inductive Shorthand where
  | digit | space | word
  deriving DecidableEq, Repr

inductive PosixClass where
  | alnum | alpha | ascii | blank | cntrl | digit | graph | lower | print | punct | space | upper
  | word | xdigit
  deriving DecidableEq, Repr

namespace PosixClass

def ofName? : String → Option PosixClass
  | "alnum" => some alnum
  | "alpha" => some alpha
  | "ascii" => some ascii
  | "blank" => some blank
  | "cntrl" => some cntrl
  | "digit" => some digit
  | "graph" => some graph
  | "lower" => some lower
  | "print" => some print
  | "punct" => some punct
  | "space" => some space
  | "upper" => some upper
  | "word" => some word
  | "xdigit" => some xdigit
  | _ => none

end PosixClass

/-- How a pattern names a property: by one name, or by a name and a value. In the second form it
may ask for the characters whose value is another one. -/
inductive PropertyName where
  | alone (name : String)
  | withValue (name value : String) (differs : Bool)
  deriving DecidableEq, Repr

def PropertyName.differs : PropertyName → Bool
  | alone _ => false
  | withValue _ _ differs => differs

inductive SetOperation where
  | intersection | difference | symmetricDifference
  deriving DecidableEq, Repr

inductive SetExpr where
  | literal (c : Char)
  | range (first last : Char)
  | posix (name : PosixClass) (negated : Bool)
  | shorthand (name : Shorthand) (negated : Bool)
  | property (name : PropertyName) (negated : Bool)
  | bracketed (negated : Bool) (set : SetExpr)
  | union (sets : List SetExpr)
  | operation (op : SetOperation) (left right : SetExpr)
  deriving Repr, Inhabited

inductive Expr where
  | literal (c : Char)
  /-- A literal that is spelled by the two digits of its byte. -/
  | byte (c : Char)
  | dot
  | anchor (a : Anchor)
  | shorthand (name : Shorthand) (negated : Bool)
  | property (name : PropertyName) (negated : Bool)
  | bracketed (negated : Bool) (set : SetExpr)
  | flags (settings : FlagSettings)
  | group (settings : FlagSettings) (body : Expr)
  /-- A group of which the text is kept, which takes memory of its own. -/
  | capture (body : Expr)
  | repetition (min : Nat) (max : Option Nat) (body : Expr)
  | sequence (items : List Expr)
  | alternatives (branches : List Expr)
  deriving Repr, Inhabited

namespace SetExpr

def unionOf : List SetExpr → SetExpr
  | [s] => s
  | sets => union sets

mutual

def depth : SetExpr → Nat
  | literal _ | range _ _ | posix _ _ | shorthand _ _ | property _ _ | union [] => 0
  | bracketed _ set => set.depth + 1
  | union (s :: sets) => max s.depth (depthOfAll sets) + 1
  | operation _ left right => max left.depth right.depth + 1

def depthOfAll : List SetExpr → Nat
  | [] => 0
  | s :: sets => max s.depth (depthOfAll sets)

end

end SetExpr

namespace Expr

def sequenceOf : List Expr → Expr
  | [e] => e
  | items => sequence items

def alternativesOf : List Expr → Expr
  | [e] => e
  | branches => alternatives branches

mutual

def depth : Expr → Nat
  | literal _ | byte _ | dot | anchor _ | shorthand _ _ | property _ _ | flags _ | sequence [] => 0
  | bracketed _ set => set.depth + 1
  | group _ body | capture body => body.depth + 1
  | repetition _ _ body => body.depth + 1
  | sequence (e :: items) => max e.depth (depthOfAll items) + 1
  | alternatives branches => depthOfAll branches + 1

def depthOfAll : List Expr → Nat
  | [] => 0
  | e :: items => max e.depth (depthOfAll items)

end

def depthLimit : Nat := 250

mutual

/-- How many bytes, sets and ends of captures an expression has when its repetitions are written
out, those without a bound as often as they have to match. -/
def size : Expr → Nat
  | literal c | byte c => c.utf8Size
  | dot | shorthand _ _ | property _ _ | bracketed _ _ => 1
  | anchor _ | flags _ => 0
  | group _ body => body.size
  | capture body => body.size + 2
  | repetition min max body => body.size * max.getD (Nat.max min 1)
  | sequence items | alternatives items => sizeOfAll items

def sizeOfAll : List Expr → Nat
  | [] => 0
  | e :: items => e.size + sizeOfAll items

end

end Expr

end PipeArrow.CharClass
