import PipeArrow.CharClass.Meaning

namespace PipeArrow.CharClass

abbrev ByteRange := Nat × Nat

/-- Puts the number below a list of runs, which begins right above that number. -/
def extendRuns (n : Nat) : List (Nat × Nat) → List (Nat × Nat)
  | (first, last) :: runs =>
    if first = n + 1 then (n, last) :: runs else (n, n) :: (first, last) :: runs
  | [] => [(n, n)]

/-- The runs of code points that a set has below `n`, in front of other `runs`. -/
def runsBelow (set : Char → Bool) : Nat → List (Nat × Nat) → List (Nat × Nat)
  | 0, runs => runs
  | n + 1, runs =>
    runsBelow set n (if n.isValidChar && set (Char.ofNat n) then extendRuns n runs else runs)

/-- The ranges that spell the numbers from `first` to `last` by `count + 1` digits, each digit but
the first of six bits. A spelling that all digits have from some place on is one row of ranges. -/
def digitRanges : Nat → Nat → Nat → List (List ByteRange)
  | 0, first, last => [[(first, last)]]
  | count + 1, first, last =>
    let unit := Nat.pow 64 (count + 1)
    let low := first / unit
    let high := last / unit
    if low = high then (digitRanges count (first % unit) (last % unit)).map ((low, low) :: ·)
    else
      let startsWhole := first % unit = 0
      let endsWhole := last % unit = unit - 1
      let before := if startsWhole then [] else
        (digitRanges count (first % unit) (unit - 1)).map ((low, low) :: ·)
      let behind := if endsWhole then [] else
        (digitRanges count 0 (last % unit)).map ((high, high) :: ·)
      let wholeLow := if startsWhole then low else low + 1
      let wholeHigh := if endsWhole then high else high - 1
      let whole := if wholeLow ≤ wholeHigh then
        [(wholeLow, wholeHigh) :: List.replicate (count + 1) (0, 63)] else []
      before ++ whole ++ behind

/-- The code points of `count + 1` bytes: the first and the last one. -/
def encodedLengths : List (Nat × Nat × Nat) :=
  [(0, 0, 0x7F), (1, 0x80, 0x7FF), (2, 0x800, 0xFFFF), (3, 0x10000, 0x10FFFF)]

/-- The rows of byte ranges that spell the code points of a run. Each row starts with the number of
bytes behind its first one, so that rows of different lengths have different beginnings. -/
def spellings (run : Nat × Nat) : List (List ByteRange) :=
  encodedLengths.flatMap fun (count, low, high) =>
    let first := Nat.max run.1 low
    let last := Nat.min run.2 high
    if first ≤ last then (digitRanges count first last).map ((count, count) :: ·) else []

def commonLength : List ByteRange → List ByteRange → Nat
  | a :: as, b :: bs => if a = b then commonLength as bs + 1 else 0
  | _, _ => 0

/-- The states that read the rows, where rows with the same beginning share the states of it. -/
def stateCount : List ByteRange → List (List ByteRange) → Nat
  | _, [] => 0
  | previous, row :: rows =>
    row.length - Nat.max 1 (commonLength previous row) + stateCount row rows

def stateWeight : Nat := 32

/-- The memory for the members of a set: two states and an entry for each row of byte ranges. Rows
of single bytes are no more than entries. -/
def setWeight (set : Char → Bool) : Nat :=
  let rows := (runsBelow set 0x110000 []).flatMap spellings
  if rows.all (·.length = 2) then 2 * stateWeight + 8 * rows.length
  else (2 + stateCount [] rows) * stateWeight + 4 * rows.length

namespace Expr

def literalWeight (mode : Mode) (c : Char) : Nat :=
  let variants := if mode.ignoreCase then Unicode.caseVariants c else [c]
  stateWeight * variants.foldl (fun n v => n + v.utf8Size) 0

/-- The memory for a repetition of a part that takes `weight`. What may be left out takes a state
with two entries each time. -/
def repetitionWeight (weight min : Nat) (max : Option Nat) : Nat :=
  if weight = 0 then 0
  else weight * max.getD (Nat.max min 1) + (stateWeight + 8) * max.elim 1 (· - min)

mutual

/-- The memory for an expression as an automaton that reads the bytes of a text, the last one first,
with the repetitions written out; and the mode behind it. -/
def weight (mode : Mode) : Expr → Nat × Mode
  | literal c | byte c => (literalWeight mode c, mode)
  | dot => (setWeight (dotMembers mode), mode)
  | anchor _ => (0, mode)
  | shorthand name negated => (setWeight fun c => name.has mode.unicode c ^^ negated, mode)
  | property name negated => ((propertySet? mode name negated).elim 0 setWeight, mode)
  | bracketed negated set =>
    ((set.members? mode).elim 0 fun members =>
      setWeight fun c => ignoringCase mode members c ^^ negated, mode)
  | flags settings => (0, mode.setAll settings)
  | group settings body => ((body.weight (mode.setAll settings)).1, mode)
  | capture body => ((body.weight mode).1 + 2 * stateWeight, mode)
  | repetition min max body =>
    let (w, mode) := body.weight mode
    (repetitionWeight w min max, mode)
  | sequence items | alternatives items => weightOfAll mode items

def weightOfAll (mode : Mode) : List Expr → Nat × Mode
  | [] => (0, mode)
  | e :: items =>
    let (first, mode) := e.weight mode
    let (others, mode) := weightOfAll mode items
    (first + others, mode)

end

def weightLimit : Nat := 10485760

/-- A bound on the states of a set, which no set of the tables comes near. -/
def largestSet : Nat := 6000

/-- Whether an expression takes no more memory than is allowed. As to weigh a set is slow, that is
left for the expressions whose number of parts does not settle it. -/
def isLight (e : Expr) : Bool :=
  e.size * largestSet * stateWeight ≤ weightLimit ||
  (e.size * stateWeight ≤ weightLimit && (e.weight Mode.initial).1 ≤ weightLimit)

end Expr

end PipeArrow.CharClass
