namespace PipeArrow.Unicode

def words (line : String) : List String :=
  (line.splitOn " ").filter (· ≠ "")

def entries (lines : List String) : List String :=
  lines.flatMap (·.splitOn ";")

def digitValue (c : Char) : Nat :=
  if '0' ≤ c ∧ c ≤ '9' then c.toNat - '0'.toNat
  else if 'A' ≤ c ∧ c ≤ 'F' then c.toNat - 'A'.toNat + 10
  else if 'a' ≤ c ∧ c ≤ 'f' then c.toNat - 'a'.toNat + 10
  else 0

def hexadecimal (word : String) : Nat :=
  word.toList.foldl (fun n c => 16 * n + digitValue c) 0

/-- The number of entries up to `n` in an increasing array, between the bounds `low` and `high`. -/
def rankBetween (starts : Array Nat) (n low high : Nat) : Nat :=
  if low < high then
    let middle := (low + high) / 2
    if starts.getD middle 0 ≤ n then rankBetween starts n (middle + 1) high
    else rankBetween starts n low middle
  else low
termination_by high - low

/-- The number of entries up to `n` in an increasing array. -/
def rank (starts : Array Nat) (n : Nat) : Nat := rankBetween starts n 0 starts.size

/-- A set of code points, by the code points at which membership begins and ends in turn. -/
structure CodeSet where
  bounds : Array Nat

namespace CodeSet

def ofLines (lines : List String) : CodeSet :=
  ⟨((lines.flatMap words).map hexadecimal).toArray⟩

def has (s : CodeSet) (c : Char) : Bool := rank s.bounds c.toNat % 2 = 1

end CodeSet

/-- A function of code points that keeps the value `values[i]` from `starts[i]` on. -/
structure Steps (α : Type) where
  starts : Array Nat
  values : Array α
  initial : α

namespace Steps

/-- Reads lines in which the start of each run and its value's word alternate. -/
def ofLines {α : Type} (value : String → α) (initial : α) (lines : List String) : Steps α :=
  let rec pairs : List String → List (Nat × α)
    | start :: word :: rest => (hexadecimal start, value word) :: pairs rest
    | _ => []
  let runs := pairs (lines.flatMap words)
  ⟨(runs.map (·.1)).toArray, (runs.map (·.2)).toArray, initial⟩

def valueAt {α : Type} (t : Steps α) (n : Nat) : α :=
  match rank t.starts n with
  | 0 => t.initial
  | k + 1 => t.values.getD k t.initial

end Steps

end PipeArrow.Unicode
