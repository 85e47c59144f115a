namespace PipeArrow

/-- The characters from `start` up to and without `stop`. -/
structure Span where
  start : Nat
  stop : Nat
  deriving DecidableEq, Repr, Inhabited

namespace Span

def point (offset : Nat) : Span := ⟨offset, offset⟩

def zero : Span := point 0

def length (s : Span) : Nat := s.stop - s.start

def isEmpty (s : Span) : Bool := s.start = s.stop

def shift (s : Span) (offset : Nat) : Span := ⟨s.start + offset, s.stop + offset⟩

def text (s : Span) : String := s!"{s.start}..{s.stop}"

end Span

end PipeArrow
