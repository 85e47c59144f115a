namespace PipeArrow

structure Cursor where
  chars : Array Char
  position : Nat

namespace Cursor

def ofText (text : String) : Cursor := ⟨text.toList.toArray, 0⟩

def length (c : Cursor) : Nat := c.chars.size

def isEmpty (c : Cursor) : Bool := c.chars.isEmpty

/-- The character at an offset from the beginning of the text. -/
def charAt? (c : Cursor) (offset : Nat) : Option Char := c.chars[offset]?

def advance (c : Cursor) (count : Nat) : Cursor := { c with position := c.position + count }

def peek? (c : Cursor) : Option Char := c.charAt? c.position

def isAtEnd (c : Cursor) : Bool := c.peek?.isNone

end Cursor

end PipeArrow
