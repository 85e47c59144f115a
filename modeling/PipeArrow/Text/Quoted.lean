import PipeArrow.Unicode.Property

namespace PipeArrow.Text

def hexDigit (n : Nat) : Char :=
  if n < 10 then Char.ofNat ('0'.toNat + n) else Char.ofNat ('a'.toNat + (n - 10))

def hexDigits (n : Nat) : List Char :=
  if n < 16 then [hexDigit n] else hexDigits (n / 16) ++ [hexDigit (n % 16)]

def isControl (c : Char) : Bool := c.toNat < 0x20 || (0x7F ≤ c.toNat && c.toNat < 0xA0)

/-- Whether a character shows when it stands alone: it is assigned, no blank but the plain space,
and neither steers the text nor joins the character before it. -/
def isVisible (c : Char) : Bool :=
  c = ' ' ||
  !isControl c && (c.toNat < 0x7F ||
    !Unicode.hasCategory [.control, .format, .surrogate, .privateUse, .unassigned,
      .lineSeparator, .paragraphSeparator, .spaceSeparator] c &&
    !Unicode.graphemeExtend c)

def escape (mark c : Char) : List Char :=
  if c = '\x00' then ['\\', '0']
  else if c = '\t' then ['\\', 't']
  else if c = '\r' then ['\\', 'r']
  else if c = '\n' then ['\\', 'n']
  else if c = '\\' then ['\\', '\\']
  else if c = mark then ['\\', mark]
  else if isVisible c then [c]
  else '\\' :: 'u' :: '\x7b' :: hexDigits c.toNat ++ ['\x7d']

def quote (mark : Char) (cs : List Char) : List Char := mark :: cs.flatMap (escape mark) ++ [mark]

def quoteString (s : String) : String := String.ofList (quote '"' s.toList)

def quoteChar (c : Char) : String := String.ofList (quote '\'' [c])

end PipeArrow.Text
