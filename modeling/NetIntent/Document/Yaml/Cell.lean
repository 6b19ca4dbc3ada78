/-!
The characters of a YAML text, each with its line and column. The line and paragraph separators are
breaks that a scalar keeps as they are; every other spelling of a break is one line feed.
-/

namespace NetIntent.Yaml

structure Cell where
  char : Char
  line : Nat
  column : Nat

/-- Characters that may stand in a text. -/
def isPrintable (c : Char) : Bool :=
  let n := c.toNat
  n == 9 || n == 10 || n == 13 || (0x20 ≤ n && n ≤ 0x7e) || n == 0x85 ||
    (0xa0 ≤ n && n ≤ 0xfffd) || 0x10000 ≤ n

/-- One line feed for each break that is not a separator. -/
def lineFeeds : List Char → List Char
  | [] => []
  | '\r' :: '\n' :: rest => '\n' :: lineFeeds rest
  | c :: rest => (if c == '\r' || c == '\u0085' then '\n' else c) :: lineFeeds rest

def isBreak (c : Char) : Bool := c == '\n' || c == '\u2028' || c == '\u2029'

def isGap (c : Char) : Bool := c == ' ' || c == '\t'

namespace Cell

/-- The cells of characters that begin at a line and column. -/
def lay : Nat → Nat → List Char → List Cell
  | _, _, [] => []
  | line, column, c :: rest =>
    ⟨c, line, column⟩ ::
      if isBreak c then lay (line + 1) 0 rest else lay line (column + 1) rest

def ofText? (s : String) : Option (List Cell) :=
  if s.toList.all isPrintable then some (lay 0 0 (lineFeeds s.toList)) else none

/-- The end of the text, a gap or a break: what ends an indicator. -/
def endsIndicator : List Cell → Bool
  | [] => true
  | c :: _ => isGap c.char || isBreak c.char

/-- The character of a document marker: three of it at the start of a line. -/
def marker? : List Cell → Option Char
  | a :: b :: c :: rest =>
    if a.column == 0 && (a.char == '-' || a.char == '.') && b.char == a.char &&
        c.char == a.char && endsIndicator rest then some a.char
    else none
  | _ => none

end Cell

end NetIntent.Yaml
