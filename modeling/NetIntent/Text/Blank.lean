/-!
White space in the sense of the Unicode property of that name.
-/

namespace NetIntent.Text

def isBlank (c : Char) : Bool :=
  let code := c.toNat
  (9 ≤ code && code ≤ 13) || code == 0x20 || code == 0x85 || code == 0xa0 || code == 0x1680 ||
    (0x2000 ≤ code && code ≤ 0x200a) || code == 0x2028 || code == 0x2029 || code == 0x202f ||
    code == 0x205f || code == 0x3000

/-- A text with nothing but white space, the empty text included. -/
def allBlank (s : String) : Bool := s.toList.all isBlank

end NetIntent.Text
