import NetIntent.Document.Decimal
import NetIntent.Document.Yaml.Cell

/-!
Scalars of YAML text: plain, single-quoted and double-quoted, each over several lines if need be. A
single line feed inside a scalar becomes a space, and of more the first is dropped.
-/

namespace NetIntent.Yaml

/-- What has been passed over since the last character of a scalar. -/
inductive Gap where
  | blanks (chars : List Char)
  /-- Line breaks, and with them the blanks on either side. -/
  | folded (breaks : List Char)
  /-- Line breaks that follow an escaped one. -/
  | escaped (breaks : List Char)

namespace Gap

def empty : Gap := .blanks []

def isEmpty : Gap → Bool
  | .blanks [] => true
  | _ => false

def isBroken : Gap → Bool
  | .blanks _ => false
  | .folded _ | .escaped _ => true

def pushBlank (c : Char) : Gap → Gap
  | .blanks chars => .blanks (chars ++ [c])
  | gap => gap

def pushBreak (c : Char) : Gap → Gap
  | .blanks _ => .folded [c]
  | .folded breaks => .folded (breaks ++ [c])
  | .escaped breaks => .escaped (breaks ++ [c])

/-- What a scalar keeps of a gap. -/
def text : Gap → List Char
  | .blanks chars => chars
  | .folded ['\n'] => [' ']
  | .folded ('\n' :: breaks) => breaks
  | .folded breaks => breaks
  | .escaped breaks => breaks

end Gap

def flowMark (c : Char) : Bool :=
  c == ',' || c == '[' || c == ']' || c == '\x7b' || c == '\x7d'

/-- Whether a plain scalar may start here. -/
def startsPlain (flow : Bool) : List Cell → Bool
  | [] => false
  | c :: rest =>
    let c := c.char
    if c == '-' then !rest.head?.any (isGap ·.char)
    else if c == '?' || c == ':' then !flow && !Cell.endsIndicator rest
    else
      !(isGap c || isBreak c || flowMark c || c == '#' || c == '&' || c == '*' || c == '!' ||
        c == '|' || c == '>' || c == '\'' || c == '"' || c == '%' || c == '@' || c.toNat == 0x60)

/-- Inside brackets a colon with a flow mark right after it belongs to nothing. -/
def strayColon (flow : Bool) : List Cell → Bool
  | a :: b :: _ => flow && a.char == ':' && (flowMark b.char || b.char == '?')
  | _ => false

def endsPlain (flow : Bool) : List Cell → Bool
  | [] => true
  | c :: rest => (c.char == ':' && Cell.endsIndicator rest) || (flow && flowMark c.char)

/-- A plain scalar, of which `gap` has been passed over: its text, what comes after it and the gap
behind it. Its later lines start in the column `indent` or further right, except inside brackets,
and no tab may stand left of that column. -/
def plainScalar (flow : Bool) (indent : Nat) :
    Gap → List Cell → Option (List Char × List Cell × Gap)
  | gap, [] => some ([], [], gap)
  | gap, c :: rest =>
    if isBreak c.char then plainScalar flow indent (gap.pushBreak c.char) rest
    else if isGap c.char then
      if gap.isBroken && c.char == '\t' && c.column < indent then none
      else plainScalar flow indent (gap.pushBlank c.char) rest
    else if (gap.isBroken && !flow && c.column < indent) || (Cell.marker? (c :: rest)).isSome ||
        (!gap.isEmpty && c.char == '#') then some ([], c :: rest, gap)
    else if strayColon flow (c :: rest) then none
    else if endsPlain flow (c :: rest) then some ([], c :: rest, gap)
    else do
      let (text, stop) ← plainScalar flow indent .empty rest
      some (gap.text ++ c.char :: text, stop)

/-- The escapes of a double-quoted scalar that stand for one character. -/
def escaped? : Char → Option Char
  | '0' => some '\x00'
  | 'a' => some '\x07'
  | 'b' => some '\x08'
  | 't' | '\t' => some '\t'
  | 'n' => some '\n'
  | 'v' => some '\x0b'
  | 'f' => some '\x0c'
  | 'r' => some '\r'
  | 'e' => some '\x1b'
  | ' ' => some ' '
  | '"' => some '"'
  | '/' => some '/'
  | '\\' => some '\\'
  | 'N' => some '\u0085'
  | '_' => some '\u00a0'
  | 'L' => some '\u2028'
  | 'P' => some '\u2029'
  | _ => none

def codeLength? : Char → Option Nat
  | 'x' => some 2
  | 'u' => some 4
  | 'U' => some 8
  | _ => none

/-- A character by its hexadecimal number, which must be a whole character. -/
def coded? (n : Nat) (cs : List Cell) : Option Char := do
  let ds ← (cs.take n).mapM fun c => Numeral.digitOf? 16 c.char
  let code := ds.foldl (fun a d => 16 * a + d) 0
  if ds.length = n ∧ code.isValidChar then some (Char.ofNat code) else none

/-- What a backslash and the cells after it stand for: a text, the gap that begins with it and how
many cells it takes. -/
def escape? : List Cell → Option (List Char × Gap × Nat)
  | [] => none
  | c :: rest =>
    if isBreak c.char then some ([], .escaped [], 1)
    else
      match escaped? c.char, codeLength? c.char with
      | some e, _ => some ([e], .empty, 1)
      | none, some n => (coded? n rest).map fun e => ([e], .empty, 1 + n)
      | none, none => none

/-- The rest of a quoted scalar, of which `gap` has been passed over and the next `skip` cells have
been read: its text and what comes after it. -/
def quotedScalar (double : Bool) : Nat → Gap → List Cell → Option (List Char × List Cell)
  | _, _, [] => none
  | skip + 1, gap, _ :: rest => quotedScalar double skip gap rest
  | 0, gap, c :: rest =>
    if isBreak c.char then quotedScalar double 0 (gap.pushBreak c.char) rest
    else if isGap c.char then quotedScalar double 0 (gap.pushBlank c.char) rest
    else if (Cell.marker? (c :: rest)).isSome then none
    else if double && c.char == '\\' then do
      let (text, next, length) ← escape? rest
      let (more, stop) ← quotedScalar double length next rest
      some (gap.text ++ text ++ more, stop)
    else if c.char == (if double then '"' else '\'') then
      if !double && rest.head?.any (·.char == '\'') then do
        let (more, stop) ← quotedScalar double 1 .empty rest
        some (gap.text ++ '\'' :: more, stop)
      else some (gap.text, rest)
    else do
      let (more, stop) ← quotedScalar double 0 .empty rest
      some (gap.text ++ c.char :: more, stop)

end NetIntent.Yaml
