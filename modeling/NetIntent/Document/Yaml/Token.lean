import NetIntent.Document.Fields
import NetIntent.Document.Yaml.Scalar

/-!
The tokens of a YAML text. Indentation becomes tokens that open and close block collections, and a
key is marked in front once the colon after it has been seen. Such a key stands on one line, and its
colon comes at most 1024 columns after its start. Anchors, aliases, tags, directives and block
scalars are refused.
-/

namespace NetIntent.Yaml

inductive Token where
  | documentStart
  | documentEnd
  | blockList
  | blockMap
  | blockEnd
  | openList
  | closeList
  | openMap
  | closeMap
  | dash
  | comma
  | key
  | value
  | scalar (value : Document)

/-- A place where a key may have begun: the number of tokens in front of it and its position.
Nothing but a key may stand at a place that is `required` for one. -/
structure Candidate where
  token : Nat
  line : Nat
  column : Nat
  required : Bool

/-- A text that has been cut into tokens up to some point. -/
structure Scan where
  rest : List Cell
  tokens : Array Token := #[]
  /-- The columns of the open block collections, the innermost first. -/
  indents : List Nat := []
  /-- The key that may have begun within the innermost bracket. -/
  candidate : Option Candidate := none
  /-- The keys that may have begun outside each open bracket, the innermost first. -/
  outer : List (Option Candidate) := []
  /-- Whether a key may begin here. -/
  keyAllowed : Bool := true

namespace Scan

/-- Whether a bracket is open. -/
def inFlow (s : Scan) : Bool := !s.outer.isEmpty

/-- The cells of the next token. Blanks, comments and line breaks are passed over, and so is a
byte-order mark at the start of a line. Outside brackets a tab is no blank where a key may begin,
and a key may begin on each new line. -/
def skip (flow : Bool) : Bool → Bool → List Cell → Bool × List Cell
  | allowed, _, [] => (allowed, [])
  | allowed, comment, c :: rest =>
    if isBreak c.char then skip flow (allowed || !flow) false rest
    else if comment || c.char == '#' then skip flow allowed true rest
    else if c.char == ' ' || (c.char == '\t' && (flow || !allowed)) ||
        (c.char == '\ufeff' && c.column == 0) then skip flow allowed false rest
    else (allowed, c :: rest)

def next (s : Scan) : Scan :=
  let (keyAllowed, rest) := skip s.inFlow s.keyAllowed false s.rest
  { s with keyAllowed, rest }

/-- Adds a token that takes `n` cells. -/
def emit (n : Nat) (t : Token) (s : Scan) : Scan :=
  { s with tokens := s.tokens.push t, rest := s.rest.drop n }

/-- Puts a token in front of those after the first `n`. -/
def insert (n : Nat) (t : Token) (s : Scan) : Scan :=
  { s with tokens := s.tokens.take n ++ #[t] ++ s.tokens.drop n }

/-- Opens a block collection further right than those around it, in front of the tokens after the
first `n`. -/
def openBlock (t : Token) (column n : Nat) (s : Scan) : Scan :=
  if !s.inFlow && s.indents.head?.all (· < column) then
    { s.insert n t with indents := column :: s.indents }
  else s

/-- Closes the innermost block collections whose columns are `outside`. -/
def closeBlocks (outside : Nat → Bool) (s : Scan) : Scan :=
  if s.inFlow then s
  else
    let closed := s.indents.takeWhile outside
    { s with
      tokens := s.tokens ++ Array.replicate closed.length .blockEnd
      indents := s.indents.drop closed.length }

/-- No key has begun after all. -/
def dropCandidate (s : Scan) : Option Scan :=
  if s.candidate.any (·.required) then none else some { s with candidate := none }

/-- A key may begin with the token at a cell. -/
def mark (c : Cell) (s : Scan) : Option Scan :=
  if s.keyAllowed then do
    let required := !s.inFlow && s.indents.head? == some c.column
    let s ← s.dropCandidate
    some { s with candidate := some ⟨s.tokens.size, c.line, c.column, required⟩ }
  else some s

/-- Whether a token at a cell comes too late to make a candidate a key. -/
def isStale (c : Cell) (k : Candidate) : Bool := k.line < c.line || k.column + 1024 < c.column

/-- Forgets the candidates that are too far back. -/
def expire (c : Cell) (s : Scan) : Option Scan :=
  if (s.candidate :: s.outer).any (·.any fun k => isStale c k && k.required) then none
  else
    let keep := fun (k : Option Candidate) => k.filter (!isStale c ·)
    some { s with candidate := keep s.candidate, outer := s.outer.map keep }

def documentMarker (t : Token) (s : Scan) : Option Scan := do
  let s ← (s.closeBlocks fun _ => true).dropCandidate
  some ({ s with keyAllowed := false }.emit 3 t)

def openBracket (t : Token) (c : Cell) (s : Scan) : Option Scan := do
  let s ← s.mark c
  some ({ s with candidate := none, outer := s.candidate :: s.outer, keyAllowed := true }.emit 1 t)

def closeBracket (t : Token) (s : Scan) : Option Scan := do
  let s ← s.dropCandidate
  let s := match s.outer with
    | [] => s
    | candidate :: outer => { s with candidate, outer }
  some ({ s with keyAllowed := false }.emit 1 t)

def comma (s : Scan) : Option Scan := do
  let s ← s.dropCandidate
  some ({ s with keyAllowed := true }.emit 1 .comma)

def dash (c : Cell) (s : Scan) : Option Scan :=
  if s.inFlow || s.keyAllowed then do
    let s ← (s.openBlock .blockList c.column s.tokens.size).dropCandidate
    some ({ s with keyAllowed := true }.emit 1 .dash)
  else none

/-- The mark of a key of any kind. -/
def keyMark (c : Cell) (s : Scan) : Option Scan :=
  if s.inFlow || s.keyAllowed then do
    let s ← (s.openBlock .blockMap c.column s.tokens.size).dropCandidate
    some ({ s with keyAllowed := !s.inFlow }.emit 1 .key)
  else none

/-- A colon makes the candidate a key, or else follows a key that was marked. -/
def colon (c : Cell) (s : Scan) : Option Scan :=
  match s.candidate with
  | some k =>
    let s := (s.insert k.token .key).openBlock .blockMap k.column k.token
    some ({ s with candidate := none, keyAllowed := false }.emit 1 .value)
  | none =>
    if s.inFlow || s.keyAllowed then
      let s := s.openBlock .blockMap c.column s.tokens.size
      some ({ s with keyAllowed := !s.inFlow }.emit 1 .value)
    else none

def quoted (double : Bool) (c : Cell) (s : Scan) : Option Scan := do
  let s ← s.mark c
  let (text, rest) ← quotedScalar double 0 .empty (s.rest.drop 1)
  some { s with
    keyAllowed := false, rest, tokens := s.tokens.push (.scalar (.text (String.ofList text))) }

def plain (c : Cell) (s : Scan) : Option Scan := do
  let s ← s.mark c
  let indent := (s.indents.head?.map (· + 1)).getD 0
  let (text, rest, gap) ← plainScalar s.inFlow indent .empty s.rest
  some { s with
    keyAllowed := gap.isBroken, rest
    tokens := s.tokens.push (.scalar (.plain (String.ofList text))) }

/-- Takes the token that starts at the cell `c`, the first of the rest. -/
def take (c : Cell) (s : Scan) : Option Scan :=
  let indicates := Cell.endsIndicator (s.rest.drop 1)
  match Cell.marker? s.rest, c.char with
  | some '-', _ => s.documentMarker .documentStart
  | some _, _ => s.documentMarker .documentEnd
  | none, '[' => s.openBracket .openList c
  | none, '\x7b' => s.openBracket .openMap c
  | none, ']' => s.closeBracket .closeList
  | none, '\x7d' => s.closeBracket .closeMap
  | none, ',' => s.comma
  | none, '\'' => s.quoted false c
  | none, '"' => s.quoted true c
  | none, char =>
    if char == '-' && indicates then s.dash c
    else if char == '?' && (s.inFlow || indicates) then s.keyMark c
    else if char == ':' && (s.inFlow || indicates) then s.colon c
    else if startsPlain s.inFlow s.rest then s.plain c
    else none

def finish (s : Scan) : Option (List Token) :=
  (s.closeBlocks fun _ => true).dropCandidate.map (·.tokens.toList)

/-- At most `fuel` more tokens, and the end. -/
def run : Nat → Scan → Option (List Token)
  | 0, _ => none
  | fuel + 1, s =>
    let s := s.next
    match s.rest with
    | [] => s.finish
    | c :: _ => do
      let s ← s.expire c
      let s ← (s.closeBlocks (c.column < ·)).take c
      run fuel s

end Scan

/-- The tokens of a text. Each takes at least one cell. -/
def Token.ofText? (s : String) : Option (List Token) := do
  let cells ← Cell.ofText? s
  Scan.run (cells.length + 1) { rest := cells }

end NetIntent.Yaml
