import Std.Data.ExtTreeMap
import NetIntent.Document.Basic
import NetIntent.Document.Shortest

/-!
Compact JSON text of a document, and the canonical form in which every map has its keys in ascending
order, each with the value given last.
-/

namespace NetIntent.Document

mutual

def canonical : Document → Document
  | .list items => .list (canonicalAll items)
  | .sequence items => .list (canonicalAll items)
  | .map members => .map (Std.ExtTreeMap.ofList (canonicalMembers members)).toList
  | .null => .null
  | .bool b => .bool b
  | .number n => .number n
  | .text s => .text s
  | .plain s => .text s
  | .unreadable => .null

def canonicalAll : List Document → List Document
  | [] => []
  | item :: rest => canonical item :: canonicalAll rest

def canonicalMembers : List (String × Document) → List (String × Document)
  | [] => []
  | (key, value) :: rest => (key, canonical value) :: canonicalMembers rest

end

def escapedChar (c : Char) : List Char :=
  match c with
  | '"' => ['\\', '"']
  | '\\' => ['\\', '\\']
  | '\x08' => ['\\', 'b']
  | '\x0c' => ['\\', 'f']
  | '\n' => ['\\', 'n']
  | '\r' => ['\\', 'r']
  | '\t' => ['\\', 't']
  | c =>
    if c.toNat < 0x20 then
      ['\\', 'u', '0', '0'] ++ (if c.toNat < 0x10 then ['0'] else []) ++ Nat.toDigits 16 c.toNat
    else [c]

def literal (s : String) : List Char := '"' :: s.toList.flatMap escapedChar ++ ['"']

def numeral : Number → List Char
  | .int i => (toString i).toList
  | .real x => (Shortest.text x).toList

mutual

def written : Document → List Char
  | .null | .unreadable => ['n', 'u', 'l', 'l']
  | .bool true => ['t', 'r', 'u', 'e']
  | .bool false => ['f', 'a', 'l', 's', 'e']
  | .number n => numeral n
  | .text s | .plain s => literal s
  | .list items | .sequence items => '[' :: writtenAll items ++ [']']
  | .map members => '\x7b' :: writtenMembers members ++ ['\x7d']

def writtenAll : List Document → List Char
  | [] => []
  | [item] => written item
  | item :: rest => written item ++ ',' :: writtenAll rest

def writtenMembers : List (String × Document) → List Char
  | [] => []
  | [(key, value)] => literal key ++ ':' :: written value
  | (key, value) :: rest => literal key ++ ':' :: written value ++ ',' :: writtenMembers rest

end

/-- Compact JSON text, members in the order they have. -/
def render (d : Document) : String := String.ofList d.written

end NetIntent.Document
