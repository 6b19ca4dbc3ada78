import NetIntent.Document.Yaml.Token

/-!
A parser for the part of YAML without anchors, aliases, tags, directives and block scalars: block maps
and lists by indentation, maps and lists in brackets, scalars, comments and document markers. There is
one document, and an absent value is the empty plain scalar. Configurations take any other parser as
well.
-/

namespace NetIntent.Yaml

def absent : Document := .plain ""

/-- Members whose keys are all scalars. No record has a member of another kind. -/
def ofMembers (members : List (Document × Document)) : Document :=
  match members.mapM fun (key, value) => key.text?.map (·, value) with
  | some members => .map members
  | none => .unreadable

def Token.endsItem : Token → Bool
  | .dash | .blockEnd => true
  | _ => false

def Token.endsMember : Token → Bool
  | .key | .value | .blockEnd => true
  | _ => false

def Token.endsFlow : Token → Bool
  | .comma | .closeList | .closeMap => true
  | _ => false

mutual

/-- A value and the tokens after it. Block collections start only where `block` holds, and a list
without indentation of its own only where `dashes` does. -/
def node : Nat → Bool → Bool → List Token → Option (Document × List Token)
  | 0, _, _, _ => none
  | fuel + 1, block, dashes, ts =>
    match ts with
    | .scalar d :: ts => some (d, ts)
    | .openList :: ts => (flowItems fuel ts).map fun (items, ts) => (.sequence items, ts)
    | .openMap :: ts => (flowMembers fuel ts).map fun (members, ts) => (ofMembers members, ts)
    | .blockList :: ts =>
      if block then (blockItems fuel ts).map fun (items, ts) => (.sequence items, ts) else none
    | .blockMap :: ts =>
      if block then (blockMembers fuel ts).map fun (members, ts) => (ofMembers members, ts)
      else none
    | .dash :: _ =>
      if dashes then (bareItems fuel ts).map fun (items, ts) => (.sequence items, ts) else none
    | _ => none

/-- A value, absent in front of a token that ends it. -/
def optionalNode (ends : Token → Bool) :
    Nat → Bool → Bool → List Token → Option (Document × List Token)
  | 0, _, _, _ => none
  | fuel + 1, block, dashes, ts =>
    if ts.head?.any ends then some (absent, ts) else node fuel block dashes ts

/-- The value of a key, absent unless it is marked. -/
def valueNode (ends : Token → Bool) (block : Bool) :
    Nat → List Token → Option (Document × List Token)
  | 0, _ => none
  | fuel + 1, .value :: ts => optionalNode ends fuel block block ts
  | _ + 1, ts => some (absent, ts)

def blockItems : Nat → List Token → Option (List Document × List Token)
  | 0, _ => none
  | _ + 1, .blockEnd :: ts => some ([], ts)
  | fuel + 1, .dash :: ts => do
    let (d, ts) ← optionalNode Token.endsItem fuel true false ts
    let (rest, ts) ← blockItems fuel ts
    some (d :: rest, ts)
  | _ + 1, _ => none

/-- The items of a list whose dashes stand in the column of the key before it. -/
def bareItems : Nat → List Token → Option (List Document × List Token)
  | 0, _ => none
  | fuel + 1, .dash :: ts => do
    let (d, ts) ← optionalNode (fun t => t.endsItem || t.endsMember) fuel true false ts
    let (rest, ts) ← bareItems fuel ts
    some (d :: rest, ts)
  | _ + 1, ts => some ([], ts)

def blockMembers : Nat → List Token → Option (List (Document × Document) × List Token)
  | 0, _ => none
  | _ + 1, .blockEnd :: ts => some ([], ts)
  | fuel + 1, .key :: ts => do
    let (key, ts) ← optionalNode Token.endsMember fuel true true ts
    let (value, ts) ← valueNode Token.endsMember true fuel ts
    let (rest, ts) ← blockMembers fuel ts
    some ((key, value) :: rest, ts)
  | _ + 1, _ => none

/-- The items of a list in brackets, from the start of an item or the closing bracket on. A marked
key makes an item a map of one member; where no key follows its mark, the next token is dropped. -/
def flowItems : Nat → List Token → Option (List Document × List Token)
  | 0, _ => none
  | _ + 1, .closeList :: ts => some ([], ts)
  | fuel + 1, ts => do
    let (d, ts) ← (match ts with
      | .key :: ts => do
        let (key, ts) ← (match ts with
          | .value :: ts | .comma :: ts | .closeList :: ts => some (absent, ts)
          | ts => node fuel false false ts : Option (Document × List Token))
        let (value, ts) ← valueNode Token.endsFlow false fuel ts
        some (ofMembers [(key, value)], ts)
      | ts => node fuel false false ts : Option (Document × List Token))
    match ts with
    | .comma :: ts => do
      let (rest, ts) ← flowItems fuel ts
      some (d :: rest, ts)
    | .closeList :: ts => some ([d], ts)
    | _ => none

/-- The members of a map in brackets, from the start of a member or the closing bracket on. -/
def flowMembers : Nat → List Token → Option (List (Document × Document) × List Token)
  | 0, _ => none
  | _ + 1, .closeMap :: ts => some ([], ts)
  | fuel + 1, ts => do
    let (member, ts) ← (match ts with
      | .key :: ts => do
        let (key, ts) ←
          optionalNode (fun t => t.endsFlow || t.endsMember) fuel false false ts
        let (value, ts) ← valueNode Token.endsFlow false fuel ts
        some ((key, value), ts)
      | ts => (node fuel false false ts).map fun (key, ts) => ((key, absent), ts) :
        Option ((Document × Document) × List Token))
    match ts with
    | .comma :: ts => do
      let (rest, ts) ← flowMembers fuel ts
      some (member :: rest, ts)
    | .closeMap :: ts => some ([member], ts)
    | _ => none

end

def Token.isDocumentEnd : Token → Bool
  | .documentEnd => true
  | _ => false

/-- The one document of some tokens. After a marker that starts it the document may be absent. -/
def ofTokens? (ts : List Token) : Option Document := do
  let fuel := 4 * ts.length + 4
  let (d, rest) ← match ts with
    | .documentStart :: ts =>
      if ts.head?.all Token.isDocumentEnd then some (absent, ts) else node fuel true false ts
    | ts => node fuel true false ts
  if rest.all Token.isDocumentEnd then some d else none

/-- The document a text spells, if the text keeps to this part of YAML. -/
def read? (s : String) : Option Document := (Token.ofText? s).bind ofTokens?

end NetIntent.Yaml
