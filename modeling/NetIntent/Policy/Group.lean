import Std.Data.ExtTreeSet
import NetIntent.Policy.Tag

/-!
Groups of addresses. The addresses of a group are those of its first address expression; an update
leaves a single address expression, without the addresses written before and with the new ones.
-/

namespace NetIntent

open Document

/-- A set of addresses, listed in ascending byte order. -/
abbrev AddressSet := Std.ExtTreeSet String

inductive Expression where
  | addresses (items : List String)
  /-- A condition, a path or any other expression that is never written here. -/
  | other
  deriving DecidableEq

namespace Expression

def typeName : String := "resource_type"

def addressType : String := "IPAddressExpression"

def toDocument : Expression → Document
  | addresses items => .map [(typeName, .text addressType), ("ip_addresses", ofTexts items)]
  | other => .map [(typeName, .text "Unsupported")]

/-- The type of an expression comes first: as a member, or at the head of a list. -/
def ofDocument? (d : Document) : Option Expression :=
  if !d.readable then none
  else
    match d with
    | .map members => do
      let type ← (← sole members typeName).bind text?
      if type = addressType then
        pure (addresses (← orElse (listOf text?) [] (← sole members "ip_addresses")))
      else pure other
    | .list (type :: rest) => do
      let type ← text? type
      if type = addressType then
        let [items] ← (Document.list rest).fields ["ip_addresses"] | none
        pure (addresses (← orElse (listOf text?) [] items))
      else if rest.isEmpty then pure other
      else none
    | _ => none

end Expression

structure Group where
  id : Option String := none
  displayName : Option String := none
  expressions : List Expression := []
  tags : List Tag := []
  deriving DecidableEq

namespace Group

def kind : String := "Group"

def addresses (g : Group) : AddressSet :=
  match g.expressions.findSome? fun
    | .addresses items => some items
    | .other => none with
  | some items => .ofList items
  | none => ∅

/-- The addresses after an update: those present and not written before, and the new ones. -/
def updated (g : Group) (old new : AddressSet) : AddressSet := (g.addresses \ old) ∪ new

def update (g : Group) (old new : AddressSet) : Group :=
  { g with expressions := [.addresses (g.updated old new).toList] }

def toDocument (g : Group) : Document :=
  .map (memberIfSome "id" g.id ++ memberIfSome "display_name" g.displayName ++
    [("expression", .list (g.expressions.map Expression.toDocument)),
      ("tags", .list (g.tags.map Tag.toDocument))])

def ofDocument? (d : Document) : Option Group := do
  let [id, displayName, expressions, tags] ← d.fields
    ["id", "display_name", "expression", "tags"] | none
  pure { id := ← optional text? id
         displayName := ← optional text? displayName
         expressions := ← orElse (listOf Expression.ofDocument?) [] expressions
         tags := ← orElse (listOf Tag.ofDocument?) [] tags }

end Group

end NetIntent
