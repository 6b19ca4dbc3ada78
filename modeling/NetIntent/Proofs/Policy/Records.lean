import NetIntent.Config.Basic
import NetIntent.Policy.Group
import NetIntent.Policy.SubnetPort
import NetIntent.Policy.Realization
import NetIntent.Policy.VirtualServer
import NetIntent.Proofs.Document.Codec

/-! The codecs of all record kinds are lawful. A realization state is no record: it is read from a text
or from an object whose only member is null under its name, so an object with any other member is
refused. -/
namespace NetIntent

open Document

namespace Tag

def codec : Codec Tag where
  known := [.plain "scope", .plain "tag"]
  read := ofDocument?
  write := toDocument

theorem codec_lawful : codec.Lawful := by
  refine Codec.lawful (fun t => ?back) (fun d d' alike => ?alike)
  case back => rfl
  case alike =>
    refine alike.read (by decide) fun fields fields' vary => ?_
    obtain _ | ⟨scope, _ | ⟨value, ⟨⟩⟩⟩ := vary
    rw [scope.plain, value.plain]

theorem read_tags (tags : List Tag) : listOf ofDocument? (.list (tags.map toDocument)) = some tags :=
  codec_lawful.read_list tags

end Tag

namespace Realization

namespace State

theorem ofName_of_strange {name : String}
    (strange : name ∉ ["REALIZED", "UNREALIZED", "ERROR", "IN_PROGRESS", "UNAVAILABLE"]) :
    ofName name = .unknown := by
  simp only [List.mem_cons, List.not_mem_nil, or_false, not_or] at strange
  simp only [ofName, strange, if_false]

/-- The objects that are read as a state. -/
theorem ofDocument?_map {members : List (String × Document)} {s : State} :
    ofDocument? (.map members) = some s ↔ ∃ name, members = [(name, .null)] ∧ s = ofName name := by
  rw [ofDocument?, Option.map_eq_some_iff]
  constructor
  · rintro ⟨name, found, rfl⟩
    unfold caseName? at found
    split at found
    · rename_i same
      cases same
    · rename_i same
      cases found
      exact ⟨name, Document.map.inj same, rfl⟩
    · cases found
  · rintro ⟨name, rfl, rfl⟩
    exact ⟨name, rfl, rfl⟩

end State

namespace ErrorDetails

def codec : Codec ErrorDetails where
  known := [.optional "error_code", .optional "error_message"]
  read := ofDocument?
  write := toDocument

theorem toDocument_eq (e : ErrorDetails) : e.toDocument = .map (filled
    [("error_code", e.code.map fun c => .number (.int c.toInt)), ("error_message", e.message.map .text)]) := by
  simp [toDocument, filled, memberIfSome_eq, Function.comp_def]

theorem int64?_toInt (c : Int64) : int64? (.number (.int c.toInt)) = some c := by
  have lower := c.le_toInt
  have upper := c.toInt_lt
  rw [int64?, if_pos ⟨by omega, by omega⟩, Int64.ofInt_toInt]

theorem codec_lawful : codec.Lawful := by
  refine Codec.lawful (fun e => ?back) (fun d d' alike => ?alike)
  case back =>
    have code := optional_map (fun c : Int64 => .number (.int c.toInt)) int64?_toInt (fun _ => nofun) e.code
    show ofDocument? e.toDocument = some e
    rw [toDocument_eq]
    refine (read_filled rfl (by simp)).trans ?_
    simp only [List.map_cons, List.map_nil, code, optional_text]
    rfl
  case alike =>
    refine alike.read (by decide) fun fields fields' vary => ?_
    obtain _ | ⟨code, _ | ⟨message, ⟨⟩⟩⟩ := vary
    simp only [code.optional, message.optional]

end ErrorDetails

namespace Alarm

def codec : Codec Alarm where
  known := [.optional "message", .record "error_details" ErrorDetails.codec.known]
  read := ofDocument?
  write := toDocument

theorem toDocument_eq (a : Alarm) : a.toDocument = .map (filled
    [("message", a.message.map .text), ("error_details", a.details.map ErrorDetails.toDocument)]) := by
  simp [toDocument, filled, memberIfSome_eq, Function.comp_def]

theorem codec_lawful : codec.Lawful := by
  refine Codec.lawful (fun a => ?back) (fun d d' alike => ?alike)
  case back =>
    have details : Document.optional ErrorDetails.ofDocument? (a.details.map ErrorDetails.toDocument) =
        some a.details :=
      optional_map _ ErrorDetails.codec_lawful.read_write (fun _ => nofun) a.details
    show ofDocument? a.toDocument = some a
    rw [toDocument_eq]
    refine (read_filled rfl (by simp)).trans ?_
    simp only [List.map_cons, List.map_nil, optional_text, details]
    rfl
  case alike =>
    refine alike.read (by decide) fun fields fields' vary => ?_
    obtain _ | ⟨message, _ | ⟨details, ⟨⟩⟩⟩ := vary
    simp only [message.optional, details.record ErrorDetails.ofDocument? ErrorDetails.codec_lawful.read_alike]

theorem read_alarms (alarms : List Alarm) :
    listOf ofDocument? (.list (alarms.map toDocument)) = some alarms := codec_lawful.read_list alarms

end Alarm

namespace Entity

def codec : Codec Entity where
  known := [.optional "id", .optional "entity_type", .plain "state", .records "alarms" Alarm.codec.known]
  read := ofDocument?
  write := toDocument

theorem toDocument_eq (e : Entity) : e.toDocument = .map (filled
    [("id", e.id.map .text), ("entity_type", e.type.map .text), ("state", some e.state.toDocument),
      ("alarms", if e.alarms.isEmpty then none else some (.list (e.alarms.map Alarm.toDocument)))]) := by
  by_cases bare : e.alarms.isEmpty = true <;> simp [toDocument, filled, memberIfSome_eq, bare]

theorem codec_lawful : codec.Lawful := by
  refine Codec.lawful (fun e => ?back) (fun d d' alike => ?alike)
  case back =>
    have state : State.ofDocument? e.state.toDocument = some e.state :=
      congrArg some (State.ofName_name e.state)
    have alarms : orElse (listOf Alarm.ofDocument?) [] (if e.alarms.isEmpty then none else
        some (.list (e.alarms.map Alarm.toDocument))) = some e.alarms := by
      cases e.alarms with
      | nil => rfl
      | cons first rest => exact Alarm.read_alarms (first :: rest)
    show ofDocument? e.toDocument = some e
    rw [toDocument_eq]
    refine (read_filled rfl (by simp)).trans ?_
    simp only [List.map_cons, List.map_nil, optional_text, alarms]
    simp only [orElse, state]
    rfl
  case alike =>
    refine alike.read (by decide) fun fields fields' vary => ?_
    obtain _ | ⟨id, _ | ⟨type, _ | ⟨state, _ | ⟨alarms, ⟨⟩⟩⟩⟩⟩ := vary
    simp only [id.optional, type.optional, state.plain,
      alarms.records Alarm.ofDocument? Alarm.codec_lawful.read_alike]

end Entity

namespace Response

def codec : Codec Response where
  known := [.records "results" Entity.codec.known]
  read := ofDocument?
  write := toDocument

theorem codec_lawful : codec.Lawful := by
  refine Codec.lawful (fun r => ?back) (fun d d' alike => ?alike)
  case back =>
    have entities : listOf Entity.ofDocument? (.list (r.entities.map Entity.toDocument)) = some r.entities :=
      Entity.codec_lawful.read_list r.entities
    show (listOf Entity.ofDocument? (.list (r.entities.map Entity.toDocument))).bind
      (fun entities => some ⟨entities⟩) = some r
    rw [entities]
    rfl
  case alike =>
    refine alike.read (by decide) fun fields fields' vary => ?_
    obtain _ | ⟨entities, ⟨⟩⟩ := vary
    simp only [entities.records Entity.ofDocument? Entity.codec_lawful.read_alike]

end Response

namespace Expected

def codec : Codec Expected where
  known := [.plain "id", .plain "entity_type"]
  read := ofDocument?
  write := toDocument

theorem codec_lawful : codec.Lawful := by
  refine Codec.lawful (fun x => ?back) (fun d d' alike => ?alike)
  case back => rfl
  case alike =>
    refine alike.read (by decide) fun fields fields' vary => ?_
    obtain _ | ⟨id, _ | ⟨type, ⟨⟩⟩⟩ := vary
    rw [id.plain, type.plain]

end Expected

end Realization

namespace Expression

def codec : Codec Expression where
  known := [.plain typeName, .plain "ip_addresses"]
  read := ofDocument?
  write := toDocument

theorem ofDocument?_map (members : List (String × Document)) : ofDocument? (.map members) =
    if !(Document.map members).readable then none
    else (do
      let type ← (← sole members typeName).bind text?
      if type = addressType then
        pure (addresses (← orElse (listOf text?) [] (← sole members "ip_addresses")))
      else pure other) := rfl

/-- An expression of any type but that of address lists is accepted. -/
theorem ofDocument?_other {members : List (String × Document)} {type : String}
    (readable : (Document.map members).readable = true)
    (typed : sole members typeName = some (some (.text type))) (strange : type ≠ addressType) :
    ofDocument? (.map members) = some .other := by
  simp [ofDocument?_map, readable, typed, text?, strange]

theorem codec_lawful : codec.Lawful := by
  refine Codec.lawful (fun x => ?back) (fun d d' alike => ?alike)
  case back =>
    cases x with
    | other => rfl
    | addresses items =>
      have readable : (toDocument (.addresses items)).readable = true := by
        simp [toDocument, Document.readable, readableMembers, readable_ofTexts]
      show ofDocument? (toDocument (.addresses items)) = some (.addresses items)
      rw [toDocument, typeName] at readable ⊢
      simp [ofDocument?_map, readable, sole, typeName, text?, orElse, listOf_ofTexts]
  case alike =>
    obtain ⟨members, members', rfl, rfl⟩ := alike.objects
    have readable := alike.readable (by simp [codec])
    have type := alike.sole_plain (by decide) typeName (by simp [codec])
    have items := alike.sole_plain (by decide) "ip_addresses" (by simp [codec])
    show ofDocument? _ = ofDocument? _
    rw [ofDocument?_map, ofDocument?_map, readable, type, items]

end Expression

namespace Group

def codec : Codec Group where
  known := [.optional "id", .optional "display_name", .records "expression" Expression.codec.known,
    .records "tags" Tag.codec.known]
  read := ofDocument?
  write := toDocument

theorem toDocument_eq (g : Group) : g.toDocument = .map (filled
    [("id", g.id.map .text), ("display_name", g.displayName.map .text),
      ("expression", some (.list (g.expressions.map Expression.toDocument))),
      ("tags", some (.list (g.tags.map Tag.toDocument)))]) := by
  simp [toDocument, filled, memberIfSome_eq]

theorem codec_lawful : codec.Lawful := by
  refine Codec.lawful (fun g => ?back) (fun d d' alike => ?alike)
  case back =>
    have expressions : listOf Expression.ofDocument? (.list (g.expressions.map Expression.toDocument)) =
        some g.expressions := Expression.codec_lawful.read_list g.expressions
    show ofDocument? g.toDocument = some g
    rw [toDocument_eq]
    refine (read_filled rfl (by simp)).trans ?_
    simp only [List.map_cons, List.map_nil, optional_text, orElse, expressions, Tag.read_tags]
    rfl
  case alike =>
    refine alike.read (by decide) fun fields fields' vary => ?_
    obtain _ | ⟨id, _ | ⟨displayName, _ | ⟨expressions, _ | ⟨tags, ⟨⟩⟩⟩⟩⟩ := vary
    simp only [id.optional, displayName.optional,
      expressions.records Expression.ofDocument? Expression.codec_lawful.read_alike,
      tags.records Tag.ofDocument? Tag.codec_lawful.read_alike]

end Group

namespace VirtualServer

def codec : Codec VirtualServer where
  known := [.optional "id", .optional "display_name", .optional "path", .optional "ip_address",
    .plain "ports", .optional "lb_service_path", .records "tags" Tag.codec.known,
    .plain "marked_for_delete"]
  read := ofDocument?
  write := toDocument

theorem toDocument_eq (s : VirtualServer) : s.toDocument = .map (filled
    [("id", s.id.map .text), ("display_name", s.displayName.map .text), ("path", s.path.map .text),
      ("ip_address", s.address.map .text), ("ports", some (ofTexts s.ports)),
      ("lb_service_path", s.balancerPath.map .text), ("tags", some (.list (s.tags.map Tag.toDocument))),
      ("marked_for_delete", some (.bool s.markedForDelete))]) := by
  simp [toDocument, filled, memberIfSome_eq]

theorem codec_lawful : codec.Lawful := by
  refine Codec.lawful (fun s => ?back) (fun d d' alike => ?alike)
  case back =>
    show ofDocument? s.toDocument = some s
    rw [toDocument_eq]
    refine (read_filled rfl (by simp)).trans ?_
    simp only [List.map_cons, List.map_nil, optional_text, orElse, listOf_ofTexts, Tag.read_tags]
    rfl
  case alike =>
    refine alike.read (by decide) fun fields fields' vary => ?_
    obtain _ | ⟨id, _ | ⟨displayName, _ | ⟨path, _ | ⟨address, _ | ⟨ports, _ | ⟨balancerPath, _ |
      ⟨tags, _ | ⟨marked, ⟨⟩⟩⟩⟩⟩⟩⟩⟩⟩ := vary
    simp only [id.optional, displayName.optional, path.optional, address.optional, ports.plain,
      balancerPath.optional, tags.records Tag.ofDocument? Tag.codec_lawful.read_alike, marked.plain]

end VirtualServer

namespace SubnetPort

def codec : Codec SubnetPort where
  known := [.optional "id", .optional "display_name", .optional "path", .optional "parent_path",
    .records "tags" Tag.codec.known, .plain "marked_for_delete"]
  read := ofDocument?
  write := toDocument

theorem toDocument_eq (p : SubnetPort) : p.toDocument = .map (filled
    [("id", p.id.map .text), ("display_name", p.displayName.map .text), ("path", p.path.map .text),
      ("parent_path", p.parentPath.map .text), ("tags", some (.list (p.tags.map Tag.toDocument))),
      ("marked_for_delete", some (.bool p.markedForDelete))]) := by
  simp [toDocument, filled, memberIfSome_eq]

theorem codec_lawful : codec.Lawful := by
  refine Codec.lawful (fun p => ?back) (fun d d' alike => ?alike)
  case back =>
    show ofDocument? p.toDocument = some p
    rw [toDocument_eq]
    refine (read_filled rfl (by simp)).trans ?_
    simp only [List.map_cons, List.map_nil, optional_text, orElse, Tag.read_tags]
    rfl
  case alike =>
    refine alike.read (by decide) fun fields fields' vary => ?_
    obtain _ | ⟨id, _ | ⟨displayName, _ | ⟨path, _ | ⟨parentPath, _ | ⟨tags, _ | ⟨marked, ⟨⟩⟩⟩⟩⟩⟩⟩ := vary
    simp only [id.optional, displayName.optional, path.optional, parentPath.optional,
      tags.records Tag.ofDocument? Tag.codec_lawful.read_alike, marked.plain]

end SubnetPort

namespace VipGroup

def codec : Codec VipGroup where
  known := [.plain "enabled", .plain "domain_id", .plain "group_id"]
  read := ofDocument?
  write := toDocument

theorem codec_lawful : codec.Lawful := by
  refine Codec.lawful (fun g => ?back) (fun d d' alike => ?alike)
  case back => rfl
  case alike =>
    refine alike.read (by decide) fun fields fields' vary => ?_
    obtain _ | ⟨enabled, _ | ⟨domain, _ | ⟨group, ⟨⟩⟩⟩⟩ := vary
    rw [enabled.plain, domain.plain, group.plain]

end VipGroup

open Realization in
/-- The codecs of all records are lawful. A state is read from its text, whatever this is, or from an
object whose only member is null under that text; an expression of an unknown type is accepted. -/
theorem records_round_trip :
    (Tag.codec.Lawful ∧ ErrorDetails.codec.Lawful ∧ Alarm.codec.Lawful ∧ Entity.codec.Lawful ∧
      Response.codec.Lawful ∧ Expected.codec.Lawful ∧ Expression.codec.Lawful ∧ Group.codec.Lawful ∧
      VirtualServer.codec.Lawful ∧ SubnetPort.codec.Lawful ∧ VipGroup.codec.Lawful) ∧
    (∀ s : Realization.State, State.ofDocument? s.toDocument = some s) ∧
    (∀ name, State.ofDocument? (.text name) = some (State.ofName name)) ∧
    (∀ name, name ∉ ["REALIZED", "UNREALIZED", "ERROR", "IN_PROGRESS", "UNAVAILABLE"] →
      State.ofName name = .unknown) ∧
    (∀ members s, State.ofDocument? (.map members) = some s ↔
      ∃ name, members = [(name, .null)] ∧ s = State.ofName name) ∧
    ∀ members type, (Document.map members).readable = true →
      sole members Expression.typeName = some (some (.text type)) → type ≠ Expression.addressType →
        Expression.ofDocument? (.map members) = some .other := by
  refine ⟨⟨Tag.codec_lawful, ErrorDetails.codec_lawful, Alarm.codec_lawful, Entity.codec_lawful,
    Response.codec_lawful, Expected.codec_lawful, Expression.codec_lawful, Group.codec_lawful,
    VirtualServer.codec_lawful, SubnetPort.codec_lawful, VipGroup.codec_lawful⟩, ?_, ?_, ?_, ?_, ?_⟩
  · exact fun s => congrArg some (State.ofName_name s)
  · exact fun name => rfl
  · exact fun name strange => State.ofName_of_strange strange
  · exact fun members s => State.ofDocument?_map
  · exact fun members type readable typed strange => Expression.ofDocument?_other readable typed strange

namespace Group.Sample

/-- The members of a list of one address. -/
def items : List (String × Document) :=
  [("resource_type", .text "IPAddressExpression"), ("ip_addresses", .list [.text "10.0.0.1"])]

def listing (expression : List (String × Document)) : Document :=
  .map [("expression", .list [.map expression]), ("id", .text "g")]

def annotated : List (String × Document) := ("note", .number (.int 1)) :: items

end Group.Sample

open Group.Sample in
/-- A member of an unknown name inside an expression does not matter to a group. -/
theorem annotated_group_reads_alike :
    Alike Group.codec.known (listing items) (listing annotated) ∧
      Group.ofDocument? (listing items) = Group.ofDocument? (listing annotated) ∧
      Group.ofDocument? (listing items) = some { id := some "g", expressions := [.addresses ["10.0.0.1"]] } := by
  have strange : Alike Expression.codec.known (.map items) (.map annotated) :=
    .unknown (by decide) rfl
  have known : .records "expression" Expression.codec.known ∈ Group.codec.known := by simp [Group.codec]
  have alike : Alike Group.codec.known (listing items) (listing annotated) :=
    .nested known (.item [] [] strange)
  exact ⟨alike, records_round_trip.1.2.2.2.2.2.2.2.1.read_alike _ _ alike, rfl⟩

open Realization in
/-- A state in an object is refused for another member, although no name of it is known. -/
theorem annotated_state_refused :
    State.ofDocument? (.map [("ERROR", .null)]) = some .error ∧
      State.ofDocument? (.map [("ERROR", .null), ("note", .number (.int 1))]) = none := ⟨rfl, rfl⟩

end NetIntent
