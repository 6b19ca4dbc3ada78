import NetIntent.Document.Yaml
import NetIntent.Proofs.Config.Rules
import NetIntent.Proofs.Document.Codec
import NetIntent.Proofs.Document.Numerals

/-! What a configuration document gives, and the configuration that it stands for. A document names any of
the known fields, in any order and among unknown ones; all others are those of a new configuration, at every
depth. Only the name of the cluster and the four numbers of a policy have to be there. -/
namespace NetIntent

namespace Document

variable {α β : Type} {members before after : List (String × Document)} {name other : String}
  {value : Document} {read : Document → Option α} {given : Option α}

/-- A scalar and the value that a field of some type reads from it. -/
abbrev Reads (read : Document → Option α) (d : Document) (a : α) : Prop := read d = some a

/-- A field that is an object again. -/
def Nested (spelled : List (String × Document) → α → Prop) (d : Document) (a : α) : Prop :=
  ∃ members, d = .map members ∧ spelled members a

/-- What some members give for a name: nothing if none has it, or the value of the one that has. -/
inductive Gives (members : List (String × Document)) (name : String) (reads : Document → α → Prop) :
    Option α → Prop where
  | omitted (absent : name ∉ members.map Prod.fst) : Gives members name reads none
  | named {value : Document} {a : α} (before after : List (String × Document))
      (split : members = before ++ (name, value) :: after)
      (once : name ∉ (before ++ after).map Prod.fst) (read : reads value a) :
      Gives members name reads (some a)

/-- The value of a field, read from what the members have for its name. -/
def field (members : List (String × Document)) (name : String) (read : Option Document → Option α) :
    Option α :=
  (sole members name).bind read

theorem Gives.field_orElse (gives : Gives members name (Reads read) given) (standard : α) :
    field members name (orElse read standard) = some (given.getD standard) := by
  cases gives with
  | omitted absent =>
    rw [field, sole_of_absent absent]
    rfl
  | named before after split once reads =>
    rw [field, split, sole_perm List.perm_middle, sole_cons_of_absent once]
    exact reads

theorem Gives.field_required {a : α} (gives : Gives members name (Reads read) (some a)) :
    field members name (required read) = some a := by
  cases gives with
  | named before after split once reads =>
    rw [field, split, sole_perm List.perm_middle, sole_cons_of_absent once]
    exact reads

theorem Nested.accepted {spelled : List (String × Document) → β → Prop} {build : β → α} {d : Document}
    {b : β} (nested : Nested spelled d b)
    (reads : ∀ members b, spelled members b → read (.map members) = some (build b)) :
    read d = some (build b) := by
  obtain ⟨members, rfl, own⟩ := nested
  exact reads members b own

theorem Gives.nested {spelled : List (String × Document) → β → Prop} {build : β → α} {given : Option β}
    (gives : Gives members name (Nested spelled) given)
    (reads : ∀ members b, spelled members b → read (.map members) = some (build b)) :
    Gives members name (Reads read) (given.map build) := by
  cases gives with
  | omitted absent => exact .omitted absent
  | named before after split once nested =>
    exact .named before after split once (nested.accepted reads)

theorem sole_of_mem (own : (name, value) ∈ members) :
    sole members name = some (some value) ∨ sole members name = none := by
  obtain ⟨before, after, rfl⟩ := List.append_of_mem own
  rw [sole_perm List.perm_middle]
  by_cases again : name ∈ (before ++ after).map Prod.fst
  · exact .inr (sole_cons_of_mem again)
  · exact .inl (sole_cons_of_absent again)

/-- A member that cannot be read leaves its field without a value, repeated or not. -/
theorem field_of_unread (own : (name, value) ∈ members) (unread : read value = none) (standard : α) :
    field members name (orElse read standard) = none := by
  obtain found | repeated := sole_of_mem own
  · rw [field, found]
    exact unread
  · rw [field, repeated]
    rfl

theorem field_of_absent (absent : name ∉ members.map Prod.fst) :
    field members name (required read) = none := by
  rw [field, sole_of_absent absent]
  rfl

theorem field_insert_of_ne (different : name ≠ other) (read : Option Document → Option α) :
    field (before ++ (name, value) :: after) other read = field (before ++ after) other read := by
  rw [field, sole_perm List.perm_middle, sole_cons_of_ne different, field]

/-- A field that is given its standard value might be left out as well. -/
theorem field_insert_standard {standard : α} (absent : name ∉ (before ++ after).map Prod.fst)
    (reads : read value = some standard) :
    field (before ++ (name, value) :: after) name (orElse read standard) =
      field (before ++ after) name (orElse read standard) := by
  rw [field, sole_perm List.perm_middle, sole_cons_of_absent absent, field, sole_of_absent absent]
  exact reads

theorem getD_of_standard {standard : α} (own : ∀ a ∈ given, a = standard) :
    given.getD standard = standard := by
  cases given with
  | none => rfl
  | some a => exact own a rfl

theorem getD_map_of_standard {build : α → β} {standard : β} {usual : α} (built : build usual = standard)
    (own : ∀ a ∈ given, a = usual) : (given.map build).getD standard = standard := by
  cases given with
  | none => rfl
  | some a => exact (congrArg build (own a rfl)).trans built

end Document

open Document

variable {members : List (String × Document)}

namespace VipGroup

/-- The fields that a document gives, each or none. -/
structure Given where
  enabled : Option Bool := none
  domain : Option String := none
  group : Option String := none

namespace Given

variable {given : Given}

/-- A group with the given fields replaced. -/
def onto (given : Given) (g : VipGroup) : VipGroup :=
  { enabled := given.enabled.getD g.enabled
    domain := given.domain.getD g.domain
    group := given.group.getD g.group }

structure Spelled (members : List (String × Document)) (given : Given) : Prop where
  enabled : Gives members "enabled" (Reads bool?) given.enabled
  domain : Gives members "domain_id" (Reads text?) given.domain
  group : Gives members "group_id" (Reads text?) given.group

/-- No field is given another value than its default. -/
structure IsStandard (given : Given) : Prop where
  enabled : ∀ b ∈ given.enabled, b = true
  domain : ∀ s ∈ given.domain, s = "default"
  group : ∀ s ∈ given.group, s = "LbVirtualServerIpSet"

theorem onto_of_isStandard (standard : given.IsStandard) : given.onto {} = {} := by
  simp only [onto, getD_of_standard standard.enabled, getD_of_standard standard.domain,
    getD_of_standard standard.group]

end Given

theorem ofDocument?_map (members : List (String × Document)) :
    ofDocument? (.map members) = (do
      let enabled ← field members "enabled" (orElse bool? true)
      let domain ← field members "domain_id" (orElse text? "default")
      let group ← field members "group_id" (orElse text? "LbVirtualServerIpSet")
      pure { enabled, domain, group }) := by
  simp only [ofDocument?, fields, List.mapM_cons, List.mapM_nil, field]
  cases sole members "enabled" with
  | none => rfl
  | some enabled =>
  cases sole members "domain_id" with
  | none => simp
  | some domain =>
  cases sole members "group_id" with
  | none => simp
  | some group => simp

theorem Given.Spelled.read {given : Given} (spelled : given.Spelled members) :
    ofDocument? (.map members) = some (given.onto {}) := by
  rw [ofDocument?_map, spelled.enabled.field_orElse, spelled.domain.field_orElse, spelled.group.field_orElse]
  rfl

end VipGroup

/-- Milliseconds of 64 bits come out of a span as they went in. -/
theorem Span.millis_ofMillis (n : UInt64) : (ofMillis n).millis = n := by
  have bound : n.toNat * millisecond ≤ limit := by
    have small := n.toNat_lt_size
    unfold UInt64.size at small
    unfold limit millisecond second UInt64.size
    omega
  have positive : 0 < millisecond := by decide
  rw [ofMillis, ofNanos, dif_pos bound, millis, Nat.mul_div_cancel _ positive, UInt64.ofNat_toNat]

namespace Backoff

/-- The numbers of a policy, the first wait in milliseconds. -/
structure Given where
  duration : UInt64
  factor : Float
  jitter : Float
  steps : UInt32

namespace Given

def policy (given : Given) : Backoff := ⟨.ofMillis given.duration, given.factor, given.jitter, given.steps⟩

structure Spelled (members : List (String × Document)) (given : Given) : Prop where
  duration : Gives members "duration_ms" (Reads word?) (some given.duration)
  factor : Gives members "factor" (Reads real?) (some given.factor)
  jitter : Gives members "jitter" (Reads real?) (some given.jitter)
  steps : Gives members "steps" (Reads (nat? UInt32.size)) (some given.steps.toNat)

end Given

theorem ofDocument?_map (members : List (String × Document)) :
    ofDocument? (.map members) = (do
      let duration ← field members "duration_ms" (required word?)
      let factor ← field members "factor" (required real?)
      let jitter ← field members "jitter" (required real?)
      let steps ← field members "steps" (required (nat? UInt32.size))
      pure ⟨.ofMillis duration, factor, jitter, .ofNat steps⟩) := by
  simp only [ofDocument?, fields, List.mapM_cons, List.mapM_nil, field]
  cases sole members "duration_ms" with
  | none => rfl
  | some duration =>
  cases sole members "factor" with
  | none => simp
  | some factor =>
  cases sole members "jitter" with
  | none => simp
  | some jitter =>
  cases sole members "steps" with
  | none => simp
  | some steps => simp

theorem Given.Spelled.read {given : Given} (spelled : given.Spelled members) :
    ofDocument? (.map members) = some given.policy := by
  rw [ofDocument?_map, spelled.duration.field_required, spelled.factor.field_required,
    spelled.jitter.field_required, spelled.steps.field_required]
  simp [Given.policy]

/-- A policy that is read and written again still gives the same numbers. -/
theorem Given.rewritten (given : Given) : Nested Spelled given.policy.toDocument given := by
  refine ⟨_, rfl, ?_, ?_, ?_, ?_⟩
  · refine .named [] _ rfl (by simp) ?_
    rw [policy, Span.millis_ofMillis]
    exact word?_int given.duration
  · exact .named [_] _ rfl (by simp) rfl
  · exact .named [_, _] _ rfl (by simp) rfl
  · refine .named [_, _, _] _ rfl (by simp) ?_
    have bound := given.steps.toNat_lt_size
    simp [Reads, nat?, policy, bound]

/-- A policy has no defaults. -/
theorem unread_of_absent {name : String} (needed : name ∈ ["duration_ms", "factor", "jitter", "steps"])
    (absent : name ∉ members.map Prod.fst) : ofDocument? (.map members) = none := by
  rw [ofDocument?_map]
  simp only [List.mem_cons, List.not_mem_nil, or_false] at needed
  obtain rfl | rfl | rfl | rfl := needed <;> simp [field_of_absent absent]

end Backoff

namespace RetryPolicies

structure Given where
  subnet : Option Backoff.Given := none
  standard : Option Backoff.Given := none
  virtualServer : Option Backoff.Given := none

namespace Given

variable {given : Given}

/-- A set of policies with the given ones replaced. -/
def onto (given : Given) (p : RetryPolicies) : RetryPolicies :=
  { subnet := (given.subnet.map (·.policy)).getD p.subnet
    standard := (given.standard.map (·.policy)).getD p.standard
    virtualServer := (given.virtualServer.map (·.policy)).getD p.virtualServer }

structure Spelled (members : List (String × Document)) (given : Given) : Prop where
  subnet : Gives members "subnet" (Nested Backoff.Given.Spelled) given.subnet
  standard : Gives members "default" (Nested Backoff.Given.Spelled) given.standard
  virtualServer : Gives members "lb_virtual_server" (Nested Backoff.Given.Spelled) given.virtualServer

/-- No policy is given other numbers than those it has by default. -/
structure IsStandard (given : Given) : Prop where
  subnet : ∀ p ∈ given.subnet, p = ⟨1000, 2.0, 0.0, 6⟩
  standard : ∀ p ∈ given.standard, p = ⟨500, 1.0, 0.1, 10⟩
  virtualServer : ∀ p ∈ given.virtualServer, p = ⟨500, 1.0, 0.1, 60⟩

theorem onto_of_isStandard (standard : given.IsStandard) : given.onto {} = {} := by
  have second : Span.ofMillis 1000 = Span.ofSecs 1 := by decide
  have fast : Backoff.Given.policy ⟨1000, 2.0, 0.0, 6⟩ = .subnet := by
    rw [Backoff.Given.policy, second]
    rfl
  have usual : Backoff.Given.policy ⟨500, 1.0, 0.1, 10⟩ = .standard := rfl
  have slow : Backoff.Given.policy ⟨500, 1.0, 0.1, 60⟩ = .virtualServer := rfl
  simp only [onto, getD_map_of_standard fast standard.subnet, getD_map_of_standard usual standard.standard,
    getD_map_of_standard slow standard.virtualServer]

end Given

theorem ofDocument?_map (members : List (String × Document)) :
    ofDocument? (.map members) = (do
      let subnet ← field members "subnet" (orElse Backoff.ofDocument? .subnet)
      let standard ← field members "default" (orElse Backoff.ofDocument? .standard)
      let virtualServer ← field members "lb_virtual_server" (orElse Backoff.ofDocument? .virtualServer)
      pure { subnet, standard, virtualServer }) := by
  simp only [ofDocument?, fields, List.mapM_cons, List.mapM_nil, field]
  cases sole members "subnet" with
  | none => rfl
  | some subnet =>
  cases sole members "default" with
  | none => simp
  | some standard =>
  cases sole members "lb_virtual_server" with
  | none => simp
  | some virtualServer => simp

theorem Given.Spelled.read {given : Given} (spelled : given.Spelled members) :
    ofDocument? (.map members) = some (given.onto {}) := by
  have policy (members : List (String × Document)) (g : Backoff.Given) (own : g.Spelled members) :
      Backoff.ofDocument? (.map members) = some g.policy := own.read
  rw [ofDocument?_map, (spelled.subnet.nested policy).field_orElse,
    (spelled.standard.nested policy).field_orElse, (spelled.virtualServer.nested policy).field_orElse]
  rfl

/-- A policy that cannot be read is not passed over. -/
theorem unread_of_policy {name : String} {value : Document} (own : (name, value) ∈ members)
    (known : name ∈ ["subnet", "default", "lb_virtual_server"])
    (unread : Backoff.ofDocument? value = none) : ofDocument? (.map members) = none := by
  rw [ofDocument?_map]
  simp only [List.mem_cons, List.not_mem_nil, or_false] at known
  obtain rfl | rfl | rfl := known <;> simp [field_of_unread own unread]

end RetryPolicies

namespace Config

structure Given where
  cluster : String
  logLevel : Option String := none
  collectInterval : Option UInt64 := none
  workers : Option UInt64 := none
  vipGroup : Option VipGroup.Given := none
  retry : Option RetryPolicies.Given := none

namespace Given

/-- A new configuration for the cluster, with the given fields replaced. -/
def config (given : Given) : Config :=
  let new : Config := { cluster := given.cluster }
  { new with
    logLevel := given.logLevel.getD new.logLevel
    collectInterval := given.collectInterval.getD new.collectInterval
    workers := given.workers.getD new.workers
    vipGroup := (given.vipGroup.map (·.onto new.vipGroup)).getD new.vipGroup
    retry := (given.retry.map (·.onto new.retry)).getD new.retry }

structure Spelled (members : List (String × Document)) (given : Given) : Prop where
  cluster : Gives members "cluster" (Reads text?) (some given.cluster)
  logLevel : Gives members "log_level" (Reads text?) given.logLevel
  collectInterval : Gives members "gc_interval_secs" (Reads word?) given.collectInterval
  workers : Gives members "reconcile_workers" (Reads word?) given.workers
  vipGroup : Gives members "vip_group" (Nested VipGroup.Given.Spelled) given.vipGroup
  retry : Gives members "retry" (Nested RetryPolicies.Given.Spelled) given.retry

end Given

theorem ofDocument?_map (members : List (String × Document)) :
    ofDocument? (.map members) = (do
      let cluster ← field members "cluster" (required text?)
      let logLevel ← field members "log_level" (orElse text? "info")
      let collectInterval ← field members "gc_interval_secs" (orElse word? 600)
      let workers ← field members "reconcile_workers" (orElse word? 8)
      let vipGroup ← field members "vip_group" (orElse VipGroup.ofDocument? {})
      let retry ← field members "retry" (orElse RetryPolicies.ofDocument? {})
      pure { cluster, logLevel, collectInterval, workers, vipGroup, retry }) := by
  simp only [ofDocument?, fields, List.mapM_cons, List.mapM_nil, field]
  cases sole members "cluster" with
  | none => rfl
  | some cluster =>
  cases sole members "log_level" with
  | none => simp
  | some logLevel =>
  cases sole members "gc_interval_secs" with
  | none => simp
  | some interval =>
  cases sole members "reconcile_workers" with
  | none => simp
  | some workers =>
  cases sole members "vip_group" with
  | none => simp
  | some vipGroup =>
  cases sole members "retry" with
  | none => simp
  | some retry => simp

theorem Given.Spelled.read {given : Given} (spelled : given.Spelled members) :
    ofDocument? (.map members) = some given.config := by
  rw [ofDocument?_map, spelled.cluster.field_required, spelled.logLevel.field_orElse,
    spelled.collectInterval.field_orElse, spelled.workers.field_orElse,
    (spelled.vipGroup.nested fun _ _ own => own.read).field_orElse,
    (spelled.retry.nested fun _ _ own => own.read).field_orElse]
  rfl

/-- The second document adds a section to the first in which everything that is given is the default. -/
inductive Restates : List (String × Document) → List (String × Document) → Prop where
  | vipGroup {before after : List (String × Document)} {value : Document} {given : VipGroup.Given}
      (absent : "vip_group" ∉ (before ++ after).map Prod.fst)
      (spelled : Nested VipGroup.Given.Spelled value given) (standard : given.IsStandard) :
      Restates (before ++ after) (before ++ ("vip_group", value) :: after)
  | retry {before after : List (String × Document)} {value : Document} {given : RetryPolicies.Given}
      (absent : "retry" ∉ (before ++ after).map Prod.fst)
      (spelled : Nested RetryPolicies.Given.Spelled value given) (standard : given.IsStandard) :
      Restates (before ++ after) (before ++ ("retry", value) :: after)

theorem Restates.same {members' : List (String × Document)} (restates : Restates members members') :
    ofDocument? (.map members') = ofDocument? (.map members) := by
  cases restates with
  | vipGroup absent spelled standard =>
    have reads := spelled.accepted fun _ _ own => own.read
    rw [VipGroup.Given.onto_of_isStandard standard] at reads
    simp [ofDocument?_map, field_insert_of_ne, field_insert_standard absent reads]
  | retry absent spelled standard =>
    have reads := spelled.accepted fun _ _ own => own.read
    rw [RetryPolicies.Given.onto_of_isStandard standard] at reads
    simp [ofDocument?_map, field_insert_of_ne, field_insert_standard absent reads]

/-- Documents that lack what has no default: the cluster, or one of the numbers of a policy. -/
inductive Incomplete : Document → Prop where
  | empty : Incomplete (.plain "")
  | cluster {members : List (String × Document)} (absent : "cluster" ∉ members.map Prod.fst) :
      Incomplete (.map members)
  | policy {members policies numbers : List (String × Document)} {policy number : String}
      (retry : ("retry", .map policies) ∈ members)
      (known : policy ∈ ["subnet", "default", "lb_virtual_server"])
      (own : (policy, .map numbers) ∈ policies)
      (needed : number ∈ ["duration_ms", "factor", "jitter", "steps"])
      (absent : number ∉ numbers.map Prod.fst) : Incomplete (.map members)

theorem Incomplete.unread {d : Document} (incomplete : Incomplete d) : ofDocument? d = none := by
  cases incomplete with
  | empty => rfl
  | cluster absent =>
    rw [ofDocument?_map, field_of_absent absent]
    rfl
  | policy retry known own needed absent =>
    have unread := RetryPolicies.unread_of_policy own known (Backoff.unread_of_absent needed absent)
    simp [ofDocument?_map, field_of_unread retry unread]

/-- A document stands for a new configuration with what it gives replaced, and the first broken rule of that
decides what comes of its text, whatever the parser is. Giving a default is giving nothing, nothing stands in
for what has no default or for a missing document, and the numbers of a policy come out as they went in. -/
theorem document_overrides_what_it_gives :
    (∀ members (given : Given), given.Spelled members → ofDocument? (.map members) = some given.config ∧
      ∀ parse text, parse text = some (.map members) → Outcome parse text given.config) ∧
    (∀ members members', Restates members members' →
      ofDocument? (.map members') = ofDocument? (.map members)) ∧
    (∀ parse text, (∀ d ∈ parse text, Incomplete d) → ofYaml parse text = .error .parse) ∧
    (∀ members (given : Backoff.Given), given.Spelled members →
      ∃ b, Backoff.ofDocument? (.map members) = some b ∧ Nested Backoff.Given.Spelled b.toDocument given) ∧
    ∀ n : UInt64, word? (.plain n.toNat.repr) = some n := by
  refine ⟨?_, ?_, ?_, ?_, word?_repr⟩
  · intro members given spelled
    have read := spelled.read
    exact ⟨read, fun parse text parsed => outcome parsed read⟩
  · intro members members' restates
    exact restates.same
  · intro parse text incomplete
    cases parsed : parse text with
    | none => simp only [ofYaml, parsed]
    | some d => simp only [ofYaml, parsed, load, (incomplete d parsed).unread]
  · intro members given spelled
    exact ⟨given.policy, spelled.read, given.rewritten⟩

namespace Sample

/-- The numbers of a policy out of their usual order, beside a field that nothing knows. -/
def numbers : List (String × Document) :=
  [("steps", .plain "20"), ("unit", .plain "ms"), ("jitter", .plain "0.5"), ("factor", .plain "1"),
    ("duration_ms", .plain "250")]

def document : List (String × Document) :=
  [("retry", .map [("subnet", .map numbers)]), ("cluster", .plain "one")]

/-- The same in YAML. -/
def text : String :=
  "retry:\n subnet:\n  steps: 20\n  unit: ms\n  jitter: 0.5\n  factor: 1\n  duration_ms: 250\ncluster: one"

def overridden : Config := { cluster := "one", retry := { subnet := ⟨.ofMillis 250, 1.0, 0.5, 20⟩ } }

end Sample

open Sample in
/-- A document of one policy and its text, a text that gives an interval of zero, and one without a
cluster. -/
theorem subnet_policy_overridden :
    ofDocument? (.map document) = some overridden ∧ ofYaml Yaml.read? text = .ok overridden ∧
    ofYaml Yaml.read? "cluster: one\ngc_interval_secs: 0" =
      .error (.invalid "gc_interval_secs" "must be > 0") ∧
    ofYaml Yaml.read? "log_level: info" = .error .parse := by
  have policy : Backoff.Given.Spelled numbers ⟨250, 1.0, 0.5, 20⟩ :=
    ⟨.named [_, _, _, _] [] rfl (by simp) rfl, .named [_, _, _] _ rfl (by simp) rfl,
      .named [_, _] _ rfl (by simp) rfl, .named [] _ rfl (by simp) rfl⟩
  have policies : RetryPolicies.Given.Spelled [("subnet", .map numbers)]
      { subnet := some ⟨250, 1.0, 0.5, 20⟩ } :=
    ⟨.named [] [] rfl (by simp) ⟨_, rfl, policy⟩, .omitted (by simp), .omitted (by simp)⟩
  have spelled : Given.Spelled document
      { cluster := "one", retry := some { subnet := some ⟨250, 1.0, 0.5, 20⟩ } } :=
    ⟨.named [_] [] rfl (by simp) rfl, .omitted (by simp [document]), .omitted (by simp [document]),
      .omitted (by simp [document]), .omitted (by simp [document]),
      .named [] _ rfl (by simp) ⟨_, rfl, policies⟩⟩
  have idle : Given.Spelled [("cluster", .plain "one"), ("gc_interval_secs", .plain "0")]
      { cluster := "one", collectInterval := some 0 } :=
    ⟨.named [] _ rfl (by simp) rfl, .omitted (by simp), .named [_] [] rfl (by simp) rfl, .omitted (by simp),
      .omitted (by simp), .omitted (by simp)⟩
  have gives := @document_overrides_what_it_gives.1
  refine ⟨(gives _ _ spelled).1, ?_, ?_, ?_⟩
  · have outcome : Outcome Yaml.read? text overridden := (gives _ _ spelled).2 _ _ (by cbv)
    exact outcome.taken.mpr (outcome.valid.mpr (by decide))
  · have outcome : Outcome Yaml.read? "cluster: one\ngc_interval_secs: 0" _ :=
      (gives _ _ idle).2 _ _ (by cbv)
    exact @Outcome.reported _ _ _ outcome [_] _ _ rfl rfl (by decide)
  · have parsed : Yaml.read? "log_level: info" = some (.map [("log_level", .plain "info")]) := by cbv
    refine document_overrides_what_it_gives.2.2.1 Yaml.read? _ fun d own => ?_
    obtain rfl := Option.some.inj (parsed.symm.trans own)
    exact .cluster (by simp)

end Config

end NetIntent
