import NetIntent.Config.Source

/-! The rules of a valid configuration as a list. A configuration is taken from a document if it breaks
none of them; if not, the first rule it breaks gives the field and the message of the error. -/
namespace NetIntent.Config

/-- What a configuration must not be, and what is reported when it is. -/
structure Rule where
  field : String
  message : String
  broken : Config → Bool

namespace Rule

def error (rule : Rule) : ConfigError := .invalid rule.field rule.message

/-- The rules for a policy, with the field that they report. -/
def ofPolicy (field : String) (policy : Config → Backoff) : List Rule :=
  [{ field, message := "steps must be > 0", broken := fun c => (policy c).steps = 0 },
    { field
      message := "factor and jitter must be finite and >= 0"
      broken := fun c => !(policy c).factor.isFinite || !(policy c).jitter.isFinite ||
        (policy c).factor < 0.0 || (policy c).jitter < 0.0 }]

end Rule

/-- All rules, in the order in which they are checked. -/
def rules : List Rule :=
  [{ field := "cluster", message := "must not be empty", broken := fun c => Text.allBlank c.cluster },
    { field := "gc_interval_secs", message := "must be > 0", broken := fun c => c.collectInterval = 0 },
    { field := "reconcile_workers", message := "must be > 0", broken := fun c => c.workers = 0 },
    { field := "vip_group.group_id"
      message := "must not be empty"
      broken := fun c => c.vipGroup.enabled && c.vipGroup.group = "" }] ++
    Rule.ofPolicy "retry.subnet" (·.retry.subnet) ++
    Rule.ofPolicy "retry.default" (·.retry.standard) ++
    Rule.ofPolicy "retry.lb_virtual_server" (·.retry.virtualServer)

/-- What a check of some rules in their order comes to. -/
def verdict (order : List Rule) (c : Config) : Except ConfigError Unit :=
  match order.find? (·.broken c) with
  | none => .ok ()
  | some rule => .error rule.error

variable {c : Config}

theorem verdict_cons (rule : Rule) (rest : List Rule) :
    verdict (rule :: rest) c = if rule.broken c then .error rule.error else verdict rest c := by
  rw [verdict, List.find?_cons]
  cases rule.broken c <;> rfl

theorem verdict_append (first rest : List Rule) :
    verdict (first ++ rest) c = (verdict first c).bind fun _ => verdict rest c := by
  induction first with
  | nil => rfl
  | cons rule more ih =>
    rw [List.cons_append, verdict_cons, verdict_cons, ih]
    split <;> rfl

theorem verdict_eq_ok (order : List Rule) :
    verdict order c = .ok () ↔ ∀ rule ∈ order, rule.broken c = false := by
  rw [verdict]
  cases found : order.find? (·.broken c) with
  | none => simpa using found
  | some rule =>
    have broken := List.find?_some found
    have member := List.mem_of_find?_eq_some found
    constructor
    · nofun
    · intro kept
      rw [kept rule member] at broken
      cases broken

theorem checkPolicy_eq (field : String) (policy : Config → Backoff) :
    checkPolicy field (policy c) = verdict (Rule.ofPolicy field policy) c := by
  simp only [checkPolicy, Rule.ofPolicy, verdict_cons, decide_eq_true_eq]
  rfl

theorem validate_eq (c : Config) : c.validate = verdict rules c := by
  rw [rules, List.append_assoc, List.append_assoc]
  simp only [validate, verdict_append, verdict_cons, List.cons_append, List.nil_append, ← checkPolicy_eq,
    decide_eq_true_eq, bind, Except.bind]
  rfl

/-- What comes of a text whose document gives a configuration. -/
structure Outcome (parse : String → Option Document) (text : String) (c : Config) : Prop where
  taken : ofYaml parse text = .ok c ↔ c.validate = .ok ()
  valid : c.validate = .ok () ↔ ∀ rule ∈ rules, rule.broken c = false
  refused : c.validate ≠ .ok () → ∃ before rule after, rules = before ++ rule :: after ∧
    rule.broken c = true ∧ (∀ earlier ∈ before, earlier.broken c = false) ∧
    ofYaml parse text = .error (.invalid rule.field rule.message)

theorem outcome {parse : String → Option Document} {text : String} {d : Document}
    (parsed : parse text = some d) (read : ofDocument? d = some c) : Outcome parse text c := by
  have loaded : ofYaml parse text = c.validate.map fun _ => c := by
    simp only [ofYaml, parsed, load, read]
  refine ⟨?_, ?_, ?_⟩
  · rw [loaded]
    cases c.validate with
    | error => exact ⟨nofun, nofun⟩
    | ok => exact ⟨fun _ => rfl, fun _ => rfl⟩
  · rw [validate_eq]
    exact verdict_eq_ok rules
  · intro refused
    rw [validate_eq, verdict] at loaded refused
    cases found : rules.find? (·.broken c) with
    | none =>
      rw [found] at refused
      exact absurd rfl refused
    | some rule =>
      rw [found] at loaded
      obtain ⟨broken, before, after, split, kept⟩ := List.find?_eq_some_iff_append.mp found
      exact ⟨before, rule, after, split, broken, fun earlier own => by simpa using kept earlier own, loaded⟩

/-- There is one first broken rule, so whichever is shown to be it is reported. -/
theorem Outcome.reported {parse : String → Option Document} {text : String} (outcome : Outcome parse text c)
    {before after : List Rule} {rule : Rule} (split : rules = before ++ rule :: after)
    (broken : rule.broken c = true) (kept : ∀ earlier ∈ before, earlier.broken c = false) :
    ofYaml parse text = .error rule.error := by
  have first {before after : List Rule} {rule : Rule} (split : rules = before ++ rule :: after)
      (broken : rule.broken c = true) (kept : ∀ earlier ∈ before, earlier.broken c = false) :
      rules.find? (·.broken c) = some rule :=
    List.find?_eq_some_iff_append.mpr
      ⟨broken, before, after, split, fun earlier own => by simp [kept earlier own]⟩
  have invalid : c.validate ≠ .ok () := by
    intro valid
    have holds := outcome.valid.mp valid rule (by simp [split])
    rw [broken] at holds
    cases holds
  obtain ⟨before', rule', after', split', broken', kept', error⟩ := outcome.refused invalid
  obtain rfl := Option.some.inj ((first split' broken' kept').symm.trans (first split broken kept))
  exact error

end NetIntent.Config
