import NetIntent.Retry.Backoff
import NetIntent.Text.Blank

/-!
The operator's configuration. Only the cluster name has no default; a document replaces exactly the
fields it names, and the first rule that the result breaks is reported.
-/

namespace NetIntent

open Document

/-- The remote group that holds the addresses of all virtual servers. -/
structure VipGroup where
  enabled : Bool := true
  domain : String := "default"
  group : String := "LbVirtualServerIpSet"
  deriving DecidableEq

namespace VipGroup

def toDocument (g : VipGroup) : Document :=
  .map [("enabled", .bool g.enabled), ("domain_id", .text g.domain), ("group_id", .text g.group)]

def ofDocument? (d : Document) : Option VipGroup := do
  let [enabled, domain, group] ← d.fields ["enabled", "domain_id", "group_id"] | none
  let standard : VipGroup := {}
  pure { enabled := ← orElse bool? standard.enabled enabled
         domain := ← orElse text? standard.domain domain
         group := ← orElse text? standard.group group }

end VipGroup

structure Config where
  cluster : String
  logLevel : String := "info"
  /-- Seconds between collection rounds. -/
  collectInterval : UInt64 := 600
  workers : UInt64 := 8
  vipGroup : VipGroup := {}
  retry : RetryPolicies := {}

inductive ConfigError where
  | unreadable (path reason : String)
  | parse
  | invalid (field message : String)
  deriving DecidableEq

/-- The parser's own words on a malformed document are not part of the message. -/
def ConfigError.message : ConfigError → String
  | .unreadable path reason => "failed to read config file " ++ path ++ ": " ++ reason
  | .parse => "failed to parse config"
  | .invalid field message => "invalid configuration for " ++ field ++ ": " ++ message

namespace Config

def collectSpan (c : Config) : Span := .ofSecs c.collectInterval

def ofDocument? (d : Document) : Option Config := do
  let [cluster, logLevel, interval, workers, vipGroup, retry] ← d.fields
    ["cluster", "log_level", "gc_interval_secs", "reconcile_workers", "vip_group", "retry"] | none
  let standard : Config := { cluster := ← required text? cluster }
  pure { standard with
    logLevel := ← orElse text? standard.logLevel logLevel
    collectInterval := ← orElse word? standard.collectInterval interval
    workers := ← orElse word? standard.workers workers
    vipGroup := ← orElse VipGroup.ofDocument? standard.vipGroup vipGroup
    retry := ← orElse RetryPolicies.ofDocument? standard.retry retry }

/-- A policy needs an attempt, and numbers that can be multiplied by. -/
def checkPolicy (field : String) (b : Backoff) : Except ConfigError Unit :=
  if b.steps = 0 then .error (.invalid field "steps must be > 0")
  else if !b.factor.isFinite || !b.jitter.isFinite || b.factor < 0.0 || b.jitter < 0.0 then
    .error (.invalid field "factor and jitter must be finite and >= 0")
  else .ok ()

def validate (c : Config) : Except ConfigError Unit := do
  if Text.allBlank c.cluster then .error (.invalid "cluster" "must not be empty")
  if c.collectInterval = 0 then .error (.invalid "gc_interval_secs" "must be > 0")
  if c.workers = 0 then .error (.invalid "reconcile_workers" "must be > 0")
  if c.vipGroup.enabled && c.vipGroup.group = "" then
    .error (.invalid "vip_group.group_id" "must not be empty")
  checkPolicy "retry.subnet" c.retry.subnet
  checkPolicy "retry.default" c.retry.standard
  checkPolicy "retry.lb_virtual_server" c.retry.virtualServer

/-- A configuration is taken from a document only if it is valid. -/
def load (d : Document) : Except ConfigError Config :=
  match ofDocument? d with
  | none => .error .parse
  | some c => c.validate.map fun _ => c

end Config

end NetIntent
