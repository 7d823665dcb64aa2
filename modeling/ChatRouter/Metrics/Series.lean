import ChatRouter.SortedMap

set_option autoImplicit false

namespace ChatRouter

inductive Metric where
  | eventsReceived
  | commandsResolved
  | resolutionFailures
  | resolutionDuration
  | authorizationDenied
  | requestsEmitted
  | responsesRouted
  | pipelineErrors
  | usersProvisioned
  | provisioningRefused
  | adaptersActive
  | messagesSent
deriving DecidableEq

inductive MetricKind where
  | counter
  | gauge
  | histogram
deriving DecidableEq

namespace Metric

def name : Metric → String
  | eventsReceived => "switchyard_events_received_total"
  | commandsResolved => "switchyard_commands_resolved_total"
  | resolutionFailures => "switchyard_resolution_failures_total"
  | resolutionDuration => "switchyard_resolution_duration_seconds"
  | authorizationDenied => "switchyard_authorization_denied_total"
  | requestsEmitted => "switchyard_requests_emitted_total"
  | responsesRouted => "switchyard_responses_routed_total"
  | pipelineErrors => "switchyard_pipeline_errors_total"
  | usersProvisioned => "switchyard_users_provisioned_total"
  | provisioningRefused => "switchyard_provisioning_refused_total"
  | adaptersActive => "switchyard_adapters_active"
  | messagesSent => "switchyard_adapter_messages_sent_total"

def kind : Metric → MetricKind
  | adaptersActive => .gauge
  | resolutionDuration => .histogram
  | _ => .counter

def labels : Metric → List String
  | adaptersActive | resolutionDuration => []
  | commandsResolved => ["adapter", "bundle"]
  | pipelineErrors => ["reason"]
  | provisioningRefused => ["adapter", "reason"]
  | _ => ["adapter"]

theorem name_injective {a b : Metric} (h : a.name = b.name) : a = b := by
  revert h; cases a <;> cases b <;> decide

end Metric

structure Series where
  metric : Metric
  /-- One value for each label of the metric. -/
  values : List String
deriving DecidableEq

namespace Series

def order : Series → Series → Ordering :=
  compareLex (compareOn fun s => s.metric.name) (compareOn values)

instance : Ord Series := ⟨order⟩

instance : Std.TransOrd Series := inferInstanceAs (Std.TransCmp (compareLex _ _))

end Series

abbrev Tally := SortedMap Series Nat

namespace Tally

def count (t : Tally) (s : Series) : Tally := t.insert s ((t.get? s).getD 0 + 1)

end Tally

end ChatRouter
