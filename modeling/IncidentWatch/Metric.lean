import IncidentWatch.Engine.Outcome

/-!
# Metrics

The engine counts what it does in named series. A series belongs to a family,
which has a help text and a type; the families are exposed in the order of their
names. All series count up from zero but one, the number of active incidents,
which is set by each sweep.
-/

set_option autoImplicit false

namespace IncidentWatch

/-- What is counted. -/
inductive Series where
  | batchesReceived
  | batchesDropped (reason : SkipReason)
  | eventsClassified
  | incidentsCreated
  | incidentsMerged
  | incidentsResolved (kind : ObjectKind)
  | alertsSent (kind : AlertKind)
  | alertFailures
  | activeIncidents
  | sweepLatency
  | sweepErrors
  deriving DecidableEq, Repr

namespace Series

/-- The name and the label of a series; sweeps are counted where their durations are. -/
def title : Series → String
  | .batchesReceived => "incident_engine_batches_received_total"
  | .batchesDropped reason =>
    "incident_engine_batches_dropped_total\x7breason=" ++ reason.name ++ "\x7d"
  | .eventsClassified => "incident_engine_events_classified_total"
  | .incidentsCreated => "incident_engine_incidents_created_total"
  | .incidentsMerged => "incident_engine_incidents_merged_total"
  | .incidentsResolved kind =>
    "incident_engine_incidents_resolved_total\x7bkind=" ++ kind.name ++ "\x7d"
  | .alertsSent kind => "incident_engine_alerts_sent_total\x7btype=" ++ kind.name ++ "\x7d"
  | .alertFailures => "incident_engine_alert_failures_total"
  | .activeIncidents => "incident_engine_active_incidents"
  | .sweepLatency => "incident_engine_sweep_latency_seconds_count"
  | .sweepErrors => "incident_engine_sweep_errors_total"

/-- Every series, once. -/
def all : List Series :=
  [.batchesReceived] ++ SkipReason.all.map .batchesDropped
    ++ [.eventsClassified, .incidentsCreated, .incidentsMerged]
    ++ [ObjectKind.deployment, .job, .pod].map .incidentsResolved
    ++ [AlertKind.opened, .resolved].map .alertsSent
    ++ [.alertFailures, .activeIncidents, .sweepLatency, .sweepErrors]

theorem mem_all (s : Series) : s ∈ all := by
  cases s with
  | batchesDropped reason => cases reason <;> decide
  | incidentsResolved kind => cases kind <;> decide
  | alertsSent kind => cases kind <;> decide
  | _ => decide

end Series

/-- What happens to a series. -/
inductive Measure where
  | add (series : Series) (amount : Nat)
  | set (series : Series) (value : Int)
  deriving DecidableEq, Repr

/-- The values of the series that are not zero. -/
structure Metrics where
  values : List (Series × Int) := []
  deriving DecidableEq, Repr

namespace Metrics

/-- The value of a series. -/
def value (m : Metrics) (s : Series) : Int :=
  (m.values.lookup s).getD 0

/-- Gives a series a value. -/
def set (m : Metrics) (s : Series) (v : Int) : Metrics :=
  ⟨(s, v) :: m.values.filter fun entry => entry.1 ≠ s⟩

/-- What a measure leaves. -/
def record (m : Metrics) : Measure → Metrics
  | .add s amount => m.set s (m.value s + amount)
  | .set s v => m.set s v

theorem lookup_filter_ne {s t : Series} (h : t ≠ s) (entries : List (Series × Int)) :
    (entries.filter fun entry => entry.1 ≠ s).lookup t = entries.lookup t := by
  induction entries with
  | nil => rfl
  | cons entry rest ih =>
    obtain ⟨name, v⟩ := entry
    by_cases hname : name = s
    · have hne : (t == name) = false := by simp [hname, h]
      simp only [hname, ne_eq, not_true_eq_false, decide_false, Bool.false_eq_true,
        not_false_eq_true, List.filter_cons_of_neg, List.lookup_cons]
      rw [hname] at hne
      simpa [hne] using ih
    · simp only [ne_eq, hname, not_false_eq_true, decide_true, List.filter_cons_of_pos,
        List.lookup_cons]
      split
      · rfl
      · simpa using ih

/-- Setting a series changes that one only. -/
theorem value_set (m : Metrics) (s t : Series) (v : Int) :
    (m.set s v).value t = if t = s then v else m.value t := by
  unfold value set
  by_cases h : t = s
  · simp [h]
  · have hne : (t == s) = false := by simp [h]
    simp only [List.lookup_cons, hne, if_neg h, lookup_filter_ne h]

/-- The series whose values differ from earlier ones, with the differences. -/
def changesSince (m earlier : Metrics) : List (Series × Int) :=
  (Series.all.map fun s => (s, m.value s - earlier.value s)).filter (·.2 ≠ 0)

end Metrics

/-- A family of series as it is exposed. -/
structure Family where
  name : String
  help : String
  type : String

namespace Family

/-- The families in the order of their names. -/
def all : List Family :=
  [⟨"incident_engine_active_incidents", "Active incidents seen by the last resolver sweep",
      "gauge"⟩,
    ⟨"incident_engine_alert_failures_total", "Notifications the transport failed to deliver",
      "counter"⟩,
    ⟨"incident_engine_alerts_sent_total", "Notifications delivered, by notification type",
      "counter"⟩,
    ⟨"incident_engine_batches_dropped_total",
      "Batches that produced no incident mutation, by reason", "counter"⟩,
    ⟨"incident_engine_batches_received_total", "Normalized event batches handed to the detector",
      "counter"⟩,
    ⟨"incident_engine_events_classified_total", "Events matched by a classification rule",
      "counter"⟩,
    ⟨"incident_engine_incidents_created_total", "Incidents created", "counter"⟩,
    ⟨"incident_engine_incidents_merged_total",
      "Candidate incidents folded into an existing active incident", "counter"⟩,
    ⟨"incident_engine_incidents_resolved_total", "Incidents resolved, by involved object kind",
      "counter"⟩,
    ⟨"incident_engine_sweep_errors_total", "Resolver sweeps aborted by an error or deadline",
      "counter"⟩,
    ⟨"incident_engine_sweep_latency_seconds", "Time spent in one resolver sweep", "histogram"⟩]

/-- The two lines that introduce a family. -/
def lines (f : Family) : List String :=
  ["# HELP " ++ f.name ++ " " ++ f.help, "# TYPE " ++ f.name ++ " " ++ f.type]

/-- The upper bounds of the classes of sweep durations, in seconds. -/
def latencyBounds : List String :=
  ["0.001", "0.005", "0.01", "0.025", "0.05", "0.1", "0.25", "0.5", "1", "2.5", "5", "10", "30",
    "+Inf"]

end Family

end IncidentWatch
