import IncidentWatch.Proofs.Interleaving.Rules

/-!
# Accounts

What sweeps do is told in several places: in the store, whose active incidents become
resolved; by the notifier, who refuses to deliver; and in the metrics, which are counted up.
Each of them is an account (`Account`), with a balance in every situation
(`Situation.balance`).

A request that is answered has a charge on each account (`charge`), which is a matter of the
request, the answer and what the operation knows of the incidents under its lock. The balance
changes by the charge (`balance_answered`), provided that an incident is written over the
record that is known, that no resolved incident is reopened or created, and that the metrics
of the accounts are only counted up (`Accountable`).
-/

set_option autoImplicit false

namespace IncidentWatch

/-! ## How many incidents are of a status -/

namespace Store

variable {s s' : Store} {i old : Incident} {id : String}

/-- How many incidents of a status are stored. -/
def countOf (s : Store) (status : Status) : Nat :=
  s.incidents.countP (·.status = status)

/-- A stored incident has its place among others of other ids. -/
theorem split_of_get? (stored : s.get? id = some i) :
    ∃ before later, s.incidents = before ++ i :: later ∧
      ∀ other ∈ before ++ later, other.id ≠ id := by
  obtain ⟨member, rfl⟩ := get?_eq_some_iff.1 stored
  obtain ⟨before, later, placed⟩ := List.append_of_mem member
  have distinct := s.distinct
  rw [placed, List.map_append, List.map_cons, List.nodup_middle, List.nodup_cons,
    ← List.map_append] at distinct
  exact ⟨before, later, placed, fun other among same =>
    distinct.1 (List.mem_map.2 ⟨other, among, same⟩)⟩

theorem replace_of_apart {incidents : List Incident}
    (apart : ∀ other ∈ incidents, other.id ≠ i.id) : replace i incidents = incidents := by
  unfold replace
  exact (List.map_congr_left fun other among => if_neg (apart other among)).trans (List.map_id _)

/-- A record counts in the place of the one before it. -/
theorem countOf_update (updated : s.update i = .ok s') (stored : s.get? i.id = some old)
    (status : Status) :
    s'.countOf status + (if old.status = status then 1 else 0) =
      s.countOf status + if i.status = status then 1 else 0 := by
  obtain ⟨before, later, placed, apart⟩ := split_of_get? stored
  have same : old.id = i.id := (get?_eq_some_iff.1 stored).2
  have replaced : s'.incidents = before ++ i :: later := by
    rw [incidents_of_update updated, placed, replace, List.map_append, List.map_cons, if_pos same]
    show replace i before ++ i :: replace i later = _
    rw [replace_of_apart fun other among => apart other (List.mem_append_left _ among),
      replace_of_apart fun other among => apart other (List.mem_append_right _ among)]
  simp only [countOf, replaced, placed, List.countP_append, List.countP_cons, decide_eq_true_eq]
  omega

theorem countOf_create (created : s.create i = .ok s') (status : Status) :
    s'.countOf status = s.countOf status + if i.status = status then 1 else 0 := by
  simp only [countOf, incidents_of_create created, List.countP_append, List.countP_singleton,
    decide_eq_true_eq]

theorem length_matching_active (s : Store) : (s.matching .active).length = s.countOf .active := by
  unfold matching countOf
  rw [← List.countP_eq_length_filter]
  refine List.countP_congr fun i _ => ?_
  rw [IncidentFilter.accepts_active, decide_eq_true_eq]

/-- Every incident is active or resolved. -/
theorem countOf_active_add_resolved (s : Store) :
    s.countOf .active + s.countOf .resolved = s.size := by
  unfold countOf size
  rw [List.length_eq_countP_add_countP (·.status = .active)]
  congr 1
  refine List.countP_congr fun i _ => ?_
  cases i.status <;> simp

end Store

/-! ## Families of metrics -/

namespace Measure

/-- What a measure adds to the series of a family. -/
def amountIn (family : List Series) : Measure → Int
  | .add s amount => if s ∈ family then amount else 0
  | .set _ _ => 0

/-- A measure sets no series of a family. -/
def OnlyAdds (family : List Series) : Measure → Prop
  | .add _ _ => True
  | .set s _ => s ∉ family

end Measure

namespace Metrics

/-- The sum of the series of a family. -/
def total (m : Metrics) (family : List Series) : Int :=
  family.foldr (fun s sum => m.value s + sum) 0

theorem total_set {m : Metrics} {s : Series} {v : Int} {family : List Series}
    (distinct : family.Nodup) :
    (m.set s v).total family = m.total family + if s ∈ family then v - m.value s else 0 := by
  induction family with
  | nil => rfl
  | cons other rest inductionHypothesis =>
      obtain ⟨apart, distinct'⟩ := List.nodup_cons.1 distinct
      have rest' := inductionHypothesis distinct'
      unfold total at rest' ⊢
      rw [List.foldr_cons, List.foldr_cons, rest', value_set]
      by_cases same : other = s
      · subst same
        simp only [if_true, if_neg apart, List.mem_cons_self]
        omega
      · simp only [if_neg same, List.mem_cons, Ne.symm same, false_or]
        omega

/-- A measure changes the sum of a family by what it adds to it. -/
theorem total_record {m : Metrics} {measure : Measure} {family : List Series}
    (distinct : family.Nodup) (adds : measure.OnlyAdds family) :
    (m.record measure).total family = m.total family + measure.amountIn family := by
  cases measure with
  | add s amount =>
      rw [record, total_set distinct, Measure.amountIn]
      split <;> omega
  | set s v => rw [record, total_set distinct, if_neg adds, Measure.amountIn]

/-- What a request leaves of the metrics. -/
def asked (m : Metrics) : Request → Metrics
  | .measure measure => m.record measure
  | _ => m

end Metrics

/-! ## Accounts and charges -/

/-- Where it is told what sweeps do. -/
inductive Account where
  /-- The resolved incidents in the store. -/
  | stored
  /-- The deliveries that the notifier refused. -/
  | refused
  /-- The incidents counted as resolved, over all kinds. -/
  | resolved
  /-- The announcements counted as sent, over both types. -/
  | sent
  /-- The announcements counted as failed. -/
  | failed

/-- The series of the metrics that make up an account. -/
def Account.series : Account → List Series
  | .resolved => [ObjectKind.deployment, .job, .pod].map .incidentsResolved
  | .sent => [AlertKind.opened, .resolved].map .alertsSent
  | .failed => [.alertFailures]
  | _ => []

theorem Account.nodup_series (account : Account) : account.series.Nodup := by
  cases account <;> decide

/-- Whether a series makes up an account. -/
def Series.isAccounted : Series → Bool
  | .incidentsResolved _ => true
  | .alertsSent _ => true
  | .alertFailures => true
  | _ => false

theorem Account.not_mem_series {s : Series} (elsewhere : s.isAccounted = false)
    (account : Account) : s ∉ account.series := by
  have all : ∀ s ∈ account.series, s.isAccounted = true := by
    cases account <;> decide
  intro member
  cases elsewhere.symm.trans (all s member)

/-- What the report of a sweep says about each account. -/
def SweepReport.amount (report : SweepReport) : Account → Nat
  | .stored => report.resolved
  | .resolved => report.resolved
  | .sent => report.alertsSent
  | .refused => report.alertFailures
  | .failed => report.alertFailures

/-- A record resolves the incident that is known by its id. -/
def closes (known : List Incident) (i : Incident) : Bool :=
  i.status = .resolved && (known.find? (·.id = i.id)).any (·.status = .active)

/-- What an answered request adds to an account, where some incidents are known. -/
def charge (known : List Incident) : (r : Request) → r.Answer → Account → Int
  | .update i, .ok _, .stored => if closes known i then 1 else 0
  | .deliver _ _, .error _, .refused => 1
  | .measure m, _, account => m.amountIn account.series
  | _, _, _ => 0

namespace Interleaving

/-! ## Balances -/

/-- The metrics after all that was asked. -/
def metricsOf : List Entry → Metrics
  | [] => {}
  | entry :: earlier =>
    match entry.what with
    | .answered r _ => (metricsOf earlier).asked r
    | _ => metricsOf earlier

/-- How many deliveries the notifier refused. -/
def refusals (history : List Entry) : Nat :=
  history.countP fun entry =>
    match entry.what with
    | .answered (.deliver _ _) (.error _) => true
    | _ => false

/-- The balance of an account. -/
def Situation.balance (s : Situation) : Account → Int
  | .stored => s.store.countOf .resolved
  | .refused => refusals s.history
  | account => (metricsOf s.history).total account.series

/-- What is asked for has its proper charge: it is written over the record that is known, nothing
resolved is reopened or created, and the metrics of accounts are only counted up. -/
def Accountable (known : List Incident) (store : Store) : Request → Prop
  | .create i => i.status = .active
  | .update i => ∃ old, store.get? i.id = some old ∧ known.find? (·.id = i.id) = some old ∧
      (old.status = .resolved → i.status = .resolved)
  | .measure m => ∀ account, m.OnlyAdds (Account.series account)
  | _ => True

variable {c : Collaborators} {s : Situation} {before after : Store} {t : Nat} {r : Request}
  {a : r.Answer} {known : List Incident}

/-- The resolved incidents in the store are more by the charge. -/
theorem countOf_resolved_served (served : serve c before r = some (a, after))
    (accountable : Accountable known before r) :
    (after.countOf .resolved : Int) = before.countOf .resolved + charge known r a .stored := by
  cases r with
  | create i =>
      rcases serve_create served with ⟨rfl, created⟩ | ⟨error, rfl, rfl⟩
      · rw [Store.countOf_create created, show i.status = .active from accountable]
        simp [charge]
      · simp [charge]
  | update i =>
      rcases serve_update served with ⟨rfl, updated⟩ | ⟨error, rfl, rfl⟩
      · obtain ⟨old, stored, known', stays⟩ := accountable
        have counts := Store.countOf_update updated stored .resolved
        simp only [charge, closes, known', Option.any_some]
        cases was : old.status <;> cases is : i.status <;> simp_all
      · simp [charge]
  | read id =>
      obtain ⟨rfl, -⟩ := serve_read served
      simp [charge]
  | list f p =>
      obtain ⟨rfl, -⟩ := serve_list served
      simp [charge]
  | measure m =>
      cases served
      cases m <;> simp [charge, Account.series, Measure.amountIn]
  | _ =>
      cases served
      simp [charge]

theorem refusals_answered {earlier : List Entry} :
    (refusals (⟨t, .answered r a⟩ :: earlier) : Int) =
      refusals earlier + charge known r a .refused := by
  unfold refusals
  rw [List.countP_cons]
  cases r with
  | deliver kind view => cases a <;> simp [charge]
  | measure m => cases m <;> simp [charge, Account.series, Measure.amountIn]
  | _ => simp [charge]

/-- The series of an account that is kept by the metrics are more by the charge. -/
theorem total_asked {m : Metrics} {account : Account} (stored : account ≠ .stored)
    (refused : account ≠ .refused)
    (adds : ∀ measure, r = .measure measure → measure.OnlyAdds account.series) :
    (m.asked r).total account.series = m.total account.series + charge known r a account := by
  cases r with
  | measure measure =>
      rw [Metrics.asked, Metrics.total_record account.nodup_series (adds measure rfl)]
      rfl
  | update i => cases account <;> simp_all [Metrics.asked, charge]
  | deliver kind view => cases account <;> simp_all [Metrics.asked, charge]
  | _ => simp [Metrics.asked, charge]

/-- When a request is answered, each balance changes by the charge. -/
theorem balance_answered (served : serve c s.store r = some (a, after))
    (accountable : Accountable known s.store r) (account : Account) :
    (s.answered t r a after).balance account = s.balance account + charge known r a account := by
  have adds : ∀ measure, r = .measure measure → measure.OnlyAdds account.series := by
    rintro measure rfl
    exact accountable account
  cases account with
  | stored => exact countOf_resolved_served served accountable
  | refused => exact refusals_answered
  | _ => exact total_asked nofun nofun adds

/-- Beginnings and ends change no balance. -/
theorem balance_note (what : Happening) (apart : ∀ r a, what ≠ .answered r a)
    (account : Account) : (s.note t what).balance account = s.balance account := by
  cases what with
  | answered r a => exact absurd rfl (apart r a)
  | _ => cases account <;> rfl

end Interleaving

end IncidentWatch
