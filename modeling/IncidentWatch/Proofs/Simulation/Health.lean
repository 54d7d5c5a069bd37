import IncidentWatch.Proofs.Failure.Escalation
import IncidentWatch.Simulation.Serve

/-!
# What the simulated requests do to the health

In a simulation the health of the components changes with the reports on them and with nothing
else. An activity spares the health when none of its changes to the world touches it
(`Activity.SparesHealth`); then it is the same after any run, cut off or not
(`Activity.SparesHealth.run`). Every request but a report is served so, and batches and sweeps make
no reports, so neither they nor the batches that arrive meanwhile are seen in the health.
-/

set_option autoImplicit false

namespace IncidentWatch.Simulation

open Activity

variable {α β : Type}

/-! ## Activities -/

/-- Whatever world it meets, an activity leaves the health of the components as it is. -/
def Activity.SparesHealth : Activity α → Prop
  | .done _ => True
  | .halt _ => True
  | .act change next => ∀ w, (change w).health = w.health ∧ (next w).SparesHealth
  | .sleep _ next => next.SparesHealth
  | .lock _ next => next.SparesHealth
  | .unlock _ next => next.SparesHealth

namespace Activity

/-- An activity that spares the health leaves it as it is, even if it is cut off. -/
theorem SparesHealth.run {t : Activity α} (spares : t.SparesHealth) (deadline : Option Nat)
    (w : World) : (t.run deadline w).2.health = w.health := by
  induction t generalizing w with
  | done a => rfl
  | halt f => rfl
  | act change next inductionHypothesis =>
      exact (inductionHypothesis w (spares w).2 (change w)).trans (spares w).1
  | sleep ms next inductionHypothesis =>
      cases deadline with
      | none => exact inductionHypothesis spares _
      | some stop =>
          simp only [Activity.run]
          split
          · exact inductionHypothesis spares _
          · rfl
  | lock release next inductionHypothesis => exact inductionHypothesis spares _
  | unlock release next inductionHypothesis => exact inductionHypothesis spares _

theorem SparesHealth.bind {t : Activity α} {f : α → Activity β} (first : t.SparesHealth)
    (rest : ∀ a, (f a).SparesHealth) : (t >>= f).SparesHealth := by
  show (t.andThen f).SparesHealth
  induction t with
  | done a => exact rest a
  | halt fault => trivial
  | act change next inductionHypothesis =>
      exact fun w => ⟨(first w).1, inductionHypothesis w (first w).2⟩
  | sleep ms next inductionHypothesis => exact inductionHypothesis first
  | lock release next inductionHypothesis => exact inductionHypothesis first
  | unlock release next inductionHypothesis => exact inductionHypothesis first

theorem sparesHealth_pure (a : α) : (pure a : Activity α).SparesHealth :=
  trivial

theorem sparesHealth_change {f : World → World} (same : ∀ w, (f w).health = w.health) :
    (change f).SparesHealth :=
  fun w => ⟨same w, trivial⟩

theorem sparesHealth_perform {f : World → α × World} (same : ∀ w, (f w).2.health = w.health) :
    (perform f).SparesHealth :=
  fun w => ⟨same w, trivial⟩

theorem sparesHealth_pause (milliseconds : Nat) : (pause milliseconds).SparesHealth := by
  unfold pause
  split <;> trivial

theorem sparesHealth_checked (value : Except Fault α) : (checked value).SparesHealth := by
  cases value <;> trivial

theorem sparesHealth_forM {f : β → Activity Unit} (each : ∀ b, (f b).SparesHealth)
    (items : List β) : (items.forM f).SparesHealth := by
  induction items with
  | nil => trivial
  | cons b rest inductionHypothesis =>
      rw [List.forM_eq_forM, List.forM_cons]
      exact (each b).bind fun _ => inductionHypothesis

end Activity

/-! ## Changes of the world -/

namespace World

theorem health_foldl {f : World → β → World} {items : List β} {w : World}
    (same : ∀ w b, (f w b).health = w.health) : (items.foldl f w).health = w.health := by
  induction items generalizing w with
  | nil => rfl
  | cons b rest inductionHypothesis => exact inductionHypothesis.trans (same w b)

theorem health_disturb (w : World) (call : StoreCall) : (w.disturb call).2.health = w.health := by
  unfold disturb
  cases w.storeScript.get call <;> rfl

theorem health_create (w : World) (i : Incident) : (w.create i).2.health = w.health := by
  unfold create
  cases w.store.create i <;> rfl

theorem health_update (w : World) (i : Incident) : (w.update i).2.health = w.health := by
  unfold update
  cases w.store.update i <;> rfl

end World

theorem health_disturbDelivery (w : World) : (disturbDelivery w).2.health = w.health := by
  unfold disturbDelivery
  split <;> rfl

theorem health_takeArrivals (w : World) : (takeArrivals w).2.health = w.health := by
  unfold takeArrivals
  split <;> rfl

/-! ## Requests -/

theorem sparesHealth_callStore (call : StoreCall) (id : String)
    {work : Bool → Activity (Except StoreError α)} (each : ∀ resolved, (work resolved).SparesHealth) :
    (callStore call id work).SparesHealth := by
  refine (sparesHealth_perform fun w => w.health_disturb call).bind fun effect => ?_
  cases effect with
  | none => exact each false
  | some effect =>
      cases effect with
      | fail text => trivial
      | notFound => trivial
      | delay ms => exact (sparesHealth_pause ms).bind fun _ => each false
      | resolved => exact each true

theorem sparesHealth_listStore (f : IncidentFilter) (p : Pagination) :
    (listStore f p).SparesHealth := by
  refine (sparesHealth_perform fun _ => rfl).bind fun page => ?_
  exact (sparesHealth_checked page).bind fun _ => sparesHealth_pure _

theorem sparesHealth_ask (question : String) (limit : Nat) (a : Answer α) :
    (ask question limit a).SparesHealth := by
  unfold ask
  split
  · exact (sparesHealth_pause _).bind fun _ => sparesHealth_pure _
  · exact (sparesHealth_pause _).bind fun _ => sparesHealth_pure _

theorem sparesHealth_lookUp (l : Lookup α) : (lookUp l).SparesHealth := by
  refine (sparesHealth_change fun w => ?_).bind fun _ =>
    (sparesHealth_change fun w => ?_).bind fun _ => sparesHealth_pure _
  · refine World.health_foldl ?_
    exact fun _ _ => rfl
  · refine World.health_foldl ?_
    exact fun _ _ => rfl

theorem sparesHealth_askOwner (pod : PodRef) (limit : Nat) :
    (askOwner pod limit).SparesHealth := by
  refine (sparesHealth_perform fun _ => rfl).bind fun script => ?_
  cases script with
  | answers owners rollouts =>
      exact (sparesHealth_change fun _ => rfl).bind fun _ => sparesHealth_ask _ _ _
  | server texts => exact sparesHealth_lookUp _

theorem sparesHealth_askRollout (namespaceName name : String) (limit : Nat) :
    (askRollout namespaceName name limit).SparesHealth := by
  refine (sparesHealth_perform fun _ => rfl).bind fun script => ?_
  cases script with
  | answers owners rollouts =>
      exact (sparesHealth_change fun _ => rfl).bind fun _ => sparesHealth_ask _ _ _
  | server texts =>
      refine (sparesHealth_lookUp _).bind fun found => ?_
      cases found with
      | ok health => exact (sparesHealth_checked health).bind fun _ => sparesHealth_pure _
      | error error => trivial

variable {taking : Batch → Activity Unit}

theorem sparesHealth_deliver (arrivals : ∀ b, (taking b).SparesHealth) (kind : AlertKind)
    (view : IncidentView) : (deliver taking kind view).SparesHealth := by
  refine (sparesHealth_perform fun _ => rfl).bind fun notifier => ?_
  cases notifier with
  | log => exact (sparesHealth_change fun _ => rfl).bind fun _ => sparesHealth_pure _
  | scripted effect during =>
      refine (sparesHealth_perform health_disturbDelivery).bind fun effect => ?_
      refine (sparesHealth_pause _).bind fun _ => ?_
      refine (sparesHealth_perform health_takeArrivals).bind fun batches => ?_
      refine (sparesHealth_forM arrivals batches).bind fun _ => ?_
      refine (sparesHealth_change fun _ => rfl).bind fun _ => ?_
      split <;> trivial

/-- Only reports change the health. -/
theorem sparesHealth_serve (arrivals : ∀ b, (taking b).SparesHealth) {r : Request}
    (silent : ¬ r.Reports) : (serve taking r).SparesHealth := by
  cases r with
  | lock release => trivial
  | unlock release => trivial
  | pruneLocks => exact sparesHealth_change fun _ => rfl
  | create i =>
      exact (sparesHealth_change fun _ => rfl).bind fun _ => sparesHealth_callStore _ _ fun _ =>
        sparesHealth_perform fun w => w.health_create i
  | update i =>
      exact (sparesHealth_change fun _ => rfl).bind fun _ => sparesHealth_callStore _ _ fun _ =>
        sparesHealth_perform fun w => w.health_update i
  | read id => exact sparesHealth_callStore _ _ fun _ => sparesHealth_perform fun _ => rfl
  | list f p => exact sparesHealth_callStore _ _ fun _ => sparesHealth_listStore f p
  | owner pod limit => exact sparesHealth_askOwner pod limit
  | rollout namespaceName name limit => exact sparesHealth_askRollout namespaceName name limit
  | deliver kind view => exact sparesHealth_deliver arrivals kind view
  | log entry => exact sparesHealth_change fun _ => rfl
  | measure m => exact sparesHealth_change fun _ => rfl
  | succeeded c => exact absurd trivial silent
  | failed c text => exact absurd trivial silent
  | health => exact sparesHealth_perform fun _ => rfl
  | freshId => exact sparesHealth_perform fun _ => rfl

/-! ## Batches and sweeps -/

theorem sparesHealth_activityOf {settled : StoreNews → Prop} {post : α → StoreNews → Prop}
    {news : StoreNews} (arrivals : ∀ b, (taking b).SparesHealth) {p : Program α}
    (accounts : p.Accounts settled post news) :
    (activityOf (serve taking) p).SparesHealth := by
  induction p generalizing news with
  | done a => trivial
  | halt fault => trivial
  | ask r next inductionHypothesis =>
      exact (sparesHealth_serve arrivals accounts.1).bind fun a =>
        inductionHypothesis a (accounts.2.2 a)

theorem sparesHealth_arrive (e : Engine) (b : Batch) : (arrive e b).SparesHealth := by
  have handled : (quietActivity (e.handleBatch b.events b.now).run).SparesHealth :=
    sparesHealth_activityOf (fun _ => sparesHealth_pure ())
      (accounts_handleBatch e b.events b.now)
  exact handled.bind fun _ => sparesHealth_pure _

theorem sparesHealth_sweep (e : Engine) (now : Instant) :
    (activity e (e.sweep now).run).SparesHealth :=
  sparesHealth_activityOf (sparesHealth_arrive e)
    (escalates_sweep e now .nothing StoreNews.not_failed_nothing)

end IncidentWatch.Simulation
