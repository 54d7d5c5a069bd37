import IncidentWatch.Engine.Loop
import IncidentWatch.Proofs.Failure.Escalation

/-!
# Streaks of failures

How the agent is, it reads off what was reported to its health registry. The reports come
from three places: from the handling of a batch, from a listing and from a sweep, each with
rules of its own about which components did well or failed (`Report.verdict`). The streak
of a component is the number of failures that were reported since its last success
(`Report.streak`).

A run of any of the three makes the reports of what it came to and no others
(`marks_of_happened`), as batches and sweeps by themselves report nothing. Each keeps the
registry in line with the streaks (`Shows`), and from those alone the answers about
readiness and health are made (`readiness_reflects_streaks`).
-/

set_option autoImplicit false

namespace IncidentWatch

/-! ## What is reported -/

/-- What a way of working came to. -/
inductive Report where
  | posted (result : Except EngineError BatchOutcome)
  | listed (answer : Except StoreError (Page Incident))
  | swept (ending : Engine.SweepEnd)

namespace Report

/-- Whether what was done counts as a failure of a component; nothing if it says nothing of it. -/
def verdict : Component → Report → Option Bool
  | .detector, .posted (.ok _) => some false
  | .detector, .posted (.error _) => some true
  | .resolver, .swept (.finished _) => some false
  | .resolver, .swept _ => some true
  | .repository, .posted (.ok (.skipped _)) => none
  | .repository, .posted (.ok _) => some false
  | .repository, .posted (.error (.persistence _)) => some true
  | .repository, .listed (.ok _) => some false
  | .repository, .listed (.error _) => some true
  | .repository, .swept (.finished _) => some false
  | .repository, .swept (.failed (.persistence _)) => some true
  | _, _ => none

/-- How many failures of a component there were since its last success. -/
def streak (c : Component) (reports : List Report) : Nat :=
  ((reports.filterMap (verdict c)).reverse.takeWhile id).length

/-- A streak after one more verdict. -/
def lengthen (streak : Nat) : Option Bool → Nat
  | none => streak
  | some true => streak + 1
  | some false => 0

theorem streak_append (c : Component) (reports : List Report) (report : Report) :
    streak c (reports ++ [report]) = lengthen (streak c reports) (report.verdict c) := by
  unfold streak
  rw [List.filterMap_append, List.reverse_append]
  cases told : verdict c report with
  | none => simp [told, lengthen]
  | some failed => cases failed <;> simp [told, lengthen]

theorem streak_le_length (c : Component) (reports : List Report) :
    streak c reports ≤ reports.length := by
  unfold streak
  refine Nat.le_trans (List.takeWhile_sublist id).length_le ?_
  rw [List.length_reverse]
  exact List.length_filterMap_le _ _

/-- The reports on components, and whether each is one of a failure. -/
def marks : Report → List (Component × Bool)
  | .posted (.ok (.skipped _)) => [(.detector, false)]
  | .posted (.ok _) => [(.repository, false), (.detector, false)]
  | .posted (.error (.persistence _)) => [(.repository, true), (.detector, true)]
  | .posted (.error _) => [(.detector, true)]
  | .listed (.ok _) => [(.repository, false)]
  | .listed (.error _) => [(.repository, true)]
  | .swept (.finished _) => [(.resolver, false), (.repository, false)]
  | .swept (.failed (.persistence _)) => [(.repository, true), (.resolver, true)]
  | .swept (.failed _) => [(.resolver, true)]
  | .swept .cutOff => [(.resolver, true)]

end Report

/-- The report that a request makes on a component. -/
def Request.mark? : Request → Option (Component × Bool)
  | .succeeded c => some (c, false)
  | .failed c _ => some (c, true)
  | _ => none

/-- The reports on components in a transcript. -/
def Exchange.marks (xs : List Exchange) : List (Component × Bool) :=
  xs.filterMap (·.request.mark?)

theorem Exchange.marks_append (xs ys : List Exchange) :
    marks (xs ++ ys) = marks xs ++ marks ys :=
  List.filterMap_append

theorem Exchange.marks_of_not_reports {xs : List Exchange}
    (silent : ∀ x ∈ xs, ¬ x.request.Reports) : marks xs = [] := by
  refine List.filterMap_eq_nil_iff.2 fun x member => ?_
  have none := silent x member
  obtain ⟨r, a⟩ := x
  cases r with
  | succeeded c => exact absurd trivial none
  | failed c text => exact absurd trivial none
  | _ => rfl

/-- Whatever it is answered, a program makes the same reports. -/
def Program.Tells {α : Type} : List (Component × Bool) → Program α → Prop
  | marks, .done _ => marks = []
  | marks, .halt _ => marks = []
  | marks, .ask r next => ∃ rest, marks = r.mark?.toList ++ rest ∧ ∀ a, (next a).Tells rest

theorem Program.Tells.of_runs {α : Type} {marks : List (Component × Bool)} {p : Program α}
    {xs : List Exchange} {ending : Except Fault α} (tells : p.Tells marks)
    (run : p.Runs xs ending) : Exchange.marks xs = marks := by
  induction run generalizing marks with
  | done a => exact tells.symm
  | halt fault => exact tells.symm
  | @ask r next a xs ending rest inductionHypothesis =>
      obtain ⟨later, rfl, goesOn⟩ := tells
      rw [← inductionHypothesis (goesOn a)]
      unfold Exchange.marks
      cases told : r.mark? with
      | none => simp [told]
      | some mark => simp [told]

/-! ## What happens -/

/-- The end of a sweep that was not cut off. -/
def Engine.SweepEnd.ofResult : Except EngineError SweepReport → Engine.SweepEnd
  | .ok report => .finished report
  | .error error => .failed error

/-- A batch was posted, incidents were listed, or the loop has swept, with all that was asked and
answered. A sweep that is cut off may have come to any point. -/
inductive Happened (e : Engine) : Report → List Exchange → Prop
  | posted {events : List Event} {now : Instant} {xs ys : List Exchange}
      {result : Except EngineError BatchOutcome} {ending : Except Fault Api.Response}
      (handled : (e.handleBatch events now).run.Runs xs (.ok result))
      (reported : (Api.ingest e events now).Runs (xs ++ ys) ending) :
      Happened e (.posted result) (xs ++ ys)
  | listed {q : Api.IncidentQuery} {answer : Except StoreError (Page Incident)}
      {xs : List Exchange} {ending : Except Fault Api.Response}
      (reported : (Api.listIncidents q).Runs (⟨.list q.filter q.pagination, answer⟩ :: xs) ending) :
      Happened e (.listed answer) (⟨.list q.filter q.pagination, answer⟩ :: xs)
  | swept {now : Instant} {xs ys : List Exchange} {result : Except EngineError SweepReport}
      {rhythm : Engine.Rhythm} {ending : Except Fault Unit}
      (ended : (e.sweep now).run.Runs xs (.ok result))
      (reported : (Engine.reportSweep rhythm (.ofResult result)).Runs ys ending) :
      Happened e (.swept (.ofResult result)) (xs ++ ys)
  | cutOff {now : Instant} {xs rest ys : List Exchange}
      {whole : Except Fault (Except EngineError SweepReport)} {rhythm : Engine.Rhythm}
      {ending : Except Fault Unit} (begun : (e.sweep now).run.Runs (xs ++ rest) whole)
      (reported : (Engine.reportSweep rhythm .cutOff).Runs ys ending) :
      Happened e (.swept .cutOff) (xs ++ ys)

section Happened

variable {e : Engine} {xs ys : List Exchange} {now : Instant}

theorem marks_of_handleBatch {events : List Event}
    {ending : Except Fault (Except EngineError BatchOutcome)}
    (run : (e.handleBatch events now).run.Runs xs ending) : Exchange.marks xs = [] :=
  Exchange.marks_of_not_reports
    (Program.Accounts.not_reports (accounts_handleBatch e events now) run)

theorem marks_of_sweep {ending : Except Fault (Except EngineError SweepReport)}
    (run : (e.sweep now).run.Runs (xs ++ ys) ending) : Exchange.marks xs = [] := by
  have accounts := escalates_sweep e now _ StoreNews.not_failed_nothing
  refine Exchange.marks_of_not_reports fun x member => ?_
  exact Program.Accounts.not_reports accounts run x (List.mem_append_left _ member)

theorem marks_of_ingest {events : List Event} {result : Except EngineError BatchOutcome}
    {ending : Except Fault Api.Response}
    (handled : (e.handleBatch events now).run.Runs xs (.ok result))
    (reported : (Api.ingest e events now).Runs (xs ++ ys) ending) :
    Exchange.marks ys = (Report.posted result).marks := by
  rcases reported.bind_cases with ⟨xs', ys', result', split, handled', rest⟩ | ⟨fault, broken, -⟩
  · obtain ⟨rfl, rfl, same⟩ := handled.unique handled' split
    cases same
    refine Program.Tells.of_runs ?_ rest
    cases result with
    | ok outcome =>
        cases outcome with
        | skipped reason => exact ⟨_, rfl, fun _ => rfl⟩
        | _ => exact ⟨_, rfl, fun _ => ⟨_, rfl, fun _ => rfl⟩⟩
    | error error =>
        cases error with
        | persistence cause => exact ⟨_, rfl, fun _ => ⟨_, rfl, fun _ => ⟨_, rfl, fun _ => rfl⟩⟩⟩
        | query error => cases error <;> exact ⟨_, rfl, fun _ => ⟨_, rfl, fun _ => rfl⟩⟩
        | delivery text => exact ⟨_, rfl, fun _ => ⟨_, rfl, fun _ => rfl⟩⟩
  · obtain ⟨-, -, same⟩ := handled.unique broken (List.append_nil _).symm
    cases same

theorem marks_of_listIncidents {q : Api.IncidentQuery} {answer : Except StoreError (Page Incident)}
    {ending : Except Fault Api.Response}
    (reported : (Api.listIncidents q).Runs (⟨.list q.filter q.pagination, answer⟩ :: xs) ending) :
    Exchange.marks (⟨.list q.filter q.pagination, answer⟩ :: xs) =
      (Report.listed answer).marks := by
  cases reported with
  | ask goesOn =>
      show Exchange.marks xs = _
      refine Program.Tells.of_runs ?_ goesOn
      cases answer with
      | ok page => exact ⟨_, rfl, fun _ => rfl⟩
      | error error => exact ⟨_, rfl, fun _ => ⟨_, rfl, fun _ => rfl⟩⟩

theorem marks_of_reportSweep {rhythm : Engine.Rhythm} {sweepEnd : Engine.SweepEnd}
    {ending : Except Fault Unit} (reported : (Engine.reportSweep rhythm sweepEnd).Runs ys ending) :
    Exchange.marks ys = (Report.swept sweepEnd).marks := by
  refine Program.Tells.of_runs ?_ reported
  cases sweepEnd with
  | finished report => exact ⟨_, rfl, fun _ => ⟨_, rfl, fun _ => ⟨_, rfl, fun _ => rfl⟩⟩⟩
  | cutOff => exact ⟨_, rfl, fun _ => ⟨_, rfl, fun _ => ⟨_, rfl, fun _ => rfl⟩⟩⟩
  | failed error =>
      cases error with
      | persistence cause =>
          exact ⟨_, rfl, fun _ => ⟨_, rfl, fun _ => ⟨_, rfl, fun _ => ⟨_, rfl, fun _ => rfl⟩⟩⟩⟩
      | _ => exact ⟨_, rfl, fun _ => ⟨_, rfl, fun _ => ⟨_, rfl, fun _ => rfl⟩⟩⟩

/-- What happened makes the reports of what it came to, and no others. -/
theorem marks_of_happened {report : Report} (happened : Happened e report xs) :
    Exchange.marks xs = report.marks := by
  cases happened with
  | posted handled reported =>
      rw [Exchange.marks_append, marks_of_handleBatch handled, List.nil_append]
      exact marks_of_ingest handled reported
  | listed reported => exact marks_of_listIncidents reported
  | @swept _ xs _ _ _ _ ended reported =>
      rw [← List.append_nil xs] at ended
      rw [Exchange.marks_append, marks_of_sweep ended, List.nil_append]
      exact marks_of_reportSweep reported
  | cutOff begun reported =>
      rw [Exchange.marks_append, marks_of_sweep begun, List.nil_append]
      exact marks_of_reportSweep reported

end Happened

/-! ## The registry -/

namespace Component

/-- The components in the order of their names. -/
def alphabetical : List Component :=
  [.cluster, .detector, .repository, .resolver]

theorem mem_alphabetical (c : Component) : c ∈ alphabetical := by
  cases c <;> decide

end Component

namespace ComponentStatus

theorem ofStreak_eq_unhealthy_iff {failures : Nat} :
    ofStreak failures = .unhealthy ↔ 3 ≤ failures := by
  unfold ofStreak
  split
  · simp_all
  · split <;> simp_all

theorem ofStreak_eq_healthy_iff {failures : Nat} : ofStreak failures = .healthy ↔ failures = 0 := by
  unfold ofStreak
  split
  · simp_all
  · split <;> simp_all

variable {α : Type} {status : α → ComponentStatus} {worst : ComponentStatus} {items : List α}

theorem foldl_worse_eq_unhealthy_iff :
    items.foldl (fun worst a => worst.worse (status a)) worst = .unhealthy ↔
      worst = .unhealthy ∨ ∃ a ∈ items, status a = .unhealthy := by
  induction items generalizing worst with
  | nil => simp
  | cons a rest inductionHypothesis =>
      rw [List.foldl_cons, inductionHypothesis, List.exists_mem_cons_iff, ← or_assoc]
      refine or_congr_left ?_
      cases worst <;> cases status a <;> simp [worse]

theorem foldl_worse_eq_healthy_iff :
    items.foldl (fun worst a => worst.worse (status a)) worst = .healthy ↔
      worst = .healthy ∧ ∀ a ∈ items, status a = .healthy := by
  induction items generalizing worst with
  | nil => simp
  | cons a rest inductionHypothesis =>
      rw [List.foldl_cons, inductionHypothesis, List.forall_mem_cons, ← and_assoc]
      refine and_congr_left fun _ => ?_
      cases worst <;> cases status a <;> simp [worse]

end ComponentStatus

namespace HealthRegistry

/-- A registry after a request was answered at a time. -/
def hear (r : HealthRegistry) (now : Instant) : Request → Except Fault HealthRegistry
  | .succeeded c => .ok (r.succeed c.name now)
  | .failed c text => r.fail c.name text now
  | _ => .ok r

/-- A registry after some exchanges, each at its time. -/
def hearAll (r : HealthRegistry) (told : List (Instant × Exchange)) :
    Except Fault HealthRegistry :=
  told.foldlM (fun r x => r.hear x.1 x.2.request) r

/-- All components are registered, each with its streak. -/
structure Shows (r : HealthRegistry) (streak : Component → Nat)
    (health : Component → ComponentHealth) : Prop where
  wired : r.wired = true
  entries : r.components.entries = Component.alphabetical.map fun c => (c.name, health c)
  failures : ∀ c, (health c).consecutiveFailures.toNat = streak c
  status : ∀ c, (health c).status = .ofStreak (streak c)

namespace Shows

variable {r : HealthRegistry} {streak : Component → Nat} {health : Component → ComponentHealth}
  (shows : r.Shows streak health)
include shows

theorem get? (c : Component) : r.get? c.name = some (health c) := by
  show r.components.entries.lookup c.name = _
  rw [shows.entries]
  cases c <;> rfl

/-- What is known of a component is replaced. -/
theorem set (c : Component) {known : ComponentHealth} {failures : Nat}
    (counted : known.consecutiveFailures.toNat = failures)
    (standing : known.status = .ofStreak failures) :
    (r.set c.name known).Shows (Function.update streak c failures)
      (Function.update health c known) := by
  refine ⟨shows.wired, ?_, fun d => ?_, fun d => ?_⟩
  · show ByName.put c.name known r.components.entries = _
    rw [shows.entries]
    cases c <;> rfl
  · by_cases same : d = c
    · rw [same, Function.update_self, Function.update_self, counted]
    · rw [Function.update_of_ne same, Function.update_of_ne same, shows.failures]
  · by_cases same : d = c
    · rw [same, Function.update_self, Function.update_self, standing]
    · rw [Function.update_of_ne same, Function.update_of_ne same, shows.status]

theorem succeed (c : Component) (now : Instant) :
    (r.succeed c.name now).Shows (Function.update streak c 0)
      (Function.update health c (.healthy now)) :=
  shows.set c rfl rfl

/-- A failure is counted, if the count has room for it. -/
theorem fail {c : Component} (room : streak c + 1 < 4294967296) (text : String) (now : Instant) :
    ∃ r' health', r.fail c.name text now = .ok r' ∧
      r'.Shows (Function.update streak c (streak c + 1)) health' := by
  have counted : Word.uint32 .addOverflow ((health c).consecutiveFailures.toNat + 1) =
      .ok (UInt32.ofNat (streak c + 1)) := by
    unfold Word.uint32
    rw [shows.failures, if_pos room]
  have exact' : (UInt32.ofNat (streak c + 1)).toNat = streak c + 1 :=
    UInt32.toNat_ofNat_of_lt' room
  have known : r.fail c.name text now = .ok (r.set c.name ⟨.ofStreak
      (UInt32.ofNat (streak c + 1)).toNat, some text, UInt32.ofNat (streak c + 1), now⟩) := by
    unfold HealthRegistry.fail ComponentHealth.afterFailure
    rw [shows.get?, Option.getD_some]
    dsimp only
    rw [counted]
    rfl
  exact ⟨_, _, known, shows.set c exact' (congrArg ComponentStatus.ofStreak exact')⟩

end Shows

/-- Streaks after one more report on a component. -/
def bump (streak : Component → Nat) (mark : Component × Bool) : Component → Nat :=
  Function.update streak mark.1 (if mark.2 then streak mark.1 + 1 else 0)

theorem bump_le (streak : Component → Nat) (mark : Component × Bool) (c : Component) :
    bump streak mark c ≤ streak c + [mark].countP (·.1 = c) := by
  unfold bump
  by_cases same : c = mark.1
  · subst same
    rw [Function.update_self]
    split <;> simp
  · rw [Function.update_of_ne same]
    exact Nat.le_add_right _ _

variable {r : HealthRegistry} {streak : Component → Nat} {health : Component → ComponentHealth}

/-- A request that reports on no component leaves the registry as it is; a report is counted. -/
theorem Shows.hear (shows : r.Shows streak health) (request : Request) (now : Instant)
    (room : ∀ c, streak c + request.mark?.toList.countP (·.1 = c) < 4294967296) :
    ∃ r' health', r.hear now request = .ok r' ∧
      r'.Shows (request.mark?.toList.foldl bump streak) health' := by
  cases request with
  | succeeded c => exact ⟨_, _, rfl, shows.succeed c now⟩
  | failed c text =>
      have room' := room c
      simp only [Request.mark?, Option.toList_some, List.countP_singleton, decide_true,
        if_true] at room'
      exact shows.fail room' text now
  | _ => exact ⟨r, health, rfl, shows⟩

theorem Shows.hearAll (shows : r.Shows streak health) (told : List (Instant × Exchange))
    (room : ∀ c, streak c + (Exchange.marks (told.map (·.2))).countP (·.1 = c) < 4294967296) :
    ∃ r' health', r.hearAll told = .ok r' ∧
      r'.Shows ((Exchange.marks (told.map (·.2))).foldl bump streak) health' := by
  induction told generalizing r streak health with
  | nil => exact ⟨r, health, rfl, shows⟩
  | cons x rest inductionHypothesis =>
      have split : Exchange.marks ((x :: rest).map (·.2)) =
          x.2.request.mark?.toList ++ Exchange.marks (rest.map (·.2)) := by
        unfold Exchange.marks
        cases told : x.2.request.mark? <;> simp [told]
      simp only [split, List.countP_append, List.foldl_append] at room ⊢
      obtain ⟨r₁, health₁, heard, shows₁⟩ := shows.hear x.2.request x.1 fun c => by
        have := room c
        omega
      obtain ⟨r', health', heard', shows'⟩ := inductionHypothesis shows₁ fun c => by
        have bound := room c
        cases told : x.2.request.mark? with
        | none => simpa [told] using bound
        | some mark =>
            have le := bump_le streak mark c
            simp only [told, Option.toList_some, List.foldl_cons, List.foldl_nil] at bound ⊢
            omega
      refine ⟨r', health', ?_, shows'⟩
      unfold HealthRegistry.hearAll at heard' ⊢
      rw [List.foldlM_cons, heard]
      exact heard'

end HealthRegistry

/-! ## Streaks over a history -/

theorem Report.foldl_bump_marks (report : Report) (streak : Component → Nat) :
    report.marks.foldl HealthRegistry.bump streak =
      fun c => lengthen (streak c) (report.verdict c) := by
  funext c
  rcases report with ⟨(_ | _ | _) | (_ | _ | _)⟩ | ⟨_ | _⟩ | ⟨_ | (_ | _ | _) | _⟩ <;> cases c <;>
    simp [marks, verdict, lengthen, HealthRegistry.bump, Function.update]

theorem Report.countP_marks_le (report : Report) (c : Component) :
    report.marks.countP (·.1 = c) ≤ 1 := by
  unfold marks
  split <;> cases c <;> decide

namespace HealthRegistry

/-- A registry of which all components are registered, of an engine that is wired. -/
def registered (now : Instant) : HealthRegistry :=
  registerAll { wired := true } now

theorem shows_registered (now : Instant) :
    (registered now).Shows (fun _ => 0) fun _ => .healthy now :=
  ⟨rfl, rfl, fun _ => rfl, fun _ => rfl⟩

/-- Whatever has happened, the registry shows the streaks of it. -/
theorem shows_after {e : Engine} (now : Instant)
    (history : List (Report × List (Instant × Exchange)))
    (happened : ∀ h ∈ history, Happened e h.1 (h.2.map (·.2)))
    (few : history.length < 4294967296) :
    ∃ r health, (registered now).hearAll (history.flatMap (·.2)) = .ok r ∧
      r.Shows (fun c => Report.streak c (history.map (·.1))) health := by
  induction history using List.reverseRecOn with
  | nil => exact ⟨_, _, rfl, shows_registered now⟩
  | append_singleton earlier latest inductionHypothesis =>
      rw [List.length_append, List.length_singleton] at few
      obtain ⟨r, health, heard, shows⟩ := inductionHypothesis
        (fun h member => happened h (List.mem_append_left _ member)) (by omega)
      have marks := marks_of_happened (happened latest (by simp))
      obtain ⟨r', health', heard', shows'⟩ := shows.hearAll latest.2 fun c => by
        have counted := latest.1.countP_marks_le c
        have long := Report.streak_le_length c (earlier.map (·.1))
        rw [List.length_map] at long
        rw [marks]
        omega
      refine ⟨r', health', ?_, ?_⟩
      · unfold hearAll at heard heard' ⊢
        rw [List.flatMap_append, List.flatMap_singleton, List.foldlM_append, heard]
        exact heard'
      · rw [marks, Report.foldl_bump_marks] at shows'
        simpa only [List.map_append, List.map_cons, List.map_nil, Report.streak_append] using shows'

/-! ## Answers -/

namespace Shows

variable {r : HealthRegistry} {streak : Component → Nat} {health : Component → ComponentHealth}
  (shows : r.Shows streak health)
include shows

theorem unhealthy :
    r.unhealthy = (Component.alphabetical.filter (3 ≤ streak ·)).map (·.name) := by
  unfold HealthRegistry.unhealthy
  rw [shows.entries, List.filter_map, List.map_map]
  refine congrArg (List.map _) (List.filter_congr fun c _ => ?_)
  simp [shows.status, ComponentStatus.ofStreak_eq_unhealthy_iff]

theorem status_eq_unhealthy_iff : r.status = .unhealthy ↔ ∃ c, 3 ≤ streak c := by
  unfold HealthRegistry.status
  rw [ComponentStatus.foldl_worse_eq_unhealthy_iff, shows.entries]
  simp [shows.status, ComponentStatus.ofStreak_eq_unhealthy_iff, Component.mem_alphabetical]

theorem status_eq_healthy_iff : r.status = .healthy ↔ ∀ c, streak c = 0 := by
  unfold HealthRegistry.status
  rw [ComponentStatus.foldl_worse_eq_healthy_iff, shows.entries]
  simp [shows.status, ComponentStatus.ofStreak_eq_healthy_iff, Component.mem_alphabetical]

theorem status_eq_degraded_iff :
    r.status = .degraded ↔ (∀ c, streak c < 3) ∧ ∃ c, 0 < streak c := by
  have unhealthy := shows.status_eq_unhealthy_iff
  have healthy := shows.status_eq_healthy_iff
  cases standing : r.status with
  | healthy =>
      rw [standing] at healthy
      have none := healthy.1 rfl
      simp [none]
  | unhealthy =>
      rw [standing] at unhealthy
      obtain ⟨c, long⟩ := unhealthy.1 rfl
      refine ⟨nofun, fun short => ?_⟩
      exact absurd (short.1 c) (Nat.not_lt_of_le long)
  | degraded =>
      rw [standing] at unhealthy healthy
      simp only [reduceCtorEq, false_iff, not_exists, not_forall, Nat.not_le] at unhealthy healthy
      simpa [Nat.pos_iff_ne_zero] using ⟨unhealthy, healthy⟩

end Shows

end HealthRegistry

namespace Api

variable {e : Engine} {r : HttpRequest} {now : Instant}

theorem handle_get {address : String} {route : Route} (getting : r.method = "GET")
    (addressed : (splitTarget r.target).1 = address)
    (known : Route.named.lookup address = some route) (other : route ≠ .events) :
    handle e r now = (serve e r (splitTarget r.target).2 now route >>= fun response =>
      pure { response with isWithheld := false }) := by
  have allows : route.allows r.method = true := by
    unfold Route.allows
    rw [if_neg other, getting]
    decide
  subst addressed
  unfold handle
  dsimp only
  rw [known]
  dsimp only
  rw [if_pos allows, getting]
  rfl

theorem handle_readiness (getting : r.method = "GET")
    (addressed : (splitTarget r.target).1 = "/readyz") :
    handle e r now = .ask .health fun registry => .done
      (.json (if registry.readiness.ready then 200 else 503) registry.readiness.encode) :=
  handle_get getting addressed rfl nofun

theorem handle_health (getting : r.method = "GET")
    (addressed : (splitTarget r.target).1 = "/healthz") :
    handle e r now = .ask .health fun registry => .done
      (.json (if registry.status = .unhealthy then 503 else 200) registry.response.encode) :=
  handle_get getting addressed rfl nofun

/-- The answer about readiness when the components of some names are unhealthy. -/
def readinessOf (names : List String) : Response :=
  if names.isEmpty then .json 200 (ReadinessResponse.encode ⟨true, none⟩)
  else .json 503 (ReadinessResponse.encode
    ⟨false, some ("Unhealthy: " ++ ", ".intercalate names)⟩)

/-- The answer about the health of all, and of each of the components. -/
def healthOf (status : ComponentStatus) (components : ByName ComponentHealth) : Response :=
  .json (if status = .unhealthy then 503 else 200) (HealthResponse.encode ⟨status, components⟩)

theorem readinessOf_unhealthy {registry : HealthRegistry} (wired : registry.wired = true) :
    Response.json (if registry.readiness.ready then 200 else 503) registry.readiness.encode =
      readinessOf registry.unhealthy := by
  unfold HealthRegistry.readiness readinessOf
  rw [wired]
  cases registry.unhealthy.isEmpty <;> rfl

end Api

theorem Program.runs_ask_done_iff {α : Type} {r : Request} {f : r.Answer → α} {a : r.Answer}
    {ending : Except Fault α} :
    (Program.ask r fun a => .done (f a)).Runs [⟨r, a⟩] ending ↔ ending = .ok (f a) := by
  constructor
  · intro run
    cases run with
    | ask rest =>
        cases rest
        rfl
  · rintro rfl
    exact .ask (.done _)

/-- Whatever batches were posted, listings asked for and sweeps made, one after the other: the agent
is ready unless some component has a streak of three failures, and names those that have, in the
order of their names. Then its health is bad as well; it is degraded when there are shorter streaks
only. -/
theorem readiness_reflects_streaks (e : Engine) (start : Instant)
    (history : List (Report × List (Instant × Exchange)))
    (happened : ∀ h ∈ history, Happened e h.1 (h.2.map (·.2)))
    (few : history.length < 4294967296) :
    ∃ registry, (HealthRegistry.registered start).hearAll (history.flatMap (·.2)) = .ok registry ∧
      (∃ names : List String, names.Pairwise (· < ·) ∧
        (∀ name, name ∈ names ↔
          ∃ c : Component, c.name = name ∧ 3 ≤ Report.streak c (history.map (·.1))) ∧
        ∀ (r : Api.HttpRequest) now ending, r.method = "GET" →
          (Api.splitTarget r.target).1 = "/readyz" →
          ((Api.handle e r now).Runs [⟨.health, registry⟩] ending ↔
            ending = .ok (Api.readinessOf names))) ∧
      ∃ status : ComponentStatus,
        (status = .unhealthy ↔ ∃ c, 3 ≤ Report.streak c (history.map (·.1))) ∧
        (status = .degraded ↔ (∀ c, Report.streak c (history.map (·.1)) < 3) ∧
          ∃ c, 0 < Report.streak c (history.map (·.1))) ∧
        ∀ (r : Api.HttpRequest) now ending, r.method = "GET" →
          (Api.splitTarget r.target).1 = "/healthz" →
          ((Api.handle e r now).Runs [⟨.health, registry⟩] ending ↔
            ending = .ok (Api.healthOf status registry.components)) := by
  obtain ⟨registry, health, heard, shows⟩ := HealthRegistry.shows_after start history happened few
  refine ⟨registry, heard, ⟨registry.unhealthy, ?_, ?_, ?_⟩, registry.status,
    shows.status_eq_unhealthy_iff, shows.status_eq_degraded_iff, ?_⟩
  · have ascending : (Component.alphabetical.map (·.name)).Pairwise (· < ·) := by decide
    rw [shows.unhealthy]
    exact ascending.sublist (List.filter_sublist.map _)
  · intro name
    rw [shows.unhealthy]
    simp [Component.mem_alphabetical, and_comm]
  · intro r now ending getting addressed
    rw [Api.handle_readiness getting addressed, Program.runs_ask_done_iff,
      Api.readinessOf_unhealthy shows.wired]
  · intro r now ending getting addressed
    rw [Api.handle_health getting addressed, Program.runs_ask_done_iff]
    rfl

theorem readiness_reflects_streaks_after_refused_batches :
    ∃ xs registry names,
      Happened Interleaving.Sample.engine (.posted (.error (.persistence (.backend "down")))) xs ∧
      (HealthRegistry.registered .epoch).hearAll
        (List.replicate 3 (xs.map fun x => (.epoch, x))).flatten = .ok registry ∧
      "detector" ∈ names ∧ "repository" ∈ names ∧ "resolver" ∉ names ∧
      (Api.handle Interleaving.Sample.engine ⟨"GET", "/readyz", none, ""⟩ .epoch).Runs
        [⟨.health, registry⟩] (.ok (Api.readinessOf names)) := by
  let batch := [Interleaving.Sample.event "web-0" "OOMKilled"]
  let handling := (Interleaving.Sample.engine.handleBatch batch .epoch).run
  have failed : (handling.transcript whileStoreIsDown).2 =
      .ok (.error (.persistence (.backend "down"))) := by decide +kernel
  have handled : handling.Runs _ _ := Program.runs_transcript whileStoreIsDown handling
  rw [failed] at handled
  obtain ⟨xs, posted⟩ : ∃ xs, Happened Interleaving.Sample.engine
      (.posted (.error (.persistence (.backend "down")))) xs :=
    ⟨_, .posted handled (handled.bind (Program.runs_transcript whileStoreIsDown _))⟩
  let history : List (Report × List (Instant × Exchange)) :=
    List.replicate 3 (.posted (.error (.persistence (.backend "down"))),
      xs.map fun x => (.epoch, x))
  have happened : ∀ h ∈ history,
      Happened Interleaving.Sample.engine h.1 (h.2.map (·.2)) := by
    intro h member
    rw [List.eq_of_mem_replicate member, List.map_map]
    exact (List.map_id xs).symm ▸ posted
  obtain ⟨registry, heard, ⟨names, -, named, answers⟩, -⟩ :=
    readiness_reflects_streaks Interleaving.Sample.engine .epoch history happened
      (by simp [history])
  have three : history.map (·.1) =
      List.replicate 3 (.posted (.error (.persistence (.backend "down")))) := rfl
  rw [three] at named
  refine ⟨xs, registry, names, posted, heard, (named _).2 ⟨.detector, rfl, by decide⟩,
    (named _).2 ⟨.repository, rfl, by decide⟩, fun among => ?_,
    (answers _ _ _ rfl (by decide)).2 rfl⟩
  obtain ⟨c, same, long⟩ := (named _).1 among
  cases c with
  | resolver => exact absurd long (by decide)
  | _ => exact absurd same (by decide)

end IncidentWatch
