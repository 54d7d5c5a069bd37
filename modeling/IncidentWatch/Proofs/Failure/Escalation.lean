import IncidentWatch.Api.Route
import IncidentWatch.Proofs.Failure.Transcript
import IncidentWatch.Proofs.Interleaving.Sample

/-!
# Failures of the store are the only ones

A batch asks the store for the pages of a listing and then to write once; when it is told
that the writing is done, it asks for nothing more. A sweep goes on after every call that
succeeds. Either fails exactly when a call of the store did
(`only_the_store_fails_operations`): whoever cannot tell the owner of a pod or the health
of a deployment, or cannot deliver an alert, is answered for on the spot.

An error of the store is reported to the caller of the agent as such, so that no answer
tells of an unknown error or of a timeout.
-/

set_option autoImplicit false

namespace IncidentWatch

open Work

variable {α β : Type} {e : Engine} {news : StoreNews} {now : Instant} {i : Incident}

/-! ## Batches -/

/-- What settles a batch: that something was written, or that a call failed. -/
def StoreNews.Told (news : StoreNews) : Prop :=
  news ≠ .nothing

theorem StoreNews.not_told_nothing : ¬ Told .nothing :=
  fun told => told rfl

section Batch

variable {settled : StoreNews → Prop}

theorem accounts_freshId :
    (Program.request .freshId).Accounts settled (fun _ news' => news' = news) news :=
  ⟨nofun, fun _ => nofun, StoreNews.next_of_not_asksStore nofun⟩

theorem accounts_skip (e : Engine) (reason : SkipReason) (event : Option Event) (detail : String) :
    (e.skip reason event detail).Accounts settled (fun _ news' => news' = news) news := by
  refine Program.accounts_aside ⟨nofun, nofun⟩ fun _ => ?_
  exact Program.accounts_aside ⟨nofun, nofun⟩ fun _ => rfl

variable (sound : ¬ news.Failed)
include sound

theorem accounts_scope (e : Engine) (owner : OwnerRef) (origin : Event) :
    (e.scope owner origin).Accounts settled (fun _ news' => news' = news) news := by
  unfold Engine.scope
  cases owner.kind with
  | deployment =>
      refine Program.accounts_aside ⟨nofun, nofun⟩ fun answer => ?_
      cases answer with
      | ok health => exact Program.accounts_checked sound fun _ => rfl
      | error error => exact Program.accounts_aside ⟨nofun, nofun⟩ fun _ => rfl
  | _ => exact rfl

theorem accounts_candidate (e : Engine) (recognized : List ClassifiedEvent) (owner : OwnerRef)
    (origin : Event) (now : Instant) :
    (e.candidate recognized owner origin now).Accounts settled (fun _ news' => news' = news)
      news := by
  unfold Engine.candidate
  refine Program.accounts_bind ((accounts_scope sound e owner origin).mono ?_)
  rintro object _ rfl
  refine Program.accounts_aside ⟨nofun, nofun⟩ fun id => ?_
  refine Program.accounts_bind
    ((Program.accounts_mapM (fun _ => accounts_freshId) recognized).mono ?_)
  rintro ids _ rfl
  exact Program.accounts_aside ⟨nofun, nofun⟩ fun _ => rfl

end Batch

/-- Saving writes once, and asks the store for nothing afterwards. -/
theorem accounts_save (node : String) (pageSize : UInt64) (candidate : Incident)
    (owner : OwnerRef) (now : Instant) :
    Accounts StoreNews.Told (fun _ news => news = .written)
      (Saving.save node pageSize candidate owner now) .nothing := by
  refine accounts_underLock ?_
  refine accounts_bind ((accounts_listFrom StoreNews.not_failed_nothing
    StoreNews.not_told_nothing _ _).mono ?_)
  rintro active _ rfl sound
  split
  · refine accounts_create sound StoreNews.not_told_nothing ?_
    refine accounts_aside ⟨nofun, nofun⟩ fun _ => accounts_aside ⟨nofun, nofun⟩ fun _ => ?_
    exact accounts_pure StoreNews.not_failed_written rfl
  · refine accounts_aside ⟨nofun, nofun⟩ fun _ => ?_
    refine accounts_update sound StoreNews.not_told_nothing ?_
    refine accounts_aside ⟨nofun, nofun⟩ fun _ => accounts_aside ⟨nofun, nofun⟩ fun _ => ?_
    exact accounts_pure StoreNews.not_failed_written rfl

theorem accounts_handleBatch (e : Engine) (events : List Event) (now : Instant) :
    Accounts StoreNews.Told (fun _ _ => True) (e.handleBatch events now) .nothing := by
  have sound := StoreNews.not_failed_nothing
  have skips : ∀ reason event detail, Accounts StoreNews.Told (fun _ _ => True)
      (liftM (e.skip reason event detail) : Work BatchOutcome) .nothing := by
    intro reason event detail
    refine accounts_lift (f := pure) ((accounts_skip e reason event detail).mono ?_)
    rintro outcome _ rfl
    exact accounts_pure sound trivial
  unfold Engine.handleBatch
  refine accounts_aside ⟨nofun, nofun⟩ fun _ => ?_
  split
  · exact skips _ _ _
  · split
    · exact skips _ _ _
    · refine accounts_aside ⟨nofun, nofun⟩ fun answer => ?_
      cases answer with
      | error error => exact skips _ _ _
      | ok owner =>
          dsimp only
          split
          · exact skips _ _ _
          · refine accounts_aside ⟨nofun, nofun⟩ fun _ => ?_
            refine accounts_lift ((accounts_candidate sound e _ owner _ now).mono ?_)
            rintro built _ rfl
            refine accounts_bind ((accounts_save e.node _ built owner now).mono ?_)
            exact fun _ _ _ sound' => accounts_pure sound' trivial

/-! ## Sweeps -/

/-- Work that fails only with the store, and goes on as long as that does not fail. -/
def Work.Escalates (w : Work α) : Prop :=
  ∀ news, ¬ StoreNews.Failed news → Accounts StoreNews.Failed (fun _ _ => True) w news

section Sweep

theorem escalates_bind {w : Work β} {f : β → Work α} (first : w.Escalates)
    (rest : ∀ b, (f b).Escalates) : (w >>= f).Escalates :=
  fun news sound => accounts_bind ((first news sound).mono fun b news' _ => rest b news')

theorem escalates_pure (a : α) : (pure a : Work α).Escalates :=
  fun _ sound => accounts_pure sound trivial

theorem escalates_aside {r : Request} {f : r.Answer → Work α} (aside : r.Aside)
    (rest : ∀ a, (f a).Escalates) : (liftM (Program.request r) >>= f : Work α).Escalates :=
  fun news sound => accounts_aside aside fun a => rest a news sound

theorem escalates_checked {value : Except Fault β} {f : β → Work α} (rest : ∀ b, (f b).Escalates) :
    (Work.checked value >>= f).Escalates :=
  fun news sound => accounts_checked sound fun b => rest b news sound

theorem escalates_update {f : Unit → Work α} (rest : (f ()).Escalates) :
    (Work.update i >>= f).Escalates :=
  fun _ sound => accounts_update sound sound (rest _ StoreNews.not_failed_written)

theorem escalates_read? {id : String} {f : Option Incident → Work α}
    (rest : ∀ found, (f found).Escalates) : (Work.read? id >>= f).Escalates :=
  fun news sound => accounts_read? sound sound fun found => rest found news sound

theorem escalates_underLock {release : ReleaseKey} {work : Work α} (inside : work.Escalates) :
    (Work.underLock release work).Escalates :=
  fun news sound => accounts_underLock (inside news sound)

theorem escalates_listAll (f : IncidentFilter) (pageSize : UInt64) :
    (Work.listAll f pageSize).Escalates :=
  fun _ sound => (accounts_listFrom sound sound f _).mono fun _ _ _ => trivial

theorem escalates_foldlM {f : β → α → Work β} (each : ∀ b a, (f b a).Escalates) (items : List α)
    (start : β) : (items.foldlM f start).Escalates := by
  induction items generalizing start with
  | nil => exact escalates_pure start
  | cons a rest inductionHypothesis =>
      rw [List.foldlM_cons]
      exact escalates_bind (each start a) fun b => inductionHypothesis b

/-! ### Alerts -/

/-- The result of an alert tells the news: a failure of the store, or else that the alert was
delivered or not. -/
def Announced : Except EngineError β → StoreNews → Prop
  | .ok _, news => ¬ news.Failed
  | .error (.persistence cause), news => news = .failed cause
  | .error (.delivery _), news => ¬ news.Failed
  | .error (.query _), _ => False

theorem escalates_storeMark (i : Incident) (now : Instant) :
    (Engine.storeMark i now).Escalates := by
  refine escalates_underLock (escalates_read? fun found => ?_)
  cases found with
  | none => exact escalates_pure _
  | some stored => exact escalates_update (escalates_pure _)

theorem accounts_announce (e : Engine) (i : Incident) (kind : AlertKind) (now : Instant)
    (sound : ¬ news.Failed) :
    (e.announce i kind now).Accounts StoreNews.Failed (fun result => Announced result.2) news := by
  refine Program.accounts_aside ⟨nofun, nofun⟩ fun delivered => ?_
  cases delivered with
  | error text =>
      refine Program.accounts_aside ⟨nofun, nofun⟩ fun _ => ?_
      exact Program.accounts_aside ⟨nofun, nofun⟩ fun _ => sound
  | ok _ =>
      refine Program.accounts_bind (Program.Accounts.mono
        (escalates_storeMark i now news sound) fun result news' holds => ?_)
      cases result with
      | ok marked =>
          refine Program.accounts_aside ⟨nofun, nofun⟩ fun _ => ?_
          exact Program.accounts_aside ⟨nofun, nofun⟩ fun _ => holds.1
      | error error =>
          obtain ⟨cause, rfl, failed⟩ := holds
          exact failed

theorem Announced.map {f : α → β} {result : Except EngineError α}
    (announced : Announced result news) : Announced (result.map f) news := by
  cases result with
  | ok a => exact announced
  | error error => cases error <;> exact announced

theorem accounts_alertOpen (e : Engine) (i : Incident) (now : Instant) (sound : ¬ news.Failed) :
    (e.alertOpen i now).Accounts StoreNews.Failed (fun result => Announced result.2) news := by
  unfold Engine.alertOpen
  split
  · refine Program.accounts_bind ((accounts_announce e i .opened now sound).mono ?_)
    exact fun _ _ announced => announced.map
  · exact sound

theorem accounts_alertResolved (e : Engine) (i : Incident) (now : Instant)
    (sound : ¬ news.Failed) :
    (e.alertResolved i now).Accounts StoreNews.Failed (fun result => Announced result.2) news := by
  unfold Engine.alertResolved
  split
  · refine Program.accounts_bind ((accounts_announce e i .resolved now sound).mono ?_)
    exact fun _ _ announced => announced.map
  · exact sound

/-- A sweep counts an alert that was not delivered, and fails with the store. -/
theorem accounts_countAlert (report : SweepReport) {result : Except EngineError Bool}
    (announced : Announced result news) :
    Accounts StoreNews.Failed (fun _ _ => True) (Engine.countAlert report result) news := by
  cases result with
  | ok sent => cases sent <;> exact accounts_pure announced trivial
  | error error =>
      cases error with
      | persistence cause => exact ⟨cause, rfl, announced⟩
      | delivery text => exact accounts_pure announced trivial
      | query error => exact announced.elim

/-! ### Verdicts -/

theorem escalates_judgeUnreadable (i : Incident) (settled : Bool) (error : QueryError) :
    (liftM (Engine.judgeUnreadable i settled error) :
      Work (Incident × Engine.Verdict)).Escalates := by
  unfold Engine.judgeUnreadable
  split
  · exact escalates_aside (f := fun _ => pure _) ⟨nofun, nofun⟩ fun _ => escalates_pure _
  · exact escalates_aside (f := fun _ => pure _) ⟨nofun, nofun⟩ fun _ => escalates_pure _

theorem escalates_judge (e : Engine) (i : Incident) (now : Instant) :
    (e.judge i now).Escalates := by
  refine escalates_checked fun settledAt => ?_
  dsimp only
  split
  · refine escalates_checked fun probedFrom => ?_
    split
    · exact escalates_pure _
    · refine escalates_aside ⟨nofun, nofun⟩ fun answer => ?_
      cases answer with
      | error error => exact escalates_judgeUnreadable i _ error
      | ok health =>
          refine escalates_checked fun failing => ?_
          split
          · exact escalates_update (escalates_pure _)
          · refine escalates_checked fun retries => escalates_update ?_
            exact escalates_aside ⟨nofun, nofun⟩ fun _ => escalates_pure _
  · exact escalates_pure _

theorem escalates_resolve (e : Engine) (i : Incident) (now : Instant) :
    (e.resolve i now).Escalates := by
  refine escalates_update ?_
  refine escalates_aside ⟨nofun, nofun⟩ fun _ => escalates_aside ⟨nofun, nofun⟩ fun _ => ?_
  exact escalates_pure _

theorem escalates_examine (e : Engine) (listed : Incident) (now : Instant) :
    (e.examine listed now).Escalates := by
  refine escalates_underLock (escalates_read? fun found => ?_)
  cases found with
  | none => exact escalates_pure _
  | some i =>
      dsimp only
      split
      · refine escalates_bind (escalates_judge e i now) ?_
        rintro ⟨judged, verdict⟩
        dsimp only
        split
        · exact escalates_bind (escalates_resolve e judged now) fun _ => escalates_pure _
        · exact escalates_pure _
      · exact escalates_pure _

theorem escalates_visit (e : Engine) (now : Instant) (report : SweepReport) (listed : Incident) :
    (e.visit now report listed).Escalates := by
  refine escalates_bind (escalates_examine e listed now) fun examined => ?_
  split
  · exact escalates_pure _
  · exact escalates_pure _
  · rename_i i
    exact fun news sound => accounts_lift ((accounts_alertOpen e i now sound).mono
      fun _ _ announced => accounts_countAlert _ announced)
  · rename_i i
    exact fun news sound => accounts_lift ((accounts_alertResolved e i now sound).mono
      fun _ _ announced => accounts_countAlert _ announced)

theorem escalates_sweep (e : Engine) (now : Instant) : (e.sweep now).Escalates := by
  refine escalates_bind (escalates_listAll _ _) fun active => ?_
  refine escalates_bind (escalates_foldlM (escalates_visit e now) active _) fun report => ?_
  refine escalates_aside ⟨nofun, nofun⟩ fun _ => escalates_checked fun left => ?_
  refine escalates_aside ⟨nofun, nofun⟩ fun _ => escalates_aside ⟨nofun, nofun⟩ fun _ => ?_
  exact escalates_pure _

end Sweep

/-! ## Answers of the agent -/

namespace Api

variable {xs : List Exchange} {response : Response}

/-- An answer that tells neither of an unknown error nor of a timeout. -/
def Response.Definite (response : Response) : Prop :=
  response.status ≠ 500 ∧ response.status ≠ 504

theorem Response.definite_of_status {n : Nat} (known : response.status = n)
    (definite : n ≠ 500 ∧ n ≠ 504) : response.Definite := by
  rw [← known] at definite
  exact definite

theorem definite_of_quiet {p : Program Response} (quiet : p.Quiet Response.Definite)
    (run : p.Runs xs (.ok response)) : response.Definite :=
  quiet.of_runs run

theorem definite_readEvents {r : HttpRequest} (refused : readEvents r = .error response) :
    response.Definite := by
  unfold readEvents at refused
  split at refused
  · cases refused
    exact Response.definite_of_status (n := 415) rfl (by decide)
  · split at refused
    · cases refused
    · cases refused
      exact Response.definite_of_status (n := 400) rfl (by decide)
    · cases refused
      exact Response.definite_of_status (n := 422) rfl (by decide)

theorem definite_ingest {events : List Event}
    (run : (ingest e events now).Runs xs (.ok response)) : response.Definite := by
  obtain ⟨ys, zs, result, rfl, first, rest⟩ := run.of_bind
  cases result with
  | ok outcome =>
      have taken : Response.Definite (.json 200 (DetectResponse.ofOutcome outcome).encode) :=
        Response.definite_of_status (n := 200) rfl (by decide)
      refine definite_of_quiet ?_ rest
      cases outcome with
      | skipped reason => exact ⟨trivial, fun _ => taken⟩
      | _ => exact ⟨trivial, fun _ => ⟨trivial, fun _ => taken⟩⟩
  | error error =>
      obtain ⟨-, -, -, cause, -, -, rfl, -⟩ := ((accounts_handleBatch e events now).fails_iff
        (fun _ => nofun) first).2 error rfl
      refine definite_of_quiet ?_ rest
      exact ⟨trivial, fun _ => ⟨trivial, fun _ => ⟨trivial, fun _ =>
        Response.definite_of_status (n := 503) rfl (by decide)⟩⟩⟩

theorem definite_listIncidents {q : IncidentQuery}
    (run : (listIncidents q).Runs xs (.ok response)) : response.Definite := by
  obtain ⟨ys, zs, answer, rfl, -, rest⟩ := run.of_bind
  refine definite_of_quiet ?_ rest
  cases answer with
  | ok page => exact ⟨trivial, fun _ => Response.definite_of_status (n := 200) rfl (by decide)⟩
  | error error => exact ⟨trivial, fun _ => ⟨trivial, fun _ =>
      Response.definite_of_status (n := 503) rfl (by decide)⟩⟩

/-- Whoever only asks for the health tells whether it is good or bad. -/
theorem definite_of_health {good bad : Nat} {isGood : HealthRegistry → Prop}
    [DecidablePred isGood] {content : HealthRegistry → Json} (definite : good ≠ 500 ∧ good ≠ 504)
    (definite' : bad ≠ 500 ∧ bad ≠ 504)
    (run : (Program.request .health >>= fun registry =>
      pure (Response.json (if isGood registry then good else bad) (content registry))).Runs
        xs (.ok response)) : response.Definite := by
  obtain ⟨ys, zs, registry, rfl, -, rest⟩ := run.of_bind
  cases rest
  unfold Response.Definite Response.json
  split
  · exact definite
  · exact definite'

theorem definite_serve {r : HttpRequest} {query : List Char} {route : Route}
    (run : (serve e r query now route).Runs xs (.ok response)) : response.Definite := by
  cases route with
  | health => exact definite_of_health (by decide) (by decide) run
  | readiness => exact definite_of_health (by decide) (by decide) run
  | metrics =>
      cases run
      exact Response.definite_of_status (n := 200) rfl (by decide)
  | events =>
      simp only [serve] at run
      split at run
      · exact definite_ingest run
      · rename_i refused
        cases run
        exact definite_readEvents refused
  | incidents =>
      simp only [serve] at run
      split at run
      · exact definite_listIncidents run
      · cases run
        exact Response.definite_of_status (n := 400) rfl (by decide)

theorem definite_handle {r : HttpRequest} (run : (handle e r now).Runs xs (.ok response)) :
    response.Definite := by
  unfold handle at run
  dsimp only at run
  split at run
  · cases run
    exact Response.definite_of_status (n := 404) rfl (by decide)
  · split at run
    · obtain ⟨ys, zs, served, rfl, first, rest⟩ := run.of_bind
      have definite : served.Definite := definite_serve first
      cases rest
      exact definite
    · cases run
      exact Response.definite_of_status (n := 405) rfl (by decide)

end Api

/-! ## What fails -/

/-- Whatever it holds, an exchange with the store has left it as it was. -/
def Exchange.Spares (x : Exchange) : Prop :=
  ∀ c before after, Interleaving.serve c before x.request = some (x.answer, after) → after = before

theorem Exchange.spares_of_not_writes {x : Exchange} (reads : x.request.writes x.answer = false) :
    x.Spares := by
  intro c before after served
  obtain ⟨r, a⟩ := x
  rcases Interleaving.serve_cases served with same | ⟨i, rfl, -⟩ | ⟨i, rfl, -⟩
  · exact same
  · rcases Interleaving.serve_create served with ⟨granted, -⟩ | ⟨error, -, same⟩
    · rw [show a = .ok () from granted] at reads
      cases reads
    · exact same
  · rcases Interleaving.serve_update served with ⟨granted, -⟩ | ⟨error, -, same⟩
    · rw [show a = .ok () from granted] at reads
      cases reads
    · exact same

theorem StoreNews.asksStore_of_writes {r : Request} {a : r.Answer} (writes : r.writes a = true) :
    r.AsksStore := by
  unfold Request.writes at writes
  split at writes
  · trivial
  · trivial
  · cases writes

theorem StoreNews.failure?_of_writes {r : Request} {a : r.Answer} (writes : r.writes a = true) :
    r.failure? a = none := by
  unfold Request.writes at writes
  split at writes
  · rfl
  · rfl
  · cases writes

theorem StoreNews.Told.next (told : news.Told) {r : Request} (a : r.Answer) :
    (news.next r a).Told := by
  unfold StoreNews.next
  split
  · exact nofun
  · split
    · exact nofun
    · split
      · exact nofun
      · exact told

theorem StoreNews.Told.after (told : news.Told) (xs : List Exchange) : (news.after xs).Told := by
  induction xs generalizing news with
  | nil => exact told
  | cons x rest inductionHypothesis => exact inductionHypothesis (told.next x.answer)

/-- A batch that fails has written nothing. -/
theorem spares_of_failing_batch {events : List Event} {xs : List Exchange} {error : EngineError}
    (run : (e.handleBatch events now).run.Runs xs (.ok (.error error))) : ∀ x ∈ xs, x.Spares := by
  have accounts := accounts_handleBatch e events now
  obtain ⟨cause, -, failed⟩ : ∃ cause, error = .persistence cause ∧
      StoreNews.nothing.after xs = .failed cause := Program.Accounts.post_of_runs accounts run
  intro x member
  refine Exchange.spares_of_not_writes (Bool.eq_false_iff.2 fun writes => ?_)
  obtain ⟨before, later, rfl⟩ := List.append_of_mem member
  -- What was written was written before any failure, and then the store was asked no more.
  by_cases told : (StoreNews.nothing.after before).Told
  · exact Program.Accounts.not_asksStore accounts run rfl told
      (StoreNews.asksStore_of_writes writes)
  · have nothing : StoreNews.nothing.after before = .nothing := not_not.1 told
    have written : StoreNews.nothing.next x.request x.answer = .written :=
      StoreNews.next_eq_written StoreNews.not_failed_nothing
        (StoreNews.failure?_of_writes writes) writes
    have told' : StoreNews.Told .written := nofun
    have silent : ∀ y ∈ later, ¬ y.request.AsksStore :=
      Program.Accounts.not_asksStore_after accounts run rfl fun ys => by
        rw [nothing, written]
        exact told'.after ys
    rw [StoreNews.after_append, nothing, StoreNews.after_cons, written,
      StoreNews.after_of_not_asksStore silent] at failed
    cases failed

/-- Whatever the collaborators answer, a batch fails exactly when a call of the store did; the error
is that of the call, which was the last one, and the batch has left the store as it was. A sweep
fails exactly when a call of the store did, with its error; that an incident to be read is not found
is no failure. So no request to the agent is answered with an unknown error or a timeout. -/
theorem only_the_store_fails_operations (e : Engine) :
    (∀ events now xs ending, (e.handleBatch events now).run.Runs xs ending →
      ((∃ error, ending = .ok (.error error)) ↔ ∃ x ∈ xs, x.failure?.isSome = true) ∧
      ∀ error, ending = .ok (.error error) →
        (∃ before x later cause, xs = before ++ x :: later ∧ x.failure? = some cause ∧
          error = .persistence cause ∧ ∀ y ∈ later, ¬ y.request.AsksStore) ∧
        ∀ x ∈ xs, x.Spares) ∧
    (∀ now xs ending, (e.sweep now).run.Runs xs ending →
      ((∃ error, ending = .ok (.error error)) ↔ ∃ x ∈ xs, x.failure?.isSome = true) ∧
      ∀ error, ending = .ok (.error error) →
        ∃ before x later cause, xs = before ++ x :: later ∧ x.failure? = some cause ∧
          error = .persistence cause ∧ ∀ y ∈ later, ¬ y.request.AsksStore) ∧
    ∀ r now xs response, (Api.handle e r now).Runs xs (.ok response) →
      response.status ≠ 500 ∧ response.status ≠ 504 := by
  refine ⟨?_, ?_, ?_⟩
  · intro events now xs ending run
    obtain ⟨iff, told⟩ := (accounts_handleBatch e events now).fails_iff (fun _ => nofun) run
    refine ⟨iff, fun error same => ⟨told error same, ?_⟩⟩
    subst same
    exact spares_of_failing_batch run
  · intro now xs ending run
    exact (escalates_sweep e now _ StoreNews.not_failed_nothing).fails_iff
      (fun error => ⟨error, rfl⟩) run
  · intro r now xs response run
    exact Api.definite_handle run

/-- Answers of collaborators of which the store lists nothing and writes nothing. -/
def whileStoreIsDown (r : Request) : r.Answer :=
  match r with
  | .list _ _ => .ok ⟨[], 0, 1, 100, false⟩
  | .create _ => .error (.backend "down")
  | r => (Interleaving.Sample.willing "a").answer r

/-- A batch of one event, as the agent takes it. -/
def postedBatch : Api.HttpRequest where
  method := "POST"
  target := "/v1/events"
  contentType := some "application/json"
  body := "[\x7b\"podName\":\"web-0\",\"podNamespace\":\"default\",\"source\":\"event\"," ++
    "\"reason\":\"OOMKilled\",\"message\":\"\",\"severity\":\"critical\"," ++
    "\"timestamp\":\"1970-01-01T00:00:00Z\"\x7d]"

theorem only_the_store_fails_operations_while_store_is_down :
    let batch := (Interleaving.Sample.engine.handleBatch
      [Interleaving.Sample.event "web-0" "OOMKilled"] .epoch).run.transcript whileStoreIsDown
    let answer := (Api.handle Interleaving.Sample.engine postedBatch .epoch).transcript
      whileStoreIsDown
    (batch.2 = .ok (.error (.persistence (.backend "down"))) ∧
      (∃ x ∈ batch.1, x.failure?.isSome = true) ∧ ∀ x ∈ batch.1, x.Spares) ∧
    ∃ response, answer.2 = .ok response ∧ response.status = 503 ∧ response.status ≠ 500 ∧
      response.status ≠ 504 := by
  intro batch answer
  obtain ⟨batches, -, answers⟩ := only_the_store_fails_operations Interleaving.Sample.engine
  have failed : batch.2 = .ok (.error (.persistence (.backend "down"))) := by decide +kernel
  have answered : answer.2.map (·.status) = .ok 503 := by decide +kernel
  refine ⟨?_, ?_⟩
  · obtain ⟨iff, told⟩ := batches _ _ _ _ (Program.runs_transcript whileStoreIsDown _)
    exact ⟨failed, iff.1 ⟨_, failed⟩, (told _ failed).2⟩
  · have run := Program.runs_transcript whileStoreIsDown
      (Api.handle Interleaving.Sample.engine postedBatch .epoch)
    cases ending : answer.2 with
    | error fault =>
        rw [ending] at answered
        cases answered
    | ok response =>
        rw [ending] at answered
        refine ⟨response, rfl, Except.ok.inj answered,
          answers postedBatch .epoch answer.1 response ?_⟩
        rw [← ending]
        exact run

end IncidentWatch
