import IncidentWatch.Proofs.Interleaving.Rules

/-!
# Stages of an operation

What an operation has asked and how it was answered tell where it stands with the
incidents that it deals with: which one it has read under the lock of a release, what
the cluster has said about it, what was stored, whether the lock was given back and
whether an announcement was delivered. This is its stage, and every answer leads from
one stage to the next (`Stage.next`).

What a batch and a sweep may ask for depends on their stage alone (`Engine.BatchMay`,
`Engine.SweepMay`). A program follows such a rule when it does so whatever it is answered
(`Program.Follows`); the rules for programs in sequence and for work that can fail are
those of any logic of programs, with the stage in the place of the state.
-/

set_option autoImplicit false

namespace IncidentWatch

open Engine (Verdict)

/-- Where an operation stands with the incidents that it deals with. -/
inductive Stage where
  /-- It holds no lock and has no incident to deal with. -/
  | apart
  /-- It holds the lock of a release and was shown incidents in listings. -/
  | entered (listed : List Incident)
  /-- It has read an active incident under the lock. -/
  | found (i : Incident)
  /-- It was told the health of the incident's deployment. -/
  | probed (i : Incident) (health : RolloutHealth)
  /-- The deployment of the incident could not be asked. -/
  | unreadable (i : Incident)
  /-- It has stored the incident with its count of healthy answers. -/
  | counted (i : Incident) (health : RolloutHealth)
  /-- It has stored the incident as resolved. -/
  | resolved (i : Incident)
  /-- It has nothing left to do under the lock. -/
  | leaving
  /-- It has come to a verdict on an incident and given back the lock. -/
  | judged (i : Incident) (verdict : Verdict)
  /-- An announcement of the incident was delivered. -/
  | delivered (i : Incident) (kind : AlertKind)
  /-- It holds the lock again, for the mark of the announcement. -/
  | marking (i : Incident) (kind : AlertKind)
  /-- It has read the incident again, for the mark of the announcement. -/
  | reread (i : Incident) (kind : AlertKind)

namespace Stage

/-! ## From stage to stage -/

/-- A lock was taken. -/
def locked : Stage → Stage
  | .delivered i kind => .marking i kind
  | _ => .entered []

/-- The lock was given back, and with it a verdict is final. -/
def unlocked : Stage → Stage
  | .found i => .judged i .unresolved
  | .counted i _ => .judged i .unresolved
  | .unreadable i => .judged i .skipped
  | .resolved i => .judged i .resolved
  | _ => .apart

/-- The store has not done what was asked. -/
def refused : Stage → Stage
  | .apart => .apart
  | _ => .leaving

/-- A page was listed. -/
def shown (items : List Incident) : Stage → Stage
  | .entered listed => .entered (items ++ listed)
  | stage => stage

/-- An incident was read. -/
def read (i : Incident) : Stage → Stage
  | .marking _ kind => .reread i kind
  | _ => if i.isActive then .found i else .leaving

/-- An incident was stored in the place of its record. -/
def updated (i : Incident) : Stage → Stage
  | .probed _ health => .counted i health
  | .entered _ => .leaving
  | .reread _ _ => .leaving
  | _ => .resolved i

/-- The health of a deployment was asked for. -/
def asked (answer : Except QueryError RolloutHealth) : Stage → Stage
  | .found i =>
    match answer with
    | .ok health => .probed i health
    | .error _ => .unreadable i
  | stage => stage

/-- The notifier was asked to deliver. -/
def announced (kind : AlertKind) (answer : Except String Unit) : Stage → Stage
  | .judged i _ =>
    match answer with
    | .ok _ => .delivered i kind
    | .error _ => .apart
  | stage => stage

/-- The stage after a request was answered. -/
def next (stage : Stage) : (r : Request) → r.Answer → Stage
  | .lock _, _ => stage.locked
  | .unlock _, _ => stage.unlocked
  | .pruneLocks, _ => .apart
  | .create _, _ => .leaving
  | .update i, .ok _ => stage.updated i
  | .update _, .error _ => stage.refused
  | .read _, .ok i => stage.read i
  | .read _, .error _ => stage.refused
  | .list _ _, .ok page => stage.shown page.items
  | .list _ _, .error _ => stage.refused
  | .rollout _ _ _, answer => stage.asked answer
  | .deliver kind _, answer => stage.announced kind answer
  | _, _ => stage

end Stage

/-! ## What a sweep may ask for -/

/-- An incident as it is resolved at an instant. -/
def Incident.resolvedAt (i : Incident) (now : Instant) : Incident :=
  { i with status := .resolved, resolvedTime := some now }

namespace Engine

variable (e : Engine) (now : Instant)

/-- Some time of quiet has passed since an incident was last seen. -/
def QuietFor (i : Incident) (span : Span) : Prop :=
  ∃ quietAt, i.lastSeen.add span = .ok quietAt ∧ quietAt ≤ now

/-- The deployment of an incident is asked about: the incident is a critical one of a deployment, and
the buffer window is over. -/
structure Probes (i : Incident) : Prop where
  deployment : i.involvedObject.kind = .deployment
  critical : i.severity = .critical
  quiet : QuietFor now i e.settings.bufferWindow

/-- The announcement that is due after a verdict on an incident. -/
def announcement? (i : Incident) : Verdict → Option AlertKind
  | .unresolved => if e.isAlertDue i now then some .opened else none
  | .resolved => if i.severity = .critical then some .resolved else none
  | .skipped => none

/-- The record of an incident after an answer about the health of its deployment. -/
inductive Counts (i : Incident) (health : RolloutHealth) : Incident → Prop
  | failing (ill : health.isFailing = .ok true) : Counts i health { i with resolvedRetryCount := 0 }
  | healthy (well : health.isFailing = .ok false) (retries : UInt32)
      (counted : retries.toNat = i.resolvedRetryCount.toNat + 1) :
      Counts i health { i with resolvedRetryCount := retries }

/-- The healthy answers counted for an incident suffice to resolve it. -/
structure Recovered (i : Incident) (health : RolloutHealth) : Prop where
  healthy : health.isFailing = .ok false
  enough : e.settings.retryThreshold ≤ i.resolvedRetryCount

/-- What a sweep may ask for. -/
def SweepMay : Stage → Request → Prop
  | .apart, .lock _ => True
  | .apart, .list _ _ => True
  | .apart, .pruneLocks => True
  | .apart, .measure _ => True
  | .apart, .log _ => True
  | .entered _, .read _ => True
  | .found i, .rollout namespaceName name _ => e.Probes now i ∧
      namespaceName = i.involvedObject.namespaceName ∧ name = i.involvedObject.name
  | .found i, .update j =>
      ¬ (i.involvedObject.kind = .deployment ∧ i.severity = .critical) ∧
        QuietFor now i e.settings.settleAfter ∧ j = i.resolvedAt now
  | .found _, .unlock _ => True
  | .probed i health, .update j => e.Probes now i ∧ Counts i health j
  | .counted _ _, .log _ => True
  | .counted i health, .update j => e.Probes now i ∧ e.Recovered i health ∧ j = i.resolvedAt now
  | .counted i health, .unlock _ => ¬ e.Recovered i health
  | .unreadable _, .log _ => True
  | .unreadable i, .update j => QuietFor now i e.settings.settleAfter ∧ j = i.resolvedAt now
  | .unreadable _, .unlock _ => True
  | .resolved _, .measure _ => True
  | .resolved _, .log _ => True
  | .resolved _, .unlock _ => True
  | .leaving, .unlock _ => True
  | .judged i verdict, r =>
      match e.announcement? now i verdict with
      | some kind => r = .deliver kind i.view
      | none => (∃ release, r = .lock release) ∨ r = .pruneLocks
  | .delivered _ _, .lock _ => True
  | .marking i _, .read id => id = i.id
  | .reread i _, .update j => j = { i with lastAlerted := some now }
  | _, _ => False

/-! ## What a batch may ask for -/

/-- A candidate of the events of a batch, for an owner. -/
def IsCandidate (events : List Event) (owner : OwnerRef) (candidate : Incident) : Prop :=
  e.classified (counting events) ≠ [] ∧
    ∃ id ids object, ids.length = (e.classified (counting events)).length ∧
      candidate = Candidate.build id ids (e.classified (counting events)) owner object now

/-- What a batch may ask for. -/
def BatchMay (events : List Event) : Stage → Request → Prop
  | .apart, .lock _ => True
  | .apart, r => r.Quiet
  | .entered _, .list _ _ => True
  | .entered _, .log _ => True
  | .entered _, .create i => ∃ owner, e.IsCandidate now events owner i
  | .entered listed, .update i => ∃ target ∈ listed, ∃ owner candidate,
      e.IsCandidate now events owner candidate ∧ i = (target.merge candidate.events owner now).1
  | .leaving, .measure _ => True
  | .leaving, .log _ => True
  | .leaving, .unlock _ => True
  | _, _ => False

end Engine

/-! ## Breaking off -/

/-- An operation that is broken off here leaves nothing half done: it has no answer to count, and it
has neither counted one, resolved an incident nor announced one without going on to what follows. -/
def Stage.OwesNothing : Stage → Prop
  | .probed i health => ∀ j, ¬ Engine.Counts i health j
  | .counted _ _ => False
  | .resolved _ => False
  | .judged _ _ => False
  | .delivered _ _ => False
  | .marking _ _ => False
  | .reread _ _ => False
  | _ => True

/-! ## Programs that follow a rule -/

/-- A program asks only for what it may, whatever it is answered, and breaks off only where nothing
is half done; if it ends, then as it should. -/
def Program.Follows {α : Type} (may : Stage → Request → Prop) (post : α → Stage → Prop) :
    Program α → Stage → Prop
  | .done a, stage => post a stage
  | .halt _, stage => stage.OwesNothing
  | .ask r next, stage => may stage r ∧ ∀ a, (next a).Follows may post (stage.next r a)

namespace Program

variable {α β : Type} {may : Stage → Request → Prop} {post : α → Stage → Prop} {stage : Stage}

theorem Follows.mono {post' : α → Stage → Prop} {p : Program α} (follows : p.Follows may post stage)
    (weaker : ∀ a stage, post a stage → post' a stage) : p.Follows may post' stage := by
  induction p generalizing stage with
  | done a => exact weaker a stage follows
  | halt fault => exact follows
  | ask r next inductionHypothesis =>
      exact ⟨follows.1, fun a => inductionHypothesis a (follows.2 a)⟩

theorem follows_bind {p : Program β} {f : β → Program α}
    (first : p.Follows may (fun b => (f b).Follows may post) stage) :
    (p >>= f).Follows may post stage := by
  show (p.andThen f).Follows may post stage
  induction p generalizing stage with
  | done b => exact first
  | halt fault => exact first
  | ask r next inductionHypothesis =>
      exact ⟨first.1, fun a => inductionHypothesis a (first.2 a)⟩

/-- A request is allowed, and every answer will do. -/
theorem follows_ask {r : Request} {f : r.Answer → Program α} (asks : may stage r)
    (rest : ∀ a, (f a).Follows may post (stage.next r a)) :
    (Program.request r >>= f).Follows may post stage :=
  ⟨asks, rest⟩

/-- What asks quietly follows a rule that allows it to. -/
theorem follows_quietly {p : Program β} {f : β → Program α} {kind : β → Prop} (quiet : p.Quiet kind)
    (free : stage.OwesNothing)
    (asks : ∀ r, r.Quiet → may stage r ∧ ∀ a, stage.next r a = stage)
    (rest : ∀ b, kind b → (f b).Follows may post stage) :
    (p >>= f).Follows may post stage := by
  refine follows_bind ?_
  induction p with
  | done b => exact rest b quiet
  | halt fault => exact free
  | ask r next inductionHypothesis =>
      refine ⟨(asks r quiet.1).1, fun a => ?_⟩
      rw [(asks r quiet.1).2 a]
      exact inductionHypothesis a (quiet.2 a)

end Program

namespace Work

variable {α β : Type} {may : Stage → Request → Prop} {post : α → Stage → Prop}
  {failed : Stage → Prop} {stage : Stage}

/-- Work follows a rule; where it succeeds one thing holds, where it fails another. -/
def Follows (may : Stage → Request → Prop) (post : α → Stage → Prop) (failed : Stage → Prop)
    (w : Work α) (stage : Stage) : Prop :=
  w.run.Follows may (fun
    | .ok a => post a
    | .error _ => failed) stage

theorem Follows.mono {post' : α → Stage → Prop} {failed' : Stage → Prop} {w : Work α}
    (follows : Follows may post failed w stage) (weaker : ∀ a stage, post a stage → post' a stage)
    (weakerFailed : ∀ stage, failed stage → failed' stage) :
    Follows may post' failed' w stage := by
  refine Program.Follows.mono follows fun result stage' holds => ?_
  cases result with
  | ok a => exact weaker a stage' holds
  | error error => exact weakerFailed stage' holds

theorem follows_bind {w : Work β} {f : β → Work α}
    (first : Follows may (fun b => Follows may post failed (f b)) failed w stage) :
    Follows may post failed (w >>= f) stage := by
  refine Program.follows_bind (Program.Follows.mono first fun result stage' holds => ?_)
  cases result with
  | ok b => exact holds
  | error error => exact holds

theorem follows_pure {a : α} (holds : post a stage) : Follows may post failed (pure a) stage :=
  holds

theorem follows_lift {p : Program β} {f : β → Work α}
    (first : p.Follows may (fun b => Follows may post failed (f b)) stage) :
    Follows may post failed (liftM p >>= f) stage := by
  refine follows_bind (Program.follows_bind (Program.Follows.mono first ?_))
  exact fun _ _ holds => holds

theorem follows_ask {r : Request} {f : r.Answer → Work α} (asks : may stage r)
    (rest : ∀ a, Follows may post failed (f a) (stage.next r a)) :
    Follows may post failed (liftM (Program.request r) >>= f) stage :=
  follows_lift ⟨asks, rest⟩

theorem follows_checked {value : Except Fault β} {f : β → Work α}
    (free : ∀ fault, value = .error fault → stage.OwesNothing)
    (rest : ∀ b, value = .ok b → Follows may post failed (f b) stage) :
    Follows may post failed (Work.checked value >>= f) stage := by
  refine follows_bind ?_
  cases value with
  | ok b => exact rest b rfl
  | error fault => exact free fault rfl

theorem follows_quietly {p : Program β} {f : β → Work α} {kind : β → Prop} (quiet : p.Quiet kind)
    (free : stage.OwesNothing)
    (asks : ∀ r, r.Quiet → may stage r ∧ ∀ a, stage.next r a = stage)
    (rest : ∀ b, kind b → Follows may post failed (f b) stage) :
    Follows may post failed (liftM p >>= f) stage := by
  refine follows_bind (Program.follows_quietly quiet free asks ?_)
  exact fun b is => rest b is

/-- An update succeeds, or the store refuses it. -/
theorem follows_update {i : Incident} {f : Unit → Work α} (asks : may stage (.update i))
    (broken : failed stage.refused)
    (rest : Follows may post failed (f ()) (stage.updated i)) :
    Follows may post failed (Work.update i >>= f) stage := by
  refine follows_bind (Program.follows_ask asks fun a => ?_)
  cases a with
  | ok u => exact rest
  | error error => exact broken

/-- A page is listed, or the store refuses to. -/
theorem follows_list {f : IncidentFilter} {p : Pagination} {g : Page Incident → Work α}
    (asks : may stage (.list f p)) (broken : failed stage.refused)
    (rest : ∀ page, Follows may post failed (g page) (stage.shown page.items)) :
    Follows may post failed (Work.ofStore (Program.request (.list f p)) >>= g) stage := by
  refine follows_bind (Program.follows_ask asks fun a => ?_)
  cases a with
  | ok page => exact rest page
  | error error => exact broken

/-- Work under a lock, which is given back however the work ends. -/
theorem follows_underLock {release : ReleaseKey} {work : Work α}
    (asks : may stage (.lock release))
    (inside : Follows may (fun a stage' => may stage' (.unlock release) ∧ post a stage'.unlocked)
      (fun stage' => may stage' (.unlock release) ∧ failed stage'.unlocked) work stage.locked) :
    Follows may post failed (Work.underLock release work) stage := by
  refine Program.follows_ask asks fun _ => ?_
  refine Program.follows_bind (Program.Follows.mono inside fun result stage' holds => ?_)
  cases result with
  | ok a => exact ⟨holds.1, fun _ => holds.2⟩
  | error error => exact ⟨holds.1, fun _ => holds.2⟩

/-- Going through the pages of a listing, with what holds of the items shown so far. -/
theorem follows_listFrom {f : IncidentFilter} (J : List Incident → Stage → Prop)
    (asks : ∀ {items stage} p, J items stage → may stage (.list f p))
    (shown : ∀ {items stage} (page : Page Incident), J items stage →
      J (items ++ page.items) (stage.shown page.items))
    (free : ∀ {items stage}, J items stage → stage.OwesNothing)
    (broken : ∀ {items stage}, J items stage → failed stage.refused)
    {p : Pagination} {items : List Incident} {stage : Stage} (start : J items stage) :
    Follows may (fun found => J (items ++ found)) failed (Work.listFrom f p) stage := by
  rw [Work.listFrom]
  refine follows_list (asks p start) (broken start) fun page => ?_
  have after := shown page start
  split
  · exact follows_pure after
  · exact free after
  · rename_i q goesOn
    refine follows_bind (Follows.mono
      (follows_listFrom J asks shown free broken after) ?_ fun _ left => left)
    intro rest stage' holds
    refine follows_pure ?_
    rw [← List.append_assoc]
    exact holds
termination_by UInt64.size - p.page.toNat
decreasing_by
  exact Work.size_sub_nextPage_lt (by assumption)

/-- A listing, with what holds of the items found. -/
theorem follows_listAll {f : IncidentFilter} {pageSize : UInt64} (J : List Incident → Stage → Prop)
    (asks : ∀ {items stage} p, J items stage → may stage (.list f p))
    (shown : ∀ {items stage} (page : Page Incident), J items stage →
      J (items ++ page.items) (stage.shown page.items))
    (free : ∀ {items stage}, J items stage → stage.OwesNothing)
    (broken : ∀ {items stage}, J items stage → failed stage.refused) (start : J [] stage) :
    Follows may J failed (Work.listAll f pageSize) stage :=
  follows_listFrom J asks shown free broken start

end Work

end IncidentWatch
