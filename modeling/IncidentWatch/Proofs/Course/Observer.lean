import IncidentWatch.Proofs.Course.Stage

/-!
# Observers

An observer reads what an operation is answered, one answer after the other, and keeps
what it needs of it (`Observer.reading`). Where the stage of an operation says which incident
it deals with, an observer may keep what else was learned on the way.

A program heeds a rule about what was observed when it asks only for what the rule allows,
whatever it is answered, and ends as it should (`Program.Heeds`). If all operations do, then
in every schedule whatever an operation asks for is allowed by what the history shows of it
(`Interleaving.may_after`), and so is what it ends with (`Interleaving.ends_after`).
-/

set_option autoImplicit false

namespace IncidentWatch

/-- What is kept of the answers that an operation gets. -/
structure Observer (σ : Type) where
  start : σ
  next : σ → (r : Request) → r.Answer → σ

/-! ## Programs that heed a rule -/

/-- A program asks only for what it may, whatever it is answered; if it ends, then as it should. -/
def Program.Heeds {α σ : Type} (o : Observer σ) (may : σ → Request → Prop) (post : α → σ → Prop) :
    Program α → σ → Prop
  | .done a, known => post a known
  | .halt _, _ => True
  | .ask r next, known => may known r ∧ ∀ a, (next a).Heeds o may post (o.next known r a)

/-- A request that is allowed, and from which nothing new is learned. -/
structure Observer.Ignores {σ : Type} (o : Observer σ) (may : σ → Request → Prop) (known : σ)
    (r : Request) : Prop where
  allowed : may known r
  same : ∀ a, o.next known r a = known

namespace Program

variable {α β σ : Type} {o : Observer σ} {may : σ → Request → Prop} {post : α → σ → Prop}
  {known : σ}

theorem Heeds.mono {post' : α → σ → Prop} {p : Program α} (heeds : p.Heeds o may post known)
    (weaker : ∀ a known, post a known → post' a known) : p.Heeds o may post' known := by
  induction p generalizing known with
  | done a => exact weaker a known heeds
  | halt fault => trivial
  | ask r next inductionHypothesis =>
      exact ⟨heeds.1, fun a => inductionHypothesis a (heeds.2 a)⟩

/-- A rule may be replaced by one that allows more. -/
theorem Heeds.loosen {may' : σ → Request → Prop} {p : Program α} (heeds : p.Heeds o may post known)
    (more : ∀ known r, may known r → may' known r) : p.Heeds o may' post known := by
  induction p generalizing known with
  | done a => exact heeds
  | halt fault => trivial
  | ask r next inductionHypothesis =>
      exact ⟨more known r heeds.1, fun a => inductionHypothesis a (heeds.2 a)⟩

theorem heeds_bind {p : Program β} {f : β → Program α}
    (first : p.Heeds o may (fun b => (f b).Heeds o may post) known) :
    (p >>= f).Heeds o may post known := by
  show (p.andThen f).Heeds o may post known
  induction p generalizing known with
  | done b => exact first
  | halt fault => trivial
  | ask r next inductionHypothesis =>
      exact ⟨first.1, fun a => inductionHypothesis a (first.2 a)⟩

/-- Where a rule forbids nothing, every program heeds it. -/
theorem heeds_of_free (free : ∀ known r, may known r) (p : Program α) (known : σ) :
    p.Heeds o may (fun _ _ => True) known := by
  induction p generalizing known with
  | done a => trivial
  | halt fault => trivial
  | ask r next inductionHypothesis =>
      exact ⟨free known r, fun a => inductionHypothesis a (o.next known r a)⟩

theorem heeds_ignored {r : Request} {f : r.Answer → Program α} (ignores : o.Ignores may known r)
    (rest : ∀ a, (f a).Heeds o may post known) :
    (Program.request r >>= f).Heeds o may post known := by
  refine ⟨ignores.allowed, fun a => ?_⟩
  rw [ignores.same a]
  exact rest a

/-- One program for each of a list, none of which tells anything new. -/
theorem heeds_mapM {f : β → Program α}
    (each : ∀ b, (f b).Heeds o may (fun _ known' => known' = known) known) (items : List β) :
    (items.mapM f).Heeds o may
      (fun values known' => values.length = items.length ∧ known' = known) known := by
  induction items with
  | nil => exact ⟨rfl, rfl⟩
  | cons b rest inductionHypothesis =>
      rw [List.mapM_cons]
      refine heeds_bind ((each b).mono ?_)
      rintro a _ rfl
      refine heeds_bind (inductionHypothesis.mono ?_)
      rintro values _ ⟨length, rfl⟩
      exact ⟨congrArg Nat.succ length, rfl⟩

end Program

namespace Work

section Results

variable {α β σ : Type} {o : Observer σ} {may : σ → Request → Prop}
  {post : Except EngineError α → σ → Prop} {known : σ}

/-- After work, whether it succeeds or not. -/
theorem heeds_run_bind {w : Work β} {f : β → Work α}
    (first : w.run.Heeds o may (fun
      | .ok b => (f b).run.Heeds o may post
      | .error error => post (.error error)) known) :
    (w >>= f).run.Heeds o may post known := by
  refine Program.heeds_bind (first.mono fun result known' holds => ?_)
  cases result with
  | ok b => exact holds
  | error error => exact holds

theorem heeds_run_lift {p : Program β} {f : β → Work α}
    (first : p.Heeds o may (fun b => (f b).run.Heeds o may post) known) :
    (liftM p >>= f).run.Heeds o may post known := by
  refine heeds_run_bind (Program.heeds_bind (first.mono ?_))
  exact fun _ _ holds => holds

theorem heeds_run_ask {r : Request} {f : r.Answer → Work α} (asks : may known r)
    (rest : ∀ a, (f a).run.Heeds o may post (o.next known r a)) :
    (liftM (Program.request r) >>= f).run.Heeds o may post known :=
  heeds_run_lift ⟨asks, rest⟩

end Results

variable {α β σ : Type} {o : Observer σ} {may : σ → Request → Prop} {post : α → σ → Prop}
  {known : σ}

/-- Work heeds a rule; where it succeeds something holds. -/
def Heeds (o : Observer σ) (may : σ → Request → Prop) (post : α → σ → Prop) (w : Work α)
    (known : σ) : Prop :=
  w.run.Heeds o may (fun
    | .ok a => post a
    | .error _ => fun _ => True) known

theorem Heeds.mono {post' : α → σ → Prop} {w : Work α} (heeds : Heeds o may post w known)
    (weaker : ∀ a known, post a known → post' a known) : Heeds o may post' w known := by
  refine Program.Heeds.mono heeds fun result known' holds => ?_
  cases result with
  | ok a => exact weaker a known' holds
  | error error => trivial

theorem heeds_bind {w : Work β} {f : β → Work α}
    (first : Heeds o may (fun b => Heeds o may post (f b)) w known) :
    Heeds o may post (w >>= f) known := by
  refine heeds_run_bind (Program.Heeds.mono first fun result known' holds => ?_)
  cases result with
  | ok b => exact holds
  | error error => trivial

theorem heeds_pure {a : α} (holds : post a known) : Heeds o may post (pure a) known :=
  holds

theorem heeds_lift {p : Program β} {f : β → Work α}
    (first : p.Heeds o may (fun b => Heeds o may post (f b)) known) :
    Heeds o may post (liftM p >>= f) known :=
  heeds_run_lift first

theorem heeds_ask {r : Request} {f : r.Answer → Work α} (asks : may known r)
    (rest : ∀ a, Heeds o may post (f a) (o.next known r a)) :
    Heeds o may post (liftM (Program.request r) >>= f) known :=
  heeds_lift ⟨asks, rest⟩

theorem heeds_ignored {r : Request} {f : r.Answer → Work α} (ignores : o.Ignores may known r)
    (rest : ∀ a, Heeds o may post (f a) known) :
    Heeds o may post (liftM (Program.request r) >>= f) known := by
  refine heeds_ask ignores.allowed fun a => ?_
  rw [ignores.same a]
  exact rest a

theorem heeds_checked {value : Except Fault β} {f : β → Work α}
    (rest : ∀ b, value = .ok b → Heeds o may post (f b) known) :
    Heeds o may post (Work.checked value >>= f) known := by
  refine heeds_bind ?_
  cases value with
  | ok b => exact rest b rfl
  | error fault => trivial

/-- An update succeeds, or the store refuses it. -/
theorem heeds_update {i : Incident} {f : Unit → Work α} (asks : may known (.update i))
    (rest : Heeds o may post (f ()) (o.next known (.update i) (.ok ()))) :
    Heeds o may post (Work.update i >>= f) known := by
  refine heeds_bind ⟨asks, fun answer => ?_⟩
  cases answer with
  | ok written => exact rest
  | error error => trivial

/-- An incident is read, or there is none, or the store refuses to read. -/
theorem heeds_read? {id : String} {f : Option Incident → Work α} (asks : may known (.read id))
    (missing : ∀ id', Heeds o may post (f none) (o.next known (.read id) (.error (.notFound id'))))
    (found : ∀ i, Heeds o may post (f (some i)) (o.next known (.read id) (.ok i))) :
    Heeds o may post (Work.read? id >>= f) known := by
  refine heeds_bind ⟨asks, fun answer => ?_⟩
  cases answer with
  | ok i => exact found i
  | error error =>
      cases error with
      | notFound id' => exact missing id'
      | backend text => trivial

/-- Work under a lock, which is given back however the work ends. -/
theorem heeds_underLock {release : ReleaseKey} {work : Work α} (locks : may known (.lock release))
    (unlocks : ∀ known', may known' (.unlock release))
    (inside : Heeds o may (fun a known' => post a (o.next known' (.unlock release) ())) work
      (o.next known (.lock release) ())) :
    Heeds o may post (Work.underLock release work) known := by
  refine Program.heeds_bind ⟨locks, fun _ => ?_⟩
  refine Program.heeds_bind (Program.Heeds.mono inside fun result known' holds => ?_)
  refine ⟨unlocks known', fun _ => ?_⟩
  cases result with
  | ok a => exact holds
  | error error => trivial

/-- A page is listed, or the store refuses to. -/
theorem heeds_list {f : IncidentFilter} {p : Pagination} {g : Page Incident → Work α}
    (asks : may known (.list f p))
    (rest : ∀ page, Heeds o may post (g page) (o.next known (.list f p) (.ok page))) :
    Heeds o may post (Work.ofStore (Program.request (.list f p)) >>= g) known := by
  refine heeds_bind ⟨asks, fun answer => ?_⟩
  cases answer with
  | ok page => exact rest page
  | error error => trivial

/-- Going through the pages of a listing, with what holds whatever they show. -/
theorem heeds_listFrom {f : IncidentFilter} (J : σ → Prop)
    (asks : ∀ {known} p, J known → may known (.list f p))
    (shown : ∀ {known} p page, J known → J (o.next known (.list f p) (.ok page)))
    (p : Pagination) {known : σ} (start : J known) :
    Heeds o may (fun _ => J) (Work.listFrom f p) known := by
  rw [Work.listFrom]
  refine heeds_list (asks p start) fun page => ?_
  have after := shown p page start
  split
  · exact heeds_pure after
  · trivial
  · rename_i q goesOn
    exact heeds_bind ((heeds_listFrom J asks shown q after).mono fun _ _ holds => holds)
termination_by UInt64.size - p.page.toNat
decreasing_by
  exact Work.size_sub_nextPage_lt (by assumption)

/-- Going through a list, with what holds after so many of its members. -/
theorem heeds_foldlM {f : α → β → Work α} (J : Nat → α → σ → Prop)
    (each : ∀ {n a known} b, J n a known → Heeds o may (J (n + 1)) (f a b) known)
    (items : List β) {n : Nat} {a : α} {known : σ} (start : J n a known) :
    Heeds o may (J (n + items.length)) (items.foldlM f a) known := by
  induction items generalizing n a known with
  | nil => exact heeds_pure start
  | cons b rest inductionHypothesis =>
      rw [List.foldlM_cons, List.length_cons, Nat.add_comm rest.length, ← Nat.add_assoc]
      exact heeds_bind ((each b start).mono fun a' known' holds => inductionHypothesis holds)

end Work

/-! ## Reading the history -/

open Interleaving

/-- What an observer knows of an operation. -/
def Observer.reading {σ : Type} (o : Observer σ) (t : Nat) : List Entry → σ
  | [] => o.start
  | entry :: earlier =>
    if entry.task = t then
      match entry.what with
      | .answered r a => o.next (o.reading t earlier) r a
      | _ => o.start
    else o.reading t earlier

section History

variable {σ : Type} (o : Observer σ) {t u : Nat}

theorem Observer.reading_of_other {what : Happening} {earlier : List Entry} (apart : u ≠ t) :
    o.reading u (⟨t, what⟩ :: earlier) = o.reading u earlier := by
  simp [Observer.reading, apart.symm]

theorem Observer.reading_answered {r : Request} {a : r.Answer} {earlier : List Entry} :
    o.reading t (⟨t, .answered r a⟩ :: earlier) = o.next (o.reading t earlier) r a := by
  simp [Observer.reading]

theorem Observer.reading_begun {op : Operation} {earlier : List Entry} :
    o.reading t (⟨t, .begun op⟩ :: earlier) = o.start := by
  simp [Observer.reading]

theorem move_reading {e : Engine} {s s' : System} (move : System.Move e s t s') (apart : u ≠ t) :
    o.reading u s'.history = o.reading u s.history := by
  cases move with
  | queued here asks new => rfl
  | _ => exact o.reading_of_other apart

end History

/-! ## Schedules -/

namespace Interleaving

open IncidentWatch.Interleaving.System

variable {σ : Type} {o : Observer σ} {e : Engine} {may : Operation → σ → Request → Prop}
  {post : Operation → Outcome → σ → Prop}

/-- What is left of an operation heeds the rule, from what was observed of it so far. -/
def Observed (o : Observer σ) (may : Operation → σ → Request → Prop)
    (post : Operation → Outcome → σ → Prop) (s : System) (t : Nat) : Prop :=
  ∀ task, s.tasks t = some task →
    task.rest.Heeds o (may task.operation) (post task.operation) (o.reading t s.history)

section Moves

variable {s s' : System} {t : Nat} {task : Task}

theorem observed_begin {op : Operation}
    (heeds : (op.program e).Heeds o (may op) (post op) o.start) :
    Observed o may post (s.begin e op) s.begun := by
  intro task here
  have begun : (s.begin e op).tasks s.begun = some ⟨op, op.program e, false⟩ :=
    Function.update_self s.begun _ s.tasks
  cases begun.symm.trans here
  show (op.program e).Heeds _ _ _ (o.reading s.begun (⟨s.begun, .begun op⟩ :: s.history))
  rw [o.reading_begun]
  exact heeds

theorem observed_queue (observed : Observed o may post s t) (here : s.tasks t = some task)
    (release : ReleaseKey) : Observed o may post (s.queue t task release) t := by
  intro task' here'
  have queued : (s.queue t task release).tasks t = some { task with waiting := true } :=
    Function.update_self t _ s.tasks
  cases queued.symm.trans here'
  exact observed task here

theorem observed_resume {r : Request} {next : r.Answer → Program Outcome}
    (observed : Observed o may post s t) (here : s.tasks t = some task)
    (asks : task.rest = .ask r next) (a : r.Answer) (store : Store) :
    Observed o may post (s.resume t task.operation r a store (next a)) t := by
  intro task' here'
  have resumed : (s.resume t task.operation r a store (next a)).tasks t =
      some ⟨task.operation, next a, false⟩ := Function.update_self t _ s.tasks
  cases resumed.symm.trans here'
  have heeds := observed task here
  rw [asks] at heeds
  show (next a).Heeds _ _ _ (o.reading t (⟨t, .answered r a⟩ :: s.history))
  rw [o.reading_answered]
  exact heeds.2 a

theorem observed_leave (what : Happening) : Observed o may post (s.leave t what) t := by
  intro task here
  have gone : (s.leave t what).tasks t = none := Function.update_self t _ s.tasks
  cases gone.symm.trans here

theorem observed_move
    (heeds : ∀ op : Operation, (op.program e).Heeds o (may op) (post op) o.start)
    (observed : ∀ u, Observed o may post s u) (move : Move e s t s') (u : Nat) :
    Observed o may post s' u := by
  by_cases apart : u ≠ t
  · intro task here
    rw [move_tasks move apart] at here
    rw [move_reading o move apart]
    exact observed u task here
  · cases not_not.1 apart
    cases move with
    | begun op => exact observed_begin (heeds op)
    | queued here asks new => exact observed_queue (observed _) here _
    | answered here asks granted served => exact observed_resume (observed _) here asks _ _
    | ended here finished => exact observed_leave _
    | stopped here => exact observed_leave _

end Moves

section Runs

variable (heeds : ∀ op : Operation, (op.program e).Heeds o (may op) (post op) o.start)
  (schedule : List Turn) {t : Nat} {task : Task}
include heeds

/-- If all operations heed a rule, they still do after every schedule. -/
theorem observed_after (t : Nat) : Observed o may post (after e schedule) t := by
  revert t
  refine after_moves (P := fun s => ∀ t, Observed o may post s t) ?_ ?_ schedule
  · intro t task here
    cases here
  · intro earlier t s' observed move
    exact observed_move heeds observed move

/-- Whatever an operation is about to ask for is allowed by what was observed of it. -/
theorem may_after {r : Request} {next : r.Answer → Program Outcome}
    (here : (after e schedule).tasks t = some task) (asks : task.rest = .ask r next) :
    may task.operation (o.reading t (after e schedule).history) r := by
  have heeds' := observed_after heeds schedule t task here
  rw [asks] at heeds'
  exact heeds'.1

/-- Whatever an operation has come to is as it should be by what was observed of it. -/
theorem ends_after {outcome : Outcome} (here : (after e schedule).tasks t = some task)
    (finished : task.rest = .done outcome) :
    post task.operation outcome (o.reading t (after e schedule).history) := by
  have heeds' := observed_after heeds schedule t task here
  rw [finished] at heeds'
  exact heeds'

end Runs

end Interleaving

end IncidentWatch
