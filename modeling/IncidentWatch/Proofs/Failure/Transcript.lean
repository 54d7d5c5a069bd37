import IncidentWatch.Proofs.Interleaving.Rules

/-!
# Transcripts

A run of a program is told by its transcript: what was asked and answered, in that order,
and how it ended (`Program.Runs`). The answers are whatever they are, so a statement about
all runs is one about all collaborators, and about all that others do meanwhile.

Of a transcript we keep what the store has told (`StoreNews`): nothing of note, that
something was written, or the error of the first call that failed. A program accounts for
this news (`Program.Accounts`) when it leaves the store alone once that has told enough,
and meets no fault after a failure. Work then fails exactly when the store did, with its
error (`Work.Accounts`).
-/

set_option autoImplicit false

namespace IncidentWatch

/-! ## Runs -/

/-- A request with its answer. -/
structure Exchange where
  request : Request
  answer : request.Answer

namespace Program

variable {α β : Type} {p : Program α} {f : α → Program β} {xs ys : List Exchange}

/-- The runs of a program, with all that is asked and answered, to the value or the fault that they
end in. -/
inductive Runs {α : Type} : Program α → List Exchange → Except Fault α → Prop
  | done (a : α) : Runs (.done a) [] (.ok a)
  | halt (fault : Fault) : Runs (.halt fault) [] (.error fault)
  | ask {r : Request} {next : r.Answer → Program α} {a : r.Answer} {xs : List Exchange}
      {ending : Except Fault α} (rest : Runs (next a) xs ending) :
      Runs (.ask r next) (⟨r, a⟩ :: xs) ending

/-- The run of a program whose requests are answered from a table. -/
def transcript (answer : (r : Request) → r.Answer) : Program α → List Exchange × Except Fault α
  | .done a => ([], .ok a)
  | .halt fault => ([], .error fault)
  | .ask r next =>
    let (xs, ending) := (next (answer r)).transcript answer
    (⟨r, answer r⟩ :: xs, ending)

theorem runs_transcript (answer : (r : Request) → r.Answer) (p : Program α) :
    p.Runs (p.transcript answer).1 (p.transcript answer).2 := by
  induction p with
  | done a => exact .done a
  | halt fault => exact .halt fault
  | ask r next inductionHypothesis => exact .ask (inductionHypothesis (answer r))

theorem Runs.bind {a : α} {ending : Except Fault β} (first : p.Runs xs (.ok a))
    (rest : (f a).Runs ys ending) : (p >>= f).Runs (xs ++ ys) ending := by
  show (p.andThen f).Runs (xs ++ ys) ending
  induction p generalizing xs with
  | done b =>
      cases first
      exact rest
  | halt fault => cases first
  | ask r next inductionHypothesis =>
      cases first with
      | ask goesOn => exact .ask (inductionHypothesis _ goesOn)

/-- A run of one program after another is a run of the one and then a run of the other, or breaks
off in the first. -/
theorem Runs.bind_cases {ending : Except Fault β} (run : (p >>= f).Runs xs ending) :
    (∃ ys zs a, xs = ys ++ zs ∧ p.Runs ys (.ok a) ∧ (f a).Runs zs ending) ∨
      ∃ fault, p.Runs xs (.error fault) ∧ ending = .error fault := by
  replace run : (p.andThen f).Runs xs ending := run
  induction p generalizing xs with
  | done a => exact Or.inl ⟨[], xs, a, rfl, .done a, run⟩
  | halt fault =>
      cases run
      exact Or.inr ⟨fault, .halt fault, rfl⟩
  | ask r next inductionHypothesis =>
      cases run with
      | ask goesOn =>
          rcases inductionHypothesis _ goesOn with
            ⟨ys, zs, b, rfl, first, rest⟩ | ⟨fault, first, rfl⟩
          · exact Or.inl ⟨_ :: ys, zs, b, rfl, .ask first, rest⟩
          · exact Or.inr ⟨fault, .ask first, rfl⟩

theorem Runs.of_bind {b : β} (run : (p >>= f).Runs xs (.ok b)) :
    ∃ ys zs a, xs = ys ++ zs ∧ p.Runs ys (.ok a) ∧ (f a).Runs zs (.ok b) := by
  rcases run.bind_cases with parts | ⟨fault, -, same⟩
  · exact parts
  · cases same

/-- What a program is answered decides how long it runs and how it ends. -/
theorem Runs.unique {xs' ys' : List Exchange} {ending ending' : Except Fault α}
    (run : p.Runs xs ending) (run' : p.Runs xs' ending') (same : xs ++ ys = xs' ++ ys') :
    xs = xs' ∧ ys = ys' ∧ ending = ending' := by
  induction run generalizing xs' with
  | done a =>
      cases run'
      exact ⟨rfl, same, rfl⟩
  | halt fault =>
      cases run'
      exact ⟨rfl, same, rfl⟩
  | ask rest inductionHypothesis =>
      cases run' with
      | ask rest' =>
          obtain ⟨here, there⟩ := List.cons.inj same
          cases here
          obtain ⟨rfl, rfl, rfl⟩ := inductionHypothesis rest' there
          exact ⟨rfl, rfl, rfl⟩

/-- A quiet program ends in a value of its kind. -/
theorem Quiet.of_runs {kind : α → Prop} {a : α} (quiet : p.Quiet kind)
    (run : p.Runs xs (.ok a)) : kind a := by
  induction p generalizing xs with
  | done b =>
      cases run
      exact quiet
  | halt fault => cases run
  | ask r next inductionHypothesis =>
      cases run with
      | ask goesOn => exact inductionHypothesis _ (quiet.2 _) goesOn

end Program

/-! ## News of the store -/

namespace Request

/-- Requests to the store. -/
def AsksStore : Request → Prop
  | .create _ => True
  | .update _ => True
  | .read _ => True
  | .list _ _ => True
  | _ => False

/-- Reports on the health of a component. -/
def Reports : Request → Prop
  | .succeeded _ => True
  | .failed _ _ => True
  | _ => False

/-- Requests that neither ask the store nor report. -/
def Aside (r : Request) : Prop :=
  ¬ r.AsksStore ∧ ¬ r.Reports

/-- The error that a call of the store failed with. That there is nothing to read under an id is an
answer and no failure. -/
def failure? : (r : Request) → r.Answer → Option StoreError
  | .create _, .error error => some error
  | .update _, .error error => some error
  | .read _, .error (.notFound _) => none
  | .read _, .error error => some error
  | .list _ _, .error error => some error
  | _, _ => none

/-- Whether a call has written to the store. -/
def writes : (r : Request) → r.Answer → Bool
  | .create _, .ok () => true
  | .update _, .ok () => true
  | _, _ => false

end Request

/-- What the store has told so far. -/
inductive StoreNews where
  /-- Nothing was written and nothing has failed. -/
  | nothing
  | written
  /-- A call has failed, the first one with this error. -/
  | failed (error : StoreError)

namespace StoreNews

/-- What the store has told after a request was answered. -/
def next : StoreNews → (r : Request) → r.Answer → StoreNews
  | .failed error, _, _ => .failed error
  | news, r, a =>
    match r.failure? a with
    | some error => .failed error
    | none => if r.writes a then .written else news

/-- Some call has failed. -/
def Failed (news : StoreNews) : Prop :=
  ∃ error, news = .failed error

theorem not_failed_nothing : ¬ Failed .nothing :=
  nofun

theorem not_failed_written : ¬ Failed .written :=
  nofun

variable {news : StoreNews} {r : Request}

theorem next_eq_failed {a : r.Answer} {error : StoreError} (sound : ¬ news.Failed)
    (fails : r.failure? a = some error) : news.next r a = .failed error := by
  cases news with
  | failed other => exact absurd ⟨other, rfl⟩ sound
  | _ => simp only [next, fails]

theorem next_eq_written {a : r.Answer} (sound : ¬ news.Failed) (granted : r.failure? a = none)
    (writes : r.writes a = true) : news.next r a = .written := by
  cases news with
  | failed other => exact absurd ⟨other, rfl⟩ sound
  | _ => simp only [next, granted, writes, if_true]

theorem next_eq_self {a : r.Answer} (granted : r.failure? a = none) (reads : r.writes a = false) :
    news.next r a = news := by
  cases news <;> simp [next, granted, reads]

/-- Other requests than those to the store tell nothing of it. -/
theorem next_of_not_asksStore (apart : ¬ r.AsksStore) (a : r.Answer) : news.next r a = news := by
  refine next_eq_self ?_ ?_
  · cases r <;> first | rfl | exact absurd trivial apart
  · cases r <;> first | rfl | exact absurd trivial apart

end StoreNews

/-- The error that a call of the store failed with, if this is one. -/
def Exchange.failure? (x : Exchange) : Option StoreError :=
  x.request.failure? x.answer

namespace StoreNews

variable {news : StoreNews} {xs : List Exchange} {error : StoreError}

/-- What the store has told after some exchanges. -/
def after (news : StoreNews) (xs : List Exchange) : StoreNews :=
  xs.foldl (fun news x => news.next x.request x.answer) news

theorem after_cons (news : StoreNews) (x : Exchange) (xs : List Exchange) :
    news.after (x :: xs) = (news.next x.request x.answer).after xs :=
  rfl

theorem after_append (news : StoreNews) (xs ys : List Exchange) :
    news.after (xs ++ ys) = (news.after xs).after ys :=
  List.foldl_append

theorem after_failed (error : StoreError) (xs : List Exchange) :
    (failed error).after xs = .failed error := by
  induction xs with
  | nil => rfl
  | cons x rest inductionHypothesis => exact inductionHypothesis

theorem after_of_not_asksStore (apart : ∀ x ∈ xs, ¬ x.request.AsksStore) :
    news.after xs = news := by
  induction xs with
  | nil => rfl
  | cons x rest inductionHypothesis =>
      obtain ⟨here, there⟩ := List.forall_mem_cons.1 apart
      rw [after_cons, next_of_not_asksStore here]
      exact inductionHypothesis there

theorem not_failed_next {r : Request} {a : r.Answer} (sound : ¬ news.Failed)
    (granted : r.failure? a = none) : ¬ (news.next r a).Failed := by
  cases writes : r.writes a with
  | true =>
      rw [next_eq_written sound granted writes]
      exact not_failed_written
  | false =>
      rw [next_eq_self granted writes]
      exact sound

/-- The news of a failure is that of the first call that failed. -/
theorem exists_failure (sound : ¬ news.Failed) (told : news.after xs = .failed error) :
    ∃ before x later, xs = before ++ x :: later ∧ x.failure? = some error ∧
      ¬ (news.after before).Failed := by
  induction xs generalizing news with
  | nil => exact absurd ⟨error, told⟩ sound
  | cons x rest inductionHypothesis =>
      cases fails : x.failure? with
      | some cause =>
          rw [after_cons, next_eq_failed sound fails, after_failed] at told
          cases told
          exact ⟨[], x, rest, rfl, fails, sound⟩
      | none =>
          obtain ⟨before, y, later, rfl, fails', sound'⟩ :=
            inductionHypothesis (not_failed_next sound fails) told
          exact ⟨x :: before, y, later, rfl, fails', sound'⟩

theorem failed_after_iff (sound : ¬ news.Failed) :
    (news.after xs).Failed ↔ ∃ x ∈ xs, x.failure?.isSome = true := by
  constructor
  · rintro ⟨error, told⟩
    obtain ⟨before, x, later, rfl, fails, -⟩ := exists_failure sound told
    exact ⟨x, by simp, by simp [fails]⟩
  · rintro ⟨x, member, fails⟩
    induction xs generalizing news with
    | nil => cases member
    | cons y rest inductionHypothesis =>
        cases here : y.failure? with
        | some cause =>
            rw [after_cons, next_eq_failed sound here, after_failed]
            exact ⟨cause, rfl⟩
        | none =>
            refine inductionHypothesis (not_failed_next sound here) ?_
            rcases List.mem_cons.1 member with rfl | among
            · simp [here] at fails
            · exact among

end StoreNews

/-! ## Programs that account for the news -/

variable {α β : Type} {settled : StoreNews → Prop} {news : StoreNews}

/-- Whatever it is answered, a program makes no report and asks the store for nothing more once that
has told enough. It meets no fault after a failure; if it ends, then as it should. -/
def Program.Accounts {α : Type} (settled : StoreNews → Prop) (post : α → StoreNews → Prop) :
    Program α → StoreNews → Prop
  | .done a, news => post a news
  | .halt _, news => ¬ news.Failed
  | .ask r next, news => ¬ r.Reports ∧ (settled news → ¬ r.AsksStore) ∧
      ∀ a, (next a).Accounts settled post (news.next r a)

namespace Program

variable {post : α → StoreNews → Prop}

theorem Accounts.mono {post' : α → StoreNews → Prop} {p : Program α}
    (accounts : p.Accounts settled post news) (weaker : ∀ a news, post a news → post' a news) :
    p.Accounts settled post' news := by
  induction p generalizing news with
  | done a => exact weaker a news accounts
  | halt fault => exact accounts
  | ask r next inductionHypothesis =>
      exact ⟨accounts.1, accounts.2.1, fun a => inductionHypothesis a (accounts.2.2 a)⟩

theorem accounts_bind {p : Program β} {f : β → Program α}
    (first : p.Accounts settled (fun b => (f b).Accounts settled post) news) :
    (p >>= f).Accounts settled post news := by
  show (p.andThen f).Accounts settled post news
  induction p generalizing news with
  | done b => exact first
  | halt fault => exact first
  | ask r next inductionHypothesis =>
      exact ⟨first.1, first.2.1, fun a => inductionHypothesis a (first.2.2 a)⟩

/-- A request to another than the store changes nothing of the news. -/
theorem accounts_aside {r : Request} {f : r.Answer → Program α} (aside : r.Aside)
    (rest : ∀ a, (f a).Accounts settled post news) :
    (Program.request r >>= f).Accounts settled post news := by
  refine ⟨aside.2, fun _ => aside.1, fun a => ?_⟩
  rw [StoreNews.next_of_not_asksStore aside.1]
  exact rest a

/-- One program for each of a list, none of which has to do with the store. -/
theorem accounts_mapM {f : β → Program α}
    (each : ∀ b, (f b).Accounts settled (fun _ news' => news' = news) news) (items : List β) :
    (items.mapM f).Accounts settled (fun _ news' => news' = news) news := by
  induction items with
  | nil => exact rfl
  | cons b rest inductionHypothesis =>
      rw [List.mapM_cons]
      refine accounts_bind ((each b).mono ?_)
      rintro a _ rfl
      exact accounts_bind (inductionHypothesis.mono fun _ _ same => same)

theorem accounts_checked {value : Except Fault β} {f : β → Program α} (sound : ¬ news.Failed)
    (rest : ∀ b, (f b).Accounts settled post news) :
    (checked value >>= f).Accounts settled post news := by
  cases value with
  | ok b => exact rest b
  | error fault => exact sound

/-! ### What a run shows -/

section Runs

variable {p : Program α} {xs : List Exchange} (accounts : p.Accounts settled post news)
include accounts

theorem Accounts.post_of_runs {a : α} (run : p.Runs xs (.ok a)) : post a (news.after xs) := by
  induction p generalizing xs news with
  | done b =>
      cases run
      exact accounts
  | halt fault => cases run
  | ask r next inductionHypothesis =>
      cases run with
      | ask goesOn =>
          rw [StoreNews.after_cons]
          exact inductionHypothesis _ (accounts.2.2 _) goesOn

theorem Accounts.not_failed_of_runs {fault : Fault} (run : p.Runs xs (.error fault)) :
    ¬ (news.after xs).Failed := by
  induction p generalizing xs news with
  | done b => cases run
  | halt fault =>
      cases run
      exact accounts
  | ask r next inductionHypothesis =>
      cases run with
      | ask goesOn =>
          rw [StoreNews.after_cons]
          exact inductionHypothesis _ (accounts.2.2 _) goesOn

variable {ending : Except Fault α} (run : p.Runs xs ending)
include run

theorem Accounts.not_reports : ∀ x ∈ xs, ¬ x.request.Reports := by
  induction p generalizing xs news with
  | done b =>
      cases run
      exact List.forall_mem_nil _
  | halt fault =>
      cases run
      exact List.forall_mem_nil _
  | ask r next inductionHypothesis =>
      cases run with
      | ask goesOn =>
          exact List.forall_mem_cons.2
            ⟨accounts.1, inductionHypothesis _ (accounts.2.2 _) goesOn⟩

/-- Once the store has told enough, it is asked for nothing more. -/
theorem Accounts.not_asksStore {before later : List Exchange} {x : Exchange}
    (split : xs = before ++ x :: later) (enough : settled (news.after before)) :
    ¬ x.request.AsksStore := by
  induction p generalizing xs news before with
  | done b =>
      cases run
      simp at split
  | halt fault =>
      cases run
      simp at split
  | ask r next inductionHypothesis =>
      cases run with
      | ask goesOn =>
          cases before with
          | nil =>
              cases split
              exact accounts.2.1 enough
          | cons y before =>
              cases split
              exact inductionHypothesis _ (accounts.2.2 _) goesOn rfl enough

/-- After an exchange that has told enough for good, the store is asked for nothing. -/
theorem Accounts.not_asksStore_after {before later : List Exchange} {x : Exchange}
    (split : xs = before ++ x :: later)
    (enough : ∀ ys, settled (((news.after before).next x.request x.answer).after ys)) :
    ∀ y ∈ later, ¬ y.request.AsksStore := by
  intro y member
  obtain ⟨between, rest, rfl⟩ := List.append_of_mem member
  have split' : xs = (before ++ x :: between) ++ y :: rest := by
    rw [split, List.append_assoc, List.cons_append]
  refine accounts.not_asksStore run split' ?_
  rw [StoreNews.after_append, StoreNews.after_cons]
  exact enough between

end Runs

end Program

/-! ## Work that accounts for the news -/

namespace Work

/-- Work accounts for the news of the store: it succeeds while nothing has failed, and fails with
the error of the first failure. -/
def Accounts (settled : StoreNews → Prop) (post : α → StoreNews → Prop) (w : Work α)
    (news : StoreNews) : Prop :=
  w.run.Accounts settled (fun
    | .ok a => fun news' => ¬ news'.Failed ∧ post a news'
    | .error error => fun news' => ∃ cause, error = .persistence cause ∧ news' = .failed cause) news

variable {post : α → StoreNews → Prop} {w : Work α}

theorem Accounts.mono {post' : α → StoreNews → Prop} (accounts : Accounts settled post w news)
    (weaker : ∀ a news, post a news → post' a news) : Accounts settled post' w news := by
  refine Program.Accounts.mono accounts fun result news' holds => ?_
  cases result with
  | ok a => exact ⟨holds.1, weaker a news' holds.2⟩
  | error error => exact holds

theorem accounts_bind {w : Work β} {f : β → Work α}
    (first : Accounts settled
      (fun b news' => ¬ news'.Failed → Accounts settled post (f b) news') w news) :
    Accounts settled post (w >>= f) news := by
  refine Program.accounts_bind (Program.Accounts.mono first fun result news' holds => ?_)
  cases result with
  | ok b => exact holds.2 holds.1
  | error error => exact holds

theorem accounts_pure {a : α} (sound : ¬ news.Failed) (holds : post a news) :
    Accounts settled post (pure a) news :=
  ⟨sound, holds⟩

theorem accounts_lift {p : Program β} {f : β → Work α}
    (first : p.Accounts settled (fun b => Accounts settled post (f b)) news) :
    Accounts settled post (liftM p >>= f) news :=
  Program.accounts_bind (Program.accounts_bind (Program.Accounts.mono first fun _ _ holds => holds))

theorem accounts_aside {r : Request} {f : r.Answer → Work α} (aside : r.Aside)
    (rest : ∀ a, Accounts settled post (f a) news) :
    Accounts settled post (liftM (Program.request r) >>= f) news :=
  accounts_lift (Program.accounts_aside aside rest)

theorem accounts_checked {value : Except Fault β} {f : β → Work α} (sound : ¬ news.Failed)
    (rest : ∀ b, Accounts settled post (f b) news) :
    Accounts settled post (Work.checked value >>= f) news := by
  cases value with
  | ok b => exact rest b
  | error fault => exact sound

section Store

variable (sound : ¬ news.Failed) (unsettled : ¬ settled news)
include sound unsettled

/-- A new incident is stored, or the store refuses it. -/
theorem accounts_create {i : Incident} {f : Unit → Work α}
    (rest : Accounts settled post (f ()) .written) :
    Accounts settled post (Work.create i >>= f) news := by
  refine Program.accounts_bind ⟨nofun, fun enough => absurd enough unsettled, fun a => ?_⟩
  cases a with
  | ok u =>
      rw [StoreNews.next_eq_written sound rfl rfl]
      exact rest
  | error error =>
      rw [StoreNews.next_eq_failed sound rfl]
      exact ⟨error, rfl, rfl⟩

/-- An incident is updated, or the store refuses it. -/
theorem accounts_update {i : Incident} {f : Unit → Work α}
    (rest : Accounts settled post (f ()) .written) :
    Accounts settled post (Work.update i >>= f) news := by
  refine Program.accounts_bind ⟨nofun, fun enough => absurd enough unsettled, fun a => ?_⟩
  cases a with
  | ok u =>
      rw [StoreNews.next_eq_written sound rfl rfl]
      exact rest
  | error error =>
      rw [StoreNews.next_eq_failed sound rfl]
      exact ⟨error, rfl, rfl⟩

/-- An incident is read or not found, or the store refuses to read. -/
theorem accounts_read? {id : String} {f : Option Incident → Work α}
    (rest : ∀ found, Accounts settled post (f found) news) :
    Accounts settled post (Work.read? id >>= f) news := by
  refine Program.accounts_bind ⟨nofun, fun enough => absurd enough unsettled, fun a => ?_⟩
  cases a with
  | ok i =>
      rw [StoreNews.next_eq_self rfl rfl]
      exact rest (some i)
  | error error =>
      cases error with
      | notFound other =>
          rw [StoreNews.next_eq_self rfl rfl]
          exact rest none
      | backend text =>
          rw [StoreNews.next_eq_failed sound rfl]
          exact ⟨.backend text, rfl, rfl⟩

/-- Pages are listed, or the store refuses to list one. -/
theorem accounts_listFrom (f : IncidentFilter) (p : Pagination) :
    Accounts settled (fun _ news' => news' = news) (Work.listFrom f p) news := by
  rw [Work.listFrom]
  refine Program.accounts_bind
    ⟨fun reports => reports.elim, fun enough => absurd enough unsettled, fun a => ?_⟩
  cases a with
  | error error =>
      rw [StoreNews.next_eq_failed sound rfl]
      exact ⟨error, rfl, rfl⟩
  | ok page =>
      rw [StoreNews.next_eq_self rfl rfl]
      show Accounts settled _ _ news
      dsimp only
      split
      · exact accounts_pure sound rfl
      · exact sound
      · rename_i next goesOn
        refine accounts_bind ((accounts_listFrom f next).mono ?_)
        rintro rest _ rfl _
        exact accounts_pure sound rfl
termination_by UInt64.size - p.page.toNat
decreasing_by
  exact Work.size_sub_nextPage_lt (by assumption)

end Store

/-- Taking and giving back a lock has nothing to do with the store. -/
theorem accounts_underLock {release : ReleaseKey} {work : Work α}
    (inside : Accounts settled post work news) :
    Accounts settled post (Work.underLock release work) news := by
  refine Program.accounts_aside ⟨nofun, nofun⟩ fun _ => ?_
  refine Program.accounts_bind (Program.Accounts.mono inside fun result news' holds => ?_)
  exact Program.accounts_aside ⟨nofun, nofun⟩ fun _ => holds

/-- Work fails exactly when a call of the store did, with the error of that call, and asks the store
for nothing afterwards. -/
theorem Accounts.fails_iff (accounts : Accounts settled post w .nothing)
    (settles : ∀ error, settled (.failed error)) {xs : List Exchange}
    {ending : Except Fault (Except EngineError α)} (run : w.run.Runs xs ending) :
    ((∃ error, ending = .ok (.error error)) ↔ ∃ x ∈ xs, x.failure?.isSome = true) ∧
    ∀ error, ending = .ok (.error error) → ∃ before x later cause, xs = before ++ x :: later ∧
      x.failure? = some cause ∧ error = .persistence cause ∧
      ∀ y ∈ later, ¬ y.request.AsksStore := by
  have told : ∀ error, ending = .ok (.error error) →
      ∃ cause, error = .persistence cause ∧ StoreNews.nothing.after xs = .failed cause := by
    rintro error rfl
    exact Program.Accounts.post_of_runs accounts run
  refine ⟨?_, fun error same => ?_⟩
  · rw [← StoreNews.failed_after_iff StoreNews.not_failed_nothing]
    constructor
    · rintro ⟨error, same⟩
      obtain ⟨cause, -, failed⟩ := told error same
      exact ⟨cause, failed⟩
    · intro failed
      cases ending with
      | error fault => exact absurd failed (Program.Accounts.not_failed_of_runs accounts run)
      | ok result =>
          cases result with
          | error error => exact ⟨error, rfl⟩
          | ok a => exact absurd failed (Program.Accounts.post_of_runs accounts run).1
  · obtain ⟨cause, rfl, failed⟩ := told error same
    obtain ⟨before, x, later, rfl, fails, sound⟩ :=
      StoreNews.exists_failure StoreNews.not_failed_nothing failed
    refine ⟨before, x, later, cause, rfl, fails, rfl,
      Program.Accounts.not_asksStore_after accounts run rfl fun ys => ?_⟩
    have failing : (StoreNews.nothing.after before).next x.request x.answer = .failed cause :=
      StoreNews.next_eq_failed sound fails
    rw [failing, StoreNews.after_failed]
    exact settles cause

end Work

end IncidentWatch
