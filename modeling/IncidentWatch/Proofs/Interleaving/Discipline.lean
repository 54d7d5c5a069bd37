import IncidentWatch.Proofs.Interleaving.System

/-!
# What operations promise each other

A discipline says what every operation may ask for and when, and what it may rely on
meanwhile: what the others do between two of its answers. An operation obeys the
discipline when its program, whatever the answers and whatever the others do within
the rely, asks only for what is allowed and ends as promised (`Discipline.Ensures`).

`Ensures` folds over the tree of requests, so a program is treated part by part: in
sequence (`ensures_andThen`), request by request (`ensures_request`), and with failures
kept apart where work can fail (`Discipline.Achieves`).
-/

set_option autoImplicit false

namespace IncidentWatch.Interleaving

/-- What the operations of a system promise each other. -/
structure Discipline where
  /-- Holds of every situation. -/
  inv : Situation → Prop
  /-- What others can do while an operation waits for its next answer. -/
  rely : Nat → Situation → Situation → Prop
  /-- What an operation may ask for. -/
  allowed : Nat → Situation → Request → Prop
  /-- What holds when an operation ends with an outcome. -/
  final : Operation → Outcome → Situation → Prop
  rely_refl : ∀ t s, rely t s s
  rely_trans : ∀ {t s s' s''}, rely t s s' → rely t s' s'' → rely t s s''
  final_of_rely : ∀ {t op outcome s s'}, rely t s s' → final op outcome s → final op outcome s'
  start : inv {}
  /-- Whoever asks for a lock holds none. -/
  lock_alone : ∀ {t s release}, allowed t s (.lock release) → held t s.history = none
  inv_answered : ∀ {t s r c a store}, inv s → allowed t s r →
    serve c s.store r = some (a, store) → inv (s.answered t r a store)
  inv_note : ∀ {t s what}, inv s →
    (∀ op outcome, what = .ended op outcome → final op outcome s) → inv (s.note t what)
  /-- What one is allowed, the others can rely on, as long as they hold other locks. -/
  rely_answered : ∀ {t u s r c a store}, u ≠ t → inv s → allowed t s r →
    (∀ release, held t s.history = some release → held u s.history ≠ some release) →
    serve c s.store r = some (a, store) → rely u s (s.answered t r a store)
  rely_note : ∀ {t u s what}, u ≠ t → rely u s (s.note t what)

namespace Discipline

variable {D : Discipline} {t : Nat} {α β : Type} {s s' : Situation}

/-! ## Programs -/

/-- From a situation that is as it should be, a program asks only for what is allowed, and if it
ends, then as it should. -/
def Ensures (D : Discipline) (t : Nat) {α : Type} (p : Program α) (post : α → Situation → Prop)
    (s : Situation) : Prop :=
  D.inv s → match p with
    | .done a => post a s
    | .halt _ => True
    | .ask r next => ∀ s', D.rely t s s' → D.inv s' → D.allowed t s' r ∧
        ∀ c a store, serve c s'.store r = some (a, store) →
          Ensures D t (next a) post (s'.answered t r a store)

theorem ensures_of_inv {p : Program α} {post : α → Situation → Prop}
    (ensures : D.inv s → D.Ensures t p post s) : D.Ensures t p post s := by
  cases p with
  | done a => exact fun inv => ensures inv inv
  | halt fault => exact fun _ => trivial
  | ask r next => exact fun inv => ensures inv inv

theorem Ensures.mono {p : Program α} {post post' : α → Situation → Prop}
    (ensures : D.Ensures t p post s)
    (weaker : ∀ a s', D.inv s' → post a s' → post' a s') : D.Ensures t p post' s := by
  induction p generalizing s with
  | done a => exact fun inv => weaker a s inv (ensures inv)
  | halt fault => exact fun _ => trivial
  | ask r next inductionHypothesis =>
      intro inv s' meanwhile inv'
      obtain ⟨allowed, goesOn⟩ := ensures inv s' meanwhile inv'
      exact ⟨allowed, fun c a store served => inductionHypothesis a (goesOn c a store served)⟩

/-- What a program ensures it also ensures after others have done something. -/
theorem Ensures.of_rely {p : Program α} {post : α → Situation → Prop}
    (ensures : D.Ensures t p post s) (inv : D.inv s) (meanwhile : D.rely t s s')
    (stable : ∀ a, post a s → post a s') : D.Ensures t p post s' := by
  cases p with
  | done a => exact fun _ => stable a (ensures inv)
  | halt fault => exact fun _ => trivial
  | ask r next => exact fun _ s'' later => ensures inv s'' (D.rely_trans meanwhile later)

/-- One program after another. -/
theorem ensures_andThen {p : Program α} {f : α → Program β} {post : β → Situation → Prop}
    (first : D.Ensures t p (fun a => D.Ensures t (f a) post) s) :
    D.Ensures t (p.andThen f) post s := by
  induction p generalizing s with
  | done a => exact ensures_of_inv first
  | halt fault => exact fun _ => trivial
  | ask r next inductionHypothesis =>
      intro inv s' meanwhile inv'
      obtain ⟨allowed, goesOn⟩ := first inv s' meanwhile inv'
      exact ⟨allowed, fun c a store served => inductionHypothesis a (goesOn c a store served)⟩

theorem ensures_bind {p : Program α} {f : α → Program β} {post : β → Situation → Prop}
    (first : D.Ensures t p (fun a => D.Ensures t (f a) post) s) :
    D.Ensures t (p >>= f) post s :=
  ensures_andThen first

theorem ensures_pure {a : α} {post : α → Situation → Prop} (holds : post a s) :
    D.Ensures t (pure a) post s :=
  fun _ => holds

/-- A request is allowed at every moment until it is answered, and every answer will do. -/
theorem ensures_request {r : Request} {post : r.Answer → Situation → Prop}
    (asked : ∀ s', D.rely t s s' → D.inv s' → D.allowed t s' r ∧
      ∀ c a store, serve c s'.store r = some (a, store) → post a (s'.answered t r a store)) :
    D.Ensures t (Program.request r) post s := by
  intro _ s' meanwhile inv'
  obtain ⟨allowed, answered⟩ := asked s' meanwhile inv'
  exact ⟨allowed, fun c a store served _ => answered c a store served⟩

theorem ensures_checked {value : Except Fault α} {post : α → Situation → Prop}
    (holds : ∀ a, value = .ok a → post a s) : D.Ensures t (Program.checked value) post s := by
  cases value with
  | ok a => exact fun _ => holds a rfl
  | error fault => exact fun _ => trivial

/-! ## Work that can fail -/

/-- Work asks only for what is allowed; where it succeeds one thing holds, where it fails
another. -/
def Achieves (D : Discipline) (t : Nat) {α : Type} (w : Work α) (post : α → Situation → Prop)
    (failed : Situation → Prop) (s : Situation) : Prop :=
  D.Ensures t w.run (fun
    | .ok a => post a
    | .error _ => failed) s

variable {failed : Situation → Prop}

theorem Achieves.mono {w : Work α} {post post' : α → Situation → Prop}
    {failed' : Situation → Prop} (achieves : D.Achieves t w post failed s)
    (weaker : ∀ a s', D.inv s' → post a s' → post' a s')
    (weakerFailed : ∀ s', failed s' → failed' s') : D.Achieves t w post' failed' s := by
  refine Ensures.mono achieves fun result s' inv holds => ?_
  cases result with
  | ok a => exact weaker a s' inv holds
  | error error => exact weakerFailed s' holds

theorem achieves_bind {w : Work α} {f : α → Work β} {post : β → Situation → Prop}
    (first : D.Achieves t w (fun a => D.Achieves t (f a) post failed) failed s) :
    D.Achieves t (w >>= f) post failed s := by
  refine ensures_andThen (Ensures.mono first fun result s' _ holds => ?_)
  cases result with
  | ok a => exact holds
  | error error => exact fun _ => holds

theorem achieves_pure {a : α} {post : α → Situation → Prop} (holds : post a s) :
    D.Achieves t (pure a : Work α) post failed s :=
  fun _ => holds

theorem achieves_throw {error : EngineError} {post : α → Situation → Prop} (holds : failed s) :
    D.Achieves t (throw error : Work α) post failed s :=
  fun _ => holds

/-- A program that cannot fail. -/
theorem achieves_lift {p : Program α} {post : α → Situation → Prop}
    (ensures : D.Ensures t p post s) : D.Achieves t (liftM p : Work α) post failed s :=
  ensures_andThen (Ensures.mono ensures fun _ _ _ holds => fun _ => holds)

/-- Arithmetic that has no value stops the operation. -/
theorem achieves_checked {value : Except Fault α} {post : α → Situation → Prop}
    (holds : ∀ a, value = .ok a → post a s) : D.Achieves t (Work.checked value) post failed s :=
  achieves_lift (ensures_checked holds)

/-- A store that is asked answers with a value or fails. -/
theorem achieves_ofStore {p : Program (Except StoreError α)}
    {post : α → Situation → Prop}
    (ensures : D.Ensures t p (fun
      | .ok a => post a
      | .error _ => failed) s) : D.Achieves t (Work.ofStore p) post failed s := by
  refine ensures_andThen (Ensures.mono ensures fun result s' _ holds => ?_)
  cases result with
  | ok a => exact fun _ => holds
  | error error => exact fun _ => holds

end Discipline

end IncidentWatch.Interleaving
