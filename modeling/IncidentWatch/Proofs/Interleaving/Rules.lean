import IncidentWatch.Proofs.Interleaving.Custody
import IncidentWatch.Proofs.Store.Paging

/-!
# Rules for the parts of the engine's work

One rule for each part that programs are made of: quiet programs, which neither ask
the store nor touch a lock, deliveries, work under a lock, reading, updating and
creating an incident in custody, and going through the pages of a listing, inside a
lock and outside.

An incident is in hand (`InHand`) when it is in custody and was last read or written
as it is stored. Reading takes it in hand, and an update leaves it so.
-/

set_option autoImplicit false

namespace IncidentWatch

/-- Requests that neither ask the store, nor touch a lock, nor deliver an alert. -/
def Request.Quiet : Request → Prop
  | .pruneLocks => True
  | .owner _ _ => True
  | .rollout _ _ _ => True
  | .log _ => True
  | .measure _ => True
  | .succeeded _ => True
  | .failed _ _ => True
  | .health => True
  | .freshId => True
  | _ => False

instance : LawfulMonad Program :=
  LawfulMonad.mk' Program Program.andThen_done (fun _ _ => rfl) Program.andThen_assoc

/-- A program that asks only quietly; if it ends, then in a value of the kind. -/
def Program.Quiet {α : Type} (kind : α → Prop) : Program α → Prop
  | .done a => kind a
  | .halt _ => True
  | .ask r next => r.Quiet ∧ ∀ a, (next a).Quiet kind

namespace Program.Quiet

variable {α β : Type} {kind : α → Prop} {kind' : β → Prop}

theorem bind {p : Program α} {f : α → Program β} (first : p.Quiet kind)
    (rest : ∀ a, kind a → (f a).Quiet kind') : (p >>= f).Quiet kind' := by
  show (p.andThen f).Quiet kind'
  induction p with
  | done a => exact rest a first
  | halt fault => trivial
  | ask r next inductionHypothesis =>
      exact ⟨first.1, fun a => inductionHypothesis a (first.2 a)⟩

theorem mono {kind' : α → Prop} {p : Program α} (quiet : p.Quiet kind)
    (weaker : ∀ a, kind a → kind' a) : p.Quiet kind' := by
  induction p with
  | done a => exact weaker a quiet
  | halt fault => trivial
  | ask r next inductionHypothesis =>
      exact ⟨quiet.1, fun a => inductionHypothesis a (quiet.2 a)⟩

theorem request {r : Request} (quiet : r.Quiet) : (Program.request r).Quiet fun _ => True :=
  ⟨quiet, fun _ => trivial⟩

theorem checked (value : Except Fault α) : (Program.checked value).Quiet fun _ => True := by
  cases value with
  | ok a => trivial
  | error fault => trivial

/-- Quiet for each of a list, one after the other. -/
theorem mapM {f : β → Program α} (each : ∀ b, (f b).Quiet kind) (items : List β) :
    (items.mapM f).Quiet fun values => values.length = items.length := by
  induction items with
  | nil => exact (rfl : ([] : List α).length = 0)
  | cons b rest inductionHypothesis =>
      rw [List.mapM_cons]
      refine (each b).bind fun a _ => inductionHypothesis.bind fun values length => ?_
      show (a :: values).length = (b :: rest).length
      rw [List.length_cons, List.length_cons, length]

end Program.Quiet

namespace Interleaving

open Discipline

variable {e : Engine} {t : Nat} {α : Type} {s s' : Situation} {i j old : Incident}
  {release : ReleaseKey} {failed : Situation → Prop}

/-! ## Quiet programs and deliveries -/

theorem meanwhile_of_quiet {c : Collaborators} {r : Request} {a : r.Answer} {store : Store}
    (quiet : r.Quiet) (served : serve c s.store r = some (a, store)) :
    Meanwhile t s (s.answered t r a store) := by
  have same : store = s.store := by
    rcases serve_cases served with same | ⟨i, rfl, -⟩ | ⟨i, rfl, -⟩
    · exact same
    · exact quiet.elim
    · exact quiet.elim
  subst same
  refine ⟨held_answered.trans ?_, seen_answered.trans ?_, .refl _, fun _ _ => rfl⟩
  · cases r <;> first | rfl | exact quiet.elim
  · cases r <;> first | rfl | exact quiet.elim

theorem allowed_of_quiet {r : Request} (quiet : r.Quiet) : Allowed t s r := by
  cases r <;> trivial

/-- While a program asks quietly, nothing happens but what the others do. -/
theorem ensures_of_quiet {p : Program α} {kind : α → Prop} {post : α → Situation → Prop}
    (quiet : p.Quiet kind) (holds : ∀ a s', kind a → Meanwhile t s s' → post a s') :
    (custody e).Ensures t p post s := by
  induction p generalizing s with
  | done a => exact fun _ => holds a s quiet (.refl t s)
  | halt fault => exact fun _ => trivial
  | ask r next inductionHypothesis =>
      intro _ s' meanwhile _
      refine ⟨allowed_of_quiet quiet.1, fun c a store served => ?_⟩
      refine inductionHypothesis a (quiet.2 a) fun b s'' is later => holds b s'' is ?_
      exact (meanwhile.trans (meanwhile_of_quiet quiet.1 served)).trans later

theorem ensures_quietly {β : Type} {p : Program α} {f : α → Program β} {kind : α → Prop}
    {post : β → Situation → Prop} (quiet : p.Quiet kind)
    (rest : ∀ a s', kind a → Meanwhile t s s' → (custody e).Ensures t (f a) post s') :
    (custody e).Ensures t (p >>= f) post s :=
  ensures_bind (ensures_of_quiet quiet rest)

/-- Work that asks quietly at first. -/
theorem achieves_quietly {β : Type} {p : Program α} {f : α → Work β} {kind : α → Prop}
    {post : β → Situation → Prop} (quiet : p.Quiet kind)
    (rest : ∀ a s', kind a → Meanwhile t s s' → (custody e).Achieves t (f a) post failed s') :
    (custody e).Achieves t (liftM p >>= f) post failed s :=
  achieves_bind (achieves_lift (ensures_of_quiet quiet rest))

theorem ensures_deliver {kind : AlertKind} {view : IncidentView}
    {post : Except String Unit → Situation → Prop} (alone : held t s.history = none)
    (holds : ∀ a s', Meanwhile t s s' → post a s') :
    (custody e).Ensures t (Program.request (.deliver kind view)) post s := by
  refine ensures_request fun s' meanwhile _ => ⟨meanwhile.held.trans alone, ?_⟩
  intro c a store served
  cases served
  refine holds _ _ (meanwhile.trans ⟨held_answered, ?_, .refl _, fun _ _ => rfl⟩)
  exact seen_answered

/-- Whatever a program asks for, the store only grows. -/
theorem ensures_growing {p : Program α} {post : α → Situation → Prop} {base : Store}
    (ensures : (custody e).Ensures t p post s) (grows : base.Evolves s.store) :
    (custody e).Ensures t p (fun a s' => post a s' ∧ base.Evolves s'.store) s := by
  induction p generalizing s with
  | done a => exact fun inv => ⟨ensures inv, grows⟩
  | halt fault => exact fun _ => trivial
  | ask r next inductionHypothesis =>
      intro inv s₁ meanwhile inv₁
      obtain ⟨allowed, goesOn⟩ := ensures inv s₁ meanwhile inv₁
      refine ⟨allowed, fun c a store served => inductionHypothesis a (goesOn c a store served) ?_⟩
      exact (grows.trans meanwhile.grows).trans (grows_of_allowed allowed served)

/-! ## Work under a lock -/

/-- Work under a lock leaves no lock held; what it leaves in the store stays. -/
theorem achieves_underLock {work : Work α} (post : α → Store → Prop)
    (stays : ∀ {a store store'}, post a store → store.Evolves store' → post a store')
    (alone : held t s.history = none)
    (inside : ∀ s', held t s'.history = some release → s.store.Evolves s'.store →
      (custody e).Achieves t work
        (fun a s'' => held t s''.history = some release ∧ post a s''.store)
        (fun s'' => held t s''.history = some release) s') :
    (custody e).Achieves t (Work.underLock release work)
      (fun a s' => held t s'.history = none ∧ post a s'.store)
      (fun s' => held t s'.history = none) s := by
  refine ensures_bind (ensures_request fun s₁ before _ => ⟨before.held.trans alone, ?_⟩)
  intro c a store served
  cases served
  refine ensures_bind (Ensures.mono (inside _ held_answered before.grows) ?_)
  intro result s₂ _ left
  have locked : held t s₂.history = some release := by
    cases result with
    | ok a => exact left.1
    | error error => exact left
  refine ensures_bind (ensures_request fun s₃ after _ => ⟨after.held.trans locked, ?_⟩)
  intro c' a' store' served'
  cases served'
  refine ensures_pure ?_
  cases result with
  | ok a => exact ⟨held_answered, stays left.2 after.grows⟩
  | error error => exact held_answered

/-! ## Incidents in hand -/

/-- An incident in custody that was last read or written as it is stored. -/
structure InHand (t : Nat) (s : Situation) (i : Incident) : Prop where
  locked : held t s.history = some i.releaseKey
  known : lastKnown t i.id s.history = some i
  stored : s.store.get? i.id = some i

theorem InHand.meanwhile (inHand : InHand t s i) (meanwhile : Meanwhile t s s') :
    InHand t s' i where
  locked := meanwhile.held.trans inHand.locked
  known := by
    unfold lastKnown
    rw [meanwhile.seen]
    exact inHand.known
  stored := meanwhile.get? inHand.locked inHand.stored

/-- What is in hand stays so when more is shown as it is stored. -/
theorem InHand.shown {r : Request} {a : r.Answer} {items : List Incident}
    (inHand : InHand t s i) (keeps : heldAfter (held t s.history) r = held t s.history)
    (shows : seenAfter (seen t s.history) r a = items ++ seen t s.history)
    (fresh : ∀ j ∈ items, s.store.get? j.id = some j) : InHand t (s.answered t r a s.store) i where
  locked := held_answered.trans (keeps.trans inHand.locked)
  known := by
    have before : (seen t s.history).find? (·.id = i.id) = some i := inHand.known
    show (seen t (⟨t, .answered r a⟩ :: s.history)).find? (·.id = i.id) = some i
    rw [seen_answered, shows, List.find?_append, before]
    cases found : items.find? (·.id = i.id) with
    | none => rfl
    | some j =>
        have same : j.id = i.id := by simpa using List.find?_some found
        have stored := fresh j (List.mem_of_find?_eq_some found)
        rw [same, inHand.stored] at stored
        exact stored.symm
  stored := inHand.stored

/-- What is shown is in hand. -/
theorem inHand_of_shown {r : Request} {a : r.Answer} {items : List Incident}
    (locked : held t s.history = some release)
    (keeps : heldAfter (held t s.history) r = held t s.history)
    (shows : seenAfter (seen t s.history) r a = items ++ seen t s.history)
    (fresh : ∀ j ∈ items, s.store.get? j.id = some j)
    (member : i ∈ items) (here : i.releaseKey = release) :
    InHand t (s.answered t r a s.store) i where
  locked := held_answered.trans (keeps.trans (here ▸ locked))
  known := by
    show (seen t (⟨t, .answered r a⟩ :: s.history)).find? (·.id = i.id) = some i
    obtain ⟨j, found⟩ : ∃ j, items.find? (·.id = i.id) = some j := by
      rw [← Option.isSome_iff_exists, List.find?_isSome]
      exact ⟨i, member, by simp⟩
    have same : j.id = i.id := by simpa using List.find?_some found
    have stored := fresh j (List.mem_of_find?_eq_some found)
    rw [same, fresh i member] at stored
    cases stored
    rw [seen_answered, shows, List.find?_append, found]
    rfl
  stored := fresh i member

/-! ## Asking the store -/

section Serve

variable {c : Collaborators} {before after : Store}

theorem serve_read {id : String} {a : Except StoreError Incident}
    (served : serve c before (.read id) = some (a, after)) :
    after = before ∧ ∀ i, a = .ok i → before.get? id = some i := by
  simp only [serve] at served
  split at served
  · cases served
    exact ⟨rfl, fun _ same => nomatch same⟩
  · cases served
    exact ⟨rfl, fun i found => Store.read_eq_ok_iff.1 found⟩

theorem serve_list {f : IncidentFilter} {p : Pagination} {a : Except StoreError (Page Incident)}
    (served : serve c before (.list f p) = some (a, after)) :
    after = before ∧ ∀ page, a = .ok page → Page.ofList (before.matching f) p = .ok page := by
  simp only [serve] at served
  split at served
  · cases served
    exact ⟨rfl, fun _ same => nomatch same⟩
  · split at served
    · rename_i page found
      cases served
      refine ⟨rfl, fun page' same => ?_⟩
      cases same
      exact found
    · cases served

/-- An incident is created, or the store is left as it is and says why. -/
theorem serve_create {a : Except StoreError Unit}
    (served : serve c before (.create i) = some (a, after)) :
    (a = .ok () ∧ before.create i = .ok after) ∨ ∃ error, a = .error error ∧ after = before := by
  simp only [serve] at served
  split at served
  · cases served
    exact Or.inr ⟨_, rfl, rfl⟩
  · split at served
    · rename_i created
      cases served
      exact Or.inl ⟨rfl, created⟩
    · cases served
      exact Or.inr ⟨_, rfl, rfl⟩

/-- An incident is updated, or the store is left as it is and says why. -/
theorem serve_update {a : Except StoreError Unit}
    (served : serve c before (.update i) = some (a, after)) :
    (a = .ok () ∧ before.update i = .ok after) ∨ ∃ error, a = .error error ∧ after = before := by
  simp only [serve] at served
  split at served
  · cases served
    exact Or.inr ⟨_, rfl, rfl⟩
  · split at served
    · rename_i updated
      cases served
      exact Or.inl ⟨rfl, updated⟩
    · cases served
      exact Or.inr ⟨_, rfl, rfl⟩

end Serve

/-- Reading takes the stored record in hand. -/
theorem achieves_read? (carries : s.store.Carries i)
    (locked : held t s.history = some i.releaseKey) :
    (custody e).Achieves t (Work.read? i.id)
      (fun found s' => held t s'.history = some i.releaseKey ∧
        ∀ j, found = some j → i.Evolves j ∧ InHand t s' j)
      (fun s' => held t s'.history = some i.releaseKey) s := by
  refine ensures_bind (ensures_request fun s₁ before _ => ⟨trivial, fun c a store served => ?_⟩)
  obtain ⟨rfl, found⟩ := serve_read served
  have still : held t s₁.history = some i.releaseKey := before.held.trans locked
  have after : held t (s₁.answered t (.read i.id) a s₁.store).history = some i.releaseKey :=
    held_answered.trans still
  cases a with
  | ok j =>
      obtain ⟨j', stored, evolves⟩ := carries.of_evolves before.grows
      have same := found j rfl
      rw [stored] at same
      cases same
      refine ensures_pure ⟨after, fun k here => ?_⟩
      cases here
      have shows : seenAfter (seen t s₁.history) (.read i.id) (.ok j) =
          [j] ++ seen t s₁.history := rfl
      refine ⟨evolves, inHand_of_shown still rfl shows ?_ List.mem_cons_self evolves.releaseKey⟩
      intro k member
      rw [List.mem_singleton.1 member, evolves.id]
      exact stored
  | error error =>
      cases error with
      | notFound id => exact ensures_pure ⟨after, fun _ nothing => nomatch nothing⟩
      | backend text => exact ensures_pure after

/-- An update from what is in hand leaves the new record in hand. -/
theorem achieves_update (inHand : InHand t s old) (evolves : old.Evolves i) (sound : i.Sound) :
    (custody e).Achieves t (Work.update i) (fun _ s' => InHand t s' i)
      (fun s' => held t s'.history = some old.releaseKey) s := by
  refine achieves_ofStore (ensures_request fun s₁ before _ => ?_)
  have still := inHand.meanwhile before
  have known : lastKnown t i.id s₁.history = some old := evolves.id ▸ still.known
  have stored : s₁.store.get? i.id = some old := evolves.id ▸ still.stored
  refine ⟨⟨old, still.locked, known, stored, evolves, sound⟩, fun c a store served => ?_⟩
  rcases serve_update served with ⟨rfl, updated⟩ | ⟨error, rfl, rfl⟩
  · refine ⟨?_, ?_, Store.get?_of_mem (Store.mem_of_update updated)⟩
    · exact held_answered.trans (still.locked.trans (congrArg some evolves.releaseKey.symm))
    · show (seen t (⟨t, .answered (.update i) (.ok ())⟩ :: s₁.history)).find? (·.id = i.id) = some i
      rw [seen_answered]
      exact List.find?_cons_of_pos (by simp)
  · exact held_answered.trans still.locked

/-- Creating an incident in custody, when no active one has its cause. -/
theorem achieves_create (locked : held t s.history = some i.releaseKey) (sound : i.Sound)
    (lacks : s.store.Lacks i) :
    (custody e).Achieves t (Work.create i)
      (fun _ s' => held t s'.history = some i.releaseKey ∧ s'.store.get? i.id = some i)
      (fun s' => held t s'.history = some i.releaseKey) s := by
  refine achieves_ofStore (ensures_request fun s₁ before _ => ?_)
  have still : held t s₁.history = some i.releaseKey := before.held.trans locked
  have lacks' : s₁.store.Lacks i := by
    unfold Store.Lacks
    rw [before.shelf _ locked]
    exact lacks
  refine ⟨⟨still, sound, lacks'⟩, fun c a store served => ?_⟩
  rcases serve_create served with ⟨rfl, created⟩ | ⟨error, rfl, rfl⟩
  · exact ⟨held_answered.trans still, Store.get?_of_mem (Store.mem_of_create created)⟩
  · exact held_answered.trans still

/-! ## Listings -/

section Listing

variable {f : IncidentFilter} (J : Pagination → List Incident → Situation → Prop)
  (post : List Incident → Situation → Prop)

/-- Going through the pages of a listing, with what holds before each page and the items of the
pages before it. -/
theorem achieves_listFrom
    (stable : ∀ {p items s s'}, J p items s → Meanwhile t s s' → J p items s')
    (next : ∀ {p q items s page}, J p items s →
      Page.ofList (s.store.matching f) p = .ok page → Work.nextPage? page p = some (.ok q) →
      J q (items ++ page.items) (s.answered t (.list f p) (.ok page) s.store))
    (last : ∀ {p items s page}, J p items s →
      Page.ofList (s.store.matching f) p = .ok page → Work.nextPage? page p = none →
      post (items ++ page.items) (s.answered t (.list f p) (.ok page) s.store))
    (broken : ∀ {p items s error}, J p items s →
      failed (s.answered t (.list f p) (.error error) s.store))
    {p : Pagination} {items : List Incident} {s : Situation} (start : J p items s) :
    (custody e).Achieves t (Work.listFrom f p) (fun found => post (items ++ found)) failed s := by
  rw [Work.listFrom]
  refine achieves_bind (achieves_ofStore (ensures_request fun s₁ before _ => ⟨trivial, ?_⟩))
  intro c a store served
  obtain ⟨rfl, found⟩ := serve_list served
  have here := stable start before
  cases a with
  | error error => exact broken here
  | ok page =>
      have shown := found page rfl
      dsimp only
      split
      · rename_i lastPage
        exact achieves_pure (last here shown lastPage)
      · exact achieves_lift fun _ => trivial
      · rename_i q goesOn
        refine achieves_bind (Achieves.mono
          (achieves_listFrom stable next last broken (next here shown goesOn)) ?_
          fun _ left => left)
        intro rest s₂ _ holds
        refine achieves_pure ?_
        rw [← List.append_assoc]
        exact holds
termination_by UInt64.size - p.page.toNat
decreasing_by
  exact Work.size_sub_nextPage_lt (by assumption)

end Listing

/-- The active incidents of a release. -/
def activeOf (store : Store) (release : ReleaseKey) : List Incident :=
  (store.shelf release).filter (·.isActive)

/-- In custody, a listing finds all active incidents of the release and takes them in hand. -/
theorem achieves_listAll_activeFor {pageSize : UInt64}
    (locked : held t s.history = some release) :
    (custody e).Achieves t (Work.listAll (.activeFor release) pageSize)
      (fun items s' => held t s'.history = some release ∧ items = activeOf s'.store release ∧
        ∀ i ∈ items, InHand t s' i)
      (fun s' => held t s'.history = some release) s := by
  let J : Pagination → List Incident → Situation → Prop := fun p items s =>
    held t s.history = some release ∧ 0 < p.pageSize.toNat ∧
      items ++ (activeOf s.store release).drop p.place = activeOf s.store release ∧
        ∀ i ∈ items, InHand t s i
  -- A page shows incidents of the release, and leaves in hand what already was.
  have inHand : ∀ {p items s page}, J p items s →
      Page.ofList (s.store.matching (.activeFor release)) p = .ok page →
      ∀ i ∈ items ++ page.items,
        InHand t (s.answered t (.list (.activeFor release) p) (.ok page) s.store) i := by
    intro p items s page holds shown i member
    have listed : ∀ j ∈ page.items, j ∈ s.store.shelf release := by
      intro j memberJ
      have matched := Page.mem_of_mem_ofList shown memberJ
      rw [Store.matching_activeFor] at matched
      exact List.mem_of_mem_filter matched
    have fresh : ∀ j ∈ page.items, s.store.get? j.id = some j := fun j memberJ =>
      Store.get?_of_mem (Store.mem_shelf.1 (listed j memberJ)).1
    rcases List.mem_append.1 member with earlier | new
    · exact (holds.2.2.2 i earlier).shown rfl rfl fresh
    · exact inHand_of_shown holds.1 rfl rfl fresh new (Store.mem_shelf.1 (listed i new)).2
  have start : J (.first pageSize) [] s := by
    refine ⟨locked, Pagination.pageSize_first_pos pageSize, ?_, fun _ member => nomatch member⟩
    rw [Pagination.place_first]
    rfl
  refine achieves_listFrom J (fun items s' => held t s'.history = some release ∧
    items = activeOf s'.store release ∧ ∀ i ∈ items, InHand t s' i) ?_ ?_ ?_ ?_ start
  · intro p items s s' holds meanwhile
    have same : activeOf s'.store release = activeOf s.store release := by
      unfold activeOf
      rw [meanwhile.shelf release holds.1]
    exact ⟨meanwhile.held.trans holds.1, holds.2.1, same ▸ holds.2.2.1,
      fun i member => (holds.2.2.2 i member).meanwhile meanwhile⟩
  · intro p q items s page holds shown goesOn
    refine ⟨held_answered.trans holds.1, ?_, ?_, inHand holds shown⟩
    · rw [Work.pageSize_of_nextPage shown goesOn]
      exact holds.2.1
    · have pages := holds.2.2.1
      rw [Store.matching_activeFor] at shown
      rw [activeOf, Work.drop_place_of_next shown goesOn, ← List.append_assoc] at pages
      exact pages
  · intro p items s page holds shown lastPage
    refine ⟨held_answered.trans holds.1, ?_, inHand holds shown⟩
    have pages := holds.2.2.1
    rw [Store.matching_activeFor] at shown
    rw [activeOf, Work.drop_place_of_last shown holds.2.1 lastPage] at pages
    exact pages
  · intro p items s error holds
    exact held_answered.trans holds.1

/-- Without a lock, what was listed may have changed since, but only as incidents evolve. -/
theorem achieves_listAll {f : IncidentFilter} {pageSize : UInt64}
    (alone : held t s.history = none) :
    (custody e).Achieves t (Work.listAll f pageSize)
      (fun items s' => held t s'.history = none ∧ ∀ i ∈ items, s'.store.Carries i)
      (fun s' => held t s'.history = none) s := by
  let J : Pagination → List Incident → Situation → Prop := fun _ items s =>
    held t s.history = none ∧ ∀ i ∈ items, s.store.Carries i
  have carries : ∀ {p items s page}, J p items s →
      Page.ofList (s.store.matching f) p = .ok page →
      ∀ i ∈ items ++ page.items, s.store.Carries i := by
    intro p items s page holds shown i member
    rcases List.mem_append.1 member with earlier | new
    · exact holds.2 i earlier
    · have matched := Page.mem_of_mem_ofList shown new
      exact Store.carries_of_get? (Store.get?_of_mem (List.mem_of_mem_filter matched))
  have start : J (.first pageSize) [] s := ⟨alone, fun _ member => nomatch member⟩
  refine achieves_listFrom J
    (fun items s' => held t s'.history = none ∧ ∀ i ∈ items, s'.store.Carries i) ?_ ?_ ?_ ?_ start
  · intro p items s s' holds meanwhile
    exact ⟨meanwhile.held.trans holds.1,
      fun i member => (holds.2 i member).of_evolves meanwhile.grows⟩
  · intro p q items s page holds shown _
    have after := carries holds shown
    exact ⟨held_answered.trans holds.1, after⟩
  · intro p items s page holds shown _
    have after := carries holds shown
    exact ⟨held_answered.trans holds.1, after⟩
  · intro p items s error holds
    exact held_answered.trans holds.1

end Interleaving

end IncidentWatch
