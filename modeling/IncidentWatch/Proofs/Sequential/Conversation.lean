import IncidentWatch.Proofs.Failure.Transcript
import IncidentWatch.Proofs.Sequential.Undisturbed

/-!
# Conversations

A program that runs with nobody else writing to the store holds a conversation: it asks,
and is answered by the store or by a collaborator, who says what it likes. The store may
refuse any request, and arithmetic may meet a fault. What was asked and answered, what it
came to and the store at the end are a function of the collaborators (`converse`), which
always has a value; a fault is a conversation without a result.

The rules of this module say where a conversation leads (`Leads`), whatever the
collaborators say: one for programs in sequence, one for each kind of request, one for
listings. An assertion speaks of the whole conversation, so after a first part it is asserted
of what follows together with the exchanges before (`Conversation.after`).
-/

set_option autoImplicit false

namespace IncidentWatch.Sequential

open Interleaving

/-! ## Conversations -/

/-- What was asked and answered, what it came to, if to anything, and the store then. -/
structure Conversation (α : Type) where
  exchanges : List Exchange
  result : Option α
  store : Store

variable {α β : Type}

/-- A conversation with some exchanges before it. -/
def Conversation.after (talk : Conversation α) (xs : List Exchange) : Conversation α :=
  { talk with exchanges := xs ++ talk.exchanges }

namespace Conversation

variable (talk : Conversation α) (xs ys : List Exchange)

@[simp] theorem exchanges_after : (talk.after xs).exchanges = xs ++ talk.exchanges := rfl
@[simp] theorem result_after : (talk.after xs).result = talk.result := rfl
@[simp] theorem store_after : (talk.after xs).store = talk.store := rfl

theorem after_after : (talk.after ys).after xs = talk.after (xs ++ ys) := by
  simp [after]

theorem after_of_nil (result : Option α) (s : Store) :
    (⟨[], result, s⟩ : Conversation α).after xs = ⟨xs, result, s⟩ := by
  simp [after]

end Conversation

/-- The conversation of a program from the request of a number on. -/
def converse (c : Nat → Collaborators) : Program α → Nat → Store → Conversation α
  | .done a, _, s => ⟨[], some a, s⟩
  | .halt _, _, s => ⟨[], none, s⟩
  | .ask r next, n, s =>
    match serve (c n) s r with
    | none => ⟨[], none, s⟩
    | some (a, s') => (converse c (next a) (n + 1) s').after [⟨r, a⟩]

/-- Whatever the number of its first request, the conversation of a program leads to this. -/
def Leads (c : Nat → Collaborators) (p : Program α) (s : Store)
    (post : Conversation α → Prop) : Prop :=
  ∀ n, post (converse c p n s)

variable {c : Nat → Collaborators} {s : Store} {xs ys : List Exchange}

/-! ## Programs -/

section Programs

variable {p : Program α} {f : α → Program β} {mid : Conversation α → Prop}
  {post : Conversation β → Prop}

/-- A conversation goes on where that of the first program has come to a value. -/
theorem converse_andThen (p : Program α) (f : α → Program β) (n : Nat) (s : Store) :
    converse c (p.andThen f) n s =
      match (converse c p n s).result with
      | none => ⟨(converse c p n s).exchanges, none, (converse c p n s).store⟩
      | some a =>
        (converse c (f a) (n + (converse c p n s).exchanges.length) (converse c p n s).store).after
          (converse c p n s).exchanges := by
  induction p generalizing n s with
  | done a => rfl
  | halt fault => rfl
  | ask r next inductionHypothesis =>
      simp only [Program.andThen, converse]
      cases serve (c n) s r with
      | none => rfl
      | some answered =>
          obtain ⟨a, s'⟩ := answered
          dsimp only
          rw [inductionHypothesis a (n + 1) s']
          dsimp only [Conversation.result_after]
          cases (converse c (next a) (n + 1) s').result with
          | none => rfl
          | some b =>
              simp only [Conversation.after_after, Conversation.exchanges_after,
                Conversation.store_after, List.length_append, List.length_singleton, Nat.add_assoc]

theorem Leads.mono {post' : Conversation β → Prop} {p : Program β} (leads : Leads c p s post)
    (weaker : ∀ talk, post talk → post' talk) : Leads c p s post' :=
  fun n => weaker _ (leads n)

theorem leads_pure {a : α} {post : Conversation α → Prop} (holds : post ⟨[], some a, s⟩) :
    Leads c (pure a) s post :=
  fun _ => holds

/-- After the first program there is a fault or a value, and from the value on the second leads to
what is asserted. -/
theorem leads_bind (first : Leads c p s mid)
    (faulty : ∀ xs s', mid ⟨xs, none, s'⟩ → post ⟨xs, none, s'⟩)
    (rest : ∀ xs a s', mid ⟨xs, some a, s'⟩ → Leads c (f a) s' fun talk => post (talk.after xs)) :
    Leads c (p >>= f) s post := by
  intro n
  show post (converse c (p.andThen f) n s)
  have led := first n
  rw [converse_andThen]
  cases talk : converse c p n s with
  | mk xs result s' =>
      rw [talk] at led
      cases result with
      | none => exact faulty xs s' led
      | some a => exact rest xs a s' led _

theorem serve_of_not_asksStore {r : Request} (apart : ¬ r.AsksStore) (c : Collaborators)
    (s : Store) : serve c s r = some (c.answer r, s) := by
  cases r <;> first | rfl | exact absurd trivial apart

/-- Who is asked for something else than the store may answer in any way. -/
theorem leads_aside {r : Request} {f : r.Answer → Program β} (apart : ¬ r.AsksStore)
    (rest : ∀ a, Leads c (f a) s fun talk => post (talk.after [⟨r, a⟩])) :
    Leads c (Program.request r >>= f) s post := by
  intro n
  show post (converse c (.ask r f) n s)
  rw [converse, serve_of_not_asksStore apart]
  exact rest _ _

/-- The answer to what is not a matter of the store is that of a collaborator. -/
theorem answer_of_mem {x : Exchange} {n : Nat} (member : x ∈ (converse c p n s).exchanges)
    (apart : ¬ x.request.AsksStore) : ∃ k, x.answer = (c k).answer x.request := by
  induction p generalizing n s with
  | done a => cases member
  | halt fault => cases member
  | ask r next inductionHypothesis =>
      rw [converse] at member
      split at member
      · cases member
      · rename_i a s' served
        rcases List.mem_append.1 member with here | there
        · obtain rfl : x = ⟨r, a⟩ := List.mem_singleton.1 here
          have answered := (serve_of_not_asksStore apart (c n) s).symm.trans served
          exact ⟨n, (congrArg Prod.fst (Option.some.inj answered)).symm⟩
        · exact inductionHypothesis _ there

end Programs

/-! ## Work -/

section Work

variable {w : Work α} {f : α → Work β} {mid : Conversation (Except EngineError α) → Prop}
  {post : Conversation (Except EngineError β) → Prop}

theorem leads_work_bind (first : Leads c w.run s mid)
    (faulty : ∀ xs s', mid ⟨xs, none, s'⟩ → post ⟨xs, none, s'⟩)
    (fails : ∀ xs error s', mid ⟨xs, some (.error error), s'⟩ →
      post ⟨xs, some (.error error), s'⟩)
    (rest : ∀ xs a s', mid ⟨xs, some (.ok a), s'⟩ →
      Leads c (f a).run s' fun talk => post (talk.after xs)) :
    Leads c (w >>= f).run s post := by
  refine leads_bind first faulty fun xs result s' led => ?_
  cases result with
  | ok a => exact rest xs a s' led
  | error error =>
      refine leads_pure ?_
      rw [Conversation.after_of_nil]
      exact fails xs error s' led

/-- A program that cannot fail comes first. -/
theorem leads_lift {p : Program α} {mid : Conversation α → Prop} (first : Leads c p s mid)
    (faulty : ∀ xs s', mid ⟨xs, none, s'⟩ → post ⟨xs, none, s'⟩)
    (rest : ∀ xs a s', mid ⟨xs, some a, s'⟩ →
      Leads c (f a).run s' fun talk => post (talk.after xs)) :
    Leads c (liftM p >>= f).run s post := by
  show Leads c ((p.andThen fun a => .done (.ok a)).andThen (ExceptT.bindCont f)) s post
  rw [Program.andThen_assoc]
  exact leads_bind first faulty rest

theorem leads_work_aside {r : Request} {f : r.Answer → Work β} (apart : ¬ r.AsksStore)
    (rest : ∀ a, Leads c (f a).run s fun talk => post (talk.after [⟨r, a⟩])) :
    Leads c (liftM (Program.request r) >>= f).run s post :=
  leads_aside (f := fun a => (f a).run) apart rest

/-- Taking and giving back a lock comes before and after the work. -/
theorem leads_underLock {release : ReleaseKey} (mid : Conversation (Except EngineError α) → Prop)
    (inside : Leads c w.run s mid) {post : Conversation (Except EngineError α) → Prop}
    (faulty : ∀ xs s', mid ⟨xs, none, s'⟩ → post ⟨⟨.lock release, ()⟩ :: xs, none, s'⟩)
    (ends : ∀ xs result s', mid ⟨xs, some result, s'⟩ →
      post ⟨⟨.lock release, ()⟩ :: xs ++ [⟨.unlock release, ()⟩], some result, s'⟩) :
    Leads c (Work.underLock release w).run s post := by
  refine leads_aside nofun fun _ => leads_bind inside faulty fun xs result s' led => ?_
  refine leads_aside nofun fun _ => leads_pure ?_
  exact ends xs result s' led

/-- An error that a request to the store can meet with: that of a refusal, or its own. -/
def Meets (c : Nat → Collaborators) (attempt : Except StoreError Store) (error : StoreError) :
    Prop :=
  (∃ k, (c k).refusal = some error) ∨ attempt = .error error

/-- A new incident is stored, or the store has an error to tell. -/
theorem leads_create {i : Incident} {f : Unit → Work β}
    (refused : ∀ error, Meets c (s.create i) error →
      post ⟨[⟨.create i, .error error⟩], some (.error (.persistence error)), s⟩)
    (rest : ∀ s', s.create i = .ok s' →
      Leads c (f ()).run s' fun talk => post (talk.after [⟨.create i, .ok ()⟩])) :
    Leads c (Work.create i >>= f).run s post := by
  intro n
  show post (converse c (.ask (.create i) _) n s)
  rw [converse]
  cases refuses : (c n).refusal with
  | some error =>
      simp only [serve, refuses]
      exact refused error (Or.inl ⟨n, refuses⟩)
  | none =>
      cases created : s.create i with
      | error error =>
          simp only [serve, refuses, created]
          exact refused error (Or.inr created)
      | ok s' =>
          simp only [serve, refuses, created]
          exact rest s' created _

/-- A stored incident is replaced, or the store has an error to tell. -/
theorem leads_update {i : Incident} {f : Unit → Work β}
    (refused : ∀ error, Meets c (s.update i) error →
      post ⟨[⟨.update i, .error error⟩], some (.error (.persistence error)), s⟩)
    (rest : ∀ s', s.update i = .ok s' →
      Leads c (f ()).run s' fun talk => post (talk.after [⟨.update i, .ok ()⟩])) :
    Leads c (Work.update i >>= f).run s post := by
  intro n
  show post (converse c (.ask (.update i) _) n s)
  rw [converse]
  cases refuses : (c n).refusal with
  | some error =>
      simp only [serve, refuses]
      exact refused error (Or.inl ⟨n, refuses⟩)
  | none =>
      cases updated : s.update i with
      | error error =>
          simp only [serve, refuses, updated]
          exact refused error (Or.inr updated)
      | ok s' =>
          simp only [serve, refuses, updated]
          exact rest s' updated _

/-! ### Listings -/

/-- Only pages of a listing were asked for. -/
def Pages (f : IncidentFilter) (xs : List Exchange) : Prop :=
  ∀ x ∈ xs, ∃ p, x.request = .list f p

/-- How a listing goes: it finds some incidents, or the store refuses to show a page. -/
inductive Lists (c : Nat → Collaborators) (s : Store) (f : IncidentFilter)
    (found : List Incident) : Conversation (Except EngineError (List Incident)) → Prop
  | found {xs : List Exchange} (pages : Pages f xs) : Lists c s f found ⟨xs, some (.ok found), s⟩
  | refused {xs : List Exchange} (pages : Pages f xs) (error : StoreError)
      (refuses : ∃ k, (c k).refusal = some error) (fails : ∃ x ∈ xs, x.failure? = some error) :
      Lists c s f found ⟨xs, some (.error (.persistence error)), s⟩

/-- A page is shown, or the store refuses to. -/
theorem leads_page {f : IncidentFilter} {p : Pagination} {g : Page Incident → Work β}
    {page : Page Incident} (shown : Page.ofList (s.matching f) p = .ok page)
    (refused : ∀ error, (∃ k, (c k).refusal = some error) →
      post ⟨[⟨.list f p, .error error⟩], some (.error (.persistence error)), s⟩)
    (rest : Leads c (g page).run s fun talk => post (talk.after [⟨.list f p, .ok page⟩])) :
    Leads c (Work.ofStore (Program.request (.list f p)) >>= g).run s post := by
  intro n
  show post (converse c (.ask (.list f p) _) n s)
  rw [converse]
  cases refuses : (c n).refusal with
  | some error =>
      simp only [serve, refuses]
      exact refused error ⟨n, refuses⟩
  | none =>
      simp only [serve, refuses, Store.list, shown]
      exact rest _

/-- A listing goes through all that the filter accepts from the place of the page on. -/
theorem leads_listFrom {f : IncidentFilter} {p : Pagination} (counted : 1 ≤ p.page.toNat)
    (sized : 0 < p.pageSize.toNat) (within : p.place ≤ (s.matching f).length)
    (room : s.size < UInt64.size) :
    Leads c (Work.listFrom f p).run s (Lists c s f ((s.matching f).drop p.place)) := by
  have room' : (s.matching f).length < UInt64.size :=
    Nat.lt_of_le_of_lt (List.length_filter_le _ _) room
  obtain ⟨page, shown⟩ := Page.exists_ofList counted (Nat.lt_of_le_of_lt within room') room'
  have alone : ∀ answer, Pages f [⟨.list f p, answer⟩] := by
    intro answer x member
    rw [List.mem_singleton.1 member]
    exact ⟨p, rfl⟩
  rw [Work.listFrom]
  refine leads_page shown (fun error refuses => .refused (alone _) error refuses ?_) ?_
  · exact ⟨_, List.mem_singleton_self _, rfl⟩
  split
  · rename_i lastPage
    rw [Work.drop_place_of_last shown sized lastPage]
    exact leads_pure (.found (alone _))
  · rename_i fault goesOn
    obtain ⟨q, same, -⟩ := Work.next_within shown sized room' goesOn
    cases same
  · rename_i q goesOn
    obtain ⟨q', same, counted', within'⟩ := Work.next_within shown sized room' goesOn
    cases same
    have sized' : 0 < q.pageSize.toNat := by
      rw [Work.pageSize_of_nextPage shown goesOn]
      exact sized
    rw [Work.drop_place_of_next shown goesOn]
    have together : ∀ {xs}, Pages f xs → Pages f (⟨.list f p, .ok page⟩ :: xs) := by
      intro xs pages
      exact List.forall_mem_cons.2 ⟨⟨p, rfl⟩, pages⟩
    refine leads_work_bind (leads_listFrom counted' sized' within' room) ?_ ?_ ?_
    · intro xs s' led
      cases led
    · intro xs error s' led
      cases led with
      | refused pages cause refuses fails =>
          obtain ⟨x, member, failing⟩ := fails
          exact .refused (together pages) cause refuses ⟨x, List.mem_cons_of_mem _ member, failing⟩
    · intro xs found s' led
      cases led with
      | found pages =>
          refine leads_pure ?_
          rw [Conversation.after_of_nil]
          exact .found (together pages)
termination_by UInt64.size - p.page.toNat
decreasing_by
  exact Work.size_sub_nextPage_lt (by assumption)

theorem leads_listAll {f : IncidentFilter} {pageSize : UInt64} (room : s.size < UInt64.size) :
    Leads c (Work.listAll f pageSize).run s (Lists c s f (s.matching f)) := by
  have counted : 1 ≤ (Pagination.first pageSize).page.toNat := by
    simp only [Pagination.first, Pagination.ofPage, Pagination.toNat_max_one]
    decide
  have leads : Leads c (Work.listAll f pageSize).run s
      (Lists c s f ((s.matching f).drop (Pagination.first pageSize).place)) := by
    refine leads_listFrom counted (Pagination.pageSize_first_pos pageSize) ?_ room
    rw [Pagination.place_first]
    exact Nat.zero_le _
  rw [Pagination.place_first, List.drop_zero] at leads
  exact leads

end Work

end IncidentWatch.Sequential
