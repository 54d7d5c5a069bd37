import IncidentWatch.Proofs.Interleaving.System
import IncidentWatch.Proofs.Store.Growth
import IncidentWatch.Proofs.Store.Paging

/-!
# Programs that nobody disturbs

A program runs with nobody else writing to the store, which refuses nothing; the other
collaborators answer as they like, but what they say about the health of a deployment is
the same each time. Then the run is a function (`undisturbed`), and a program attains what
it should (`Attains`) when every such run comes to an end, without a fault, where it holds.
The inquiries about deployments are part of what is attained.

The rules are those of a logic of programs for total correctness: what is to be attained
after the first of two programs is that the second attains the rest. Work that can fail
succeeds when it attains a value (`Succeeds`); in a listing and in a loop that takes the
pages or the items one by one.
-/

set_option autoImplicit false

namespace IncidentWatch.Sequential

open Interleaving

/-- The run of a program from the request of a number on, with nobody else writing to the store: its
value, what it asked for, and the store then; nothing if it meets a fault. -/
def undisturbed (c : Nat → Collaborators) {α : Type} :
    Program α → Nat → Store → Option (α × List Request × Store)
  | .done a, _, s => some (a, [], s)
  | .halt _, _, _ => none
  | .ask r next, n, s =>
    match serve (c n) s r with
    | none => none
    | some (a, s') =>
      (undisturbed c (next a) (n + 1) s').map fun (b, requests, s'') => (b, r :: requests, s'')

/-- The deployments whose health was asked for, by namespace and name. -/
def inquiries (requests : List Request) : List (String × String) :=
  requests.filterMap fun
    | .rollout namespaceName name _ => some (namespaceName, name)
    | _ => none

/-- Nothing is refused, and the health of each deployment is the given one each time. -/
structure Steadfast (health : String → String → Except QueryError RolloutHealth)
    (c : Nat → Collaborators) : Prop where
  grants : ∀ n, (c n).refusal = none
  answers : ∀ n namespaceName name limit,
    (c n).answer (.rollout namespaceName name limit) = health namespaceName name

/-- A program that starts after the given inquiries comes to an end where something holds of its
value, of all inquiries and of the store. -/
def Attains (c : Nat → Collaborators) {α : Type} (p : Program α) (asked : List (String × String))
    (s : Store) (post : α → List (String × String) → Store → Prop) : Prop :=
  ∀ n, ∃ a requests s', undisturbed c p n s = some (a, requests, s') ∧
    post a (asked ++ inquiries requests) s'

/-- Work that starts after the given inquiries comes to a value of which something holds. -/
def Succeeds (c : Nat → Collaborators) {α : Type} (w : Work α) (asked : List (String × String))
    (s : Store) (post : α → List (String × String) → Store → Prop) : Prop :=
  Attains c w.run asked s fun result asked' s' => ∃ a, result = .ok a ∧ post a asked' s'

variable {c : Nat → Collaborators} {health : String → String → Except QueryError RolloutHealth}
  {α β : Type} {asked : List (String × String)} {s s' : Store} {i : Incident}

/-! ## Programs -/

section Programs

variable {p : Program α} {f : α → Program β} {post : α → List (String × String) → Store → Prop}
  {after : β → List (String × String) → Store → Prop}

theorem inquiries_append (requests requests' : List Request) :
    inquiries (requests ++ requests') = inquiries requests ++ inquiries requests' := by
  unfold inquiries
  exact List.filterMap_append

theorem undisturbed_andThen {a : α} {n : Nat} {requests : List Request}
    (first : undisturbed c p n s = some (a, requests, s')) :
    undisturbed c (p.andThen f) n s = (undisturbed c (f a) (n + requests.length) s').map
      fun (b, requests', s'') => (b, requests ++ requests', s'') := by
  induction p generalizing n s requests with
  | done b =>
      cases first
      simp [Program.andThen]
  | halt fault => cases first
  | ask r next inductionHypothesis =>
      simp only [undisturbed] at first
      split at first
      · cases first
      · rename_i answer s₁ served
        obtain ⟨⟨b, requests₁, s₂⟩, rest, same⟩ := Option.map_eq_some_iff.1 first
        cases same
        simp only [Program.andThen, undisturbed, served]
        rw [inductionHypothesis answer rest, Option.map_map, List.length_cons, Nat.add_right_comm,
          Nat.add_assoc]
        rfl

theorem attains_pure {a : α} (holds : post a asked s) : Attains c (pure a) asked s post := by
  intro n
  refine ⟨a, [], s, rfl, ?_⟩
  rw [inquiries, List.filterMap_nil, List.append_nil]
  exact holds

/-- What is to be attained after the first program is that the second attains the rest. -/
theorem attains_bind
    (first : Attains c p asked s fun a asked' s' => Attains c (f a) asked' s' after) :
    Attains c (p >>= f) asked s after := by
  intro n
  obtain ⟨a, requests, s₁, ran, rest⟩ := first n
  obtain ⟨b, requests', s₂, ran', holds⟩ := rest (n + requests.length)
  refine ⟨b, requests ++ requests', s₂, ?_, ?_⟩
  · show undisturbed c (p.andThen f) n s = _
    rw [undisturbed_andThen ran, ran']
    rfl
  · rw [inquiries_append, ← List.append_assoc]
    exact holds

theorem Attains.mono {post' : α → List (String × String) → Store → Prop}
    (attains : Attains c p asked s post)
    (weaker : ∀ a asked' s', post a asked' s' → post' a asked' s') :
    Attains c p asked s post' := by
  intro n
  obtain ⟨a, requests, s₁, ran, holds⟩ := attains n
  exact ⟨a, requests, s₁, ran, weaker _ _ _ holds⟩

theorem attains_request {r : Request} {post : r.Answer → List (String × String) → Store → Prop}
    (served : ∀ n, ∃ a s', serve (c n) s r = some (a, s') ∧ post a (asked ++ inquiries [r]) s') :
    Attains c (Program.request r) asked s post := by
  intro n
  obtain ⟨a, s₁, answered, holds⟩ := served n
  refine ⟨a, [r], s₁, ?_, holds⟩
  simp only [Program.request, undisturbed, answered, Option.map_some]

/-- Requests to others than the store, and not about a deployment, may be answered in any way. -/
theorem attains_after_aside {r : Request} {f : r.Answer → Program β}
    (apart : ∀ c, serve c s r = some (c.answer r, s)) (quiet : inquiries [r] = [])
    (rest : ∀ a, Attains c (f a) asked s after) :
    Attains c (Program.request r >>= f) asked s after := by
  refine attains_bind (attains_request fun n => ⟨(c n).answer r, s, apart (c n), ?_⟩)
  rw [quiet, List.append_nil]
  exact rest _

theorem attains_rollout (steadfast : Steadfast health c) {namespaceName name : String} {limit : Nat}
    {post : Except QueryError RolloutHealth → List (String × String) → Store → Prop}
    (holds : post (health namespaceName name) (asked ++ [(namespaceName, name)]) s) :
    Attains c (Program.request (.rollout namespaceName name limit)) asked s post := by
  refine attains_request fun n => ⟨health namespaceName name, s, ?_, holds⟩
  rw [← steadfast.answers n namespaceName name limit]
  rfl

end Programs

/-! ## Work -/

section Work

variable {w : Work α} {f : α → Work β} {post : α → List (String × String) → Store → Prop}
  {after : β → List (String × String) → Store → Prop}

theorem succeeds_pure {a : α} (holds : post a asked s) : Succeeds c (pure a) asked s post :=
  attains_pure ⟨a, rfl, holds⟩

theorem succeeds_bind
    (first : Succeeds c w asked s fun a asked' s' => Succeeds c (f a) asked' s' after) :
    Succeeds c (w >>= f) asked s after := by
  refine attains_bind (Attains.mono first ?_)
  rintro _ asked' s' ⟨a, rfl, rest⟩
  exact rest

theorem Succeeds.mono {post' : α → List (String × String) → Store → Prop}
    (succeeds : Succeeds c w asked s post)
    (weaker : ∀ a asked' s', post a asked' s' → post' a asked' s') :
    Succeeds c w asked s post' := by
  refine Attains.mono succeeds ?_
  rintro _ asked' s' ⟨a, rfl, holds⟩
  exact ⟨a, rfl, weaker a asked' s' holds⟩

theorem succeeds_lift {p : Program α} (attains : Attains c p asked s post) :
    Succeeds c (liftM p) asked s post := by
  refine attains_bind (Attains.mono attains ?_)
  intro a asked' s' holds
  exact attains_pure ⟨a, rfl, holds⟩

theorem succeeds_after_aside {r : Request} {f : r.Answer → Work β}
    (apart : ∀ c, serve c s r = some (c.answer r, s)) (quiet : inquiries [r] = [])
    (rest : ∀ a, Succeeds c (f a) asked s after) :
    Succeeds c ((liftM (Program.request r) : Work r.Answer) >>= f) asked s after := by
  refine succeeds_bind (attains_bind ?_)
  exact attains_after_aside apart quiet fun a => attains_pure (attains_pure ⟨a, rfl, rest a⟩)

theorem succeeds_checked {value : Except Fault α} {a : α} (found : value = .ok a)
    (holds : post a asked s) : Succeeds c (Work.checked value) asked s post := by
  rw [found]
  exact succeeds_lift (attains_pure holds)

theorem succeeds_ofStore {p : Program (Except StoreError α)}
    (attains : Attains c p asked s fun answer asked' s' =>
      ∃ a, answer = .ok a ∧ post a asked' s') :
    Succeeds c (Work.ofStore p) asked s post := by
  refine attains_bind (Attains.mono attains ?_)
  rintro _ asked' s' ⟨a, rfl, holds⟩
  exact attains_pure ⟨a, rfl, holds⟩

/-- A record of an incident that is there is replaced. -/
theorem succeeds_update (grants : ∀ n, (c n).refusal = none)
    {post : Unit → List (String × String) → Store → Prop} {old : Incident}
    (stored : s.get? i.id = some old)
    (holds : ∀ s', s.update i = .ok s' → post () asked s') :
    Succeeds c (Work.update i) asked s post := by
  obtain ⟨member, same⟩ := Store.get?_eq_some_iff.1 stored
  obtain ⟨s₁, updated⟩ := Store.exists_update (Store.get?_of_mem member) same.symm
  refine succeeds_ofStore (attains_request fun n => ⟨.ok (), s₁, ?_, (), rfl, ?_⟩)
  · simp only [serve, grants n, updated]
  · exact (List.append_nil asked).symm ▸ holds s₁ updated

/-- An incident that is there is read. -/
theorem succeeds_read? (grants : ∀ n, (c n).refusal = none)
    {post : Option Incident → List (String × String) → Store → Prop} {id : String}
    (stored : s.get? id = some i) (holds : post (some i) asked s) :
    Succeeds c (Work.read? id) asked s post := by
  have read : s.read id = .ok i := Store.read_eq_ok_iff.2 stored
  refine attains_bind (attains_request fun n => ⟨.ok i, s, ?_, ?_⟩)
  · simp only [serve, grants n, read]
  · refine attains_pure ⟨some i, rfl, ?_⟩
    exact (List.append_nil asked).symm ▸ holds

theorem succeeds_underLock {release : ReleaseKey} (inside : Succeeds c w asked s post) :
    Succeeds c (Work.underLock release w) asked s post := by
  refine attains_after_aside (fun _ => rfl) rfl fun _ => ?_
  refine attains_bind (Attains.mono inside ?_)
  intro result asked' s' holds
  exact attains_after_aside (fun _ => rfl) rfl fun _ => attains_pure holds

/-- A listing finds all that the filter accepts from the place of the page on. -/
theorem succeeds_listFrom (grants : ∀ n, (c n).refusal = none) {f : IncidentFilter} {p : Pagination}
    {post : List Incident → List (String × String) → Store → Prop} (counted : 1 ≤ p.page.toNat)
    (sized : 0 < p.pageSize.toNat) (within : p.place ≤ (s.matching f).length)
    (room : s.size < UInt64.size) (holds : post ((s.matching f).drop p.place) asked s) :
    Succeeds c (Work.listFrom f p) asked s post := by
  have room' : (s.matching f).length < UInt64.size :=
    Nat.lt_of_le_of_lt (List.length_filter_le _ _) room
  obtain ⟨page, found⟩ := Page.exists_ofList counted (Nat.lt_of_le_of_lt within room') room'
  have served : ∀ n, serve (c n) s (.list f p) = some (.ok page, s) := by
    intro n
    simp only [serve, grants n, Store.list, found]
  rw [Work.listFrom]
  refine succeeds_bind (succeeds_ofStore (attains_request fun n =>
    ⟨.ok page, s, served n, page, rfl, ?_⟩))
  rw [show inquiries [.list f p] = [] from rfl, List.append_nil]
  split
  · rename_i lastPage
    rw [Work.drop_place_of_last found sized lastPage] at holds
    exact succeeds_pure holds
  · rename_i fault goesOn
    obtain ⟨q, same, -⟩ := Work.next_within found sized room' goesOn
    cases same
  · rename_i q goesOn
    obtain ⟨q', same, counted', within'⟩ := Work.next_within found sized room' goesOn
    cases same
    have sized' : 0 < q.pageSize.toNat := by
      rw [Work.pageSize_of_nextPage found goesOn]
      exact sized
    rw [Work.drop_place_of_next found goesOn] at holds
    exact succeeds_bind
      (succeeds_listFrom grants counted' sized' within' room (succeeds_pure holds))
termination_by UInt64.size - p.page.toNat
decreasing_by
  exact Work.size_sub_nextPage_lt (by assumption)

theorem succeeds_listAll (grants : ∀ n, (c n).refusal = none) {f : IncidentFilter}
    {pageSize : UInt64} {post : List Incident → List (String × String) → Store → Prop}
    (room : s.size < UInt64.size) (holds : post (s.matching f) asked s) :
    Succeeds c (Work.listAll f pageSize) asked s post := by
  have counted : 1 ≤ (Pagination.first pageSize).page.toNat := by
    simp only [Pagination.first, Pagination.ofPage, Pagination.toNat_max_one]
    decide
  refine succeeds_listFrom grants counted (Pagination.pageSize_first_pos pageSize) ?_ room ?_
  · rw [Pagination.place_first]
    exact Nat.zero_le _
  · rw [Pagination.place_first, List.drop_zero]
    exact holds

/-- A loop keeps what each item leads to from what holds after the items before it. -/
theorem succeeds_foldlM {ι : Type} {f : β → ι → Work β} {items : List ι}
    (J : List ι → β → List (String × String) → Store → Prop)
    (step : ∀ {done x todo b asked s}, items = done ++ x :: todo → J done b asked s →
      Succeeds c (f b x) asked s (J (done ++ [x])))
    {b : β} (start : J [] b asked s) : Succeeds c (items.foldlM f b) asked s (J items) := by
  suffices rest : ∀ todo done b asked s, items = done ++ todo → J done b asked s →
      Succeeds c (todo.foldlM f b) asked s (J items) by
    exact rest items [] b asked s rfl start
  intro todo
  induction todo with
  | nil =>
      intro done b asked s all holds
      rw [List.append_nil] at all
      rw [List.foldlM_nil, all]
      exact succeeds_pure holds
  | cons x todo inductionHypothesis =>
      intro done b asked s all holds
      rw [List.foldlM_cons]
      refine succeeds_bind ((step all holds).mono fun b' asked' s' further => ?_)
      exact inductionHypothesis (done ++ [x]) b' asked' s' (by rw [all, List.append_cons]) further

end Work

end IncidentWatch.Sequential
