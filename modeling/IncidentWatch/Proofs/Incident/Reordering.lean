import IncidentWatch.Proofs.Incident.Merging

/-!
# Merging candidates in any order

Candidates are merged into a target one after the other, and every merge may scope it
anew. Which keys the target has in the end is a matter of which candidates there were
(`mem_keys_mergeAll`), and so is which pods it names. Its scope is settled by the last merge
alone: if several pods are named by then, that merge scopes it to the owner, and if not,
then no merge before has done so either, for no pod is ever forgotten
(`involvedObject_mergeAll_of_few`). So neither the order nor the repetitions count
(`merges_in_any_order`).

What is recorded again in the same order leaves everything as it is, even in a list in which
a key stands twice (`recordAll_recordAll`): of a known key only the last report shows.
-/

set_option autoImplicit false

namespace IncidentWatch

namespace IncidentEvent

variable {e older newer : IncidentEvent} {events later : List IncidentEvent}

/-! ## Recording again -/

theorem mem_keys_recordIn_of_mem {k : EventKey} (known : k ∈ events.map (·.key)) :
    k ∈ (e.recordIn events).map (·.key) :=
  (prefix_map_recordIn (fun _ _ => rfl) e events).subset known

/-- Of two reports of a known key, the newer one shows. -/
theorem recordIn_recordIn_of_eq (same : older.key = newer.key)
    (known : older.key ∈ events.map (·.key)) :
    newer.recordIn (older.recordIn events) = newer.recordIn events := by
  induction events with
  | nil => exact absurd known List.not_mem_nil
  | cons first rest inductionHypothesis =>
      by_cases here : first.key = older.key
      · have refreshed : (first.refresh older).key = newer.key := here.trans same
        simp only [recordIn, here, same, refreshed, if_true, refresh_refresh]
      · have apart : first.key ≠ newer.key := same ▸ here
        have among : older.key ∈ rest.map (·.key) :=
          (List.mem_cons.1 known).resolve_left (Ne.symm here)
        simp only [recordIn, here, apart, if_false, inductionHypothesis among]

/-- Of two keys, one that is known is reported before or after the other one all the same. -/
theorem recordIn_comm (apart : older.key ≠ newer.key) (known : older.key ∈ events.map (·.key)) :
    older.recordIn (newer.recordIn events) = newer.recordIn (older.recordIn events) := by
  induction events with
  | nil => exact absurd known List.not_mem_nil
  | cons first rest inductionHypothesis =>
      by_cases here : first.key = older.key
      · have other : first.key ≠ newer.key := here ▸ apart
        have other' : (first.refresh older).key ≠ newer.key := other
        simp only [recordIn, here, other', apart, if_true, if_false]
      · have among : older.key ∈ rest.map (·.key) :=
          (List.mem_cons.1 known).resolve_left (Ne.symm here)
        by_cases there : first.key = newer.key
        · have refreshed : (first.refresh newer).key ≠ older.key := here
          simp only [recordIn, there, refreshed, Ne.symm apart, if_true, if_false]
        · simp only [recordIn, there, here, if_false, inductionHypothesis among]

/-- The same report twice is one report. -/
theorem recordIn_self (e : IncidentEvent) (events : List IncidentEvent) :
    e.recordIn (e.recordIn events) = e.recordIn events := by
  induction events with
  | nil => simp [recordIn, refresh_self]
  | cons first rest inductionHypothesis =>
      by_cases here : first.key = e.key
      · have refreshed : (first.refresh e).key = e.key := here
        simp only [recordIn, here, refreshed, if_true, refresh_refresh]
      · simp only [recordIn, here, if_false, inductionHypothesis]

/-- Once the same occurrence is recorded after some of known keys, it does not count that it was
recorded before them, too. -/
theorem recordIn_recordAll_recordIn (known : ∀ d ∈ later, d.key ∈ events.map (·.key)) :
    e.recordIn (recordAll later (e.recordIn events)) = e.recordIn (recordAll later events) := by
  induction later generalizing events with
  | nil => exact recordIn_self e events
  | cons d rest inductionHypothesis =>
      obtain ⟨here, others⟩ := List.forall_mem_cons.1 known
      have known' : ∀ d' ∈ rest, d'.key ∈ (d.recordIn events).map (·.key) :=
        fun d' member => mem_keys_recordIn_of_mem (others d' member)
      show e.recordIn (recordAll rest (d.recordIn (e.recordIn events))) =
        e.recordIn (recordAll rest (d.recordIn events))
      by_cases same : d.key = e.key
      · have known'' : e.key ∈ events.map (·.key) := same ▸ here
        rw [recordIn_recordIn_of_eq same.symm known'']
      · rw [recordIn_comm same here]
        exact inductionHypothesis known'

/-- Recording the same occurrences again changes nothing. The induction is from their end, since
the last one of a key is the one that shows. -/
theorem recordAll_recordAll (later events : List IncidentEvent) :
    recordAll later (recordAll later events) = recordAll later events := by
  induction later using List.reverseRecOn with
  | nil => rfl
  | append_singleton later e inductionHypothesis =>
      have known : ∀ d ∈ later, d.key ∈ (recordAll later events).map (·.key) :=
        fun d member => mem_keys_recordAll.2 (Or.inr (List.mem_map_of_mem member))
      rw [recordAll_concat, recordAll_concat, recordIn_recordAll_recordIn known,
        inductionHypothesis]

end IncidentEvent

namespace Incident

open IncidentEvent

variable {i j target : Incident} {candidates : List Incident} {incoming : List IncidentEvent}
  {owner : OwnerRef} {now : Instant}

/-! ## Merging again -/

/-- A merge that finds nothing to report and nothing to scope changes nothing, and says so. -/
theorem merge_eq_self (seen : i.lastSeen = now) (known : i.absorb incoming = i.events)
    (owned : i.NamesSeveralPods → i.involvedObject = owner.involvedObject) :
    i.merge incoming owner now = (i, false) := by
  subst seen
  unfold merge
  dsimp only
  simp only [known]
  split
  · rfl
  · rename_i many
    have scope := owned (one_lt_distinctPods_iff.1 (Nat.lt_of_not_le many))
    simp [← scope]

/-- Merging a candidate right after it was merged changes nothing. -/
theorem merge_merge_self (target : Incident) (incoming : List IncidentEvent) (owner : OwnerRef)
    (now : Instant) :
    (target.merge incoming owner now).1.merge incoming owner now =
      ((target.merge incoming owner now).1, false) := by
  obtain ⟨scope, once⟩ := target.merge_eq incoming owner now
  refine merge_eq_self ?_ ?_ (scope_merge target incoming owner now).1
  · rw [once]
  · rw [once, absorb_eq_recordAll]
    show recordAll _ (target.absorb incoming) = target.absorb incoming
    rw [absorb_eq_recordAll]
    exact recordAll_recordAll _ _

/-! ## Merging one after the other -/

/-- The target with candidates merged into it, one after the other. -/
def mergeAll (target : Incident) (candidates : List Incident) (owner : OwnerRef) (now : Instant) :
    Incident :=
  candidates.foldl (fun i c => (i.merge c.events owner now).1) target

theorem mergeAll_concat (target : Incident) (candidates : List Incident) (last : Incident)
    (owner : OwnerRef) (now : Instant) :
    target.mergeAll (candidates ++ [last]) owner now =
      ((target.mergeAll candidates owner now).merge last.events owner now).1 := by
  simp [mergeAll]

/-- The keys in the end are those of the target and of the candidates. -/
theorem mem_keys_mergeAll {k : EventKey} :
    k ∈ (target.mergeAll candidates owner now).keys ↔
      k ∈ target.keys ∨ ∃ c ∈ candidates, k ∈ c.keys := by
  induction candidates using List.reverseRecOn with
  | nil => simp [mergeAll]
  | append_singleton candidates last inductionHypothesis =>
      rw [mergeAll_concat, mem_keys_merge, inductionHypothesis, or_assoc]
      refine or_congr_right ?_
      simp only [List.mem_append, List.mem_singleton, or_and_right, exists_or, exists_eq_left]
      rfl

/-! ## Pods -/

theorem mem_pods_iff {pod : String × String} :
    pod ∈ i.pods ↔ ∃ k ∈ i.keys, (k.podNamespace, k.podName) = pod := by
  unfold pods keys
  rw [List.mem_eraseDups, List.mem_map]
  constructor
  · rintro ⟨e, member, same⟩
    exact ⟨e.key, List.mem_map_of_mem member, same⟩
  · rintro ⟨k, member, same⟩
    obtain ⟨e, among, rfl⟩ := List.mem_map.1 member
    exact ⟨e, among, same⟩

theorem nodup_eraseDups {α : Type} [BEq α] [LawfulBEq α] (items : List α) :
    items.eraseDups.Nodup := by
  cases items with
  | nil => exact List.nodup_nil
  | cons a rest =>
      rw [List.eraseDups_cons]
      refine List.nodup_cons.2 ⟨by simp, nodup_eraseDups _⟩
termination_by items.length
decreasing_by
  have shorter := List.length_filter_le (fun b => !b == a) rest
  simp only [List.length_cons]
  omega

theorem nodup_pods (i : Incident) : i.pods.Nodup :=
  nodup_eraseDups _

theorem namesSeveralPods_iff_pods :
    i.NamesSeveralPods ↔ ∃ a ∈ i.pods, ∃ b ∈ i.pods, a ≠ b := by
  unfold NamesSeveralPods pods
  simp

/-- Who has all the keys of another names several pods if that does. -/
theorem NamesSeveralPods.mono (several : i.NamesSeveralPods) (keys : ∀ k ∈ i.keys, k ∈ j.keys) :
    j.NamesSeveralPods := by
  have pods : ∀ pod ∈ i.pods, pod ∈ j.pods := by
    intro pod member
    obtain ⟨k, among, same⟩ := mem_pods_iff.1 member
    exact mem_pods_iff.2 ⟨k, keys k among, same⟩
  obtain ⟨a, memberA, b, memberB, apart⟩ := namesSeveralPods_iff_pods.1 several
  exact namesSeveralPods_iff_pods.2 ⟨a, pods a memberA, b, pods b memberB, apart⟩

/-- Incidents of the same keys name the same pods. -/
theorem perm_pods (keys : ∀ k, k ∈ i.keys ↔ k ∈ j.keys) : i.pods.Perm j.pods := by
  refine (List.perm_ext_iff_of_nodup (nodup_pods i) (nodup_pods j)).2 fun pod => ?_
  simp only [mem_pods_iff, keys]

/-! ## Scope -/

/-- As long as no two pods are named, no merge has touched the scope. -/
theorem involvedObject_mergeAll_of_few
    (few : ¬ (target.mergeAll candidates owner now).NamesSeveralPods) :
    (target.mergeAll candidates owner now).involvedObject = target.involvedObject := by
  induction candidates using List.reverseRecOn with
  | nil => rfl
  | append_singleton candidates last inductionHypothesis =>
      rw [mergeAll_concat] at few ⊢
      have fewBefore : ¬ (target.mergeAll candidates owner now).NamesSeveralPods :=
        fun several => few (several.mono fun k member => mem_keys_merge.2 (Or.inl member))
      rw [(scope_merge _ _ owner now).2.1 few]
      exact inductionHypothesis fewBefore

/-- Once several pods are named, the last merge has scoped the target to the owner. -/
theorem involvedObject_mergeAll_of_several (some' : candidates ≠ [])
    (several : (target.mergeAll candidates owner now).NamesSeveralPods) :
    (target.mergeAll candidates owner now).involvedObject = owner.involvedObject := by
  cases candidates using List.reverseRecOn with
  | nil => exact absurd rfl some'
  | append_singleton earlier last =>
      rw [mergeAll_concat] at several ⊢
      exact (scope_merge _ _ owner now).1 several

/-! ## Order and repetition -/

/-- Merging the same candidates in another order or more often comes to the same keys, the same
pods and the same scope, and merging one right after itself changes nothing. -/
theorem merges_in_any_order (target : Incident) (owner : OwnerRef) (now : Instant)
    (candidates candidates' : List Incident) (some' : candidates ≠ []) (some'' : candidates' ≠ [])
    (same : ∀ c, c ∈ candidates ↔ c ∈ candidates') :
    (∀ k, k ∈ (target.mergeAll candidates owner now).keys ↔
      k ∈ (target.mergeAll candidates' owner now).keys) ∧
    (target.mergeAll candidates owner now).pods.Perm
      (target.mergeAll candidates' owner now).pods ∧
    (target.mergeAll candidates owner now).involvedObject =
      (target.mergeAll candidates' owner now).involvedObject ∧
    ∀ candidate : Incident,
      (target.merge candidate.events owner now).1.merge candidate.events owner now =
        ((target.merge candidate.events owner now).1, false) := by
  have keys : ∀ k, k ∈ (target.mergeAll candidates owner now).keys ↔
      k ∈ (target.mergeAll candidates' owner now).keys := by
    intro k
    simp only [mem_keys_mergeAll, same]
  refine ⟨keys, perm_pods keys, ?_, fun candidate => merge_merge_self target _ owner now⟩
  by_cases several : (target.mergeAll candidates owner now).NamesSeveralPods
  · have several' := several.mono fun k => (keys k).1
    rw [involvedObject_mergeAll_of_several some' several,
      involvedObject_mergeAll_of_several some'' several']
  · have few : ¬ (target.mergeAll candidates' owner now).NamesSeveralPods :=
      fun several' => several (several'.mono fun k => (keys k).2)
    rw [involvedObject_mergeAll_of_few several, involvedObject_mergeAll_of_few few]

/-- A candidate that reports of one more pod. -/
def reportingThird : Incident :=
  { ofOnePod with
    id := "c"
    events := [report "c1" "web-2" "killed"] }

theorem merges_in_any_order_of_three :
    [repeating, reportingThird] ≠ [] ∧ [reportingThird, repeating, reportingThird] ≠ [] ∧
      (∀ c, c ∈ [repeating, reportingThird] ↔
        c ∈ [reportingThird, repeating, reportingThird]) ∧
      (ofOnePod.mergeAll [repeating, reportingThird] deployment .epoch).pods.Perm
        (ofOnePod.mergeAll [reportingThird, repeating, reportingThird] deployment .epoch).pods ∧
      (ofOnePod.mergeAll [repeating, reportingThird] deployment .epoch).pods =
        [("default", "web-0"), ("default", "web-1"), ("default", "web-2")] ∧
      (ofOnePod.mergeAll [reportingThird, repeating, reportingThird] deployment .epoch).pods =
        [("default", "web-0"), ("default", "web-2"), ("default", "web-1")] ∧
      (ofOnePod.mergeAll [repeating, reportingThird] deployment .epoch).involvedObject =
        (ofOnePod.mergeAll [reportingThird, repeating, reportingThird] deployment
          .epoch).involvedObject := by
  have same : ∀ c, c ∈ [repeating, reportingThird] ↔
      c ∈ [reportingThird, repeating, reportingThird] := by
    intro c
    simp only [List.mem_cons, List.not_mem_nil, or_false]
    tauto
  obtain ⟨-, pods, scope, -⟩ := merges_in_any_order ofOnePod deployment .epoch
    [repeating, reportingThird] [reportingThird, repeating, reportingThird] (by simp) (by simp) same
  exact ⟨by simp, by simp, same, pods, by decide, by decide, scope⟩

end Incident

end IncidentWatch
