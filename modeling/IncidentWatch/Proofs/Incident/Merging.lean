import IncidentWatch.Proofs.Incident.Evolution
import Mathlib.Data.List.Induction

/-!
# What a merge makes of the occurrences

Occurrences are taken into a list one by one, and each search for a key goes through what
was taken in before. All the same, what a key comes to can be said at once, of the list and
of the occurrences that were taken in: the occurrence that introduced the key gives it its
id and its revision, and the last one of the key gives it its detail and the time when it
was seen (`eq_refreshedBy_of_mem_recordAll`). The keys are those of the list, and then the
new ones in the order in which they came first (`keys_recordAll`).

A merge takes the occurrences of the candidate into those of the target in that way, and
scopes the target to the owner once they name several pods
(`merge_extends_and_refreshes`).
-/

set_option autoImplicit false

namespace IncidentWatch

namespace IncidentEvent

/-- The occurrence that introduces a key. -/
def firstOf (k : EventKey) (events : List IncidentEvent) : Option IncidentEvent :=
  events.find? (·.key = k)

/-- The last occurrence of a key. -/
def lastOf (k : EventKey) (events : List IncidentEvent) : Option IncidentEvent :=
  (events.filter (·.key = k)).getLast?

/-- An occurrence with what the last one of its key reports, if there is one. -/
def refreshedBy (first : IncidentEvent) (later : List IncidentEvent) : IncidentEvent :=
  match lastOf first.key later with
  | some last => first.refresh last
  | none => first

variable {o e first : IncidentEvent} {events later : List IncidentEvent} {k : EventKey}

/-! ## First and last of a key -/

theorem key_of_firstOf (found : firstOf k events = some first) : first.key = k := by
  simpa using List.find?_some found

theorem firstOf_eq_none_iff : firstOf k events = none ↔ k ∉ events.map (·.key) := by
  simp [firstOf]

theorem lastOf_eq_none_iff : lastOf k events = none ↔ k ∉ events.map (·.key) := by
  simp [lastOf]

section Renamed

variable {f : IncidentEvent → IncidentEvent} (keeps : ∀ e, (f e).key = e.key)
include keeps

/-- Changes that leave the keys alone leave it alone which occurrence is the first of a key. -/
theorem firstOf_map : firstOf k (events.map f) = (firstOf k events).map f := by
  unfold firstOf
  rw [List.find?_map]
  simp only [Function.comp_def, keeps]

theorem lastOf_map : lastOf k (events.map f) = (lastOf k events).map f := by
  unfold lastOf
  rw [List.filter_map, List.getLast?_map]
  simp only [Function.comp_def, keeps]

end Renamed

theorem firstOf_append_of_some (found : firstOf k events = some first) :
    firstOf k (events ++ later) = some first := by
  unfold firstOf at found ⊢
  rw [List.find?_append, found]
  rfl

theorem firstOf_append_of_none (absent : firstOf k events = none) :
    firstOf k (events ++ later) = firstOf k later := by
  unfold firstOf at absent ⊢
  rw [List.find?_append, absent]
  rfl

/-- Where keys are distinct, every occurrence introduces its own. -/
theorem firstOf_of_mem (unique : (events.map (·.key)).Nodup) (member : o ∈ events) :
    firstOf o.key events = some o := by
  cases found : firstOf o.key events with
  | none => exact absurd (List.mem_map_of_mem member) (firstOf_eq_none_iff.1 found)
  | some first =>
      have among : first ∈ events := List.mem_of_find?_eq_some found
      rw [List.inj_on_of_nodup_map unique among member (key_of_firstOf found)]

theorem lastOf_concat_self : lastOf e.key (later ++ [e]) = some e := by
  simp [lastOf]

theorem lastOf_concat_of_ne (apart : e.key ≠ k) : lastOf k (later ++ [e]) = lastOf k later := by
  simp [lastOf, apart]

/-- Of two reports, the later one counts. -/
theorem refresh_refresh (e older newer : IncidentEvent) :
    (e.refresh older).refresh newer = e.refresh newer := rfl

theorem refresh_self (e : IncidentEvent) : e.refresh e = e := rfl

theorem refreshedBy_of_some {last : IncidentEvent} (found : lastOf first.key later = some last) :
    first.refreshedBy later = first.refresh last := by
  unfold refreshedBy
  rw [found]

theorem refreshedBy_of_none (absent : lastOf first.key later = none) :
    first.refreshedBy later = first := by
  unfold refreshedBy
  rw [absent]

/-- Reports change nothing but the time when an occurrence was seen, and its detail. -/
@[simp] theorem identity_refreshedBy (first : IncidentEvent) (later : List IncidentEvent) :
    (first.refreshedBy later).identity = first.identity := by
  unfold refreshedBy
  split <;> rfl

@[simp] theorem incidentId_refreshedBy (first : IncidentEvent) (later : List IncidentEvent) :
    (first.refreshedBy later).incidentId = first.incidentId := by
  unfold refreshedBy
  split <;> rfl

@[simp] theorem key_refreshedBy (first : IncidentEvent) (later : List IncidentEvent) :
    (first.refreshedBy later).key = first.key :=
  congrArg (·.2.1) (identity_refreshedBy first later)

/-- What an occurrence had reported before does not count once a later one reports. -/
theorem refreshedBy_concat_of_eq (same : e.key = first.key) :
    first.refreshedBy (later ++ [e]) = first.refresh e :=
  refreshedBy_of_some (same ▸ lastOf_concat_self)

theorem refreshedBy_concat_of_ne (apart : e.key ≠ first.key) :
    first.refreshedBy (later ++ [e]) = first.refreshedBy later := by
  unfold refreshedBy
  rw [lastOf_concat_of_ne apart]

theorem refresh_refreshedBy (first : IncidentEvent) (later : List IncidentEvent)
    (newer : IncidentEvent) : (first.refreshedBy later).refresh newer = first.refresh newer := by
  unfold refreshedBy
  split
  · exact refresh_refresh first _ newer
  · rfl

/-! ## Taking in occurrences -/

theorem recordAll_concat (later : List IncidentEvent) (e : IncidentEvent)
    (events : List IncidentEvent) :
    recordAll (later ++ [e]) events = e.recordIn (recordAll later events) := by
  simp [recordAll]

/-- Where keys are distinct, taking in an occurrence leaves those of other keys alone, refreshes the
one of its key, or adds it. -/
theorem mem_recordIn (unique : (events.map (·.key)).Nodup) (member : o ∈ e.recordIn events) :
    (o ∈ events ∧ e.key ≠ o.key) ∨ (∃ old ∈ events, old.key = e.key ∧ o = old.refresh e) ∨
      (o = e ∧ e.key ∉ events.map (·.key)) := by
  induction events with
  | nil => exact Or.inr (Or.inr ⟨List.mem_singleton.1 member, List.not_mem_nil⟩)
  | cons old rest inductionHypothesis =>
      rw [List.map_cons, List.nodup_cons] at unique
      unfold recordIn at member
      split at member
      · rename_i same
        rcases List.mem_cons.1 member with rfl | among
        · exact Or.inr (Or.inl ⟨old, List.mem_cons_self, same, rfl⟩)
        · refine Or.inl ⟨List.mem_cons_of_mem old among, fun same' => unique.1 ?_⟩
          rw [same, same']
          exact List.mem_map_of_mem among
      · rename_i apart
        rcases List.mem_cons.1 member with rfl | among
        · exact Or.inl ⟨List.mem_cons_self, Ne.symm apart⟩
        · rcases inductionHypothesis unique.2 among with ⟨there, other⟩ | ⟨first, there, same, is⟩ |
            ⟨is, absent⟩
          · exact Or.inl ⟨List.mem_cons_of_mem old there, other⟩
          · exact Or.inr (Or.inl ⟨first, List.mem_cons_of_mem old there, same, is⟩)
          · refine Or.inr (Or.inr ⟨is, ?_⟩)
            rw [List.map_cons, List.mem_cons, not_or]
            exact ⟨Ne.symm apart, absent⟩

/-- Every occurrence is the one that introduced its key, with what the last one of the key reports.
The induction is from the end of what is taken in: the last report of a key is its last element. -/
theorem eq_refreshedBy_of_mem_recordAll (unique : (events.map (·.key)).Nodup)
    (member : o ∈ recordAll later events) :
    ∃ first, firstOf o.key (events ++ later) = some first ∧ o = first.refreshedBy later := by
  induction later using List.reverseRecOn generalizing o with
  | nil =>
      refine ⟨o, ?_, (refreshedBy_of_none rfl).symm⟩
      rw [List.append_nil]
      exact firstOf_of_mem unique member
  | append_singleton later e inductionHypothesis =>
      rw [recordAll_concat] at member
      rw [← List.append_assoc]
      rcases mem_recordIn (nodup_keys_recordAll later unique) member with
        ⟨among, apart⟩ | ⟨old, among, same, rfl⟩ | ⟨rfl, absent⟩
      · obtain ⟨first, introduced, rfl⟩ := inductionHypothesis among
        rw [key_refreshedBy] at apart
        exact ⟨first, firstOf_append_of_some introduced,
          (refreshedBy_concat_of_ne apart).symm⟩
      · obtain ⟨first, introduced, rfl⟩ := inductionHypothesis among
        rw [key_refreshedBy] at same
        refine ⟨first, firstOf_append_of_some introduced, ?_⟩
        rw [refresh_refreshedBy, refreshedBy_concat_of_eq same.symm]
      · have new : firstOf o.key (events ++ later) = none := by
          rw [firstOf_eq_none_iff, List.map_append, List.mem_append, ← mem_keys_recordAll]
          exact absent
        refine ⟨o, ?_, ?_⟩
        · rw [firstOf_append_of_none new]
          simp [firstOf]
        · rw [refreshedBy_concat_of_eq rfl, refresh_self]

/-- After taking in, the keys are those from before, and then the new ones in the order in which
they came first. -/
theorem keys_recordAll (later events : List IncidentEvent) :
    (recordAll later events).map (·.key) =
      events.map (·.key) ++ ((later.map (·.key)).removeAll (events.map (·.key))).eraseDups := by
  induction later generalizing events with
  | nil => simp [recordAll]
  | cons e rest inductionHypothesis =>
      have step : (recordAll (e :: rest) events).map (·.key) =
          (e.recordIn events).map (·.key) ++
            ((rest.map (·.key)).removeAll ((e.recordIn events).map (·.key))).eraseDups :=
        inductionHypothesis (e.recordIn events)
      rw [step, map_recordIn (fun _ _ => rfl), List.map_cons]
      by_cases known : e.key ∈ events.map (·.key)
      · simp [known, List.cons_removeAll]
      · -- The new key comes first, and is no longer new to those after it.
        have rest' : (rest.map (·.key)).removeAll (events.map (·.key) ++ [e.key]) =
            ((rest.map (·.key)).removeAll (events.map (·.key))).filter fun k => !k == e.key := by
          unfold List.removeAll
          rw [List.filter_filter]
          refine List.filter_congr fun k _ => ?_
          simp [Bool.and_comm, beq_eq_decide]
        rw [if_neg known, List.cons_removeAll, if_pos (by simpa using known), List.eraseDups_cons,
          rest', List.append_assoc, List.singleton_append]

end IncidentEvent

namespace Incident

open IncidentEvent

variable {i target : Incident} {incoming : List IncidentEvent} {owner : OwnerRef} {now : Instant}
  {o : IncidentEvent}

/-! ## Occurrences of the target -/

/-- An occurrence as one of the target's: a new one belongs to the target from then on. -/
def adopt (target : Incident) (e : IncidentEvent) : IncidentEvent :=
  if e.key ∈ target.keys then e else { e with incidentId := target.id }

theorem identity_adopt (target : Incident) (e : IncidentEvent) :
    (target.adopt e).identity = e.identity := by
  unfold adopt
  split <;> rfl

theorem adopt_of_mem {e : IncidentEvent} (among : e ∈ target.events) : target.adopt e = e :=
  if_pos (List.mem_map_of_mem among)

theorem adopt_of_new {e : IncidentEvent} (new : e.key ∉ target.keys) :
    target.adopt e = { e with incidentId := target.id } :=
  if_neg new

/-- An occurrence after a merge is the one that introduced its key, with what the candidate reports
of the key last. -/
theorem eq_adopt_of_mem_absorb (distinct : target.keys.Nodup)
    (member : o ∈ target.absorb incoming) :
    ∃ first, firstOf o.key (target.events ++ incoming) = some first ∧
      o = (target.adopt first).refreshedBy incoming := by
  rw [absorb_eq_recordAll] at member
  obtain ⟨first, introduced, rfl⟩ := eq_refreshedBy_of_mem_recordAll distinct member
  have sameKey : ∀ e : IncidentEvent, ({ e with incidentId := target.id } : IncidentEvent).key =
      e.key := fun _ => rfl
  have reports : first.refreshedBy (incoming.map fun e => { e with incidentId := target.id }) =
      first.refreshedBy incoming := by
    unfold refreshedBy
    rw [lastOf_map sameKey]
    cases lastOf first.key incoming <;> rfl
  rw [reports]
  rw [key_refreshedBy] at introduced ⊢
  cases known : firstOf first.key target.events with
  | some old =>
      rw [firstOf_append_of_some known] at introduced
      cases introduced
      have among : first ∈ target.events := List.mem_of_find?_eq_some known
      exact ⟨first, firstOf_append_of_some known, by rw [adopt_of_mem among]⟩
  | none =>
      rw [firstOf_append_of_none known, firstOf_map sameKey] at introduced
      obtain ⟨e, found, rfl⟩ := Option.map_eq_some_iff.1 introduced
      have absent : e.key ∉ target.keys := firstOf_eq_none_iff.1 known
      exact ⟨e, (firstOf_append_of_none known).trans found, by rw [adopt_of_new absent]⟩

/-- How an occurrence of a target stands once a candidate was taken in. -/
structure Stands (target : Incident) (incoming : List IncidentEvent) (o : IncidentEvent) :
    Prop where
  /-- The last report of the key counts. -/
  reported : ∀ last, lastOf o.key incoming = some last →
    o.lastSeen = last.lastSeen ∧ o.detail = last.detail
  /-- What nothing was reported of is as it was. -/
  unreported : lastOf o.key incoming = none → o ∈ target.events
  introduced : ∃ first, firstOf o.key (target.events ++ incoming) = some first ∧
    o.id = first.id ∧ o.helmRevision = first.helmRevision
  known : ∀ old ∈ target.events, old.key = o.key → o.incidentId = old.incidentId
  new : o.key ∉ target.keys → o.incidentId = target.id

theorem stands_of_mem_absorb (distinct : target.keys.Nodup) (member : o ∈ target.absorb incoming) :
    Stands target incoming o := by
  obtain ⟨first, introduced, is⟩ := eq_adopt_of_mem_absorb distinct member
  have same : o.identity = first.identity := by
    rw [is, identity_refreshedBy, identity_adopt]
  obtain ⟨id, rest⟩ := Prod.mk.inj same
  obtain ⟨key, revision⟩ := Prod.mk.inj rest
  have adopted : (target.adopt first).key = o.key := by
    rw [is, key_refreshedBy]
  have belongs : o.incidentId = (target.adopt first).incidentId := by
    rw [is, incidentId_refreshedBy]
  refine ⟨?_, ?_, ⟨first, introduced, id, revision⟩, ?_, ?_⟩
  · intro last found
    rw [← adopted] at found
    rw [is, refreshedBy_of_some found]
    exact ⟨rfl, rfl⟩
  · intro none'
    have absent : o.key ∉ incoming.map (·.key) := lastOf_eq_none_iff.1 none'
    have among : first ∈ target.events ++ incoming := List.mem_of_find?_eq_some introduced
    rcases List.mem_append.1 among with old | reported
    · rw [← adopted] at none'
      rw [is, refreshedBy_of_none none', adopt_of_mem old]
      exact old
    · exact absurd (key ▸ List.mem_map_of_mem reported) absent
  · intro old among sameKey
    have own : firstOf o.key target.events = some old := sameKey ▸ firstOf_of_mem distinct among
    rw [firstOf_append_of_some own] at introduced
    cases introduced
    rw [belongs, adopt_of_mem among]
  · intro absent
    rw [belongs, adopt_of_new (key ▸ absent)]

/-! ## Scope -/

/-- The occurrences name more than one pod. -/
def NamesSeveralPods (i : Incident) : Prop :=
  ∃ a ∈ i.events, ∃ b ∈ i.events, (a.podNamespace, a.podName) ≠ (b.podNamespace, b.podName)

theorem one_lt_length_eraseDups_iff {α : Type} [BEq α] [LawfulBEq α] {items : List α} :
    1 < items.eraseDups.length ↔ ∃ a ∈ items, ∃ b ∈ items, a ≠ b := by
  cases items with
  | nil => simp
  | cons a rest =>
      -- More than one is left when some other element stands behind the first.
      have others : 1 < (a :: rest).eraseDups.length ↔ ∃ b ∈ rest, b ≠ a := by
        rw [List.eraseDups_cons, List.length_cons, Nat.lt_add_left_iff_pos,
          List.length_pos_iff_exists_mem]
        simp
      rw [others]
      constructor
      · rintro ⟨b, member, apart⟩
        exact ⟨a, List.mem_cons_self, b, List.mem_cons_of_mem a member, Ne.symm apart⟩
      · rintro ⟨b, memberB, c, memberC, apart⟩
        by_cases first : b = a
        · subst first
          exact ⟨c, (List.mem_cons.1 memberC).resolve_left (Ne.symm apart), Ne.symm apart⟩
        · exact ⟨b, (List.mem_cons.1 memberB).resolve_left first, first⟩

theorem one_lt_distinctPods_iff : 1 < i.distinctPods ↔ i.NamesSeveralPods := by
  unfold distinctPods pods
  rw [one_lt_length_eraseDups_iff]
  simp [NamesSeveralPods]

/-- A merge scopes the target to the owner if the occurrences then name more than one pod, and says
whether that has changed the scope. -/
theorem scope_merge (target : Incident) (incoming : List IncidentEvent) (owner : OwnerRef)
    (now : Instant) :
    ((target.merge incoming owner now).1.NamesSeveralPods →
      (target.merge incoming owner now).1.involvedObject = owner.involvedObject) ∧
    (¬ (target.merge incoming owner now).1.NamesSeveralPods →
      (target.merge incoming owner now).1.involvedObject = target.involvedObject) ∧
    ((target.merge incoming owner now).2 = true ↔
      (target.merge incoming owner now).1.involvedObject ≠ target.involvedObject) := by
  rw [← one_lt_distinctPods_iff]
  unfold merge
  dsimp only
  split
  · rename_i few
    exact ⟨fun several => absurd several (Nat.not_lt.2 few), fun _ => rfl, by simp⟩
  · rename_i several
    refine ⟨fun _ => rfl, fun few => absurd (Nat.lt_of_not_le several) few, ?_⟩
    rw [decide_eq_true_iff]
    exact ne_comm

/-! ## Merges -/

/-- What a merge makes of a target whose occurrences have distinct keys. Its keys are followed by
the new ones of the candidate, in the order in which they came first; each occurrence has the last
report of its key and the identity of the one that introduced it; and the target is scoped to the
owner exactly when several pods are named. -/
theorem merge_extends_and_refreshes (target candidate : Incident) (owner : OwnerRef) (now : Instant)
    (distinct : target.keys.Nodup) :
    ∃ merged changed, target.merge candidate.events owner now = (merged, changed) ∧
      merged.keys = target.keys ++ (candidate.keys.removeAll target.keys).eraseDups ∧
      merged.keys.Nodup ∧
      (∀ o ∈ merged.events, Stands target candidate.events o) ∧
      merged.lastSeen = now ∧
      (merged.NamesSeveralPods → merged.involvedObject = owner.involvedObject) ∧
      (¬ merged.NamesSeveralPods → merged.involvedObject = target.involvedObject) ∧
      (target.involvedObject ≠ owner.involvedObject →
        (merged.involvedObject = owner.involvedObject ↔ merged.NamesSeveralPods)) ∧
      (changed = true ↔ merged.involvedObject ≠ target.involvedObject) ∧
      merged = { target with
        lastSeen := merged.lastSeen
        involvedObject := merged.involvedObject
        events := merged.events } := by
  obtain ⟨scope, fields⟩ := target.merge_eq candidate.events owner now
  obtain ⟨several, few, flag⟩ := scope_merge target candidate.events owner now
  have events : (target.merge candidate.events owner now).1.events =
      target.absorb candidate.events := by rw [fields]
  have keys : (target.merge candidate.events owner now).1.keys =
      target.keys ++ (candidate.keys.removeAll target.keys).eraseDups := by
    unfold Incident.keys
    rw [events, absorb_eq_recordAll, keys_recordAll, List.map_map]
    rfl
  refine ⟨(target.merge candidate.events owner now).1, (target.merge candidate.events owner now).2,
    rfl, keys, ?_, ?_, ?_, several, few, ?_, flag, ?_⟩
  · unfold Incident.keys
    rw [events, absorb_eq_recordAll]
    exact nodup_keys_recordAll _ distinct
  · rw [events]
    exact fun o member => stands_of_mem_absorb distinct member
  · rw [fields]
  · intro apart
    refine ⟨fun owned => ?_, several⟩
    by_contra single
    exact apart ((few single).symm.trans owned)
  · rw [fields]

/-- A report of a pod that ran out of memory. -/
def report (id pod detail : String) : IncidentEvent where
  id := id
  incidentId := "b"
  podName := pod
  podNamespace := "default"
  summary := "out of memory"
  detail := detail
  isPrimaryCause := true
  lastSeen := .epoch
  helmRevision := 3

/-- An incident of one pod, scoped to it. -/
def ofOnePod : Incident where
  id := "a"
  releaseName := "web"
  releaseNamespace := "default"
  chartName := "web-1.0.0"
  involvedObject := ⟨.pod, "web-0", "default"⟩
  severity := .critical
  status := .active
  createdAt := .epoch
  lastSeen := .epoch
  lastAlerted := none
  resolvedTime := none
  resolvedRetryCount := 0
  events := [{ report "a1" "web-0" "killed" with incidentId := "a" }]

/-- A candidate that reports of another pod twice, and of the same one in between. -/
def repeating : Incident :=
  { ofOnePod with
    id := "b"
    events := [report "b1" "web-1" "killed", report "b2" "web-0" "killed again",
      report "b3" "web-1" "killed again"] }

def deployment : OwnerRef where
  kind := .deployment
  name := "web"
  namespaceName := "default"
  chartName := "web-1.0.0"
  releaseName := "web"
  helmRevision := 3

theorem merge_extends_and_refreshes_of_repeats :
    ofOnePod.keys.Nodup ∧
      ∃ merged changed, ofOnePod.merge repeating.events deployment .epoch = (merged, changed) ∧
        merged.keys.map (·.podName) = ["web-0", "web-1"] ∧
        (∀ o ∈ merged.events, Stands ofOnePod repeating.events o) ∧
        merged.events.map (fun o => (o.id, o.incidentId, o.detail)) =
          [("a1", "a", "killed again"), ("b1", "a", "killed again")] ∧
        merged.involvedObject = ⟨.deployment, "web", "default"⟩ ∧ changed = true := by
  have distinct : ofOnePod.keys.Nodup := by decide
  obtain ⟨merged, changed, same, keys, -, stands, -, several, -, -, flag, -⟩ :=
    merge_extends_and_refreshes ofOnePod repeating deployment .epoch distinct
  have pods : merged.keys.map (·.podName) = ["web-0", "web-1"] := by
    rw [keys]
    decide
  cases same
  have scope := several (one_lt_distinctPods_iff.1 (by decide))
  refine ⟨distinct, _, _, rfl, pods, stands, by decide, scope, flag.2 ?_⟩
  rw [scope]
  decide

end Incident

end IncidentWatch
