import IncidentWatch.Proofs.Batch.Handling

/-!
# Batches split into their events

Occurrences of one key become one twice: among those of a batch, when its candidate is built,
and in the target, when the candidate is merged into it. Both record one occurrence after the
other, and but for the ids that are given out for them (`IncidentEvent.anonymous`) an
occurrence is a matter of its event and the owner alone. So what a batch records at once is
what its events record one at a time.

For this to be seen in the store, the events have to end up in one incident. They do when they
show the same primary cause of one release (`Shows`) and no active incident has that cause
yet: the first of them creates the incident, and it is the only match for each one after that
(`split_batches_agree`).
-/

set_option autoImplicit false

namespace IncidentWatch

namespace IncidentEvent

variable {f : IncidentEvent → IncidentEvent}

/-! ## Occurrences without ids -/

section Renaming

variable (keys : ∀ e, (f e).key = e.key)
  (refreshes : ∀ e newer : IncidentEvent, f (e.refresh newer) = (f e).refresh (f newer))
include keys refreshes

/-- What leaves keys and reports alone may be applied before recording as well as after it. -/
theorem recordIn_map (e : IncidentEvent) (events : List IncidentEvent) :
    (e.recordIn events).map f = (f e).recordIn (events.map f) := by
  induction events with
  | nil => rfl
  | cons first rest inductionHypothesis =>
      by_cases here : first.key = e.key
      · simp only [recordIn, List.map_cons, keys, here, if_true, refreshes]
      · simp only [recordIn, List.map_cons, keys, here, if_false, inductionHypothesis]

theorem recordAll_map (later events : List IncidentEvent) :
    (recordAll later events).map f = recordAll (later.map f) (events.map f) := by
  induction later generalizing events with
  | nil => rfl
  | cons e rest inductionHypothesis =>
      show (recordAll rest (e.recordIn events)).map f = _
      rw [inductionHypothesis, recordIn_map keys refreshes]
      rfl

end Renaming

/-- An occurrence without the ids that were given out for it. -/
def anonymous (e : IncidentEvent) : IncidentEvent :=
  { e with id := "", incidentId := "" }

theorem anonymous_recordAll (later events : List IncidentEvent) :
    (recordAll later events).map anonymous =
      recordAll (later.map anonymous) (events.map anonymous) :=
  recordAll_map (f := anonymous) (fun _ => rfl) (fun _ _ => rfl) later events

end IncidentEvent

open IncidentEvent

theorem Incident.anonymous_absorb (target : Incident) (incoming : List IncidentEvent) :
    (target.absorb incoming).map anonymous =
      recordAll (incoming.map anonymous) (target.events.map anonymous) := by
  rw [Incident.absorb_eq_recordAll, anonymous_recordAll, List.map_map]
  rfl

/-- What classified events record, but for the ids. -/
def sightings (owner : OwnerRef) (classified : List ClassifiedEvent) : List IncidentEvent :=
  classified.map (Candidate.occurrence "" owner "")

theorem Candidate.anonymous_occurrences {incidentId : String} {owner : OwnerRef}
    {ids : List String} {classified : List ClassifiedEvent}
    (enough : ids.length = classified.length) :
    (Candidate.occurrences incidentId owner ids classified).map anonymous =
      recordAll (sightings owner classified) [] := by
  rw [Candidate.occurrences_eq_recordAll, anonymous_recordAll, List.map_map]
  congr 1
  conv_rhs => rw [sightings, ← List.map_snd_zip (Nat.le_of_eq enough.symm), List.map_map]
  rfl

namespace Incident

variable {i : Incident} {cause : String}

/-- An incident of a single primary cause has that cause. -/
theorem primaryCause_of_forall_keys (some' : i.keys ≠ [])
    (all : ∀ k ∈ i.keys, k.isPrimaryCause = true ∧ k.summary = cause) :
    i.primaryCause = some cause := by
  rw [primaryCause_eq_keys]
  cases keys : i.keys with
  | nil => exact absurd keys some'
  | cons k rest =>
      obtain ⟨primary, summary⟩ := all k (keys ▸ List.mem_cons_self)
      simp [primary, summary]

end Incident

namespace Sequential

open Interleaving

/-! ## Events of one cause -/

/-- An event that counts, that has its owner's incident filed under a release, and that is
recognised as a primary cause. -/
structure Shows (e : Engine) (owner : OwnerRef) (release cause : String) (event : Event) :
    Prop where
  counts : event.Counts
  filed : Candidate.releaseName owner (some event) = release
  caused : ∃ meaning, e.classifier.classify event = some meaning ∧ meaning.primary = true ∧
    meaning.summary = cause

section Shows

variable {e : Engine} {owner : OwnerRef} {release cause : String} {events : List Event}

theorem counting_of_shows (shows' : ∀ event ∈ events, Shows e owner release cause event) :
    Engine.counting events = events := by
  rw [Engine.counting_eq_filter, List.filter_eq_self]
  exact fun event member => decide_eq_true (shows' event member).counts

theorem exists_counts_of_shows (some' : events ≠ [])
    (shows' : ∀ event ∈ events, Shows e owner release cause event) :
    ∃ event, (events.find? fun event => event.Counts) = some event := by
  rw [← Option.isSome_iff_exists, Engine.find?_counts, counting_of_shows shows',
    List.isSome_head?]
  simpa using some'

theorem mem_classified {c : ClassifiedEvent} :
    c ∈ e.classified events ↔
      c.event ∈ events ∧ e.classifier.classify c.event = some c.meaning := by
  unfold Engine.classified
  rw [List.mem_filterMap]
  constructor
  · rintro ⟨event, member, same⟩
    obtain ⟨meaning, known, rfl⟩ := Option.map_eq_some_iff.1 same
    exact ⟨member, known⟩
  · rintro ⟨member, known⟩
    exact ⟨c.event, member, by rw [known]; rfl⟩

theorem classified_ne_nil (some' : events ≠ [])
    (shows' : ∀ event ∈ events, Shows e owner release cause event) :
    e.classified events ≠ [] := by
  obtain ⟨event, member⟩ := List.exists_mem_of_ne_nil events some'
  obtain ⟨meaning, known, -⟩ := (shows' event member).caused
  have recognized : (⟨event, meaning⟩ : ClassifiedEvent) ∈ e.classified events :=
    mem_classified.2 ⟨member, known⟩
  exact List.ne_nil_of_mem recognized

/-- An active incident of a release with a primary cause. -/
structure Bears (owner : OwnerRef) (release cause : String) (i : Incident) : Prop where
  filed : i.releaseKey = ⟨release, owner.namespaceName⟩
  active : i.status = .active
  caused : i.hasPrimaryCause cause = true

variable {object : InvolvedObject} {id : String} {given : List String} {now : Instant}
  {candidate i : Incident}

/-- The candidate of such events bears their cause, and looks for it. -/
theorem bears_candidateOf (some' : events ≠ [])
    (shows' : ∀ event ∈ events, Shows e owner release cause event)
    (enough : given.length = (e.classified (Engine.counting events)).length) :
    Bears owner release cause (candidateOf e events owner object id given now) ∧
      Saving.cause (candidateOf e events owner object id given now) = cause := by
  have counted := counting_of_shows shows'
  have all : ∀ k ∈ (candidateOf e events owner object id given now).keys,
      k.isPrimaryCause = true ∧ k.summary = cause := by
    intro k member
    obtain ⟨c, recognized, rfl⟩ := List.mem_map.1 ((Candidate.mem_keys_occurrences enough).1 member)
    rw [counted] at recognized
    obtain ⟨among, known⟩ := mem_classified.1 recognized
    obtain ⟨meaning, known', primary, summary⟩ := (shows' c.event among).caused
    cases known.symm.trans known'
    exact ⟨primary, summary⟩
  cases recognized : e.classified events with
  | nil => exact absurd recognized (classified_ne_nil some' shows')
  | cons c rest =>
      have among : c ∈ e.classified events := recognized ▸ List.mem_cons_self
      have keyed : c.key ∈ (candidateOf e events owner object id given now).keys :=
        (Candidate.mem_keys_occurrences enough).2 (List.mem_map_of_mem (counted.symm ▸ among))
      have caused := Incident.primaryCause_of_forall_keys (List.ne_nil_of_mem keyed) all
      have filed : (candidateOf e events owner object id given now).releaseName = release := by
        show Candidate.releaseName owner
          ((e.classified (Engine.counting events)).head?.map (·.event)) = release
        rw [counted, recognized]
        exact (shows' c.event (mem_classified.1 among).1).filed
      refine ⟨⟨?_, rfl, Incident.hasPrimaryCause_of_primaryCause caused⟩, ?_⟩
      · rw [Incident.releaseKey, filed]
        rfl
      · rw [Saving.cause, caused]
        rfl

/-- Such a candidate matches those that bear its cause. -/
theorem matches_iff_bears (bears : Bears owner release cause candidate)
    (looksFor : Saving.cause candidate = cause) :
    Matches candidate i ↔ Bears owner release cause i := by
  unfold Matches
  rw [bears.filed, looksFor]
  exact ⟨fun ⟨filed, active, caused⟩ => ⟨filed, active, caused⟩,
    fun other => ⟨other.filed, other.active, other.caused⟩⟩

/-- Merging takes nothing away from what an incident bears. -/
theorem Bears.merge (bears : Bears owner release cause i) (incoming : List IncidentEvent)
    (now : Instant) : Bears owner release cause (i.merge incoming owner now).1 := by
  obtain ⟨scope, fields⟩ := i.merge_eq incoming owner now
  obtain ⟨k, member, primary, summary⟩ := Incident.hasPrimaryCause_iff.1 bears.caused
  refine ⟨?_, ?_, Incident.hasPrimaryCause_iff.2
    ⟨k, Incident.mem_keys_merge.2 (Or.inl member), primary, summary⟩⟩
  · rw [fields]
    exact bears.filed
  · rw [fields]
    exact bears.active

end Shows

/-! ## Handling such events -/

/-- Collaborators that refuse nothing, tell the same owner of the pods of some events, and tell of
no health of it that cannot be compared. -/
structure Working (c : Nat → Collaborators) (e : Engine) (owner : OwnerRef) (events : List Event) :
    Prop where
  grants : ∀ n, (c n).refusal = none
  owns : ∀ n, ∀ event ∈ events,
    (c n).answer (.owner event.podRef e.settings.queryLimit) = .ok owner
  compares : ∀ n health, (c n).answer
      (.rollout owner.namespaceName owner.name e.settings.queryLimit) = .ok health →
    ∃ failing, health.isFailing = .ok failing

/-- The ids that are given out are none of the store's. -/
def Fresh (c : Nat → Collaborators) (s : Store) : Prop :=
  ∀ n, s.get? ((c n).answer .freshId) = none

section Working

variable {c : Nat → Collaborators} {e : Engine} {events : List Event} {now : Instant} {s : Store}
  {owner : OwnerRef} {release cause : String} {n : Nat}
  {talk : Conversation (Except EngineError BatchOutcome)}

/-- A batch went well, and left this in the store. -/
structure Leaves (talk : Conversation (Except EngineError BatchOutcome))
    (incidents : List Incident) : Prop where
  well : ∃ outcome, talk.result = some (.ok outcome)
  stored : talk.store.incidents = incidents

/-- The last incident is replaced in its place. -/
theorem replace_last {others : List Incident} {i j : Incident}
    (distinct : ((others ++ [i]).map (·.id)).Nodup) (same : j.id = i.id) :
    Store.replace j (others ++ [i]) = others ++ [j] := by
  rw [List.map_append, List.nodup_append] at distinct
  obtain ⟨-, -, apart⟩ := distinct
  have kept : others.map (fun old => if old.id = j.id then j else old) = others := by
    refine (List.map_congr_left fun old member => if_neg fun identical => ?_).trans
      (List.map_id' others)
    exact apart old.id (List.mem_map_of_mem member) i.id (List.mem_singleton_self _)
      (identical.trans same)
  rw [Store.replace, List.map_append, kept, List.map_singleton, if_pos same.symm]

theorem Working.of_mem (working : Working c e owner events) {event : Event}
    (member : event ∈ events) : Working c e owner [event] where
  grants := working.grants
  owns := fun n => List.forall_mem_singleton.2 (working.owns n event member)
  compares := working.compares

theorem mem_of_clusterCalls_eq {xs calls : List Exchange} {x : Exchange}
    (same : clusterCalls xs = x :: calls) : x ∈ xs := by
  have member : x ∈ clusterCalls xs := same ▸ List.mem_cons_self
  exact List.mem_of_mem_filter member

/-- With such collaborators, a batch in which an event is recognised has its candidate saved. -/
theorem Working.stores (working : Working c e owner events) (room : s.size < UInt64.size)
    (first : ∃ event, (events.find? fun event => event.Counts) = some event)
    (some' : e.classified (Engine.counting events) ≠ []) :
    ∃ id given object xs result s',
      given.length = (e.classified (Engine.counting events)).length ∧
      (∃ k, (c k).answer .freshId = id) ∧
      Stores c s (candidateOf e events owner object id given now) owner now ⟨xs, some result, s'⟩ ∧
      converse c (e.handleBatch events now).run n s = ⟨xs, some (result.map .ofSave), s'⟩ := by
  have handling : Handling c e events now s (converse c (e.handleBatch events now).run n s) :=
    leads_handleBatch e events now room n
  have answered : ∀ {x}, x ∈ (converse c (e.handleBatch events now).run n s).exchanges →
      ¬ x.request.AsksStore → ∃ k, x.answer = (c k).answer x.request := answer_of_mem
  generalize converse c (e.handleBatch events now).run n s = talk at handling answered
  obtain ⟨event, counts⟩ := first
  cases handling with
  | insignificant low skips =>
      obtain ⟨member, significant, -⟩ := counts_of_find? counts
      exact absurd (low event member) significant
  | podless high none' skips =>
      rw [none'] at counts
      cases counts
  | ownerless found skips =>
      obtain ⟨k, told⟩ := answered (mem_of_clusterCalls_eq skips.calls_eq) nofun
      rw [working.owns k _ (counts_of_find? found).1] at told
      cases told
  | unrecognized found none' skips => exact absurd none' some'
  | faulty found recognizes calls ill apart =>
      obtain ⟨k, told⟩ := answered (mem_of_clusterCalls_eq calls) nofun
      rw [working.owns k _ (counts_of_find? found).1] at told
      cases told
      obtain ⟨kind, health, fault, rfl, fails⟩ := ill
      rw [healthCalls, if_pos kind] at calls
      have asked := List.mem_of_mem_filter
        (calls.symm ▸ List.mem_cons_of_mem _ (List.mem_singleton_self _))
      obtain ⟨k', told⟩ := answered asked nofun
      obtain ⟨failing, compared⟩ := working.compares k' health told.symm
      rw [fails] at compared
      cases compared
  | saved found recognizes calls well enough fresh stores =>
      obtain ⟨k, told⟩ := answered (mem_of_clusterCalls_eq calls) nofun
      rw [working.owns k _ (counts_of_find? found).1] at told
      cases told
      obtain ⟨k', given⟩ := answered fresh nofun
      exact ⟨_, _, _, _, _, _, enough, ⟨k', given.symm⟩, stores, rfl⟩

/-- Events that show a cause have a candidate saved that bears it, with what they record. -/
theorem Working.stores_shown (working : Working c e owner events) (room : s.size < UInt64.size)
    (some' : events ≠ []) (shows' : ∀ event ∈ events, Shows e owner release cause event) :
    ∃ candidate xs result s', Bears owner release cause candidate ∧
      (∀ i, Matches candidate i ↔ Bears owner release cause i) ∧
      candidate.events.map anonymous = recordAll (sightings owner (e.classified events)) [] ∧
      (∃ k, (c k).answer .freshId = candidate.id) ∧
      Stores c s candidate owner now ⟨xs, some result, s'⟩ ∧
      converse c (e.handleBatch events now).run n s = ⟨xs, some (result.map .ofSave), s'⟩ := by
  have counted := counting_of_shows shows'
  obtain ⟨id, given, object, xs, result, s', enough, fresh, stores, ran⟩ :=
    working.stores room (exists_counts_of_shows some' shows')
      (counted.symm ▸ classified_ne_nil some' shows')
  obtain ⟨bears, looksFor⟩ := bears_candidateOf some' shows' enough
  refine ⟨_, xs, result, s', bears, fun i => matches_iff_bears bears looksFor, ?_, fresh, stores,
    ran⟩
  exact (Candidate.anonymous_occurrences enough).trans (by rw [counted])

/-- Where no incident bears the cause, events that show it create one that does. -/
theorem Working.creates (working : Working c e owner events) (fresh : Fresh c s)
    (room : s.size < UInt64.size) (unborne : ∀ i ∈ s.incidents, ¬ Bears owner release cause i)
    (some' : events ≠ []) (shows' : ∀ event ∈ events, Shows e owner release cause event) :
    ∃ i, Leaves (converse c (e.handleBatch events now).run n s) (s.incidents ++ [i]) ∧
      Bears owner release cause i ∧
      i.events.map anonymous = recordAll (sightings owner (e.classified events)) [] := by
  obtain ⟨candidate, xs, result, s', bears, matches', recorded, ⟨k, given⟩, stores, ran⟩ :=
    working.stores_shown room some' shows'
  rw [ran]
  cases stores with
  | refused fails error =>
      rcases error with ⟨k', refuses⟩ | ⟨-, taken⟩
      · rw [working.grants] at refuses
        cases refuses
      · obtain ⟨-, old, there⟩ := Store.taken_of_create taken
        have free : s.get? candidate.id = none := given ▸ fresh k
        cases free.symm.trans there
  | created none' writes created =>
      exact ⟨candidate, ⟨⟨_, rfl⟩, Store.incidents_of_create created⟩, bears, recorded⟩
  | merged found writes updated =>
      have matched := List.find?_some found
      exact absurd ((matches' _).1 (of_decide_eq_true matched))
        (unborne _ (List.mem_of_find?_eq_some found))

/-- Where only the last incident bears the cause, events that show it are merged into that one. -/
theorem Working.merges (working : Working c e owner events) {others : List Incident} {i : Incident}
    (split : s.incidents = others ++ [i]) (room : s.size < UInt64.size)
    (unborne : ∀ j ∈ others, ¬ Bears owner release cause j) (borne : Bears owner release cause i)
    (some' : events ≠ []) (shows' : ∀ event ∈ events, Shows e owner release cause event) :
    ∃ j, Leaves (converse c (e.handleBatch events now).run n s) (others ++ [j]) ∧
      Bears owner release cause j ∧
      j.events.map anonymous = recordAll (recordAll (sightings owner (e.classified events)) [])
        (i.events.map anonymous) := by
  obtain ⟨candidate, xs, result, s', -, matches', recorded, -, stores, ran⟩ :=
    working.stores_shown room some' shows'
  have onlyLast : (s.incidents.find? fun j => Matches candidate j) = some i := by
    rw [split, List.find?_append, List.find?_eq_none.2, Option.none_or]
    · exact List.find?_cons_of_pos (decide_eq_true ((matches' i).2 borne))
    · intro j member matched
      exact unborne j member ((matches' j).1 (of_decide_eq_true matched))
  rw [ran]
  cases stores with
  | refused fails error =>
      rcases error with ⟨k', refuses⟩ | ⟨none', -⟩
      · rw [working.grants] at refuses
        cases refuses
      · cases none'.symm.trans onlyLast
  | created none' writes created => cases none'.symm.trans onlyLast
  | merged found writes updated =>
      cases found.symm.trans onlyLast
      obtain ⟨scope, fields⟩ := i.merge_eq candidate.events owner now
      refine ⟨_, ⟨⟨_, rfl⟩, ?_⟩, borne.merge candidate.events now, ?_⟩
      · have distinct := split ▸ s.distinct
        refine (Store.incidents_of_update updated).trans (split ▸ replace_last distinct ?_)
        rw [fields]
      · rw [fields, ← recorded]
        exact Incident.anonymous_absorb i candidate.events

end Working

/-! ## One at a time -/

/-- The store after handling events one at a time, each at its instant, if all goes well. -/
def inTurn (c : Nat → Collaborators) (e : Engine) : List (Event × Instant) → Nat → Store →
    Option Store
  | [], _, s => some s
  | item :: later, n, s =>
    let talk := converse c (e.handleBatch [item.1] item.2).run n s
    match talk.result with
    | some (.ok _) => inTurn c e later (n + talk.exchanges.length) talk.store
    | _ => none

section InTurn

variable {c : Nat → Collaborators} {e : Engine} {owner : OwnerRef} {release cause : String}
  {others : List Incident}

theorem inTurn_cons {item : Event × Instant} {n : Nat} {s : Store} {incidents : List Incident}
    (leaves : Leaves (converse c (e.handleBatch [item.1] item.2).run n s) incidents)
    (later : List (Event × Instant)) : ∃ n' s₁, s₁.incidents = incidents ∧
      inTurn c e (item :: later) n s = inTurn c e later n' s₁ := by
  obtain ⟨⟨outcome, ends⟩, stored⟩ := leaves
  refine ⟨n + (converse c (e.handleBatch [item.1] item.2).run n s).exchanges.length, _, stored, ?_⟩
  rw [inTurn, ends]

theorem sightings_append (owner : OwnerRef) (events events' : List Event) :
    sightings owner (e.classified (events ++ events')) =
      sightings owner (e.classified events) ++ sightings owner (e.classified events') := by
  unfold sightings Engine.classified
  rw [List.filterMap_append, List.map_append]

/-- One event records what it shows, and nothing twice. -/
theorem recordAll_sightings_singleton (owner : OwnerRef) (event : Event) :
    recordAll (sightings owner (e.classified [event])) [] =
      sightings owner (e.classified [event]) := by
  unfold sightings Engine.classified
  cases known : e.classifier.classify event with
  | none => simp [known, recordAll]
  | some meaning => simp [known, recordAll, recordIn]

/-- Once the last incident bears the cause, all further events end up in it. -/
theorem inTurn_merges (unborne : ∀ j ∈ others, ¬ Bears owner release cause j)
    (items : List (Event × Instant))
    (working : ∀ item ∈ items, Working c e owner [item.1])
    (shows' : ∀ item ∈ items, Shows e owner release cause item.1) (done : List Event) (n : Nat)
    (s : Store) (i : Incident) (split : s.incidents = others ++ [i])
    (room : others.length + 1 < UInt64.size) (borne : Bears owner release cause i)
    (recorded : i.events.map anonymous = recordAll (sightings owner (e.classified done)) []) :
    ∃ s' j, inTurn c e items n s = some s' ∧ s'.incidents = others ++ [j] ∧
      j.events.map anonymous =
        recordAll (sightings owner (e.classified (done ++ items.map (·.1)))) [] := by
  induction items generalizing done n s i with
  | nil => exact ⟨s, i, rfl, split, by simpa using recorded⟩
  | cons item later inductionHypothesis =>
      obtain ⟨works, working'⟩ := List.forall_mem_cons.1 working
      obtain ⟨here, others'⟩ := List.forall_mem_cons.1 shows'
      have room' : s.size < UInt64.size := by
        rw [Store.size, split, List.length_append, List.length_singleton]
        exact room
      obtain ⟨j, leaves, borne', recorded'⟩ := works.merges (n := n) split room' unborne borne
        (List.cons_ne_nil item.1 []) (List.forall_mem_singleton.2 here)
      obtain ⟨n', s₁, split', same⟩ := inTurn_cons leaves later
      rw [recordAll_sightings_singleton, recorded] at recorded'
      have further : j.events.map anonymous =
          recordAll (sightings owner (e.classified (done ++ [item.1]))) [] := by
        rw [recorded', sightings_append, recordAll, recordAll, recordAll, List.foldl_append]
      obtain ⟨s', k, ran, stored, all⟩ :=
        inductionHypothesis working' others' (done ++ [item.1]) n' s₁ j split' borne' further
      refine ⟨s', k, same.trans ran, stored, ?_⟩
      rw [all, List.map_cons, List.append_assoc]
      rfl

/-- Events that show one primary cause, which no active incident has yet, leave the same occurrences
in the store when they are handled as a batch and when they are handled one at a time, but for the
ids that were given out. -/
theorem split_batches_agree (e : Engine) (owner : OwnerRef) (release cause : String)
    (items : List (Event × Instant)) (now : Instant) (s : Store) (c c' : Nat → Collaborators)
    (n n' : Nat) (some' : items ≠ [])
    (shows' : ∀ item ∈ items, Shows e owner release cause item.1)
    (unborne : ∀ i ∈ s.incidents, ¬ Bears owner release cause i)
    (working : Working c e owner (items.map (·.1)))
    (working' : Working c' e owner (items.map (·.1)))
    (fresh : Fresh c s) (fresh' : Fresh c' s) (room : s.size + 1 < UInt64.size) :
    ∃ i j s', Leaves (converse c (e.handleBatch (items.map (·.1)) now).run n s)
        (s.incidents ++ [i]) ∧
      inTurn c' e items n' s = some s' ∧ s'.incidents = s.incidents ++ [j] ∧
      i.events.map anonymous = j.events.map anonymous := by
  have shown : ∀ event ∈ items.map (·.1), Shows e owner release cause event := by
    intro event member
    obtain ⟨item, among, rfl⟩ := List.mem_map.1 member
    exact shows' item among
  obtain ⟨i, leaves, -, recorded⟩ := working.creates (n := n) fresh (Nat.lt_of_succ_lt room) unborne
    (mt List.map_eq_nil_iff.1 some') shown
  have each : ∀ item ∈ items, Working c' e owner [item.1] :=
    fun item member => working'.of_mem (List.mem_map_of_mem member)
  cases items with
  | nil => exact absurd rfl some'
  | cons item later =>
      obtain ⟨works, each'⟩ := List.forall_mem_cons.1 each
      obtain ⟨here, others⟩ := List.forall_mem_cons.1 shows'
      obtain ⟨j, leaves', borne, recorded'⟩ := works.creates (n := n') fresh'
        (Nat.lt_of_succ_lt room) unborne (List.cons_ne_nil item.1 [])
        (List.forall_mem_singleton.2 here)
      obtain ⟨n₁, s₁, split, same⟩ := inTurn_cons leaves' later
      obtain ⟨s', k, ran, stored, all⟩ :=
        inTurn_merges unborne later each' others [item.1] n₁ s₁ j split room borne recorded'
      exact ⟨i, k, s', leaves, same.trans ran, stored, recorded.trans all.symm⟩

/-- Two pods run out of memory, and the first one does so again. -/
def oneAfterAnother : List (Event × Instant) :=
  [(Sample.event "web-0" "OOMKilled", .epoch), (Sample.event "web-1" "OOMKilled", .epoch),
    ({ Sample.event "web-0" "OOMKilled" with message := "again", timestamp := Sample.settled },
      Sample.settled)]

theorem split_batches_agree_of_oneAfterAnother :
    oneAfterAnother ≠ [] ∧
      (∀ item ∈ oneAfterAnother,
        Shows Sample.engine Sample.deployment "web" "out of memory" item.1) ∧
      Working (fun _ => Sample.deployed 2 "id") Sample.engine Sample.deployment
        (oneAfterAnother.map (·.1)) ∧
      Fresh (fun _ => Sample.deployed 2 "id") .empty ∧
      ∃ i j s', Leaves (converse (fun _ => Sample.deployed 2 "id")
          (Sample.engine.handleBatch (oneAfterAnother.map (·.1)) .epoch).run 0 .empty) [i] ∧
        inTurn (fun _ => Sample.deployed 2 "id") Sample.engine oneAfterAnother 0 .empty = some s' ∧
        s'.incidents = [j] ∧ i.events.map anonymous = j.events.map anonymous := by
  have shows' : ∀ item ∈ oneAfterAnother,
      Shows Sample.engine Sample.deployment "web" "out of memory" item.1 := by
    simp only [oneAfterAnother, List.forall_mem_cons, List.not_mem_nil, false_implies,
      implies_true, and_true]
    refine ⟨⟨by decide, rfl, ?_⟩, ⟨by decide, rfl, ?_⟩, ⟨by decide, rfl, ?_⟩⟩
    · exact ⟨⟨"out of memory", "Pod default/web-0 reported OOMKilled", true⟩, by decide +kernel,
        rfl, rfl⟩
    · exact ⟨⟨"out of memory", "Pod default/web-1 reported OOMKilled", true⟩, by decide +kernel,
        rfl, rfl⟩
    · exact ⟨⟨"out of memory", "Pod default/web-0: again", true⟩, by decide +kernel, rfl, rfl⟩
  have working : Working (fun _ => Sample.deployed 2 "id") Sample.engine Sample.deployment
      (oneAfterAnother.map (·.1)) := by
    refine ⟨fun _ => rfl, fun _ _ _ => rfl, fun _ health told => ⟨false, ?_⟩⟩
    cases told
    decide
  have fresh : Fresh (fun _ => Sample.deployed 2 "id") .empty := fun _ => rfl
  have some' : oneAfterAnother ≠ [] := List.cons_ne_nil _ _
  exact ⟨some', shows', working, fresh, split_batches_agree Sample.engine Sample.deployment "web"
    "out of memory" oneAfterAnother .epoch .empty _ _ 0 0 some' shows' (fun _ => nofun) working
    working fresh fresh (by decide)⟩

end InTurn

end Sequential

end IncidentWatch
