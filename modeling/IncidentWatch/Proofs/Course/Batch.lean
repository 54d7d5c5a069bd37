import IncidentWatch.Proofs.Course.Stage
import IncidentWatch.Proofs.Interleaving.Conduct

/-!
# The course of a batch

A batch follows its rule (`follows_handleBatch`): it asks quietly until it has a candidate,
and under the lock of the release it either creates that candidate or merges it into one
of the incidents that were listed there. Whatever becomes of it, it is done with all
incidents when it ends.
-/

set_option autoImplicit false

namespace IncidentWatch

namespace Engine

open Work

variable {e : Engine} {events : List Event} {now : Instant}

/-- Where a batch deals with no incident, it may ask whatever is quiet. -/
theorem quietly_apart (r : Request) (quiet : r.Quiet) :
    e.BatchMay now events .apart r ∧ ∀ a, Stage.apart.next r a = .apart := by
  cases r <;> first | exact ⟨trivial, fun _ => rfl⟩ | exact quiet.elim

/-! ## Saving -/

section Saving

variable {node : String} {candidate target : Incident} {owner : OwnerRef} {listed : List Incident}

/-- Under the lock, the work can end where the lock may be given back for good. -/
def Leaves (e : Engine) (now : Instant) (events : List Event) (release : ReleaseKey)
    (stage : Stage) : Prop :=
  e.BatchMay now events stage (.unlock release) ∧ stage.unlocked = .apart

theorem leaves_leaving (release : ReleaseKey) : e.Leaves now events release .leaving :=
  ⟨trivial, rfl⟩

theorem follows_saveNew {release : ReleaseKey}
    (isCandidate : e.IsCandidate now events owner candidate) :
    Follows (e.BatchMay now events) (fun _ => e.Leaves now events release)
      (e.Leaves now events release) (Saving.create node candidate) (.entered listed) := by
  unfold Saving.create
  apply follows_bind
  apply Program.follows_ask
  · exact ⟨owner, isCandidate⟩
  · intro answer
    cases answer with
    | ok stored =>
        apply follows_ask trivial
        intro counted
        apply follows_ask trivial
        intro logged
        exact follows_pure (leaves_leaving release)
    | error error => exact leaves_leaving release

theorem follows_mergeInto {release : ReleaseKey} (among : target ∈ listed)
    (isCandidate : e.IsCandidate now events owner candidate) :
    Follows (e.BatchMay now events) (fun _ => e.Leaves now events release)
      (e.Leaves now events release) (Saving.mergeInto node target candidate owner now)
      (.entered listed) := by
  unfold Saving.mergeInto
  apply follows_ask trivial
  intro logged
  apply follows_update
  · exact ⟨target, among, owner, candidate, isCandidate, rfl⟩
  · exact leaves_leaving release
  · apply follows_ask trivial
    intro counted
    apply follows_ask trivial
    intro logged'
    exact follows_pure (leaves_leaving release)

/-- A candidate is saved under the lock of its release, as a new incident or with a listed one. -/
theorem follows_save {pageSize : UInt64} (isCandidate : e.IsCandidate now events owner candidate) :
    Follows (e.BatchMay now events) (fun _ => (· = .apart)) (· = .apart)
      (Saving.save node pageSize candidate owner now) .apart := by
  unfold Saving.save
  apply follows_underLock trivial
  -- Whatever is found was listed under the lock.
  have listing : Follows (e.BatchMay now events)
      (fun found stage => ∃ listed, stage = .entered listed ∧ ∀ i ∈ found, i ∈ listed)
      (e.Leaves now events candidate.releaseKey)
      (Work.listAll (.activeFor candidate.releaseKey) pageSize) (.entered []) := by
    apply follows_listAll
    · rintro items _ p ⟨listed, rfl, -⟩
      trivial
    · rintro items _ page ⟨listed, rfl, among⟩
      refine ⟨page.items ++ listed, rfl, fun i member => ?_⟩
      rcases List.mem_append.1 member with before | here
      · exact List.mem_append_right _ (among i before)
      · exact List.mem_append_left _ here
    · rintro items _ ⟨listed, rfl, -⟩
      trivial
    · rintro items _ ⟨listed, rfl, -⟩
      exact leaves_leaving _
    · exact ⟨[], rfl, fun i member => member⟩
  refine follows_bind (Follows.mono listing ?_ fun _ left => left)
  rintro found _ ⟨listed, rfl, among⟩
  split
  · exact follows_saveNew isCandidate
  · rename_i target present
    exact follows_mergeInto (among target (List.mem_of_find?_eq_some present)) isCandidate

end Saving

/-! ## Batches -/

/-- A batch follows its rule, and is done with all incidents when it ends. -/
theorem follows_handleBatch (e : Engine) (events : List Event) (now : Instant) :
    Follows (e.BatchMay now events) (fun _ => (· = .apart)) (· = .apart)
      (e.handleBatch events now) .apart := by
  have skips : ∀ reason event detail, Follows (e.BatchMay now events) (fun _ => (· = .apart))
      (· = .apart) (liftM (e.skip reason event detail)) .apart := by
    intro reason event detail
    exact ⟨trivial, fun _ => ⟨trivial, fun _ => rfl⟩⟩
  unfold handleBatch
  apply follows_ask trivial
  intro received
  split
  · exact skips _ _ _
  · split
    · exact skips _ _ _
    · rename_i first rest counts
      apply follows_ask trivial
      intro answer
      cases answer with
      | error error => exact skips _ _ _
      | ok owner =>
          dsimp only
          split
          · exact skips _ _ _
          · rename_i recognizes
            apply follows_ask trivial
            intro classified
            refine follows_quietly (Interleaving.quiet_build e _ owner first now)
              (show Stage.apart.OwesNothing from trivial) quietly_apart ?_
            rintro built ⟨id, ids, object, enough, rfl⟩
            have isCandidate : e.IsCandidate now events owner
                (Candidate.build id ids (e.classified (first :: rest)) owner object now) := by
              unfold IsCandidate
              rw [counts]
              exact ⟨recognizes, id, ids, object, enough, rfl⟩
            refine follows_bind (Follows.mono (follows_save isCandidate) ?_ fun _ left => left)
            rintro saved _ rfl
            exact follows_pure rfl

end Engine

end IncidentWatch
