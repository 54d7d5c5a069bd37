import IncidentWatch.Lock
import Mathlib.Data.List.Nodup

/-!
# One holder for each release

Two requests for one release stand in one line, because the entry of a release
stays for as long as a request stands at its lock (`Sound.prune`). So at most one
request holds the lock of a release (`Sound.holder_unique`), and whoever holds one keeps
it until it is given up, whatever others ask for or give up.
-/

set_option autoImplicit false

namespace IncidentWatch.ReleaseLocks

variable {ι : Type} {l : ReleaseLocks ι} {name other : ι} {key asked : ReleaseKey}
  {r : LockRequest ι}

/-- What holds of all locks: releases and locks are paired one to one, every request stands at the
lock of its release, and no two requests have one name. -/
structure Sound (l : ReleaseLocks ι) : Prop where
  releases_nodup : (l.entries.map (·.1)).Nodup
  locks_nodup : (l.entries.map (·.2)).Nodup
  made : ∀ entry ∈ l.entries, entry.2 < l.made
  led : ∀ r ∈ l.requests, (r.release, r.lock) ∈ l.entries
  names_nodup : (l.requests.map (·.name)).Nodup

/-- Whether some request has a name. -/
def Asks (l : ReleaseLocks ι) (name : ι) : Prop :=
  ∃ r ∈ l.requests, r.name = name

theorem sound_empty : (empty : ReleaseLocks ι).Sound :=
  ⟨List.nodup_nil, List.nodup_nil, fun _ member => absurd member List.not_mem_nil,
    fun _ member => absurd member List.not_mem_nil, List.nodup_nil⟩

section Sound

variable (sound : l.Sound)
include sound

theorem Sound.lock_of_release {r r' : LockRequest ι} (member : r ∈ l.requests)
    (member' : r' ∈ l.requests) (same : r.release = r'.release) : r.lock = r'.lock := by
  have entries := List.inj_on_of_nodup_map sound.releases_nodup (sound.led r member)
    (sound.led r' member') same
  exact congrArg Prod.snd entries

theorem Sound.request_of_name {r r' : LockRequest ι} (member : r ∈ l.requests)
    (member' : r' ∈ l.requests) (same : r.name = r'.name) : r = r' :=
  List.inj_on_of_nodup_map sound.names_nodup member member' same

/-- Pruning keeps the entries of those who hold a lock or wait for one. -/
theorem Sound.prune : l.prune.Sound := by
  refine ⟨sound.releases_nodup.sublist (List.filter_sublist.map _),
    sound.locks_nodup.sublist (List.filter_sublist.map _),
    fun entry member => sound.made entry (List.mem_of_mem_filter member), ?_, sound.names_nodup⟩
  intro r member
  refine List.mem_filter.2 ⟨sound.led r member, ?_⟩
  exact List.any_eq_true.2 ⟨r, member, by simp⟩

end Sound

/-! ## Asking for a lock -/

/-- Entering adds at most the entry of the release, which leads to a new lock. -/
theorem enter_cases (l : ReleaseLocks ι) (asked : ReleaseKey) :
    ((asked, (l.enter asked).1) ∈ l.entries ∧ (l.enter asked).2 = l) ∨
      (asked ∉ l.entries.map (·.1) ∧ l.enter asked = (l.made,
        { l with entries := l.entries ++ [(asked, l.made)], made := l.made + 1 })) := by
  unfold enter
  cases found : l.lockOf? asked with
  | some lock =>
      refine Or.inl ⟨?_, rfl⟩
      obtain ⟨before, after, split, -⟩ := List.lookup_eq_some_iff.1 found
      show (asked, lock) ∈ l.entries
      rw [split]
      simp
  | none =>
      refine Or.inr ⟨?_, rfl⟩
      intro member
      obtain ⟨entry, memberEntry, same⟩ := List.mem_map.1 member
      have missing := List.lookup_eq_none_iff.1 found entry memberEntry
      simp [same] at missing

theorem requests_request (l : ReleaseLocks ι) (name : ι) (asked : ReleaseKey) :
    (l.request name asked).requests = l.requests ++ [⟨name, asked, (l.enter asked).1⟩] := by
  rcases enter_cases l asked with ⟨-, same⟩ | ⟨-, same⟩
  · simp only [request, same]
  · simp only [request, same]

/-- A request of a new name keeps the locks sound. -/
theorem Sound.request (sound : l.Sound) (new : ¬ l.Asks name) (asked : ReleaseKey) :
    (l.request name asked).Sound := by
  have names : ((l.request name asked).requests.map (·.name)).Nodup := by
    rw [requests_request, List.map_append, List.nodup_append]
    refine ⟨sound.names_nodup, List.nodup_singleton _, ?_⟩
    rintro a member b single rfl
    obtain ⟨r, memberR, named⟩ := List.mem_map.1 member
    exact new ⟨r, memberR, named.trans (List.mem_singleton.1 single)⟩
  rcases enter_cases l asked with ⟨known, same⟩ | ⟨fresh, same⟩
  · have entries : (l.request name asked).entries = l.entries := by
      simp only [ReleaseLocks.request, same]
    have count : (l.request name asked).made = l.made := by
      simp only [ReleaseLocks.request, same]
    refine ⟨by rw [entries]; exact sound.releases_nodup, by rw [entries]; exact sound.locks_nodup,
      by rw [entries, count]; exact sound.made, ?_, names⟩
    intro r member
    rw [requests_request, List.mem_append, List.mem_singleton] at member
    rw [entries]
    rcases member with old | rfl
    · exact sound.led r old
    · exact known
  · have entries : (l.request name asked).entries = l.entries ++ [(asked, l.made)] := by
      simp only [ReleaseLocks.request, same]
    have count : (l.request name asked).made = l.made + 1 := by
      simp only [ReleaseLocks.request, same]
    have lock : (l.enter asked).1 = l.made := by rw [same]
    have below : ∀ lock ∈ l.entries.map (·.2), lock < l.made := by
      intro lock member
      obtain ⟨entry, memberEntry, rfl⟩ := List.mem_map.1 member
      exact sound.made entry memberEntry
    refine ⟨?_, ?_, ?_, ?_, names⟩
    · rw [entries, List.map_append, List.nodup_append]
      refine ⟨sound.releases_nodup, List.nodup_singleton _, ?_⟩
      rintro a member b single rfl
      have same' : a = asked := List.mem_singleton.1 single
      exact fresh (same' ▸ member)
    · rw [entries, List.map_append, List.nodup_append]
      refine ⟨sound.locks_nodup, List.nodup_singleton _, ?_⟩
      rintro a member b single rfl
      exact Nat.lt_irrefl _ (List.mem_singleton.1 single ▸ below a member)
    · rw [entries, count]
      intro entry member
      rcases List.mem_append.1 member with old | single
      · exact Nat.lt_succ_of_lt (sound.made entry old)
      · rw [List.mem_singleton.1 single]
        exact Nat.lt_succ_self _
    · intro r member
      rw [requests_request, List.mem_append, List.mem_singleton, lock] at member
      rw [entries]
      rcases member with old | rfl
      · exact List.mem_append_left _ (sound.led r old)
      · exact List.mem_append_right _ List.mem_cons_self

variable [DecidableEq ι]

/-! ## Exclusion -/

/-- Whether the request of a name holds the lock of a release. -/
def HoldsFor (l : ReleaseLocks ι) (name : ι) (key : ReleaseKey) : Prop :=
  ∃ r ∈ l.requests, r.name = name ∧ r.release = key ∧ l.isFirst r = true

/-- The first in line is the one request of its name. -/
theorem isFirst_iff : l.isFirst r = true ↔ ∃ first, l.holder? r.lock = some first ∧
    first.name = r.name := by
  simp [isFirst]

section Sound

variable (sound : l.Sound)
include sound

/-- At most one name holds the lock of a release. -/
theorem Sound.holder_unique (holds : l.HoldsFor name key)
    (holds' : l.HoldsFor other key) : name = other := by
  obtain ⟨r, member, rfl, here, first⟩ := holds
  obtain ⟨r', member', rfl, here', first'⟩ := holds'
  obtain ⟨head, atHead, same⟩ := isFirst_iff.1 first
  obtain ⟨head', atHead', same'⟩ := isFirst_iff.1 first'
  rw [sound.lock_of_release member member' (here.trans here'.symm), atHead'] at atHead
  cases atHead
  exact same.symm.trans same'

/-- A name whose request is granted holds the lock of the release that it asked for. -/
theorem Sound.holdsFor_of_holds (granted : l.holds name = true) (member : r ∈ l.requests)
    (named : r.name = name) : l.HoldsFor name r.release := by
  obtain ⟨r', member', both⟩ := List.any_eq_true.1 granted
  simp only [Bool.and_eq_true, decide_eq_true_eq] at both
  have same := sound.request_of_name member' member (both.1.trans named.symm)
  exact ⟨r, member, named, rfl, same ▸ both.2⟩

end Sound

/-! ## What others do -/

/-- Whoever holds a lock still does when others line up behind. -/
theorem HoldsFor.append {l' : ReleaseLocks ι} {later : List (LockRequest ι)}
    (holds : l.HoldsFor other key) (grown : l'.requests = l.requests ++ later) :
    l'.HoldsFor other key := by
  obtain ⟨r, member, named, here, first⟩ := holds
  obtain ⟨head, atHead, same⟩ := isFirst_iff.1 first
  refine ⟨r, ?_, named, here, isFirst_iff.2 ⟨head, ?_, same⟩⟩
  · rw [grown]
    exact List.mem_append_left _ member
  · have still : l.line r.lock ≠ [] := by
      intro nobody
      rw [holder?, nobody] at atHead
      cases atHead
    have line' : l'.line r.lock =
        l.line r.lock ++ later.filter fun x => decide (x.lock = r.lock) := by
      unfold line
      rw [grown, List.filter_append]
    rw [holder?, line', List.head?_append_of_ne_nil _ still]
    exact atHead

/-- Others who hold a lock still do after a request. -/
theorem HoldsFor.request (holds : l.HoldsFor other key) (name : ι) (asked : ReleaseKey) :
    (l.request name asked).HoldsFor other key :=
  holds.append (requests_request l name asked)

theorem Sound.release (sound : l.Sound) (name : ι) : (l.release name).Sound :=
  ⟨sound.releases_nodup, sound.locks_nodup, sound.made,
    fun r member => sound.led r (List.mem_of_mem_filter member),
    sound.names_nodup.sublist (List.filter_sublist.map _)⟩

theorem not_asks_release (l : ReleaseLocks ι) (name : ι) : ¬ (l.release name).Asks name := by
  rintro ⟨r, member, named⟩
  simp only [ReleaseLocks.release, List.mem_filter, decide_eq_true_eq] at member
  exact member.2 named

/-- Others who hold a lock still do after one is given up. -/
theorem HoldsFor.release (holds : l.HoldsFor other key) (apart : other ≠ name) :
    (l.release name).HoldsFor other key := by
  obtain ⟨r, member, named, here, first⟩ := holds
  obtain ⟨head, atHead, same⟩ := isFirst_iff.1 first
  have keeps : decide (head.name ≠ name) = true := by
    rw [same, named, decide_eq_true_eq]
    exact apart
  refine ⟨r, ?_, named, here, isFirst_iff.2 ⟨head, ?_, same⟩⟩
  · simp only [ReleaseLocks.release, List.mem_filter, decide_eq_true_eq]
    exact ⟨member, named ▸ apart⟩
  · obtain ⟨rest, split⟩ := List.head?_eq_some_iff.1 atHead
    have line' : (l.release name).line r.lock =
        (l.line r.lock).filter fun r => decide (r.name ≠ name) := by
      unfold line ReleaseLocks.release
      rw [List.filter_filter, List.filter_filter]
      exact List.filter_congr fun _ _ => Bool.and_comm _ _
    rw [holder?, line', split, List.filter_cons, if_pos keeps]
    rfl

theorem HoldsFor.prune (holds : l.HoldsFor name key) : l.prune.HoldsFor name key :=
  holds

/-- A change of the locks that leaves the requests of a name alone, and what it holds. -/
structure Spares (name : ι) (l l' : ReleaseLocks ι) : Prop where
  requests : ∀ r : LockRequest ι, r.name = name → (r ∈ l'.requests ↔ r ∈ l.requests)
  holds : ∀ key, l.HoldsFor name key → l'.HoldsFor name key

theorem Spares.asks {l' : ReleaseLocks ι} (spares : Spares name l l') :
    l'.Asks name ↔ l.Asks name :=
  ⟨fun ⟨r, member, named⟩ => ⟨r, (spares.requests r named).1 member, named⟩,
    fun ⟨r, member, named⟩ => ⟨r, (spares.requests r named).2 member, named⟩⟩

theorem spares_refl (name : ι) (l : ReleaseLocks ι) : Spares name l l :=
  ⟨fun _ _ => Iff.rfl, fun _ holds => holds⟩

theorem spares_request (l : ReleaseLocks ι) (apart : other ≠ name) (asked : ReleaseKey) :
    Spares other l (l.request name asked) := by
  refine ⟨fun r named => ?_, fun _ holds => holds.request name asked⟩
  rw [requests_request, List.mem_append, List.mem_singleton]
  refine ⟨fun member => member.resolve_right ?_, Or.inl⟩
  rintro rfl
  exact apart named.symm

theorem spares_release (l : ReleaseLocks ι) (apart : other ≠ name) :
    Spares other l (l.release name) := by
  refine ⟨fun r named => ?_, fun _ holds => holds.release apart⟩
  simp only [ReleaseLocks.release, List.mem_filter, decide_eq_true_eq, and_iff_left_iff_imp]
  exact fun _ => named ▸ apart

theorem spares_prune (name : ι) (l : ReleaseLocks ι) : Spares name l l.prune :=
  ⟨fun _ _ => Iff.rfl, fun _ holds => holds.prune⟩

end IncidentWatch.ReleaseLocks
