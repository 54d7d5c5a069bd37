import IncidentWatch.Proofs.Course.Records
import IncidentWatch.Proofs.Ledger.Sweep
import IncidentWatch.Proofs.Sequential.Conversation

/-!
# The gauge of active incidents

At its end a sweep sets a gauge to the number of incidents that it has examined, less those
that it has resolved. Where nobody else writes to the store, that is the number of active
incidents that are left there (`leads_gauge`): the sweep has examined all active incidents,
and what it knows under a lock is what is stored (`Mirrors`), so each charge is one active
incident less (`leads_visits`).

What is subtracted is never more than what it is subtracted from, so once a sweep has visited
all incidents it ends with a report.
-/

set_option autoImplicit false

namespace IncidentWatch

open Interleaving

/-- What is known is stored. -/
def Mirrors (known : List Incident) (s : Store) : Prop :=
  ∀ id i, known.find? (·.id = id) = some i → s.get? id = some i

/-- The metrics after some exchanges. -/
def Metrics.after (m : Metrics) (xs : List Exchange) : Metrics :=
  xs.foldl (fun m x => m.asked x.request) m

namespace Careful

variable {l : Ledger} {s s' : Store} {r : Request} {a : r.Answer} {c : Collaborators}

theorem accountable (careful : Careful l r) (mirrors : Mirrors l.known s) :
    Accountable l.known s r := by
  cases r with
  | create i => exact careful.elim
  | update i =>
      obtain ⟨old, knows, stays⟩ := careful
      exact ⟨old, mirrors i.id old knows, knows, stays⟩
  | measure m => exact careful
  | _ => trivial

/-- What is asked for with care creates no incident. -/
theorem size_served (careful : Careful l r) (served : serve c s r = some (a, s')) :
    s'.size = s.size := by
  rcases serve_cases served with same | ⟨i, rfl, -⟩ | ⟨i, rfl, updated⟩
  · rw [same]
  · exact careful.elim
  · exact Store.size_of_ids_eq (Store.ids_of_update updated)

end Careful

namespace Mirrors

variable {known : List Incident} {s s' : Store} {r : Request} {a : r.Answer} {c : Collaborators}

theorem nothing (s : Store) : Mirrors [] s :=
  fun _ _ found => nomatch found

theorem shown (mirrors : Mirrors known s) (items : List Incident)
    (stored : ∀ i ∈ items, s.get? i.id = some i) : Mirrors (items ++ known) s := by
  intro id i found
  rw [List.find?_append, Option.or_eq_some_iff] at found
  rcases found with here | ⟨-, there⟩
  · have same : i.id = id := by simpa using List.find?_some here
    rw [← same]
    exact stored i (List.mem_of_find?_eq_some here)
  · exact mirrors id i there

theorem updated {i : Incident} (mirrors : Mirrors known s) (updated : s.update i = .ok s') :
    Mirrors (i :: known) s' := by
  intro id j found
  rw [Store.get?_update updated]
  by_cases same : i.id = id
  · rw [List.find?_cons_of_pos (by simpa using same)] at found
    rw [if_pos same.symm]
    exact found
  · rw [List.find?_cons_of_neg (by simpa using same)] at found
    rw [if_neg (Ne.symm same)]
    exact mirrors id j found

/-- As long as nobody else writes, what is known is stored. -/
theorem next {l : Ledger} (mirrors : Mirrors l.known s) (careful : Careful l r)
    (served : serve c s r = some (a, s')) : Mirrors (l.next r a).known s' := by
  cases r with
  | lock release => exact nothing s'
  | unlock release => exact nothing s'
  | create i => exact careful.elim
  | update i =>
      rcases serve_update served with ⟨rfl, updated⟩ | ⟨error, rfl, rfl⟩
      · exact mirrors.updated updated
      · exact mirrors
  | _ =>
      obtain rfl := store_of_reads served (fun _ => nofun) (fun _ => nofun)
      exact mirrors.shown _ fun i member => get?_of_shown served member

end Mirrors

namespace Sequential

variable {α σ : Type} {c : Nat → Collaborators} {s : Store}

/-- A program that heeds a rule leads to what it should end with by what was observed, and what is
kept by the requests that the rule allows is kept along the conversation. -/
theorem leads_of_heeds {o : Observer σ} {may : σ → Request → Prop} {post : α → σ → Prop}
    {known : σ} {p : Program α} (J : σ → Store → Prop)
    (kept : ∀ {known s r a s'} k, may known r → serve (c k) s r = some (a, s') → J known s →
      J (o.next known r a) s')
    (heeds : p.Heeds o may post known) (start : J known s) :
    Leads c p s fun talk => (∀ x ∈ talk.exchanges, ∃ known', may known' x.request) ∧
      ∃ known', J known' talk.store ∧ ∀ a, talk.result = some a → post a known' := by
  intro n
  induction p generalizing known s n with
  | done a =>
      refine ⟨fun x member => absurd member List.not_mem_nil, known, start, fun b same => ?_⟩
      cases same
      exact heeds
  | halt fault =>
      refine ⟨fun x member => absurd member List.not_mem_nil, known, start, fun b came => ?_⟩
      cases came
  | ask r next inductionHypothesis =>
      rw [converse]
      cases served : serve (c n) s r with
      | none =>
          refine ⟨fun x member => absurd member List.not_mem_nil, known, start, fun b came => ?_⟩
          cases came
      | some answered =>
          obtain ⟨a, s'⟩ := answered
          obtain ⟨allowed, ends⟩ := inductionHypothesis a (heeds.2 a)
            (kept n heeds.1 served start) (n + 1)
          refine ⟨?_, ends⟩
          exact List.forall_mem_cons.2 ⟨⟨known, heeds.1⟩, allowed⟩

end Sequential

namespace Engine

open IncidentWatch.Sequential

variable {c : Nat → Collaborators}

/-- A conversation about the visits of a sweep: the locks are not pruned, and of the active
incidents those are left that the report does not count as resolved. -/
structure Visited (s : Store) (examined : Nat)
    (talk : Conversation (Except EngineError SweepReport)) : Prop where
  unpruned : ∀ x ∈ talk.exchanges, x.request ≠ .pruneLocks
  counts : ∀ report, talk.result = some (.ok report) → report.examined = examined ∧
    report.resolved ≤ examined ∧ talk.store.countOf .active + report.resolved = s.countOf .active

theorem leads_visits (e : Engine) (now : Instant) (s : Store) (found : List Incident) :
    Leads c (found.foldlM (e.visit now) { examined := found.length } : Work SweepReport).run s
      (Visited s found.length) := by
  let J (l : Ledger) (s' : Store) : Prop := Mirrors l.known s' ∧ s'.size = s.size ∧
    (s'.countOf .resolved : Int) = s.countOf .resolved + l.charges .stored
  have start : J {} s := ⟨Mirrors.nothing s, rfl, (Int.add_zero _).symm⟩
  refine (leads_of_heeds J ?_ (heeds_visits e now found (Ledger.charged_nothing {})) start).mono ?_
  · rintro l s₁ r a s₂ k careful served ⟨mirrors, size, counts⟩
    refine ⟨mirrors.next careful served, (careful.size_served served).trans size, ?_⟩
    rw [countOf_resolved_served served (careful.accountable mirrors), counts, Int.add_assoc]
    rfl
  rintro talk ⟨allowed, l, ⟨-, size, counts⟩, ends⟩
  refine ⟨?_, ?_⟩
  · intro x member prunes
    obtain ⟨l', careful⟩ := allowed x member
    rw [prunes] at careful
    exact careful
  · intro report came
    obtain ⟨examined, charges, settled, -⟩ := ends _ came
    have stored : l.charges .stored = report.resolved := charges .stored
    have before := s.countOf_active_add_resolved
    have after := talk.store.countOf_active_add_resolved
    refine ⟨examined, ?_, ?_⟩
    · omega
    · omega

/-- A conversation of a sweep in which the gauge is right: with a report, it shows how many active
incidents are left, whatever the metrics were before; and there is a report once the locks are
pruned. -/
structure Gauged (talk : Conversation (Except EngineError SweepReport)) : Prop where
  shows : ∀ report, talk.result = some (.ok report) → ∀ m : Metrics,
    (m.after talk.exchanges).value .activeIncidents = talk.store.countOf .active
  ends : (∃ x ∈ talk.exchanges, x.request = .pruneLocks) →
    ∃ report, talk.result = some (.ok report)

/-- A sweep that breaks off before it prunes the locks. -/
theorem gauged_of_unpruned {xs : List Exchange} {result : Option (Except EngineError SweepReport)}
    {s : Store} (fails : ∀ report, result ≠ some (.ok report))
    (unpruned : ∀ x ∈ xs, x.request ≠ .pruneLocks) : Gauged ⟨xs, result, s⟩ :=
  ⟨fun report came => absurd came (fails report),
    fun ⟨x, member, prunes⟩ => absurd prunes (unpruned x member)⟩

/-- The gauge shows what was set, for a latency is counted elsewhere. -/
theorem value_of_closing (m : Metrics) (v : Int) :
    ((m.record (.set .activeIncidents v)).record (.add .sweepLatency 1)).value .activeIncidents =
      v := by
  rw [Metrics.record, Metrics.value_set, if_neg (by decide), Metrics.record, Metrics.value_set,
    if_pos rfl]

/-- In a sweep that nobody disturbs, over a store of fewer incidents than a word can count, the
gauge is right. -/
theorem leads_gauge (e : Engine) (now : Instant) (s : Store) (room : s.size < UInt64.size) :
    Leads c (e.sweep now).run s Gauged := by
  have lists : ∀ {xs}, Pages .active xs → ∀ x ∈ xs, x.request ≠ .pruneLocks := by
    intro xs pages x member prunes
    obtain ⟨p, asks⟩ := pages x member
    cases asks.symm.trans prunes
  unfold sweep
  refine leads_work_bind (leads_listAll room) ?_ ?_ ?_
  · intro xs s' led
    cases led
  · intro xs error s' led
    cases led with
    | refused pages => exact gauged_of_unpruned (fun _ => nofun) (lists pages)
  rintro xs _ _ ⟨pages⟩
  refine leads_work_bind (leads_visits e now s (s.matching .active)) ?_ ?_ ?_
  · rintro ys s' ⟨unpruned, -⟩
    refine gauged_of_unpruned (fun _ => nofun) ?_
    exact List.forall_mem_append.2 ⟨lists pages, unpruned⟩
  · rintro ys error s' ⟨unpruned, -⟩
    refine gauged_of_unpruned (fun _ => nofun) ?_
    exact List.forall_mem_append.2 ⟨lists pages, unpruned⟩
  rintro ys report s' ⟨-, counts⟩
  obtain ⟨examined, fewer, left⟩ := counts report rfl
  have few : s.countOf .active ≤ s.size := List.countP_le_length
  have size : UInt64.size = 18446744073709551616 := rfl
  rw [Store.length_matching_active] at examined fewer
  dsimp only at left
  -- What is left is not negative, and no more than the incidents there are.
  obtain ⟨rest, subtracts⟩ : ∃ rest, Word.uint64 .subtractOverflow
      ((report.examined : Int) - report.resolved) = .ok rest :=
    ⟨_, Word.uint64_eq_ok_iff.2 ⟨by omega, rfl⟩⟩
  have value := Word.toNat_of_uint64 subtracts
  refine leads_work_aside nofun fun _ => ?_
  rw [subtracts]
  refine leads_work_aside nofun fun _ => leads_work_aside nofun fun _ => leads_pure ⟨?_, ?_⟩
  · intro _ _ m
    simp only [Metrics.after, Conversation.exchanges_after, List.foldl_append, List.foldl_cons,
      List.foldl_nil, Metrics.asked, value_of_closing, Conversation.store_after]
    omega
  · exact fun _ => ⟨report, rfl⟩

end Engine

end IncidentWatch
