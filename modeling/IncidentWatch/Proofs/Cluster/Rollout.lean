import IncidentWatch.Cluster.Object
import IncidentWatch.Proofs.Text.Trimming

/-!
# What a rollout tolerates

A percentage is written as a numeral before a percent sign, and is read as its number
(`scaled_of_isPercentage`). A rollout whose strategy does not count pods tolerates a percentage of
its replicas: none at all where they are replaced at once, the one that is said, or a quarter
(`Tolerates`). Of no more than a hundred percent the part that may be unavailable lies between
nothing and all, so the difference that a judgement needs never overflows, and a rollout whose
health is found is judged as its numbers say (`failing_below_the_tolerated_part`).

The health itself is found unless the product with the percentage overflows, although the part of
the replicas would fit (`health_of_tolerates`). That is the one thing that can go wrong with a
rollout that the cluster admits (`health_is_found_unless_replicas_are_many`), and it does go wrong
with many replicas (`health_of_one_replica_more`).
-/

set_option autoImplicit false

namespace IncidentWatch

open Text

namespace Quota

/-- A quota is a percentage: a numeral before a percent sign, with or without a sign of its own, and
with blanks around it or none. -/
inductive IsPercentage : Quota → Nat → Prop where
  | intro {body sign digits : List Char} (around : Surrounds body (sign ++ digits))
      (isSign : IsSign sign (value digits)) (numeral : IsNumeral digits) :
      IsPercentage (.text (String.ofList (body ++ ['%']))) (value digits)

variable {q : Quota} {total : Int32} {p : Nat}

/-- A percentage of a total is taken as what it says. -/
theorem scaled_of_isPercentage (percentage : q.IsPercentage p) (fits : p ≤ int32Max) :
    q.scaled total = percentOf total (Int32.ofInt p) := by
  obtain ⟨around, isSign, numeral⟩ := percentage
  rename_i body sign digits
  have read : number? body = some (Int32.ofInt (value digits)) := by
    rw [number?, trim_of_surrounds around, signed?_of_isSign isSign numeral fits]
    rfl
  simp [scaled, read]

/-- A part of a total is rounded down, unless the product overflows. -/
theorem percentOf_ofInt (wanted : 0 ≤ total.toInt) (part : p ≤ 100) :
    percentOf total (Int32.ofInt p) = if total.toInt * p ≤ int32Max
      then .ok (Int32.ofInt (total.toInt * p / 100)) else .error .multiplyOverflow := by
  have percent : (Int32.ofInt p).toInt = p := Int32.toInt_ofInt_of_le (by omega) (by omega)
  have low : 0 ≤ total.toInt * p := Int.mul_nonneg wanted (Int.natCast_nonneg p)
  have top : (int32Max : Int) = 2147483647 := rfl
  unfold percentOf
  rw [percent]
  by_cases fits : total.toInt * p ≤ int32Max
  · obtain ⟨product, found⟩ : ∃ w, Word.int32 .multiplyOverflow (total.toInt * p) = .ok w :=
      ⟨_, Word.int32_eq_ok_iff.2 ⟨by omega, rfl⟩⟩
    rw [found, if_pos fits]
    show Except.ok (Int32.ofInt (product.toInt.tdiv 100)) = _
    rw [Word.toInt_of_int32 found, Int.tdiv_eq_ediv_of_nonneg low]
  · rw [if_neg fits, Word.int32, if_neg (by omega)]
    rfl

end Quota

namespace RolloutHealth

/-- Unless the difference overflows, the numbers are compared as they are. -/
theorem isFailing_eq {h : RolloutHealth}
    (fits : -2147483648 ≤ h.desired.toInt - h.maxUnavailable.toInt ∧
      h.desired.toInt - h.maxUnavailable.toInt ≤ 2147483647) :
    h.isFailing = .ok (decide (h.ready.toInt < h.desired.toInt - h.maxUnavailable.toInt)) := by
  obtain ⟨needed, found⟩ : ∃ w, Word.int32 .subtractOverflow
      (h.desired.toInt - h.maxUnavailable.toInt) = .ok w :=
    ⟨_, Word.int32_eq_ok_iff.2 ⟨fits, rfl⟩⟩
  rw [isFailing, found]
  have same : h.ready < needed ↔ h.ready.toInt < h.desired.toInt - h.maxUnavailable.toInt := by
    rw [Int32.lt_iff_toInt_lt, Word.toInt_of_int32 found]
  exact congrArg Except.ok (decide_eq_decide.2 same)

end RolloutHealth

namespace Rollout

variable {r : Rollout} {p : Nat}

/-- A rollout replaces its replicas at once: it has no strategy, or one of another type. -/
def IsAtOnce (r : Rollout) : Prop :=
  ∀ s ∈ r.strategy, ∃ type, s.type = some type ∧ type ≠ "RollingUpdate"

/-- A rollout replaces its replicas one by one. -/
def IsRolling (r : Rollout) (s : Strategy) : Prop :=
  r.strategy = some s ∧ (s.type = none ∨ s.type = some "RollingUpdate")

/-- The percentage of its replicas that a rollout tolerates to be unavailable. -/
inductive Tolerates (r : Rollout) : Nat → Prop where
  | none (atOnce : r.IsAtOnce) : Tolerates r 0
  | quarter {s : Strategy} (rolling : r.IsRolling s) (unsaid : s.maxUnavailable = .none) :
      Tolerates r 25
  | said {s : Strategy} {q : Quota} {p : Nat} (rolling : r.IsRolling s)
      (said : s.maxUnavailable = some q) (percentage : q.IsPercentage p) (part : p ≤ 100) :
      Tolerates r p

theorem Tolerates.le (tolerates : r.Tolerates p) : p ≤ 100 := by
  cases tolerates with
  | none atOnce => decide
  | quarter rolling unsaid => decide
  | said rolling said percentage part => exact part

theorem filter_isRolling_of_isAtOnce (atOnce : r.IsAtOnce) :
    r.strategy.filter (·.isRolling) = none := by
  rw [Option.filter_eq_none_iff]
  intro s strategy
  obtain ⟨type, typed, other⟩ := atOnce s strategy
  simp [Strategy.isRolling, typed, other]

theorem filter_isRolling_of_isRolling {s : Strategy} (rolling : r.IsRolling s) :
    r.strategy.filter (·.isRolling) = some s := by
  obtain ⟨strategy, untyped | typed⟩ := rolling
  · simp [strategy, Option.filter, Strategy.isRolling, untyped]
  · simp [strategy, Option.filter, Strategy.isRolling, typed]

/-- The tolerated part of the replicas is rounded down, unless the product overflows. -/
theorem maxUnavailable_of_tolerates (wanted : 0 ≤ r.desired.toInt) (tolerates : r.Tolerates p) :
    r.maxUnavailable = if r.desired.toInt * p ≤ int32Max
      then .ok (Int32.ofInt (r.desired.toInt * p / 100)) else .error .multiplyOverflow := by
  unfold maxUnavailable
  cases tolerates with
  | none atOnce =>
      rw [filter_isRolling_of_isAtOnce atOnce]
      simp
  | quarter rolling unsaid =>
      rw [filter_isRolling_of_isRolling rolling]
      simp only [unsaid]
      exact Quota.percentOf_ofInt wanted (by decide)
  | said rolling said percentage part =>
      rw [filter_isRolling_of_isRolling rolling]
      simp only [said]
      rw [Quota.scaled_of_isPercentage percentage (part.trans (by decide))]
      exact Quota.percentOf_ofInt wanted part

/-- The health of a rollout is found unless the product overflows. -/
theorem health_of_tolerates (wanted : 0 ≤ r.desired.toInt) (tolerates : r.Tolerates p) :
    r.health = if r.desired.toInt * p ≤ int32Max
      then .ok ⟨r.desired, r.ready.getD 0, Int32.ofInt (r.desired.toInt * p / 100)⟩
      else .error .multiplyOverflow := by
  unfold health
  rw [maxUnavailable_of_tolerates wanted tolerates]
  split <;> rfl

end Rollout

namespace RolloutHealth

variable {h h' : RolloutHealth} {r : Int32} {p p' : Nat}

/-- The numbers of a rollout of so many replicas that tolerates a percentage of them. -/
structure Follows (h : RolloutHealth) (r : Int32) (p : Nat) : Prop where
  desired : h.desired = r
  rounded : h.maxUnavailable.toInt = r.toInt * p / 100
  wanted : 0 ≤ r.toInt
  part : p ≤ 100

namespace Follows

theorem tolerated_nonneg (f : h.Follows r p) : 0 ≤ h.maxUnavailable.toInt := by
  rw [f.rounded]
  exact Int.ediv_nonneg (Int.mul_nonneg f.wanted (Int.natCast_nonneg p)) (by decide)

theorem tolerated_le (f : h.Follows r p) : h.maxUnavailable.toInt ≤ r.toInt := by
  have product : r.toInt * p ≤ r.toInt * 100 :=
    Int.mul_le_mul_of_nonneg_left (by have := f.part; omega) f.wanted
  rw [f.rounded]
  omega

/-- Of less than a hundred percent something remains needed. -/
theorem tolerated_lt (f : h.Follows r p) (any : 0 < r.toInt) (less : p < 100) :
    h.maxUnavailable.toInt < r.toInt := by
  have product : r.toInt * p < r.toInt * 100 := Int.mul_lt_mul_of_pos_left (by omega) any
  rw [f.rounded]
  omega

theorem tolerated_mono (f : h.Follows r p) (f' : h'.Follows r p') (more : p ≤ p') :
    h.maxUnavailable.toInt ≤ h'.maxUnavailable.toInt := by
  have product : r.toInt * p ≤ r.toInt * p' :=
    Int.mul_le_mul_of_nonneg_left (by omega) f.wanted
  rw [f.rounded, f'.rounded]
  omega

theorem isFailing_eq (f : h.Follows r p) :
    h.isFailing = .ok (decide (h.ready.toInt < r.toInt - h.maxUnavailable.toInt)) := by
  have low := f.tolerated_nonneg
  have high := f.tolerated_le
  have top := r.toInt_lt
  rw [RolloutHealth.isFailing_eq (by rw [f.desired]; omega), f.desired]

/-- Whatever number of replicas is ready. -/
theorem withReady (f : h.Follows r p) (ready : Int32) : Follows { h with ready } r p :=
  ⟨f.desired, f.rounded, f.wanted, f.part⟩

end Follows

end RolloutHealth

namespace Rollout

variable {p : Nat} {health : RolloutHealth}

theorem follows_of_health {r : Rollout} (wanted : 0 ≤ r.desired.toInt) (tolerates : r.Tolerates p)
    (found : r.health = .ok health) :
    health.Follows r.desired p ∧ health.ready = r.ready.getD 0 := by
  rw [health_of_tolerates wanted tolerates] at found
  by_cases fits : r.desired.toInt * p ≤ int32Max
  · rw [if_pos fits] at found
    cases found
    have low : 0 ≤ r.desired.toInt * p := Int.mul_nonneg wanted (Int.natCast_nonneg p)
    have top : (int32Max : Int) = 2147483647 := rfl
    exact ⟨⟨rfl, Int32.toInt_ofInt_of_le (by omega) (by omega), wanted, tolerates.le⟩, rfl⟩
  · rw [if_neg fits] at found
    cases found

variable {d : Deployment} {r : Int32}

/-- A rollout of so many replicas that tolerates a percentage of them, rounded down, is failing when
fewer are ready than the rest, and its health, once found, can be judged with any number that is
ready. Nobody fails who has all replicas; who has none fails unless everything is tolerated; and
more that are ready or tolerated do not make a rollout fail. -/
theorem failing_below_the_tolerated_part (replicas : d.rollout.replicas.getD 1 = r)
    (wanted : 0 ≤ r.toInt) (tolerates : d.rollout.Tolerates p)
    (found : d.rollout.health = .ok health) :
    health.desired = r ∧ health.ready = d.rollout.ready.getD 0 ∧
    health.maxUnavailable.toInt = r.toInt * p / 100 ∧
    (0 ≤ health.maxUnavailable.toInt ∧ health.maxUnavailable.toInt ≤ r.toInt) ∧
    (d.rollout.IsAtOnce → health.maxUnavailable = 0) ∧
    (∀ ready : Int32, RolloutHealth.isFailing { health with ready } =
      .ok (decide (ready.toInt < r.toInt - health.maxUnavailable.toInt))) ∧
    (r ≤ health.ready → health.isFailing = .ok false) ∧
    (health.ready = 0 → 0 < r → p < 100 → health.isFailing = .ok true) ∧
    (∀ (d' : Deployment) (p' : Nat) (health' : RolloutHealth),
      d'.rollout.replicas.getD 1 = r → d'.rollout.Tolerates p' → d'.rollout.health = .ok health' →
      p ≤ p' → health.ready ≤ health'.ready →
      health.isFailing = .ok false → health'.isFailing = .ok false) := by
  obtain rfl : d.rollout.desired = r := replicas
  obtain ⟨f, ready⟩ := follows_of_health wanted tolerates found
  have low := f.tolerated_nonneg
  refine ⟨f.desired, ready, f.rounded, ⟨low, f.tolerated_le⟩, fun atOnce => ?_,
    fun ready => (f.withReady ready).isFailing_eq, fun all => ?_, fun unready any less => ?_, ?_⟩
  · have rounded := (follows_of_health wanted (.none atOnce) found).1.rounded
    exact Int32.toInt_inj.1 (by rw [rounded]; simp)
  · have enough := Int32.le_iff_toInt_le.1 all
    rw [f.isFailing_eq, decide_eq_false (by omega)]
  · have lacking := f.tolerated_lt (Int32.lt_iff_toInt_lt.1 any) less
    rw [f.isFailing_eq, unready, decide_eq_true (by rw [Int32.toInt_zero]; omega)]
  · intro d' p' health' replicas' tolerates' found' more ready' well
    have desired' : d'.rollout.desired = d.rollout.desired := replicas'
    obtain ⟨f', -⟩ := follows_of_health (by rwa [desired']) tolerates' found'
    rw [desired'] at f'
    have tolerated := f.tolerated_mono f' more
    have enough := Int32.le_iff_toInt_le.1 ready'
    rw [f.isFailing_eq, Except.ok.injEq, decide_eq_false_iff_not] at well
    rw [f'.isFailing_eq, decide_eq_false (by omega)]

/-- Seven replicas of which half may be unavailable, as an example. -/
def halfTolerated : Deployment where
  metadata := {}
  rollout := ⟨some 7, some ⟨none, some (.text " +050 %")⟩, some 3⟩

theorem halfTolerated_tolerates : halfTolerated.rollout.Tolerates 50 := by
  have blank : ∀ c ∈ [' '], isBlank c = true := List.all_eq_true.1 rfl
  have around : Surrounds [' ', '+', '0', '5', '0', ' '] (['+'] ++ ['0', '5', '0']) := by
    refine ⟨⟨[' '], [' '], rfl, blank, blank⟩, ?_, ?_⟩ <;> rintro c ⟨⟩ <;> rfl
  have percentage : (Quota.text " +050 %").IsPercentage 50 :=
    .intro around (.inr (.inl rfl)) ⟨List.all_eq_true.1 rfl, List.cons_ne_nil _ _⟩
  exact .said ⟨rfl, .inl rfl⟩ rfl percentage (by decide)

/-- Three of seven may be unavailable, so three that are ready are too few, and four are enough. -/
theorem failing_below_the_tolerated_part_of_half :
    halfTolerated.rollout.health = .ok ⟨7, 3, 3⟩ ∧
      RolloutHealth.isFailing ⟨7, 3, 3⟩ = .ok true ∧
      RolloutHealth.isFailing ⟨7, 4, 3⟩ = .ok false := by
  have found : halfTolerated.rollout.health = .ok ⟨7, 3, 3⟩ := by decide +kernel
  obtain ⟨-, -, -, -, -, judged, -⟩ :=
    failing_below_the_tolerated_part (r := 7) rfl (by decide) halfTolerated_tolerates found
  exact ⟨found, judged 3, judged 4⟩

end Rollout

/-! ## Rollouts that the cluster admits -/

/-- What may be said of the pods that may be unavailable: a number that is not negative, or no more
than a hundred percent. -/
inductive Quota.IsAdmitted : Quota → Prop where
  | count {n : Int32} (counted : 0 ≤ n) : IsAdmitted (.count n)
  | percentage {q : Quota} {p : Nat} (percentage : q.IsPercentage p) (part : p ≤ 100) :
      IsAdmitted q

namespace Rollout

/-- What may be said of a rollout; whatever is not said is left to its default. -/
structure IsAdmitted (r : Rollout) : Prop where
  replicas : ∀ n ∈ r.replicas, 0 ≤ n
  quota : ∀ s ∈ r.strategy, ∀ q ∈ s.maxUnavailable, q.IsAdmitted
  ready : ∀ n ∈ r.ready, 0 ≤ n

variable {r : Rollout} {d : Deployment} {p : Nat} {health : RolloutHealth}

theorem IsAdmitted.wanted (admitted : r.IsAdmitted) : 0 ≤ r.desired.toInt := by
  unfold desired
  cases said : r.replicas with
  | none => decide
  | some n => exact Int32.le_iff_toInt_le.1 (admitted.replicas n said)

theorem isAtOnce_or_isRolling (r : Rollout) : r.IsAtOnce ∨ ∃ s, r.IsRolling s := by
  cases strategy : r.strategy with
  | none => exact .inl (by simp [IsAtOnce, strategy])
  | some s =>
      cases typed : s.type with
      | none => exact .inr ⟨s, strategy, .inl typed⟩
      | some type =>
          by_cases rolling : type = "RollingUpdate"
          · exact .inr ⟨s, strategy, .inr (rolling ▸ typed)⟩
          · exact .inl (by simpa [IsAtOnce, strategy, typed] using rolling)

/-- What is admitted is a percentage, or a number of pods. -/
theorem IsAdmitted.tolerates_or_counts (admitted : r.IsAdmitted) : (∃ p, r.Tolerates p) ∨
    ∃ s n, r.IsRolling s ∧ s.maxUnavailable = some (.count n) ∧ 0 ≤ n.toInt := by
  rcases r.isAtOnce_or_isRolling with atOnce | ⟨s, rolling⟩
  · exact .inl ⟨0, .none atOnce⟩
  · cases said : s.maxUnavailable with
    | none => exact .inl ⟨25, .quarter rolling said⟩
    | some q =>
        cases admitted.quota s rolling.1 q said with
        | count counted => exact .inr ⟨s, _, rolling, said, Int32.le_iff_toInt_le.1 counted⟩
        | percentage percentage part => exact .inl ⟨_, .said rolling said percentage part⟩

/-- Where pods are counted there is no product. -/
theorem health_of_count {s : Strategy} {n : Int32} (rolling : r.IsRolling s)
    (said : s.maxUnavailable = some (.count n)) :
    r.health = .ok ⟨r.desired, r.ready.getD 0, n⟩ := by
  unfold health maxUnavailable
  rw [filter_isRolling_of_isRolling rolling]
  simp only [said]
  rfl

/-- What is found of an admitted rollout is judged by the numbers themselves. -/
theorem IsAdmitted.isFailing_eq (admitted : r.IsAdmitted) (found : r.health = .ok health) :
    health.isFailing = .ok (decide (health.ready.toInt <
      health.desired.toInt - health.maxUnavailable.toInt)) := by
  have wanted := admitted.wanted
  have top := r.desired.toInt_lt
  rcases admitted.tolerates_or_counts with ⟨p, tolerates⟩ | ⟨s, n, rolling, said, counted⟩
  · obtain ⟨f, -⟩ := follows_of_health wanted tolerates found
    rw [f.isFailing_eq, f.desired]
  · -- More pods may be unavailable than there are, but neither number is negative.
    have many := n.toInt_lt
    rw [health_of_count rolling said] at found
    cases found
    exact RolloutHealth.isFailing_eq (by dsimp only; omega)

/-- The health of an admitted deployment is found and judged as its numbers say, unless the product
of its replicas and the percentage that it tolerates does not fit the words: then the product
overflows. -/
theorem health_is_found_unless_replicas_are_many (admitted : d.rollout.IsAdmitted) :
    ((∀ p, d.rollout.Tolerates p → d.rollout.desired.toInt * p ≤ int32Max) ↔
      ∃ health, d.rollout.health = .ok health ∧ health.isFailing =
        .ok (decide (health.ready.toInt < health.desired.toInt - health.maxUnavailable.toInt))) ∧
    (∀ p, d.rollout.Tolerates p → int32Max < d.rollout.desired.toInt * p →
      d.rollout.health = .error .multiplyOverflow) := by
  have wanted := admitted.wanted
  have many : ∀ p, d.rollout.Tolerates p → int32Max < d.rollout.desired.toInt * p →
      d.rollout.health = .error .multiplyOverflow := fun p tolerates large => by
    rw [health_of_tolerates wanted tolerates, if_neg (by omega)]
  refine ⟨⟨fun fits => ?_, fun ⟨health, found, _⟩ p tolerates => ?_⟩, many⟩
  · have found : ∃ health, d.rollout.health = .ok health := by
      rcases admitted.tolerates_or_counts with ⟨p, tolerates⟩ | ⟨s, n, rolling, said, -⟩
      · exact ⟨_, (health_of_tolerates wanted tolerates).trans (if_pos (fits p tolerates))⟩
      · exact ⟨_, health_of_count rolling said⟩
    obtain ⟨health, found⟩ := found
    exact ⟨health, found, admitted.isFailing_eq found⟩
  · by_contra large
    rw [many p tolerates (by omega)] at found
    cases found

/-- A rollout that says nothing of the pods that may be unavailable, as an example. -/
def quarterTolerated (replicas ready : Int32) : Deployment where
  metadata := {}
  rollout := ⟨some replicas, some ⟨some "RollingUpdate", none⟩, some ready⟩

theorem quarterTolerated_isAdmitted {replicas ready : Int32} (wanted : 0 ≤ replicas)
    (counted : 0 ≤ ready) : (quarterTolerated replicas ready).rollout.IsAdmitted where
  replicas := by
    rintro n ⟨⟩
    exact wanted
  quota := by
    rintro s ⟨⟩ q said
    cases said
  ready := by
    rintro n ⟨⟩
    exact counted

/-- Of as many replicas as there can be a quarter of, one more than that is missing. -/
theorem health_is_found_unless_replicas_are_many_of_largest :
    (quarterTolerated 85899345 64424508).rollout.IsAdmitted ∧
      ∃ health, (quarterTolerated 85899345 64424508).rollout.health = .ok health ∧
        health.isFailing = .ok true := by
  have admitted : (quarterTolerated 85899345 64424508).rollout.IsAdmitted :=
    quarterTolerated_isAdmitted (by decide) (by decide)
  have fits : ∀ p, (quarterTolerated 85899345 64424508).rollout.Tolerates p →
      (quarterTolerated 85899345 64424508).rollout.desired.toInt * p ≤ int32Max := by
    intro p tolerates
    cases tolerates with
    | none atOnce => decide
    | quarter rolling unsaid => decide
    | said rolling said percentage part =>
        obtain ⟨⟨⟩, -⟩ := rolling
        cases said
  have numbers : (quarterTolerated 85899345 64424508).rollout.health =
      .ok ⟨85899345, 64424508, 21474836⟩ := by
    decide +kernel
  obtain ⟨health, found, judged⟩ := (health_is_found_unless_replicas_are_many admitted).1.1 fits
  refine ⟨admitted, health, found, ?_⟩
  rw [numbers] at found
  cases found
  exact judged

/-- One replica more is admitted, and has no health. -/
theorem health_of_one_replica_more :
    (quarterTolerated 85899346 85899346).rollout.IsAdmitted ∧
      (quarterTolerated 85899346 85899346).rollout.health = .error .multiplyOverflow :=
  ⟨quarterTolerated_isAdmitted (by decide) (by decide), by decide +kernel⟩

end Rollout

end IncidentWatch
