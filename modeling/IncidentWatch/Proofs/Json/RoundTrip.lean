import IncidentWatch.Api.Response
import IncidentWatch.Engine.Alerting
import IncidentWatch.Incident.Codec
import IncidentWatch.Store.Filter
import IncidentWatch.Store.Page
import IncidentWatch.Proofs.Interleaving.Sample
import IncidentWatch.Proofs.Json.Records

/-!
# What is written in JSON comes back

Each type that is exchanged in JSON has an encoder and a decoder written apart from one another.
They fit: the constants are found under their names, a kind of owner without a name of its own is
wrapped and so told from the kinds whose name it may bear, and each record is carried field by
field, with the optional members that are written as null where there is nothing and those that are
left out.

Only instants may be told apart better than their texts. A clock of universal time shows a leap
second as the second sixty of a minute, so one that follows another second than the last of a
minute is written like the second after it. A value with such an instant has the text of the
value that a clock shows, to which the text decodes (`OnClock.text`). So the text of a value decodes
to the value exactly when a clock can show all its instants (`OnClock.text_eq_iff`), with any
characters in its texts and any integers of its words (`texts_decode_to_what_a_clock_shows`).
-/

set_option autoImplicit false

namespace IncidentWatch

open Decode Fields

/-! ## Constants -/

theorem Bucket.roundTrips (b : Bucket) : RoundTrips Bucket.encode Bucket.decode b :=
  .constant (by cases b <;> rfl)

theorem EventSource.roundTrips (s : EventSource) :
    RoundTrips EventSource.encode EventSource.decode s :=
  .constant (by cases s <;> rfl)

theorem ObjectKind.roundTrips (k : ObjectKind) : RoundTrips ObjectKind.encode ObjectKind.decode k :=
  .constant (by cases k <;> rfl)

theorem Severity.roundTrips (s : Severity) : RoundTrips Severity.encode Severity.decode s :=
  .constant (by cases s <;> rfl)

theorem Status.roundTrips (s : Status) : RoundTrips Status.encode Status.decode s :=
  .constant (by cases s <;> rfl)

theorem ComponentStatus.roundTrips (s : ComponentStatus) :
    RoundTrips ComponentStatus.encode ComponentStatus.decode s :=
  .constant (by cases s <;> rfl)

/-- A kind without a name of its own is not mistaken for one whose name it bears. -/
theorem OwnerKind.roundTrips (k : OwnerKind) : RoundTrips OwnerKind.encode OwnerKind.decode k where
  readsBack := by
    cases k with
    | other name =>
      exact .object fun member among => List.mem_singleton.1 among ▸ .str name
    | _ => exact .str _
  decodes := by cases k <;> rfl

/-! ## Records without instants -/

theorem InvolvedObject.roundTrips (o : InvolvedObject) :
    RoundTrips InvolvedObject.encode InvolvedObject.decode o :=
  .record (by decide) ((Carries.none _).required (ObjectKind.roundTrips _)
    |>.required (.string _)
    |>.required (.string _))

theorem OwnerHint.roundTrips (h : OwnerHint) : RoundTrips OwnerHint.encode OwnerHint.decode h :=
  .record (by decide) ((Carries.none _).required (.string _)
    |>.required (.string _)
    |>.required (.string _)
    |>.defaulted (.int64 _))

theorem OwnerRef.roundTrips (o : OwnerRef) : RoundTrips OwnerRef.encode OwnerRef.decode o :=
  .record (by decide) ((Carries.none _).required (OwnerKind.roundTrips _)
    |>.required (.string _)
    |>.required (.string _)
    |>.required (.string _)
    |>.required (.string _)
    |>.required (.int64 _))

theorem IncidentDetail.roundTrips (d : IncidentDetail) :
    RoundTrips IncidentDetail.encode IncidentDetail.decode d :=
  .record (by decide) ((Carries.none _).required (.string _)
    |>.required (.string _)
    |>.required (.string _)
    |>.required (.bool _))

theorem IncidentFilter.roundTrips (f : IncidentFilter) :
    RoundTrips IncidentFilter.encode IncidentFilter.decode f :=
  .record (by decide) ((Carries.none _).nullable (fun s _ => Status.roundTrips s) nofun
    |>.nullable (fun s _ => .string s) nofun
    |>.nullable (fun s _ => .string s) nofun)

theorem Pagination.roundTrips (p : Pagination) :
    RoundTrips Pagination.encode Pagination.decode p :=
  .record (by decide) ((Carries.none _).required (.size _)
    |>.required (.size _))

theorem Page.roundTrips {α : Type} {encode : α → Json} {decode : Decoder α} {p : Page α}
    (law : ∀ a ∈ p.items, RoundTrips encode decode a) :
    RoundTrips (Page.encode encode) (Page.decode decode) p :=
  .record (show ["items", "total", "page", "page_size", "has_more"].Nodup by decide)
    ((Carries.none _).required (.list law)
      |>.required (.size _)
      |>.required (.size _)
      |>.required (.size _)
      |>.required (.bool _))

theorem ReadinessResponse.roundTrips (r : ReadinessResponse) :
    RoundTrips ReadinessResponse.encode ReadinessResponse.decode r :=
  .record (by decide) ((Carries.none _).required (.bool _)
    |>.omitted (fun s _ => .string s) nofun)

theorem DetectResponse.roundTrips (r : DetectResponse) :
    RoundTrips DetectResponse.encode DetectResponse.decode r :=
  .record (by decide) ((Carries.none _).required (.string _)
    |>.omitted (fun s _ => .string s) nofun
    |>.omitted (fun s _ => .string s) nofun)

/-! ## Values with instants -/

/-- The values of a type come back if a clock can show all their instants. What a clock shows of a
value is the same but for the instants, and is written like the value. -/
structure OnClock {α : Type} (encode : α → Json) (decode : Decoder α)
    (instants : α → List Instant) (shown : α → α) : Prop where
  roundTrips : ∀ a, (∀ t ∈ instants a, t.IsOnClock) → RoundTrips encode decode a
  instants_shown : ∀ a, instants (shown a) = (instants a).map Instant.shown
  encode_shown : ∀ a, encode (shown a) = encode a

namespace OnClock

variable {α : Type} {encode : α → Json} {decode : Decoder α} {instants : α → List Instant}
  {shown : α → α}

/-- The text of a value decodes to what a clock shows of it. -/
theorem text (law : OnClock encode decode instants shown) (a : α) :
    Decode.text decode (encode a).render = .ok (shown a) := by
  rw [← law.encode_shown]
  refine (law.roundTrips (shown a) fun t member => ?_).text
  rw [law.instants_shown] at member
  obtain ⟨u, -, rfl⟩ := List.mem_map.1 member
  exact u.isOnClock_shown

/-- The text of a value decodes to the value exactly when a clock can show all its instants. -/
theorem text_eq_iff (law : OnClock encode decode instants shown) (a : α) :
    Decode.text decode (encode a).render = .ok a ↔ ∀ t ∈ instants a, t.IsOnClock := by
  refine ⟨fun comesBack t member => ?_, fun onClock => (law.roundTrips a onClock).text⟩
  have same : shown a = a := Except.ok.inj ((law.text a).symm.trans comesBack)
  rw [← same, law.instants_shown] at member
  obtain ⟨u, -, rfl⟩ := List.mem_map.1 member
  exact u.isOnClock_shown

end OnClock

theorem Instant.encode_shown (t : Instant) : t.shown.encode = t.encode :=
  congrArg Json.str t.render_shown

theorem Json.ofOption_map_shown (t : Option Instant) :
    Json.ofOption Instant.encode (t.map Instant.shown) = Json.ofOption Instant.encode t := by
  cases t with
  | none => rfl
  | some t => exact t.encode_shown

namespace Event

def instants (v : Event) : List Instant :=
  [v.timestamp]

def shown (v : Event) : Event :=
  { v with timestamp := v.timestamp.shown }

theorem roundTrips {v : Event} (onClock : ∀ t ∈ v.instants, t.IsOnClock) :
    RoundTrips Event.encode Event.decode v :=
  .record (by decide) ((Carries.none _).required (.string _)
    |>.required (.string _)
    |>.required (EventSource.roundTrips _)
    |>.required (.string _)
    |>.defaulted (.string _)
    |>.defaulted (.option (fun n _ => .int32 n) nofun)
    |>.required (Bucket.roundTrips _)
    |>.required (.instant (onClock _ List.mem_cons_self))
    |>.defaulted (.option (fun h _ => OwnerHint.roundTrips h) nofun)
    |>.defaulted (.option (fun s _ => .string s) nofun)
    |>.defaulted (.option (fun s _ => .string s) nofun))

theorem onClock : OnClock Event.encode Event.decode instants shown where
  roundTrips _ := roundTrips
  instants_shown _ := rfl
  encode_shown v := by simp only [encode, shown, Instant.encode_shown]

end Event

namespace IncidentEvent

def instants (v : IncidentEvent) : List Instant :=
  [v.lastSeen]

def shown (v : IncidentEvent) : IncidentEvent :=
  { v with lastSeen := v.lastSeen.shown }

theorem roundTrips {v : IncidentEvent} (onClock : ∀ t ∈ v.instants, t.IsOnClock) :
    RoundTrips IncidentEvent.encode IncidentEvent.decode v :=
  .record (by decide) ((Carries.none _).required (.string _)
    |>.required (.string _)
    |>.required (.string _)
    |>.required (.string _)
    |>.required (.string _)
    |>.required (.string _)
    |>.required (.bool _)
    |>.required (.instant (onClock _ List.mem_cons_self))
    |>.required (.int64 _))

theorem onClock : OnClock IncidentEvent.encode IncidentEvent.decode instants shown where
  roundTrips _ := roundTrips
  instants_shown _ := rfl
  encode_shown v := by simp only [encode, shown, Instant.encode_shown]

end IncidentEvent

namespace Incident

def instants (v : Incident) : List Instant :=
  [v.createdAt, v.lastSeen] ++ v.lastAlerted.toList ++ v.resolvedTime.toList
    ++ v.events.flatMap IncidentEvent.instants

def shown (v : Incident) : Incident :=
  { v with
    createdAt := v.createdAt.shown
    lastSeen := v.lastSeen.shown
    lastAlerted := v.lastAlerted.map Instant.shown
    resolvedTime := v.resolvedTime.map Instant.shown
    events := v.events.map IncidentEvent.shown }

theorem roundTrips {v : Incident} (onClock : ∀ t ∈ v.instants, t.IsOnClock) :
    RoundTrips Incident.encode Incident.decode v := by
  simp only [instants, List.forall_mem_append, List.forall_mem_cons, Option.mem_toList,
    List.mem_flatMap] at onClock
  obtain ⟨⟨⟨⟨created, seen, -⟩, alerted⟩, resolved⟩, events⟩ := onClock
  exact .record (by decide) ((Carries.none _).required (.string _)
    |>.required (.string _)
    |>.required (.string _)
    |>.required (.string _)
    |>.required (InvolvedObject.roundTrips _)
    |>.required (Severity.roundTrips _)
    |>.required (Status.roundTrips _)
    |>.required (.instant created)
    |>.required (.instant seen)
    |>.nullable (fun t there => .instant (alerted t there)) Instant.encode_ne_null
    |>.nullable (fun t there => .instant (resolved t there)) Instant.encode_ne_null
    |>.required (.uint32 _)
    |>.required (.list fun o among =>
      IncidentEvent.roundTrips fun t member => events t ⟨o, among, member⟩))

theorem onClock : OnClock Incident.encode Incident.decode instants shown where
  roundTrips _ := roundTrips
  instants_shown v := by
    simp [instants, shown, List.map_flatMap, List.flatMap_map, IncidentEvent.onClock.instants_shown,
      Option.toList_map]
  encode_shown v := by
    simp only [encode, shown, Instant.encode_shown, Json.ofOption_map_shown, List.map_map,
      Function.comp_def, IncidentEvent.onClock.encode_shown]

end Incident

namespace IncidentView

def instants (v : IncidentView) : List Instant :=
  v.lastSeen :: v.resolvedTime.toList

def shown (v : IncidentView) : IncidentView :=
  { v with
    lastSeen := v.lastSeen.shown
    resolvedTime := v.resolvedTime.map Instant.shown }

theorem roundTrips {v : IncidentView} (onClock : ∀ t ∈ v.instants, t.IsOnClock) :
    RoundTrips IncidentView.encode IncidentView.decode v := by
  simp only [instants, List.forall_mem_cons, Option.mem_toList] at onClock
  obtain ⟨seen, resolved⟩ := onClock
  exact .record (by decide) ((Carries.none _).required (.string _)
    |>.required (.string _)
    |>.required (.string _)
    |>.required (.string _)
    |>.required (ObjectKind.roundTrips _)
    |>.required (.string _)
    |>.required (.string _)
    |>.required (Severity.roundTrips _)
    |>.required (Status.roundTrips _)
    |>.required (.string _)
    |>.required (.list fun d _ => IncidentDetail.roundTrips d)
    |>.required (.instant seen)
    |>.omitted (fun t there => .instant (resolved t there)) Instant.encode_ne_null)

theorem onClock : OnClock IncidentView.encode IncidentView.decode instants shown where
  roundTrips _ := roundTrips
  instants_shown v := by simp [instants, shown, Option.toList_map]
  encode_shown v := by
    simp only [encode, shown, Instant.encode_shown, Option.map_map, Function.comp_def]

end IncidentView

namespace ComponentHealth

def instants (v : ComponentHealth) : List Instant :=
  [v.updatedAt]

def shown (v : ComponentHealth) : ComponentHealth :=
  { v with updatedAt := v.updatedAt.shown }

theorem roundTrips {v : ComponentHealth} (onClock : ∀ t ∈ v.instants, t.IsOnClock) :
    RoundTrips ComponentHealth.encode ComponentHealth.decode v :=
  .record (by decide) ((Carries.none _).required (ComponentStatus.roundTrips _)
    |>.omitted (fun s _ => .string s) nofun
    |>.required (.uint32 _)
    |>.required (.instant (onClock _ List.mem_cons_self)))

theorem onClock : OnClock ComponentHealth.encode ComponentHealth.decode instants shown where
  roundTrips _ := roundTrips
  instants_shown _ := rfl
  encode_shown v := by simp only [encode, standing, shown, Instant.encode_shown]

end ComponentHealth

namespace HealthResponse

def instants (v : HealthResponse) : List Instant :=
  v.components.entries.flatMap fun entry => entry.2.instants

def shown (v : HealthResponse) : HealthResponse :=
  { v with components := v.components.map ComponentHealth.shown }

theorem roundTrips {v : HealthResponse} (onClock : ∀ t ∈ v.instants, t.IsOnClock) :
    RoundTrips HealthResponse.encode HealthResponse.decode v :=
  .record (by decide) ((Carries.none _).required (ComponentStatus.roundTrips _)
    |>.required (.byName fun entry among => ComponentHealth.roundTrips fun t member =>
      onClock t (List.mem_flatMap.2 ⟨entry, among, member⟩)))

theorem onClock : OnClock HealthResponse.encode HealthResponse.decode instants shown where
  roundTrips _ := roundTrips
  instants_shown v := by
    simp only [instants, shown, ByName.map, List.flatMap_map, List.map_flatMap,
      ComponentHealth.onClock.instants_shown]
  encode_shown v := by
    simp only [encode, shown, ByName.map, List.map_map, Function.comp_def,
      ComponentHealth.onClock.encode_shown]

end HealthResponse

/-! ## All texts -/

/-- Of every value that is exchanged, the text decodes: of events with their hints of an owner, of
owners and their kinds, of incidents with their occurrences and views, of filters and pages, and of
the answers on health, on readiness and to a batch. It decodes to the value, but for its instants,
which come back as a clock shows them; so the value itself comes back exactly when a clock can show
all its instants. -/
theorem texts_decode_to_what_a_clock_shows :
    (∀ v : Event, Decode.text Event.decode v.encode.render = .ok v.shown ∧
      (Decode.text Event.decode v.encode.render = .ok v ↔ ∀ t ∈ v.instants, t.IsOnClock)) ∧
    (∀ v : OwnerHint, Decode.text OwnerHint.decode v.encode.render = .ok v) ∧
    (∀ v : OwnerKind, Decode.text OwnerKind.decode v.encode.render = .ok v) ∧
    (∀ v : OwnerRef, Decode.text OwnerRef.decode v.encode.render = .ok v) ∧
    (∀ v : InvolvedObject, Decode.text InvolvedObject.decode v.encode.render = .ok v) ∧
    (∀ v : IncidentEvent, Decode.text IncidentEvent.decode v.encode.render = .ok v.shown ∧
      (Decode.text IncidentEvent.decode v.encode.render = .ok v ↔
        ∀ t ∈ v.instants, t.IsOnClock)) ∧
    (∀ v : Incident, Decode.text Incident.decode v.encode.render = .ok v.shown ∧
      (Decode.text Incident.decode v.encode.render = .ok v ↔ ∀ t ∈ v.instants, t.IsOnClock)) ∧
    (∀ v : IncidentView, Decode.text IncidentView.decode v.encode.render = .ok v.shown ∧
      (Decode.text IncidentView.decode v.encode.render = .ok v ↔
        ∀ t ∈ v.instants, t.IsOnClock)) ∧
    (∀ v : IncidentFilter, Decode.text IncidentFilter.decode v.encode.render = .ok v) ∧
    (∀ v : Pagination, Decode.text Pagination.decode v.encode.render = .ok v) ∧
    (∀ v : Page InvolvedObject, Decode.text (Page.decode InvolvedObject.decode)
      (v.encode InvolvedObject.encode).render = .ok v) ∧
    (∀ v : ComponentHealth, Decode.text ComponentHealth.decode v.encode.render = .ok v.shown ∧
      (Decode.text ComponentHealth.decode v.encode.render = .ok v ↔
        ∀ t ∈ v.instants, t.IsOnClock)) ∧
    (∀ v : HealthResponse, Decode.text HealthResponse.decode v.encode.render = .ok v.shown ∧
      (Decode.text HealthResponse.decode v.encode.render = .ok v ↔
        ∀ t ∈ v.instants, t.IsOnClock)) ∧
    (∀ v : ReadinessResponse, Decode.text ReadinessResponse.decode v.encode.render = .ok v) ∧
    (∀ v : DetectResponse, Decode.text DetectResponse.decode v.encode.render = .ok v) :=
  ⟨fun v => ⟨Event.onClock.text v, Event.onClock.text_eq_iff v⟩,
    fun v => v.roundTrips.text, fun v => v.roundTrips.text, fun v => v.roundTrips.text,
    fun v => v.roundTrips.text,
    fun v => ⟨IncidentEvent.onClock.text v, IncidentEvent.onClock.text_eq_iff v⟩,
    fun v => ⟨Incident.onClock.text v, Incident.onClock.text_eq_iff v⟩,
    fun v => ⟨IncidentView.onClock.text v, IncidentView.onClock.text_eq_iff v⟩,
    fun v => v.roundTrips.text, fun v => v.roundTrips.text,
    fun _ => (Page.roundTrips fun o _ => o.roundTrips).text,
    fun v => ⟨ComponentHealth.onClock.text v, ComponentHealth.onClock.text_eq_iff v⟩,
    fun v => ⟨HealthResponse.onClock.text v, HealthResponse.onClock.text_eq_iff v⟩,
    fun v => v.roundTrips.text, fun v => v.roundTrips.text⟩

open Interleaving

/-- An incident that was announced last at an instant. -/
def announcedAt (t : Instant) : Incident :=
  { Sample.incident "a" with severity := .critical, lastAlerted := some t }

/-- Half of the leap second at the end of the first hour comes back. -/
theorem texts_decode_to_what_a_clock_shows_at_end_of_hour :
    ∃ t : Instant, t.second = 3599 ∧ t.nano = 1500000000 ∧
      (∀ u ∈ (announcedAt t).instants, u.IsOnClock) ∧
      Decode.text Incident.decode (announcedAt t).encode.render = .ok (announcedAt t) := by
  obtain ⟨-, -, -, -, -, -, incident, -⟩ := texts_decode_to_what_a_clock_shows
  have onClock : ∀ u ∈ (announcedAt ⟨3599, 1500000000, by decide, by decide,
      by decide⟩).instants, u.IsOnClock := by decide
  exact ⟨_, rfl, rfl, onClock, (incident _).2.2 onClock⟩

/-- Half of a leap second after the fourth second of a minute is written like half of the fifth, to
which it decodes. An hour after it, an announcement would be due that is not due then. -/
theorem leap_second_inside_a_minute_does_not_come_back :
    ∃ t u now : Instant, t.second = 4 ∧ t.nano = 1500000000 ∧ u.second = 5 ∧ u.nano = 500000000 ∧
      now.second = 3605 ∧ now.nano = 0 ∧
      t.render = "1970-01-01T00:00:05.500Z" ∧
      Decode.text Incident.decode (announcedAt t).encode.render = .ok (announcedAt u) ∧
      announcedAt u ≠ announcedAt t ∧
      Sample.engine.isAlertDue (announcedAt t) now = true ∧
      Sample.engine.isAlertDue (announcedAt u) now = false := by
  refine ⟨⟨4, 1500000000, by decide, by decide, by decide⟩,
    ⟨5, 500000000, by decide, by decide, by decide⟩, ⟨3605, 0, by decide, by decide, by decide⟩,
    rfl, rfl, rfl, rfl, rfl, rfl, ?_, ?_, ?_, ?_, ?_⟩
  · decide +kernel
  · exact Incident.onClock.text _
  · decide
  · decide
  · decide

end IncidentWatch
