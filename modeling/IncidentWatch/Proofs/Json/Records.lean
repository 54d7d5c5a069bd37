import Mathlib.Data.List.Nodup
import IncidentWatch.Event.Codec
import IncidentWatch.Proofs.Instant.Reading
import IncidentWatch.Proofs.Json.Reading

/-!
# Encoders and decoders that fit

An encoder and a decoder fit on a value when its tree is read back from its text and decodes to the
value (`RoundTrips`). That is so of options, whose values must not look like null, of lists and of
tables, whose entries are put back one by one in the order of their names, when it is so of what they
hold.

A record is decoded in two passes: the members are collected by name and each is checked, then the
fields look their values up. What the members written so far amount to is said by `Carries`, field
by field in the order of the record: a member adds its value, and a nullable field adds none when
its member is left out. Once all fields are there, the record comes back (`RoundTrips.record`),
provided that no two fields share a name, since the second member of a name is refused.
-/

set_option autoImplicit false

namespace IncidentWatch

variable {α : Type}

/-- A name above all others is put at the end. -/
theorem ByName.put_of_lt {name : String} {a : α} {entries : List (String × α)}
    (before : ∀ entry ∈ entries, entry.1 < name) :
    put name a entries = entries ++ [(name, a)] := by
  induction entries with
  | nil => rfl
  | cons entry rest inductionHypothesis =>
    have first := before entry List.mem_cons_self
    rw [put, if_neg (String.lt_asymm first), if_neg (Std.ne_of_lt first).symm,
      inductionHypothesis fun other later => before other (List.mem_cons_of_mem entry later)]
    rfl

namespace Decode

/-- Puts the value of one member under its name. -/
def putMember (d : Decoder α) (found : ByName α) (member : Json × Json) :
    Except DecodeError (ByName α) :=
  match member.1 with
  | .str name => (d member.2).map (found.insert name)
  | _ => .error .malformed

theorem byName_obj (d : Decoder α) (members : List (Json × Json)) :
    byName d (.obj members) = members.foldlM (putMember d) .empty := by
  show members.foldlM _ _ = _
  congr 1

end Decode

theorem Instant.encode_ne_null (t : Instant) : t.encode ≠ .null := by
  rw [Instant.encode]
  exact Json.noConfusion

/-- A value comes back: encoded, it can be written and read again, and decoded, it is the same. -/
structure RoundTrips (encode : α → Json) (decode : Decoder α) (a : α) : Prop where
  readsBack : (encode a).ReadsBack
  decodes : decode (encode a) = .ok a

namespace RoundTrips

variable {encode : α → Json} {decode : Decoder α}

/-- The text of a value that comes back decodes to the value. -/
theorem text {a : α} (law : RoundTrips encode decode a) :
    Decode.text decode (encode a).render = .ok a :=
  (Decode.text_render decode law.readsBack).trans law.decodes

/-! ## Single values -/

theorem string (s : String) : RoundTrips .str Decode.string s where
  readsBack := .str s
  decodes := rfl

theorem bool (b : Bool) : RoundTrips .bool Decode.bool b where
  readsBack := .bool b
  decodes := rfl

/-- A machine word is decoded by the bounds of its kind. -/
theorem integer {title : String} {low high : Int} {ofInt : Int → α} {toInt : α → Int} {a : α}
    (inverse : ofInt (toInt a) = a) (bounds : low ≤ toInt a ∧ toInt a ≤ high)
    (smallest : -9223372036854775808 ≤ low) (largest : high ≤ 18446744073709551615) :
    RoundTrips (fun a => .int (toInt a))
      (fun j => (Decode.integer title low high j).map ofInt) a where
  readsBack := .int (smallest.trans bounds.1) (bounds.2.trans largest)
  decodes := by
    rw [Decode.integer, if_pos bounds]
    exact congrArg Except.ok inverse

theorem int32 (n : Int32) : RoundTrips (fun n : Int32 => .int n.toInt) Decode.int32 n :=
  integer (Int32.ofInt_toInt n) ⟨n.le_toInt, Int.le_of_lt_add_one n.toInt_lt⟩ (by decide)
    (by decide)

theorem int64 (n : Int64) : RoundTrips (fun n : Int64 => .int n.toInt) Decode.int64 n :=
  integer (Int64.ofInt_toInt n) ⟨n.le_toInt, Int.le_of_lt_add_one n.toInt_lt⟩ (by decide)
    (by decide)

theorem uint32 (n : UInt32) : RoundTrips (fun n : UInt32 => .int n.toNat) Decode.uint32 n :=
  integer UInt32.ofNat_toNat (by have := n.toNat_lt; omega) (by decide) (by decide)

theorem size (n : UInt64) : RoundTrips (fun n : UInt64 => .int n.toNat) Decode.size n :=
  integer UInt64.ofNat_toNat (by have := n.toNat_lt; omega) (by decide) (by decide)

theorem instant {t : Instant} (onClock : t.IsOnClock) :
    RoundTrips Instant.encode Decode.instant t where
  readsBack := .str t.render
  decodes := by
    rw [Instant.encode, Decode.instant, Instant.parse?_render onClock]

/-- Constants that are listed under their names. -/
theorem constant {known : List (String × α)} {name : α → String} {a : α}
    (listed : known.lookup (name a) = some a) :
    RoundTrips (fun a => .str (name a)) (Decode.constant known) a where
  readsBack := .str (name a)
  decodes := by
    unfold Decode.constant
    simp only [Decode.variantParts, bind, Except.bind, listed]
    rfl

/-! ## Options and lists -/

/-- An option comes back unless its value could be mistaken for null. -/
theorem option {o : Option α} (law : ∀ a ∈ o, RoundTrips encode decode a)
    (solid : ∀ a, encode a ≠ .null) :
    RoundTrips (Json.ofOption encode) (Decode.option decode) o := by
  cases o with
  | none => exact ⟨.null, rfl⟩
  | some a =>
    have law := law a rfl
    refine ⟨law.readsBack, ?_⟩
    show Decode.option decode (encode a) = _
    unfold Decode.option
    split
    · exact absurd ‹_› (solid a)
    · rw [law.decodes]
      rfl

theorem list {as : List α} (law : ∀ a ∈ as, RoundTrips encode decode a) :
    RoundTrips (fun as => .arr (as.map encode)) (Decode.list decode) as where
  readsBack := .arr fun item member => by
    obtain ⟨a, among, rfl⟩ := List.mem_map.1 member
    exact (law a among).readsBack
  decodes := by
    show (as.map encode).mapM decode = _
    induction as with
    | nil => rfl
    | cons a as inductionHypothesis =>
      obtain ⟨first, rest⟩ := List.forall_mem_cons.1 law
      rw [List.map_cons, List.mapM_cons, first.decodes, inductionHypothesis rest]
      rfl

/-! ## Tables -/

/-- Entries in the order of their names are put one behind the other. -/
theorem foldlM_putMember {entries : List (String × α)}
    (law : ∀ entry ∈ entries, RoundTrips encode decode entry.2) (found : ByName α)
    (ascending : ((found.entries ++ entries).map (·.1)).Pairwise (· < ·)) :
    (entries.map fun entry => (Json.str entry.1, encode entry.2)).foldlM
      (Decode.putMember decode) found = .ok ⟨found.entries ++ entries, ascending⟩ := by
  induction entries generalizing found with
  | nil =>
    obtain ⟨entries, _⟩ := found
    simp only [List.append_nil]
    rfl
  | cons entry rest inductionHypothesis =>
    obtain ⟨name, a⟩ := entry
    obtain ⟨first, others⟩ := List.forall_mem_cons.1 law
    have before : ∀ entry ∈ found.entries, entry.1 < name := by
      rw [List.map_append, List.pairwise_append] at ascending
      exact fun entry member => ascending.2.2 _ (List.mem_map_of_mem member) _ List.mem_cons_self
    have next : (found.insert name a).entries ++ rest = found.entries ++ (name, a) :: rest := by
      show ByName.put name a found.entries ++ rest = _
      rw [ByName.put_of_lt before, List.append_assoc, List.singleton_append]
    have later := inductionHypothesis others (found.insert name a) (next ▸ ascending)
    have put : Decode.putMember decode found (.str name, encode a) = .ok (found.insert name a) := by
      simp only [Decode.putMember, first.decodes]
      rfl
    rw [List.map_cons, List.foldlM_cons, put]
    refine later.trans ?_
    simp only [next]

/-- A table comes back whole, since its names are in order and differ. -/
theorem byName {table : ByName α} (law : ∀ entry ∈ table.entries, RoundTrips encode decode entry.2) :
    RoundTrips (fun table => .object (table.entries.map fun (name, a) => (name, encode a)))
      (Decode.byName decode) table where
  readsBack := .object fun member written => by
    obtain ⟨⟨name, a⟩, among, rfl⟩ := List.mem_map.1 written
    exact (law _ among).readsBack
  decodes := by
    have tree : Json.object (table.entries.map fun (name, a) => (name, encode a)) =
        .obj (table.entries.map fun entry => (.str entry.1, encode entry.2)) := by
      simp [Json.object]
    rw [tree, Decode.byName_obj]
    exact foldlM_putMember law .empty table.ascending

end RoundTrips

/-! ## Records -/

namespace Decode.Fields

variable {β : Type}

/-- The members make up a value of the record: they come in the order of the fields, each is read
back and passes its field, and the fields find the value among them. -/
structure Carries (f : Fields α) (members : List (String × Json)) (a : α) : Prop where
  ordered : (members.map (·.1)).Sublist (f.slots.map (·.name))
  readsBack : ∀ member ∈ members, member.2.ReadsBack
  checks : ∀ member ∈ members, ∃ slot ∈ f.slots,
    slot.name = member.1 ∧ slot.check member.2 = .ok ()
  builds : (f.slots.map (·.name)).Nodup → ∀ find : String → Option Json,
    (∀ slot ∈ f.slots, find slot.name = members.lookup slot.name) → f.build find = .ok a

theorem lookup_eq_none {name : String} {members : List (String × Json)}
    (new : name ∉ members.map (·.1)) : members.lookup name = .none := by
  rw [List.lookup_eq_none_iff]
  intro member among
  simp only [bne_iff_ne, ne_eq]
  rintro rfl
  exact new (List.mem_map_of_mem among)

theorem names_field (f : Fields (α → β)) (name : String) (d : Decoder α) (absence : Absence α) :
    (f.field name d absence).slots.map (·.name) = f.slots.map (·.name) ++ [name] := by
  simp only [field, List.map_append, List.map_cons, List.map_nil]

/-- What is found among a member that may be left out. -/
theorem lookup_member (name other : String) (written : Option Json) :
    (written.map fun j => (name, j)).toList.lookup other =
      if other = name then written else .none := by
  cases written with
  | none => simp
  | some j =>
    rw [Option.map_some, Option.toList_some, List.lookup_cons]
    by_cases same : other = name
    · rw [if_pos same, beq_iff_eq.2 same]
    · rw [if_neg same, beq_eq_false_iff_ne.2 same]
      rfl

namespace Carries

variable {f : Fields (α → β)} {g : α → β} {members : List (String × Json)} {name : String}
  {encode : α → Json} {decode : Decoder α}

theorem none (a : α) : Carries (Fields.none a) [] a where
  ordered := .slnil
  readsBack _ among := nomatch among
  checks _ among := nomatch among
  builds _ _ _ := rfl

/-- A further field adds its value, from its member or from the lack of one. -/
theorem field (before : Carries f members g) {absence : Absence α} {a : α} {written : Option Json}
    (value : fieldValue (fun _ => written) name decode absence = .ok a)
    (readsBack : ∀ j ∈ written, j.ReadsBack) :
    Carries (f.field name decode absence)
      (members ++ (written.map fun j => (name, j)).toList) (g a) where
  ordered := by
    rw [List.map_append, names_field]
    refine before.ordered.append ?_
    cases written with
    | none => exact List.nil_sublist _
    | some j => exact .refl _
  readsBack member among := by
    rcases List.mem_append.1 among with earlier | last
    · exact before.readsBack member earlier
    · obtain ⟨j, present, rfl⟩ := Option.map_eq_some_iff.1 (Option.mem_toList.1 last)
      exact readsBack j present
  checks member among := by
    rcases List.mem_append.1 among with earlier | last
    · obtain ⟨slot, known, named, passes⟩ := before.checks member earlier
      exact ⟨slot, List.mem_append_left _ known, named, passes⟩
    · obtain ⟨j, rfl, rfl⟩ := Option.map_eq_some_iff.1 (Option.mem_toList.1 last)
      have decoded : decode j = .ok a := value
      refine ⟨_, List.mem_append_right _ List.mem_cons_self, rfl, ?_⟩
      show (decode j).map _ = _
      rw [decoded]
      rfl
  builds distinct find agrees := by
    rw [names_field, List.nodup_append] at distinct
    obtain ⟨distinct, -, apart⟩ := distinct
    have new : name ∉ f.slots.map (·.name) := fun known =>
      apart name known name List.mem_cons_self rfl
    have earlier : ∀ slot ∈ f.slots, find slot.name = members.lookup slot.name := by
      intro slot known
      have other : slot.name ≠ name := fun same => new (same ▸ List.mem_map_of_mem known)
      rw [agrees slot (List.mem_append_left _ known), List.lookup_append, lookup_member,
        if_neg other, Option.or_none]
    have last : find name = written := by
      have missing := lookup_eq_none fun among => new (before.ordered.subset among)
      rw [agrees ⟨name, _, _⟩ (List.mem_append_right _ List.mem_cons_self), List.lookup_append,
        lookup_member, if_pos rfl, missing, Option.none_or]
    have value' : fieldValue find name decode absence = .ok a := by
      subst last
      exact value
    show (f.build find >>= fun g =>
      fieldValue find name decode absence >>= fun a => pure (g a)) = _
    rw [before.builds distinct find earlier, value']
    rfl

theorem present (before : Carries f members g) {absence : Absence α} {a : α}
    (law : RoundTrips encode decode a) :
    Carries (f.field name decode absence) (members ++ [(name, encode a)]) (g a) := by
  have value : fieldValue (fun _ => some (encode a)) name decode absence = .ok a := law.decodes
  exact before.field value fun _ same => Option.some.inj same ▸ law.readsBack

theorem required (before : Carries f members g) {a : α} (law : RoundTrips encode decode a) :
    Carries (f.required name decode) (members ++ [(name, encode a)]) (g a) :=
  before.present law

theorem defaulted (before : Carries f members g) {a default : α}
    (law : RoundTrips encode decode a) :
    Carries (f.defaulted name decode default) (members ++ [(name, encode a)]) (g a) :=
  before.present law

/-- A nullable field may be null. -/
theorem nullable {f : Fields (Option α → β)} {g : Option α → β} (before : Carries f members g)
    {a : Option α} (law : ∀ b ∈ a, RoundTrips encode decode b) (solid : ∀ b, encode b ≠ .null) :
    Carries (f.nullable name decode) (members ++ [(name, .ofOption encode a)]) (g a) :=
  before.present (.option law solid)

/-- A nullable field may be left out. -/
theorem omitted {f : Fields (Option α → β)} {g : Option α → β} (before : Carries f members g)
    {a : Option α} (law : ∀ b ∈ a, RoundTrips encode decode b) (solid : ∀ b, encode b ≠ .null) :
    Carries (f.nullable name decode)
      (members ++ (a.map fun a => (name, encode a)).toList) (g a) := by
  cases a with
  | none =>
    have value : fieldValue (fun _ => .none) name (option decode) (.nothing .none) = .ok .none :=
      rfl
    exact before.field value fun _ same => nomatch same
  | some a => exact before.present (a := some a) (.option law solid)

end Carries

/-! ### Members in the order of the text -/

/-- Members of different known names are all kept, when each passes its field. -/
theorem collect_named {slots : List Slot} (distinct : (slots.map (·.name)).Nodup)
    (members found : List (String × Json)) (new : ((found ++ members).map (·.1)).Nodup)
    (checks : ∀ member ∈ members, ∃ slot ∈ slots,
      slot.name = member.1 ∧ slot.check member.2 = .ok ()) :
    collect slots (members.map fun (name, value) => (.str name, value)) found =
      .ok (found ++ members) := by
  induction members generalizing found with
  | nil => rw [List.append_nil]; rfl
  | cons member rest inductionHypothesis =>
    obtain ⟨name, value⟩ := member
    obtain ⟨slot, known, named, passes⟩ := checks _ List.mem_cons_self
    have first : slots.find? (·.name == name) = some slot := by
      obtain ⟨other, found⟩ : ∃ other, slots.find? (·.name == name) = some other :=
        Option.isSome_iff_exists.1 (List.find?_isSome.2 ⟨slot, known, by simpa using named⟩)
      have same : other.name = slot.name := by
        simpa [named] using List.find?_some found
      rw [found, List.inj_on_of_nodup_map distinct (List.mem_of_find?_eq_some found) known same]
    have missing : found.lookup name = .none := by
      rw [List.map_append, List.nodup_append] at new
      exact lookup_eq_none fun earlier => new.2.2 name earlier name List.mem_cons_self rfl
    have later := inductionHypothesis (found ++ [(name, value)])
      (by rwa [List.append_assoc, List.singleton_append])
      (fun member later => checks member (List.mem_cons_of_mem _ later))
    rw [List.append_assoc, List.singleton_append] at later
    rw [List.map_cons, collect]
    simp only [first, missing, passes]
    exact later

end Decode.Fields

open Decode Fields

/-- A record comes back from its members, written in the order of its fields. -/
theorem RoundTrips.record {title : String} {f : Fields α}
    {members : α → List (String × Json)} {a : α} (distinct : (f.slots.map (·.name)).Nodup)
    (carries : Carries f (members a) a) :
    RoundTrips (fun a => .object (members a)) (f.record title) a where
  readsBack := .object carries.readsBack
  decodes := by
    have found := collect_named distinct (members a) []
      (distinct.sublist carries.ordered) carries.checks
    show (collect f.slots ((members a).map _) [] >>= fun found =>
      f.build fun name => found.lookup name) = _
    rw [found]
    exact carries.builds distinct _ fun _ _ => rfl

end IncidentWatch
