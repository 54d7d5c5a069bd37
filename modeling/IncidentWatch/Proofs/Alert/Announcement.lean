import IncidentWatch.Proofs.Course.Runs

/-!
# Announcements

The notifier is asked to announce an incident of an id, and the history keeps when it was
asked and whether it accepted (`announcements`). Only a delivery by a sweep adds to them,
one announcement at a time.
-/

set_option autoImplicit false

namespace IncidentWatch.Interleaving

open IncidentWatch.Interleaving.System

/-- A sweep has asked the notifier to announce an incident. -/
structure Announcement where
  now : Instant
  accepted : Bool
  deriving DecidableEq

/-- The announcements of a kind of the incident of an id, latest first. -/
def announcements (kind : AlertKind) (id : String) : List Entry → List Announcement
  | [] => []
  | ⟨t, .answered (.deliver asked view) answer⟩ :: earlier =>
    if asked = kind ∧ view.id = id then
      match operationOf t earlier with
      | some (.sweep now) => ⟨now, answer.isOk⟩ :: announcements kind id earlier
      | _ => announcements kind id earlier
    else announcements kind id earlier
  | _ :: earlier => announcements kind id earlier

section Entries

variable {kind asked : AlertKind} {id : String} {t : Nat} {earlier : List Entry}

theorem announcements_answered {r : Request} {a : r.Answer}
    (delivers : ∀ kind view, r ≠ .deliver kind view) :
    announcements kind id (⟨t, .answered r a⟩ :: earlier) = announcements kind id earlier := by
  cases r with
  | deliver kind view => exact absurd rfl (delivers kind view)
  | _ => rfl

theorem announcements_noted {what : Happening} (leaves : ∀ r a, what ≠ .answered r a) :
    announcements kind id (⟨t, what⟩ :: earlier) = announcements kind id earlier := by
  cases what with
  | answered r a => exact absurd rfl (leaves r a)
  | _ => rfl

theorem announcements_delivered {view : IncidentView} {answer : Except String Unit} {now : Instant}
    (begun : operationOf t earlier = some (.sweep now)) :
    announcements kind view.id (⟨t, .answered (.deliver kind view) answer⟩ :: earlier) =
      ⟨now, answer.isOk⟩ :: announcements kind view.id earlier := by
  simp [announcements, begun]

theorem announcements_delivered_other {view : IncidentView} {answer : Except String Unit}
    (other : asked ≠ kind ∨ view.id ≠ id) :
    announcements kind id (⟨t, .answered (.deliver asked view) answer⟩ :: earlier) =
      announcements kind id earlier := by
  have apart : ¬ (asked = kind ∧ view.id = id) := by
    rintro ⟨same, sameId⟩
    exact other.elim (fun differs => differs same) fun differs => differs sameId
  simp [announcements, apart]

end Entries

/-- Whatever happens later, announcements stay. -/
theorem announcements_suffix (kind : AlertKind) (id : String) {earlier history : List Entry}
    (grown : earlier <:+ history) :
    announcements kind id earlier <:+ announcements kind id history := by
  obtain ⟨later, rfl⟩ := grown
  induction later with
  | nil => exact List.suffix_rfl
  | cons entry rest inductionHypothesis =>
      obtain ⟨t, what⟩ := entry
      rw [List.cons_append]
      cases what with
      | answered r a =>
          cases r with
          | deliver asked view =>
              simp only [announcements]
              split
              · split
                · exact inductionHypothesis.trans (List.suffix_cons _ _)
                · exact inductionHypothesis
              · exact inductionHypothesis
          | _ => exact inductionHypothesis
      | _ => exact inductionHypothesis

end IncidentWatch.Interleaving
