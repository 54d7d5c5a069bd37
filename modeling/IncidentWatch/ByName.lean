/-!
# Values by name

A table holds values under names, in the order of the names, and no name twice.
Putting a value under a name keeps that order (`ascending_put`) and changes what
is found under that name only (`lookup_put`).
-/

set_option autoImplicit false

namespace IncidentWatch

/-- Values under ascending names. -/
structure ByName (α : Type) where
  entries : List (String × α)
  ascending : (entries.map (·.1)).Pairwise (· < ·)

namespace ByName

variable {α : Type}

/-- Puts an entry where its name belongs, in place of one of the same name. -/
def put (name : String) (a : α) : List (String × α) → List (String × α)
  | [] => [(name, a)]
  | (other, b) :: rest =>
    if name < other then (name, a) :: (other, b) :: rest
    else if name = other then (name, a) :: rest
    else (other, b) :: put name a rest

theorem mem_names_put {name x : String} {a : α} {entries : List (String × α)}
    (h : x ∈ (put name a entries).map (·.1)) : x = name ∨ x ∈ entries.map (·.1) := by
  induction entries with
  | nil => simpa [put] using h
  | cons entry rest ih =>
    obtain ⟨other, b⟩ := entry
    unfold put at h
    split at h
    · simpa using h
    · split at h
      · rename_i heq
        subst heq
        simpa using h
      · simp only [List.map_cons, List.mem_cons] at h ⊢
        rcases h with h | h
        · exact Or.inr (Or.inl h)
        · rcases ih h with h | h
          · exact Or.inl h
          · exact Or.inr (Or.inr h)

/-- Putting an entry keeps the names ascending. -/
theorem ascending_put (name : String) (a : α) {entries : List (String × α)}
    (h : (entries.map (·.1)).Pairwise (· < ·)) :
    ((put name a entries).map (·.1)).Pairwise (· < ·) := by
  induction entries with
  | nil => simp [put]
  | cons entry rest ih =>
    obtain ⟨other, b⟩ := entry
    simp only [List.map_cons, List.pairwise_cons] at h
    unfold put
    split
    · rename_i hlt
      simp only [List.map_cons, List.pairwise_cons, List.mem_cons]
      refine ⟨?_, h⟩
      rintro x (rfl | hx)
      · exact hlt
      · exact String.lt_trans hlt (h.1 x hx)
    · split
      · rename_i heq
        subst heq
        simpa using h
      · rename_i hnlt hne
        simp only [List.map_cons, List.pairwise_cons]
        refine ⟨?_, ih h.2⟩
        intro x hx
        rcases mem_names_put hx with rfl | hx
        · exact Std.lt_of_le_of_ne (String.not_lt.1 hnlt) (Ne.symm hne)
        · exact h.1 x hx

/-- A table of nothing. -/
def empty : ByName α := ⟨[], by simp⟩

instance : Inhabited (ByName α) := ⟨empty⟩

/-- The value under a name. -/
def get? (t : ByName α) (name : String) : Option α :=
  t.entries.lookup name

/-- Puts a value under a name. -/
def insert (t : ByName α) (name : String) (a : α) : ByName α :=
  ⟨put name a t.entries, ascending_put name a t.ascending⟩

/-- Drops the value under a name. -/
def erase (t : ByName α) (name : String) : ByName α where
  entries := t.entries.filter (·.1 ≠ name)
  ascending := t.ascending.sublist (List.filter_sublist.map _)

/-- Puts a value under a name, or drops what is there. -/
def set (t : ByName α) (name : String) : Option α → ByName α
  | some a => t.insert name a
  | none => t.erase name

/-- The table with a function applied to its values. -/
def map {β : Type} (f : α → β) (t : ByName α) : ByName β where
  entries := t.entries.map fun (name, a) => (name, f a)
  ascending := by
    rw [List.map_map]
    exact t.ascending

/-- The names in their order. -/
def names (t : ByName α) : List String :=
  t.entries.map (·.1)

/-- The table of a list of entries, of which the last of a name counts. -/
def ofList (entries : List (String × α)) : ByName α :=
  entries.foldl (fun t (name, a) => t.insert name a) empty

/-- A value put under a name is found there, and all else as before. -/
theorem lookup_put (name x : String) (a : α) {entries : List (String × α)}
    (h : (entries.map (·.1)).Pairwise (· < ·)) :
    (put name a entries).lookup x = if x = name then some a else entries.lookup x := by
  induction entries with
  | nil =>
    by_cases hx : x = name
    · simp [put, hx]
    · have hne : (x == name) = false := by simp [hx]
      simp [put, List.lookup_cons, hne, hx]
  | cons entry rest ih =>
    obtain ⟨other, b⟩ := entry
    simp only [List.map_cons, List.pairwise_cons] at h
    unfold put
    split
    · by_cases hx : x = name
      · simp [hx]
      · have hne : (x == name) = false := by simp [hx]
        simp [List.lookup_cons, hne, hx]
    · split
      · rename_i heq
        subst heq
        by_cases hx : x = name
        · simp [hx]
        · have hne : (x == name) = false := by simp [hx]
          simp [List.lookup_cons, hne, hx]
      · rename_i hne
        rw [List.lookup_cons, List.lookup_cons, ih h.2]
        by_cases hx : x = name
        · subst hx
          have : (x == other) = false := by simp [hne]
          simp [this]
        · simp only [hx, if_false]

theorem get?_insert (t : ByName α) (name x : String) (a : α) :
    (t.insert name a).get? x = if x = name then some a else t.get? x :=
  lookup_put name x a t.ascending

end ByName

end IncidentWatch
