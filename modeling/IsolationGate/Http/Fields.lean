import IsolationGate.Http.Field

/-!
# The fields of a message

`Fields` is a list of named values. The values of one name are ordered; how values of different
names lie between each other is never read. The view of a name is `values`, and each operation is
described by what it does to that view: `append` adds one value at the end, `set` leaves exactly one
value, `remove` leaves none, and none of them touches another name.
-/

namespace IsolationGate.Http

/-- The fields of a message, in the order in which they were added. -/
structure Fields where
  entries : List (FieldName × FieldValue)
  deriving Repr, DecidableEq

namespace Fields

instance : Inhabited Fields := ⟨⟨[]⟩⟩

/-- No fields. -/
def empty : Fields := ⟨[]⟩

/-- The values of a name, in their order. -/
def values (fields : Fields) (name : FieldName) : List FieldValue :=
  (fields.entries.filter fun entry => entry.1 = name).map (·.2)

/-- The first value of a name. -/
def get? (fields : Fields) (name : FieldName) : Option FieldValue := (fields.values name).head?

/-- Whether a name has a value. -/
def contains (fields : Fields) (name : FieldName) : Bool := (fields.get? name).isSome

/-- One more value of a name. -/
def append (fields : Fields) (name : FieldName) (value : FieldValue) : Fields :=
  ⟨fields.entries ++ [(name, value)]⟩

/-- All values of a name taken away. -/
def remove (fields : Fields) (name : FieldName) : Fields :=
  ⟨fields.entries.filter fun entry => entry.1 ≠ name⟩

/-- All values of a name replaced by one. -/
def set (fields : Fields) (name : FieldName) (value : FieldValue) : Fields :=
  (fields.remove name).append name value

/-- A value for a name that has none. -/
def setIfAbsent (fields : Fields) (name : FieldName) (value : FieldValue) : Fields :=
  if fields.contains name then fields else fields.append name value

/-- All values of each of the names taken away. -/
def removeAll (fields : Fields) (names : List FieldName) : Fields := names.foldl remove fields

/-! ## The view of a name -/

@[simp] theorem values_empty (name : FieldName) : empty.values name = [] := rfl

@[simp] theorem values_append_self (fields : Fields) (name : FieldName) (value : FieldValue) :
    (fields.append name value).values name = fields.values name ++ [value] := by
  simp [append, values]

@[simp] theorem values_append_of_ne {name other : FieldName} (h : other ≠ name) (fields : Fields)
    (value : FieldValue) : (fields.append name value).values other = fields.values other := by
  simp [append, values, Ne.symm h]

@[simp] theorem values_remove_self (fields : Fields) (name : FieldName) :
    (fields.remove name).values name = [] := by
  simp [remove, values, List.filter_filter]

@[simp] theorem values_remove_of_ne {name other : FieldName} (h : other ≠ name)
    (fields : Fields) : (fields.remove name).values other = fields.values other := by
  unfold remove values
  rw [List.filter_filter]
  congr 1
  refine List.filter_congr fun entry _ => ?_
  by_cases he : entry.1 = other
  · simp [he, h]
  · simp [he]

@[simp] theorem values_set_self (fields : Fields) (name : FieldName) (value : FieldValue) :
    (fields.set name value).values name = [value] := by
  simp [set]

@[simp] theorem values_set_of_ne {name other : FieldName} (h : other ≠ name) (fields : Fields)
    (value : FieldValue) : (fields.set name value).values other = fields.values other := by
  simp [set, h]

theorem contains_eq_false_iff {fields : Fields} {name : FieldName} :
    fields.contains name = false ↔ fields.values name = [] := by
  simp [contains, get?]

theorem contains_eq_true_iff {fields : Fields} {name : FieldName} :
    fields.contains name = true ↔ fields.values name ≠ [] := by
  rw [← Bool.not_eq_false, Ne, contains_eq_false_iff]

theorem values_setIfAbsent_self (fields : Fields) (name : FieldName) (value : FieldValue) :
    (fields.setIfAbsent name value).values name =
      if fields.values name = [] then [value] else fields.values name := by
  unfold setIfAbsent
  cases h : fields.contains name with
  | false => simp [contains_eq_false_iff.1 h]
  | true =>
      have hne : fields.values name ≠ [] := fun he => by
        simp [contains_eq_false_iff.2 he] at h
      simp [hne]

@[simp] theorem values_setIfAbsent_of_ne {name other : FieldName} (h : other ≠ name)
    (fields : Fields) (value : FieldValue) :
    (fields.setIfAbsent name value).values other = fields.values other := by
  unfold setIfAbsent
  split
  · rfl
  · simp [h]

theorem values_removeAll (names : List FieldName) (fields : Fields) (name : FieldName) :
    (fields.removeAll names).values name = if name ∈ names then [] else fields.values name := by
  induction names generalizing fields with
  | nil => simp [removeAll]
  | cons first rest ih =>
      have hstep : fields.removeAll (first :: rest) = (fields.remove first).removeAll rest := rfl
      rw [hstep, ih]
      by_cases hrest : name ∈ rest
      · simp [hrest]
      · by_cases hfirst : name = first
        · simp [hfirst]
        · simp [hrest, hfirst]

/-! ## Taking names away in any order -/

theorem remove_append_of_ne {name other : FieldName} (h : other ≠ name) (fields : Fields)
    (value : FieldValue) :
    (fields.append other value).remove name = (fields.remove name).append other value := by
  simp [append, remove, List.filter_append, h]

theorem remove_comm (fields : Fields) (name other : FieldName) :
    (fields.remove name).remove other = (fields.remove other).remove name := by
  unfold remove
  rw [List.filter_filter, List.filter_filter]
  simp only [Bool.and_comm]

theorem remove_removeAll (names : List FieldName) (fields : Fields) (name : FieldName) :
    (fields.removeAll names).remove name = (fields.remove name).removeAll names := by
  induction names generalizing fields with
  | nil => rfl
  | cons first rest ih =>
      have hstep : ∀ f : Fields, f.removeAll (first :: rest) = (f.remove first).removeAll rest :=
        fun _ => rfl
      rw [hstep, hstep, ih, remove_comm]

end Fields

end IsolationGate.Http
