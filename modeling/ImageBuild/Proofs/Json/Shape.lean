import ImageBuild.Json.Basic

/-!
# Shapes of JSON values

Properties of values from which the format of a kind of document is put together:
texts, flags, lists, and records that are closed or open to further members.
-/

namespace ImageBuild.Json

def IsText (value : Json) : Prop := ∃ s, value = .string s

def IsFlag (value : Json) : Prop := ∃ b, value = .bool b

/-- Null, or a value with a property. -/
def OrNull (P : Json → Prop) (value : Json) : Prop := value = .null ∨ P value

/-- An array of values with a property. -/
def IsListOf (P : Json → Prop) (value : Json) : Prop :=
  ∃ items, value = .array items ∧ ∀ x ∈ items, P x

/-- An array of texts that are all different. -/
def IsSetOfTexts (value : Json) : Prop :=
  ∃ texts : List String, texts.Nodup ∧ value = .array (texts.map .string)

/-- Names of members with the properties of their values. -/
abbrev Fields := List (String × (Json → Prop))

/-- An object all of whose members are declared, with values as declared. -/
def IsClosedRecord (fields : Fields) (value : Json) : Prop :=
  ∃ members, value = .object members ∧
    ∀ name x, (name, x) ∈ members →
      (∃ P, (name, P) ∈ fields) ∧ ∀ P, (name, P) ∈ fields → P x

/-- An object whose declared members, where it has them, are as declared. -/
def IsOpenRecord (fields : Fields) (value : Json) : Prop :=
  ∃ members, value = .object members ∧
    ∀ name P, (name, P) ∈ fields → ∀ x, Members.get? name members = some x → P x

/-! ## Look-ups -/

/-- A value that is found is that of a member. -/
theorem mem_of_get? {name : String} {members : Members} {x : Json}
    (h : Members.get? name members = some x) : (name, x) ∈ members := by
  induction members with
  | nil => simp [Members.get?, lookUpEntry] at h
  | cons entry rest ih =>
      obtain ⟨other, v⟩ := entry
      simp only [Members.get?, lookUpEntry] at h
      split at h
      · rename_i heq
        cases h
        exact heq ▸ List.mem_cons_self
      · exact List.mem_cons_of_mem _ (ih h)

/-- What has a member is found in it. -/
theorem exists_get?_iff {name : String} {members : Members} :
    (∃ x, Members.get? name members = some x) ↔ ∃ x, (name, x) ∈ members := by
  induction members with
  | nil => simp [Members.get?, lookUpEntry]
  | cons entry rest ih =>
      obtain ⟨other, v⟩ := entry
      by_cases heq : name = other
      · simp [Members.get?, lookUpEntry, heq]
      · simpa [Members.get?, lookUpEntry, heq] using ih

/-- Arrays of texts are the images of lists of texts. -/
theorem eq_map_string_of_isText {items : List Json} (h : ∀ x ∈ items, IsText x) :
    items = (items.filterMap text?).map .string := by
  induction items with
  | nil => rfl
  | cons x rest ih =>
      obtain ⟨s, rfl⟩ := h x List.mem_cons_self
      simpa [text?] using ih fun y hy => h y (List.mem_cons_of_mem _ hy)

theorem isListOf_isText_iff {value : Json} :
    IsListOf IsText value ↔ ∃ texts : List String, value = .array (texts.map .string) := by
  constructor
  · rintro ⟨items, rfl, h⟩
    exact ⟨_, congrArg Json.array (eq_map_string_of_isText h)⟩
  · rintro ⟨texts, rfl⟩
    refine ⟨_, rfl, ?_⟩
    intro x hx
    obtain ⟨s, -, rfl⟩ := List.mem_map.mp hx
    exact ⟨s, rfl⟩

/-- A declared member of a closed record has a value as declared. -/
theorem IsClosedRecord.of_get? {fields : Fields} {members : Members} {name : String}
    {P : Json → Prop} {x : Json} (h : IsClosedRecord fields (.object members))
    (hfield : (name, P) ∈ fields) (hx : Members.get? name members = some x) : P x := by
  obtain ⟨_, heq, h⟩ := h
  cases heq
  exact (h name x (mem_of_get? hx)).2 P hfield

/-- A declared member of an open record has a value as declared. -/
theorem IsOpenRecord.of_get? {fields : Fields} {value : Json} {name : String} {P : Json → Prop}
    {x : Json} (h : IsOpenRecord fields value) (hfield : (name, P) ∈ fields)
    (hx : value.get? name = some x) : P x := by
  obtain ⟨members, rfl, h⟩ := h
  exact h name P hfield x hx

end ImageBuild.Json
