import ImageBuild.Proofs.Json.Shape
import ImageBuild.Schema.Judge

/-!
# Values without violations

For each keyword, the values that it does not object to; and from that, for the
schemas that the format of a document is put together from, the property that
their values have.
-/

namespace ImageBuild

open Json

variable {refs : Oracle} {seen : List String}

theorem objectUnless_eq_nil_iff {ok : Bool} {value : Json} {o : Objection} :
    objectUnless ok value o = [] ↔ ok = true := by
  cases ok <;> simp [objectUnless]

theorem underKey_eq_nil_iff {name : String} {vs : List Violation} :
    underKey name vs = [] ↔ vs = [] :=
  List.map_eq_nil_iff

theorem eachItem_eq_nil_iff {judge : Json → List Violation} {i : Nat} {items : List Json} :
    eachItem judge i items = [] ↔ ∀ x ∈ items, judge x = [] := by
  induction items generalizing i with
  | nil => simp [eachItem]
  | cons x rest ih =>
      rw [eachItem, List.append_eq_nil_iff, ih, underIndex, List.map_eq_nil_iff]
      simp

/-! ## Keywords -/

theorem listViolations_eq_nil_iff {keywords : List Keyword} {value : Json} :
    Keyword.listViolations refs seen keywords value = [] ↔
      ∀ k ∈ keywords, k.violations refs seen value = [] := by
  induction keywords with
  | nil =>
      show [] = [] ↔ _
      simp
  | cons k rest ih =>
      show k.violations refs seen value ++ Keyword.listViolations refs seen rest value = [] ↔ _
      rw [List.append_eq_nil_iff, ih, List.forall_mem_cons]

/-- The keywords of a schema are judged independently of each other. -/
theorem violations_all_eq_nil_iff {keywords : List Keyword} {value : Json} :
    (Schema.all keywords).violations refs seen value = [] ↔
      ∀ k ∈ keywords, k.violations refs seen value = [] := by
  show Keyword.listViolations refs seen keywords value = [] ↔ _
  rw [listViolations_eq_nil_iff]

theorem violations_type_eq_nil_iff {allowed : List JsonType} {value : Json} :
    (Keyword.type allowed).violations refs seen value = [] ↔
      ∃ t ∈ allowed, t.admits value = true := by
  show objectUnless (allowed.any fun t => t.admits value) value _ = [] ↔ _
  rw [objectUnless_eq_nil_iff, List.any_eq_true]

theorem violations_enum_eq_nil_iff {values : List Json} {value : Json} :
    (Keyword.enum values).violations refs seen value = [] ↔
      ∃ v ∈ values, v.sameValue value = true := by
  show objectUnless (values.any fun v => v.sameValue value) value _ = [] ↔ _
  rw [objectUnless_eq_nil_iff, List.any_eq_true]

theorem violations_minLength_eq_nil_iff {count : Nat} {s : String} :
    (Keyword.minLength count).violations refs seen (.string s) = [] ↔ count ≤ s.length := by
  show objectUnless (count ≤ s.length) (.string s) _ = [] ↔ _
  rw [objectUnless_eq_nil_iff, decide_eq_true_iff]

theorem violations_pattern_eq_nil_iff {p : Pattern} {s : String} :
    (Keyword.pattern p).violations refs seen (.string s) = [] ↔
      p.node.foundIn s.toList = true := by
  show objectUnless (p.node.foundIn s.toList) (.string s) _ = [] ↔ _
  rw [objectUnless_eq_nil_iff]

theorem violations_required_eq_nil_iff {names : List String} {members : Members} :
    (Keyword.required names).violations refs seen (.object members) = [] ↔
      ∀ name ∈ names, ∃ x, (name, x) ∈ members := by
  show (names.flatMap fun name =>
    objectUnless (members.any fun entry => entry.1 == name) (.object members) _) = [] ↔ _
  simp only [List.flatMap_eq_nil_iff, objectUnless_eq_nil_iff, List.any_eq_true, beq_iff_eq]
  constructor
  · intro h name hname
    obtain ⟨⟨other, x⟩, hmem, rfl⟩ := h name hname
    exact ⟨x, hmem⟩
  · intro h name hname
    obtain ⟨x, hmem⟩ := h name hname
    exact ⟨(name, x), hmem, rfl⟩

theorem propertyViolations_nil (members : Members) :
    Schema.propertyViolations refs [] members = [] := rfl

theorem propertyViolations_cons (name : String) (s : Schema) (rest : List (String × Schema))
    (members : Members) :
    Schema.propertyViolations refs ((name, s) :: rest) members =
      ((Members.get? name members).elim [] fun x => underKey name (s.violations refs [] x)) ++
        Schema.propertyViolations refs rest members := by
  show _ ++ Schema.propertyViolations refs rest members = _
  cases Members.get? name members with
  | none => rfl
  | some x => rfl

theorem propertyViolations_eq_nil_iff {named : List (String × Schema)} {members : Members} :
    Schema.propertyViolations refs named members = [] ↔
      ∀ name s, (name, s) ∈ named → ∀ x, Members.get? name members = some x →
        s.violations refs [] x = [] := by
  induction named with
  | nil =>
      show [] = [] ↔ _
      simp
  | cons entry rest ih =>
      obtain ⟨name, s⟩ := entry
      have hsplit : Schema.propertyViolations refs ((name, s) :: rest) members = [] ↔
          (∀ x, Members.get? name members = some x → s.violations refs [] x = []) ∧
            Schema.propertyViolations refs rest members = [] := by
        rw [propertyViolations_cons, List.append_eq_nil_iff]
        cases h : Members.get? name members with
        | none => simp
        | some x => simp [underKey_eq_nil_iff]
      rw [hsplit, ih]
      constructor
      · rintro ⟨hfirst, hrest⟩ other t hmem
        rcases List.mem_cons.mp hmem with heq | hmem
        · cases heq
          exact hfirst
        · exact hrest other t hmem
      · intro h
        exact ⟨h name s List.mem_cons_self, fun other t hmem =>
          h other t (List.mem_cons_of_mem _ hmem)⟩

/-- A look-up in a single member. -/
theorem get?_singleton {name other : String} {x y : Json} :
    Members.get? name [(other, x)] = some y ↔ name = other ∧ x = y := by
  simp only [Members.get?, lookUpEntry]
  split
  · rename_i heq
    simp [heq]
  · rename_i hne
    simp [hne]

/-- A closed list of members accepts objects with no other members. -/
theorem violations_members_eq_nil_iff {named : List (String × Schema)} {members : Members} :
    (Keyword.members named [] none).violations refs seen (.object members) = [] ↔
      ∀ name x, (name, x) ∈ members →
        (∃ s, (name, s) ∈ named) ∧ ∀ s, (name, s) ∈ named → s.violations refs [] x = [] := by
  have hclaimed (name : String) :
      (named.any fun entry => entry.1 == name) = true ↔ ∃ s, (name, s) ∈ named := by
    rw [List.any_eq_true]
    constructor
    · rintro ⟨⟨other, s⟩, hmem, heq⟩
      exact ⟨s, by simpa using (beq_iff_eq.mp heq) ▸ hmem⟩
    · rintro ⟨s, hmem⟩
      exact ⟨(name, s), hmem, by simp⟩
  have hown (name : String) (x : Json) :
      Schema.propertyViolations refs named [(name, x)] = [] ↔
        ∀ s, (name, s) ∈ named → s.violations refs [] x = [] := by
    rw [propertyViolations_eq_nil_iff]
    constructor
    · intro h s hmem
      exact h name s hmem x (get?_singleton.mpr ⟨rfl, rfl⟩)
    · intro h other s hmem y hy
      obtain ⟨rfl, rfl⟩ := get?_singleton.mp hy
      exact h s hmem
  have hothers : ∀ v : Violation,
      (if ((members.filter fun entry => !named.any fun own => own.1 == entry.1).map
          Prod.fst).isEmpty = true then [] else [v]) = [] ↔
        ∀ name x, (name, x) ∈ members → ∃ s, (name, s) ∈ named := by
    intro v
    simp only [List.isEmpty_iff, List.map_eq_nil_iff, List.filter_eq_nil_iff, ite_eq_left_iff,
      List.cons_ne_nil, imp_false, Classical.not_not, Bool.not_eq_true', Bool.not_eq_false,
      hclaimed, Prod.forall]
  -- What the keyword objects to when it has neither patterns nor a schema for other members.
  show ((members.flatMap fun entry =>
      Schema.propertyViolations refs named [(entry.1, entry.2)] ++ [] ++
        if (named.any fun own => own.1 == entry.1) || false then [] else []) ++
      if false || ((members.filter fun entry =>
        !((named.any fun own => own.1 == entry.1) || false)).map Prod.fst).isEmpty then []
      else [_]) = [] ↔ _
  simp only [Bool.or_false, List.append_nil, ite_self, Bool.false_or, List.append_eq_nil_iff,
    List.flatMap_eq_nil_iff, hothers, hown, Prod.forall]
  constructor
  · rintro ⟨hvalues, hnames⟩ name x hmem
    exact ⟨hnames name x hmem, hvalues name x hmem⟩
  · intro h
    exact ⟨fun name x hmem => (h name x hmem).2, fun name x hmem => (h name x hmem).1⟩

theorem violations_properties_eq_nil_iff {named : List (String × Schema)} {members : Members} :
    (Keyword.properties named).violations refs seen (.object members) = [] ↔
      ∀ name s, (name, s) ∈ named → ∀ x, Members.get? name members = some x →
        s.violations refs [] x = [] := by
  exact propertyViolations_eq_nil_iff

theorem violations_items_eq_nil_iff {each : Schema} {items : List Json} :
    (Keyword.items each).violations refs seen (.array items) = [] ↔
      ∀ x ∈ items, each.violations refs [] x = [] := by
  exact eachItem_eq_nil_iff

theorem violations_uniqueItems_eq_nil_iff {items : List Json} :
    Keyword.uniqueItems.violations refs seen (.array items) = [] ↔ allDifferent items = true := by
  exact objectUnless_eq_nil_iff

theorem violations_anyOf_eq_nil_iff {schemas : List Schema} {value : Json} :
    (Keyword.anyOf schemas).violations refs seen value = [] ↔
      ∃ s ∈ schemas, s.violations refs seen value = [] := by
  show objectUnless ((Schema.eachViolations refs seen schemas value).any List.isEmpty) value _ =
    [] ↔ _
  rw [objectUnless_eq_nil_iff]
  induction schemas with
  | nil =>
      show [].any List.isEmpty = true ↔ _
      simp
  | cons s rest ih =>
      show (s.violations refs seen value :: Schema.eachViolations refs seen rest value).any
        List.isEmpty = true ↔ _
      rw [List.any_cons, Bool.or_eq_true, ih, List.isEmpty_iff]
      simp

/-! ## Schemas -/

namespace Schema

/-- The values that a schema has nothing against are those with a property. -/
def Describes (refs : Oracle) (seen : List String) (s : Schema) (P : Json → Prop) : Prop :=
  ∀ value, s.violations refs seen value = [] ↔ P value

/-- Named schemas describe the fields of the same names. -/
inductive DescribeFields (refs : Oracle) : List (String × Schema) → Fields → Prop where
  | nil : DescribeFields refs [] []
  | cons {name : String} {s : Schema} {P : Json → Prop} {named : List (String × Schema)}
      {fields : Fields} (first : s.Describes refs [] P) (rest : DescribeFields refs named fields) :
      DescribeFields refs ((name, s) :: named) ((name, P) :: fields)

theorem DescribeFields.exists_iff {named : List (String × Schema)} {fields : Fields}
    (h : DescribeFields refs named fields) (name : String) :
    (∃ s, (name, s) ∈ named) ↔ ∃ P, (name, P) ∈ fields := by
  induction h with
  | nil => simp
  | cons first rest ih =>
      simp only [List.mem_cons, Prod.mk.injEq, exists_or, ih, exists_and_left, exists_eq,
        and_true]

theorem DescribeFields.forall_iff {named : List (String × Schema)} {fields : Fields}
    (h : DescribeFields refs named fields) (name : String) (x : Json) :
    (∀ s, (name, s) ∈ named → s.violations refs [] x = []) ↔
      ∀ P, (name, P) ∈ fields → P x := by
  induction h with
  | nil => simp
  | @cons other s P named fields first rest ih =>
      have hfirst : (∀ t, name = other ∧ t = s → t.violations refs [] x = []) ↔
          ∀ Q, name = other ∧ Q = P → Q x := by
        constructor
        · rintro h Q ⟨rfl, rfl⟩
          exact (first x).mp (h s ⟨rfl, rfl⟩)
        · rintro h t ⟨rfl, rfl⟩
          exact (first x).mpr (h P ⟨rfl, rfl⟩)
      simp only [List.mem_cons, Prod.mk.injEq, or_imp, forall_and, hfirst, ih]

/-- A type in front of other conditions. -/
theorem violations_typed_eq_nil_iff {allowed : List JsonType} {keywords : List Keyword}
    {value : Json} :
    (Schema.all (.type allowed :: keywords)).violations refs seen value = [] ↔
      (∃ t ∈ allowed, t.admits value = true) ∧
        ∀ k ∈ keywords, k.violations refs seen value = [] := by
  rw [violations_all_eq_nil_iff, List.forall_mem_cons, violations_type_eq_nil_iff]

def text : Schema := .all [.type [.string]]

def flag : Schema := .all [.type [.boolean]]

/-- Arrays of values that follow a schema. -/
def listOf (each : Schema) : Schema := .all [.type [.array], .items each]

/-- Arrays of values that follow a schema, or null. -/
def optionalListOf (each : Schema) : Schema := .all [.type [.array, .null], .items each]

/-- Objects with no other members than the given ones, or null. -/
def optionalRecord (named : List (String × Schema)) : Schema :=
  .all [.type [.null, .object], .members named [] none]

theorem describes_text : text.Describes refs seen IsText := by
  intro value
  rw [text, violations_typed_eq_nil_iff]
  cases value <;> simp [JsonType.admits, IsText]

theorem describes_flag : flag.Describes refs seen IsFlag := by
  intro value
  rw [flag, violations_typed_eq_nil_iff]
  cases value <;> simp [JsonType.admits, IsFlag]

theorem violations_items_eq_nil_iff_isListOf {each : Schema} {P : Json → Prop}
    (h : each.Describes refs [] P) (items : List Json) :
    (Keyword.items each).violations refs seen (.array items) = [] ↔
      IsListOf P (.array items) := by
  rw [violations_items_eq_nil_iff]
  simp only [IsListOf, Json.array.injEq, exists_eq_left']
  exact forall₂_congr fun x _ => h x

theorem describes_listOf {each : Schema} {P : Json → Prop} (h : each.Describes refs [] P) :
    (listOf each).Describes refs seen (IsListOf P) := by
  intro value
  rw [listOf, violations_typed_eq_nil_iff]
  cases value with
  | array items => simp [JsonType.admits, violations_items_eq_nil_iff_isListOf h]
  | null | bool _ | number _ | string _ | object _ => simp [JsonType.admits, IsListOf]

theorem describes_optionalListOf {each : Schema} {P : Json → Prop}
    (h : each.Describes refs [] P) :
    (optionalListOf each).Describes refs seen (OrNull (IsListOf P)) := by
  intro value
  rw [optionalListOf, violations_typed_eq_nil_iff]
  cases value with
  | array items => simp [JsonType.admits, OrNull, violations_items_eq_nil_iff_isListOf h]
  | null =>
      have hnone : (Keyword.items each).violations refs seen .null = [] := rfl
      simp [JsonType.admits, OrNull, hnone]
  | bool _ | number _ | string _ | object _ => simp [JsonType.admits, OrNull, IsListOf]

theorem violations_members_eq_nil_iff_isClosedRecord {named : List (String × Schema)}
    {fields : Fields} (h : DescribeFields refs named fields) (members : Members) :
    (Keyword.members named [] none).violations refs seen (.object members) = [] ↔
      IsClosedRecord fields (.object members) := by
  rw [violations_members_eq_nil_iff]
  simp only [h.exists_iff, h.forall_iff, IsClosedRecord, Json.object.injEq, exists_eq_left']

theorem violations_properties_eq_nil_iff_isOpenRecord {named : List (String × Schema)}
    {fields : Fields} (h : DescribeFields refs named fields) (members : Members) :
    (Keyword.properties named).violations refs seen (.object members) = [] ↔
      IsOpenRecord fields (.object members) := by
  rw [violations_properties_eq_nil_iff]
  simp only [IsOpenRecord, Json.object.injEq, exists_eq_left']
  constructor
  · intro hnamed name P hmem x hx
    exact (h.forall_iff name x).mp (fun s hs => hnamed name s hs x hx) P hmem
  · intro hfields name s hmem x hx
    exact (h.forall_iff name x).mpr (fun P hP => hfields name P hP x hx) s hmem

theorem describes_optionalRecord {named : List (String × Schema)} {fields : Fields}
    (h : DescribeFields refs named fields) :
    (optionalRecord named).Describes refs seen (OrNull (IsClosedRecord fields)) := by
  intro value
  rw [optionalRecord, violations_typed_eq_nil_iff]
  cases value with
  | object members =>
      simp [JsonType.admits, OrNull, violations_members_eq_nil_iff_isClosedRecord h]
  | null =>
      have hnone : (Keyword.members named [] none).violations refs seen .null = [] := rfl
      simp [JsonType.admits, OrNull, hnone]
  | bool _ | number _ | string _ | array _ => simp [JsonType.admits, OrNull, IsClosedRecord]

end Schema

end ImageBuild
