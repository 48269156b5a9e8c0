import Mathlib
import ImageBuild.Proofs.Schema.Judging
import ImageBuild.Proofs.Schema.Paths
import ImageBuild.Schema.Validator

/-!
# Where violations are located

A schema that judges members only by their names, and by names from a list, points at nothing
but values that are there, on paths over such names.  One step is a keyword: either it objects
to the value as a whole, or it passes on what is wrong with a member or an item, one step
further in.  The induction goes over the schema, and for references over their number.

* `Keyword.path_eq_nil`: the keywords that object to a value as a whole.
* `Keyword.locates_properties` and the lemmas behind it: the keywords that look into a value.
* `Schema.locates`: schemas as trees of keywords.
* `Validator.leadsOver_of_mem_violations`: validators.
-/

namespace ImageBuild

open Json (Members)

variable {names : List String} {refs : Oracle} {seen : List String} {value : Json}
  {w : Violation}

/-! ## Paths over given names -/

/-- A path leads to something in a value, over no other members than those of given names. -/
def LeadsOver (names : List String) (value : Json) (path : ViolationPath) : Prop :=
  (∃ x, value.LeadsTo path x) ∧ ∀ name, .key name ∈ path → name ∈ names

theorem leadsOver_nil (names : List String) (value : Json) : LeadsOver names value [] :=
  ⟨⟨value, .here value⟩, fun name hname => by cases hname⟩

theorem LeadsOver.member {name : String} {members : Members} {x : Json} {path : ViolationPath}
    (hname : name ∈ names) (hmem : (name, x) ∈ members) (h : LeadsOver names x path) :
    LeadsOver names (.object members) (.key name :: path) := by
  obtain ⟨⟨y, hy⟩, hpath⟩ := h
  refine ⟨⟨y, .member hmem hy⟩, fun other hother => ?_⟩
  rcases List.mem_cons.mp hother with heq | hother
  · cases heq
    exact hname
  · exact hpath other hother

theorem LeadsOver.item {i : Nat} {items : List Json} {x : Json} {path : ViolationPath}
    (hitem : items[i]? = some x) (h : LeadsOver names x path) :
    LeadsOver names (.array items) (.index i :: path) := by
  obtain ⟨⟨y, hy⟩, hpath⟩ := h
  refine ⟨⟨y, .item hitem hy⟩, fun other hother => ?_⟩
  rcases List.mem_cons.mp hother with heq | hother
  · cases heq
  · exact hpath other hother

/-- Each name of a list stands for itself in paths: it is not empty, and no number. -/
def ArePlain (names : List String) : Prop :=
  ∀ name ∈ names, Violation.stepsOfKey name = [.key name]

/-- All violations by a schema are located in the value, by given names. -/
def Schema.Locates (names : List String) (refs : Oracle) (s : Schema) : Prop :=
  ∀ seen value, ∀ w ∈ s.violations refs seen value, LeadsOver names value w.path

def Keyword.Locates (names : List String) (refs : Oracle) (k : Keyword) : Prop :=
  ∀ seen value, ∀ w ∈ k.violations refs seen value, LeadsOver names value w.path

/-! ## Keywords that judge a value as a whole -/

/-- The keywords that object to a value itself and not to what it holds. -/
def Keyword.judgesWhole : Keyword → Bool
  | .properties _ | .patternProperties _ | .members _ _ _ | .items _ | .itemList _
  | .additionalItems _ _ | .dependencies _ | .allOf _ | .reference _ => false
  | _ => true

theorem path_of_mem_objectUnless {ok : Bool} {o : Objection}
    (h : w ∈ objectUnless ok value o) : w.path = [] := by
  unfold objectUnless at h
  split at h
  · cases h
  · rw [List.mem_singleton.mp h]
    rfl

theorem Keyword.path_eq_nil {k : Keyword} (hk : k.judgesWhole = true)
    (h : w ∈ k.violations refs seen value) : w.path = [] := by
  cases k with
  | type | enum | anyOf | not => exact path_of_mem_objectUnless h
  | minimum | maximum | multipleOf =>
      cases value with
      | number n => exact path_of_mem_objectUnless h
      | null | bool | string | array | object => exact (List.not_mem_nil h).elim
  | minLength | maxLength | pattern | format =>
      cases value with
      | string s => exact path_of_mem_objectUnless h
      | null | bool | number | array | object => exact (List.not_mem_nil h).elim
  | minItems | maxItems | uniqueItems | noAdditionalItems =>
      cases value with
      | array items => exact path_of_mem_objectUnless h
      | null | bool | number | string | object => exact (List.not_mem_nil h).elim
  | minProperties | maxProperties =>
      cases value with
      | object members => exact path_of_mem_objectUnless h
      | null | bool | number | string | array => exact (List.not_mem_nil h).elim
  | required required =>
      cases value with
      | object members =>
          obtain ⟨name, -, hw⟩ := List.mem_flatMap.mp h
          exact path_of_mem_objectUnless hw
      | null | bool | number | string | array => exact (List.not_mem_nil h).elim
  | noMembers =>
      cases value with
      | object members =>
          cases members with
          | nil => exact (List.not_mem_nil h).elim
          | cons entry rest => rw [List.mem_singleton.mp h]
      | null | bool | number | string | array => exact (List.not_mem_nil h).elim
  | oneOf schemas =>
      rw [Keyword.violations] at h
      split at h
      · rw [List.mem_singleton.mp h]
        rfl
      · cases h
      · rw [List.mem_singleton.mp h]
        rfl
  | properties | patternProperties | members | items | itemList | additionalItems
  | dependencies | allOf | reference => cases hk

theorem Keyword.locates_of_judgesWhole {k : Keyword} (hk : k.judgesWhole = true) :
    k.Locates names refs := by
  intro seen value w hw
  rw [path_eq_nil hk hw]
  exact leadsOver_nil names value

/-! ## Keywords that judge what a value holds -/

theorem leadsOver_of_mem_underKey {name : String} {members : Members} {x : Json}
    {vs : List Violation} (hstep : Violation.stepsOfKey name = [.key name])
    (hname : name ∈ names) (hmem : (name, x) ∈ members)
    (hvs : ∀ v ∈ vs, LeadsOver names x v.path) (hw : w ∈ underKey name vs) :
    LeadsOver names (.object members) w.path := by
  obtain ⟨v, hv, rfl⟩ := List.mem_map.mp hw
  have hpath : (v.under (Violation.stepsOfKey name)).path = .key name :: v.path := by
    rw [hstep]
    rfl
  rw [hpath]
  exact (hvs v hv).member hname hmem

theorem leadsOver_of_mem_underIndex {i : Nat} {items : List Json} {x : Json}
    {vs : List Violation} (hitem : items[i]? = some x)
    (hvs : ∀ v ∈ vs, LeadsOver names x v.path) (hw : w ∈ underIndex i vs) :
    LeadsOver names (.array items) w.path := by
  obtain ⟨v, hv, rfl⟩ := List.mem_map.mp hw
  exact (hvs v hv).item hitem

/-- An item in front of the rest of a list, and what is behind it. -/
theorem getElem?_and_drop_of_drop_eq_cons {i : Nat} {items rest : List Json} {x : Json}
    (h : items.drop i = x :: rest) : items[i]? = some x ∧ items.drop (i + 1) = rest := by
  constructor
  · rw [← List.head?_drop, h, List.head?_cons]
  · rw [← List.tail_drop, h, List.tail_cons]

theorem leadsOver_of_mem_eachItem {judge : Json → List Violation}
    (hjudge : ∀ x, ∀ v ∈ judge x, LeadsOver names x v.path) {items rest : List Json} {i : Nat}
    (hrest : items.drop i = rest) (hw : w ∈ eachItem judge i rest) :
    LeadsOver names (.array items) w.path := by
  induction rest generalizing i with
  | nil => cases hw
  | cons x rest ih =>
      obtain ⟨hitem, hdrop⟩ := getElem?_and_drop_of_drop_eq_cons hrest
      rw [eachItem] at hw
      rcases List.mem_append.mp hw with hw | hw
      · exact leadsOver_of_mem_underIndex hitem (hjudge x) hw
      · exact ih hdrop hw

theorem leadsOver_of_mem_positionalViolations {schemas : List Schema}
    (h : ∀ s ∈ schemas, s.Locates names refs) {items rest : List Json} {i : Nat}
    (hrest : items.drop i = rest) (hw : w ∈ Schema.positionalViolations refs schemas i rest) :
    LeadsOver names (.array items) w.path := by
  induction schemas generalizing i rest with
  | nil => exact (List.not_mem_nil hw).elim
  | cons s schemas ih =>
      cases rest with
      | nil => exact (List.not_mem_nil hw).elim
      | cons x rest =>
          obtain ⟨hitem, hdrop⟩ := getElem?_and_drop_of_drop_eq_cons hrest
          rcases List.mem_append.mp hw with hw | hw
          · exact leadsOver_of_mem_underIndex hitem (h s List.mem_cons_self [] x) hw
          · exact ih (fun t ht => h t (List.mem_cons_of_mem _ ht)) hdrop hw

theorem mem_listViolations_iff {keywords : List Keyword} :
    w ∈ Keyword.listViolations refs seen keywords value ↔
      ∃ k ∈ keywords, w ∈ k.violations refs seen value := by
  induction keywords with
  | nil =>
      show w ∈ [] ↔ _
      simp
  | cons k rest ih =>
      show w ∈ k.violations refs seen value ++ Keyword.listViolations refs seen rest value ↔ _
      rw [List.mem_append, ih]
      simp

theorem mem_flatten_eachViolations_iff {schemas : List Schema} :
    w ∈ (Schema.eachViolations refs seen schemas value).flatten ↔
      ∃ s ∈ schemas, w ∈ s.violations refs seen value := by
  induction schemas with
  | nil =>
      show w ∈ [] ↔ _
      simp
  | cons s rest ih =>
      show w ∈ s.violations refs seen value ++
        (Schema.eachViolations refs seen rest value).flatten ↔ _
      rw [List.mem_append, ih]
      simp

theorem exists_of_mem_dependentViolations {named : List (String × Schema)} {members : Members}
    (h : w ∈ Schema.dependentViolations refs seen named members value) :
    ∃ entry ∈ named, w ∈ entry.2.violations refs seen value := by
  induction named with
  | nil => exact (List.not_mem_nil h).elim
  | cons entry rest ih =>
      rcases List.mem_append.mp h with h | h
      · split at h
        · exact ⟨entry, List.mem_cons_self, h⟩
        · cases h
      · obtain ⟨other, hother, hw⟩ := ih h
        exact ⟨other, List.mem_cons_of_mem _ hother, hw⟩

/-- What is wrong with members is wrong with the member of a name, by its schema. -/
theorem exists_of_mem_propertyViolations {named : List (String × Schema)} {members : Members}
    (h : w ∈ Schema.propertyViolations refs named members) :
    ∃ name s x, (name, s) ∈ named ∧ (name, x) ∈ members ∧
      w ∈ underKey name (s.violations refs [] x) := by
  induction named with
  | nil => exact (List.not_mem_nil h).elim
  | cons entry rest ih =>
      obtain ⟨name, s⟩ := entry
      rw [propertyViolations_cons, List.mem_append] at h
      rcases h with h | h
      · cases hget : Members.get? name members with
        | none =>
            rw [hget] at h
            cases h
        | some x =>
            rw [hget] at h
            exact ⟨name, s, x, List.mem_cons_self, Json.mem_of_get? hget, h⟩
      · obtain ⟨other, t, x, hmem, hx, hw⟩ := ih h
        exact ⟨other, t, x, List.mem_cons_of_mem _ hmem, hx, hw⟩

/-- Some members of an object are judged by named schemas. -/
theorem leadsOver_of_mem_propertyViolations {named : List (String × Schema)}
    {some members : Members} (hplain : ArePlain names)
    (h : ∀ entry ∈ named, entry.1 ∈ names ∧ entry.2.Locates names refs)
    (hsome : ∀ entry ∈ some, entry ∈ members)
    (hw : w ∈ Schema.propertyViolations refs named some) :
    LeadsOver names (.object members) w.path := by
  obtain ⟨name, s, x, hmem, hx, hw⟩ := exists_of_mem_propertyViolations hw
  obtain ⟨hname, hs⟩ := h (name, s) hmem
  exact leadsOver_of_mem_underKey (hplain name hname) hname (hsome _ hx) (hs [] x) hw

namespace Keyword

theorem locates_properties {named : List (String × Schema)}
    (hplain : ArePlain names)
    (h : ∀ entry ∈ named, entry.1 ∈ names ∧ entry.2.Locates names refs) :
    (Keyword.properties named).Locates names refs := by
  intro seen value w hw
  cases value with
  | object members =>
      exact leadsOver_of_mem_propertyViolations hplain h (fun _ hentry => hentry) hw
  | null | bool | number | string | array => exact (List.not_mem_nil hw).elim

theorem locates_members {named : List (String × Schema)}
    (hplain : ArePlain names)
    (h : ∀ entry ∈ named, entry.1 ∈ names ∧ entry.2.Locates names refs) :
    (Keyword.members named [] none).Locates names refs := by
  intro seen value w hw
  cases value with
  | object members =>
      -- Either a member is at fault, or the object for members that are not named.
      rcases List.mem_append.mp hw with hw | hw
      · obtain ⟨⟨name, x⟩, hmem, hw⟩ := List.mem_flatMap.mp hw
        rcases List.mem_append.mp hw with hw | hw
        · rcases List.mem_append.mp hw with hw | hw
          · refine leadsOver_of_mem_propertyViolations hplain h (fun entry hentry => ?_) hw
            rw [List.mem_singleton.mp hentry]
            exact hmem
          · exact (List.not_mem_nil hw).elim
        · split at hw
          · cases hw
          · cases hw
      · split at hw
        · cases hw
        · rw [List.mem_singleton.mp hw]
          exact leadsOver_nil names _
  | null | bool | number | string | array => exact (List.not_mem_nil hw).elim

theorem locates_patternProperties {matched : List (Pattern × Schema)}
    (h : matched.isEmpty = true) : (Keyword.patternProperties matched).Locates names refs := by
  rw [List.isEmpty_iff.mp h]
  intro seen value w hw
  cases value <;> exact (List.not_mem_nil hw).elim

theorem locates_items {each : Schema} (h : each.Locates names refs) :
    (Keyword.items each).Locates names refs := by
  intro seen value w hw
  cases value with
  | array items => exact leadsOver_of_mem_eachItem (h []) (List.drop_zero) hw
  | null | bool | number | string | object => exact (List.not_mem_nil hw).elim

theorem locates_itemList {first : List Schema} (h : ∀ s ∈ first, s.Locates names refs) :
    (Keyword.itemList first).Locates names refs := by
  intro seen value w hw
  cases value with
  | array items => exact leadsOver_of_mem_positionalViolations h (List.drop_zero) hw
  | null | bool | number | string | object => exact (List.not_mem_nil hw).elim

theorem locates_additionalItems {start : Nat} {each : Schema} (h : each.Locates names refs) :
    (Keyword.additionalItems start each).Locates names refs := by
  intro seen value w hw
  cases value with
  | array items => exact leadsOver_of_mem_eachItem (h []) rfl hw
  | null | bool | number | string | object => exact (List.not_mem_nil hw).elim

theorem locates_dependencies {named : List (String × Schema)}
    (h : ∀ entry ∈ named, entry.1 ∈ names ∧ entry.2.Locates names refs) :
    (Keyword.dependencies named).Locates names refs := by
  intro seen value w hw
  cases value with
  | object members =>
      obtain ⟨entry, hentry, hw⟩ := exists_of_mem_dependentViolations hw
      exact (h entry hentry).2 seen _ w hw
  | null | bool | number | string | array => exact (List.not_mem_nil hw).elim

theorem locates_allOf {schemas : List Schema} (h : ∀ s ∈ schemas, s.Locates names refs) :
    (Keyword.allOf schemas).Locates names refs := by
  intro seen value w hw
  obtain ⟨s, hs, hw⟩ := mem_flatten_eachViolations_iff.mp hw
  exact h s hs seen value w hw

end Keyword

/-- What references stand for is located, too. -/
def Oracle.Locates (names : List String) (refs : Oracle) : Prop :=
  ∀ seen target value, ∀ w ∈ refs seen target value, LeadsOver names value w.path

theorem Schema.locates_all {keywords : List Keyword} (h : ∀ k ∈ keywords, k.Locates names refs) :
    (Schema.all keywords).Locates names refs := by
  intro seen value w hw
  obtain ⟨k, hk, hw⟩ := mem_listViolations_iff.mp hw
  exact h k hk seen value w hw

/-! ## Schemas -/

mutual

/-- Members are judged by names of a list, and not by patterns or because they have other
names. -/
def Schema.namesOnly (names : List String) : Schema → Bool
  | .always | .never => true
  | .all keywords => Keyword.listNamesOnly names keywords
termination_by structural s => s

def Keyword.namesOnly (names : List String) : Keyword → Bool
  | .properties named | .dependencies named => Schema.memberNamesOnly names named
  | .patternProperties matched => matched.isEmpty
  | .members named matched other =>
      Schema.memberNamesOnly names named && matched.isEmpty && other.isNone
  | .items each | .additionalItems _ each => each.namesOnly names
  | .itemList schemas | .allOf schemas => Schema.listNamesOnly names schemas
  | _ => true
termination_by structural k => k

def Keyword.listNamesOnly (names : List String) : List Keyword → Bool
  | [] => true
  | k :: rest => k.namesOnly names && Keyword.listNamesOnly names rest
termination_by structural keywords => keywords

def Schema.listNamesOnly (names : List String) : List Schema → Bool
  | [] => true
  | s :: rest => s.namesOnly names && Schema.listNamesOnly names rest
termination_by structural schemas => schemas

def Schema.memberNamesOnly (names : List String) : List (String × Schema) → Bool
  | [] => true
  | (name, s) :: rest =>
      names.contains name && s.namesOnly names && Schema.memberNamesOnly names rest
termination_by structural named => named

end

mutual

theorem Schema.locates (hplain : ArePlain names) (hrefs : refs.Locates names) :
    ∀ s : Schema, s.namesOnly names = true → s.Locates names refs
  | .always, _ => fun _ _ _ hw => (List.not_mem_nil hw).elim
  | .never, _ => fun _ value w hw => by
      rw [List.mem_singleton.mp hw]
      exact leadsOver_nil names value
  | .all keywords, h => Schema.locates_all (Keyword.locates_list hplain hrefs keywords h)
termination_by structural s => s

theorem Keyword.locates (hplain : ArePlain names) (hrefs : refs.Locates names) :
    ∀ k : Keyword, k.namesOnly names = true → k.Locates names refs
  | .properties named, h =>
      Keyword.locates_properties hplain (Schema.locates_named hplain hrefs named h)
  | .patternProperties _, h => Keyword.locates_patternProperties h
  | .members named matched other, h => by
      obtain ⟨hbefore, hother⟩ := Bool.and_eq_true_iff.mp h
      obtain ⟨hnamed, hmatched⟩ := Bool.and_eq_true_iff.mp hbefore
      obtain rfl := List.isEmpty_iff.mp hmatched
      obtain rfl := Option.isNone_iff_eq_none.mp hother
      exact Keyword.locates_members hplain (Schema.locates_named hplain hrefs named hnamed)
  | .items each, h => Keyword.locates_items (Schema.locates hplain hrefs each h)
  | .itemList schemas, h =>
      Keyword.locates_itemList (Schema.locates_list hplain hrefs schemas h)
  | .additionalItems _ each, h =>
      Keyword.locates_additionalItems (Schema.locates hplain hrefs each h)
  | .dependencies named, h =>
      Keyword.locates_dependencies (Schema.locates_named hplain hrefs named h)
  | .allOf schemas, h => Keyword.locates_allOf (Schema.locates_list hplain hrefs schemas h)
  | .reference target, _ => fun seen value => hrefs seen target value
  | .type _, _ | .enum _, _ | .minimum _ _, _ | .maximum _ _, _ | .multipleOf _, _
  | .minLength _, _ | .maxLength _, _ | .minItems _, _ | .maxItems _, _
  | .minProperties _, _ | .maxProperties _, _ | .required _, _ | .pattern _, _
  | .format _, _ | .uniqueItems, _ | .noMembers, _ | .noAdditionalItems _, _
  | .anyOf _, _ | .oneOf _, _ | .not _ _, _ => Keyword.locates_of_judgesWhole rfl
termination_by structural k => k

theorem Keyword.locates_list (hplain : ArePlain names) (hrefs : refs.Locates names) :
    ∀ keywords : List Keyword, Keyword.listNamesOnly names keywords = true →
      ∀ k ∈ keywords, k.Locates names refs
  | [], _ => fun _ hk => (List.not_mem_nil hk).elim
  | k :: rest, h => by
      obtain ⟨hk, hrest⟩ := Bool.and_eq_true_iff.mp h
      exact List.forall_mem_cons.mpr
        ⟨Keyword.locates hplain hrefs k hk, Keyword.locates_list hplain hrefs rest hrest⟩
termination_by structural keywords => keywords

theorem Schema.locates_list (hplain : ArePlain names) (hrefs : refs.Locates names) :
    ∀ schemas : List Schema, Schema.listNamesOnly names schemas = true →
      ∀ s ∈ schemas, s.Locates names refs
  | [], _ => fun _ hs => (List.not_mem_nil hs).elim
  | s :: rest, h => by
      obtain ⟨hs, hrest⟩ := Bool.and_eq_true_iff.mp h
      exact List.forall_mem_cons.mpr
        ⟨Schema.locates hplain hrefs s hs, Schema.locates_list hplain hrefs rest hrest⟩
termination_by structural schemas => schemas

theorem Schema.locates_named (hplain : ArePlain names) (hrefs : refs.Locates names) :
    ∀ named : List (String × Schema), Schema.memberNamesOnly names named = true →
      ∀ entry ∈ named, entry.1 ∈ names ∧ entry.2.Locates names refs
  | [], _ => fun _ hentry => (List.not_mem_nil hentry).elim
  | (name, s) :: rest, h => by
      obtain ⟨hentry, hrest⟩ := Bool.and_eq_true_iff.mp h
      obtain ⟨hname, hs⟩ := Bool.and_eq_true_iff.mp hentry
      exact List.forall_mem_cons.mpr
        ⟨⟨List.contains_iff_mem.mp hname, Schema.locates hplain hrefs s hs⟩,
          Schema.locates_named hplain hrefs rest hrest⟩
termination_by structural named => named

end

/-! ## Validators -/

namespace Validator

/-- Neither the schema nor those that its references lead to judge members by other names. -/
def namesOnly (names : List String) (v : Validator) : Bool :=
  v.root.namesOnly names && v.targets.all fun (_, s) => s.namesOnly names

/-- However many references are followed, they locate what they object to. -/
theorem locates_oracle (hplain : ArePlain names) {targets : List (String × Schema)}
    (h : ∀ entry ∈ targets, entry.2.namesOnly names = true) (fuel : Nat) :
    Oracle.Locates names (oracle targets fuel) := by
  induction fuel with
  | zero => exact fun _ _ _ _ hw => (List.not_mem_nil hw).elim
  | succ fuel ih =>
      intro seen target value w hw
      rw [oracle] at hw
      split at hw
      · cases hw
      · split at hw
        · rename_i s hfind
          exact Schema.locates hplain ih s (h _ (List.mem_of_find?_eq_some hfind)) _ _ w hw
        · cases hw

/-- **Violations are located in the value that is judged**, by names that its schema knows. -/
theorem leadsOver_of_mem_violations (hplain : ArePlain names) {v : Validator}
    (h : v.namesOnly names = true) (hw : w ∈ v.violations value) :
    LeadsOver names value w.path := by
  obtain ⟨hroot, htargets⟩ := Bool.and_eq_true_iff.mp h
  have hrefs (fuel : Nat) : Oracle.Locates names (oracle v.targets fuel) :=
    locates_oracle hplain (List.all_eq_true.mp htargets) fuel
  exact Schema.locates hplain (hrefs _) v.root hroot [] value w hw

end Validator

end ImageBuild
