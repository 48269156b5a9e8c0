import Mathlib
import ImageBuild.Proofs.OrderedMap
import ImageBuild.Schema.Violation

/-!
# Paths into values

A path leads from a value to one that it holds, step by step.  In writing, a path is told
apart from every other one as long as no key could be taken for the beginning of a further
step.

* `LeadsTo.unique`: where each name stands once, a path leads to one value at most.
* `flatMap_renderElement_inj`: steps can be read back from their text.
* `eq_of_renderPath_eq`: so can paths, although the first point is left out.
* `renderPath_eq_empty_iff`: nothing is written for the empty path only.
-/

namespace ImageBuild

namespace Json

/-- A path leads from a value to one in it, over members and items that are there. -/
inductive LeadsTo : Json → ViolationPath → Json → Prop where
  | here (value : Json) : LeadsTo value [] value
  | member {name : String} {members : Members} {x y : Json} {path : ViolationPath}
      (hmem : (name, x) ∈ members) (rest : LeadsTo x path y) :
      LeadsTo (.object members) (.key name :: path) y
  | item {i : Nat} {items : List Json} {x y : Json} {path : ViolationPath}
      (hitem : items[i]? = some x) (rest : LeadsTo x path y) :
      LeadsTo (.array items) (.index i :: path) y

/-- In all objects of a value the members are in order, each name once. -/
def IsOrdered (value : Json) : Prop :=
  ∀ path members, value.LeadsTo path (.object members) → IsAscending members

variable {value x y : Json} {path : ViolationPath}

theorem LeadsTo.unique (h : value.IsOrdered) (hx : value.LeadsTo path x)
    (hy : value.LeadsTo path y) : x = y := by
  induction hx with
  | here =>
      cases hy
      rfl
  | @member name members z _ path hmem rest ih =>
      cases hy with
      | @member _ _ z' _ _ hmem' rest' =>
          have hascending : IsAscending members := h [] members (.here _)
          have hfirst := (lookUpEntry_eq_some_iff hascending).mpr hmem
          have hsecond := (lookUpEntry_eq_some_iff hascending).mpr hmem'
          obtain rfl : z = z' := Option.some.inj (hfirst.symm.trans hsecond)
          exact ih (fun more inner hinner => h _ inner (.member hmem hinner)) rest'
  | @item i items z _ path hitem rest ih =>
      cases hy with
      | @item _ _ z' _ _ hitem' rest' =>
          obtain rfl : z = z' := Option.some.inj (hitem.symm.trans hitem')
          exact ih (fun more inner hinner => h _ inner (.item hitem hinner)) rest'

end Json

namespace Violation

variable {p q : ViolationPath}

/-! ## Steps in writing -/

/-- A key that is not empty, and in which no character begins a further step. -/
def IsOrdinaryKey (name : String) : Prop :=
  name ≠ "" ∧ '.' ∉ name.toList ∧ '[' ∉ name.toList

instance : DecidablePred IsOrdinaryKey := fun _ => inferInstanceAs (Decidable (_ ∧ _ ∧ _))

/-- A path over ordinary keys and any indices. -/
def IsOrdinary (path : ViolationPath) : Prop :=
  ∀ name, .key name ∈ path → IsOrdinaryKey name

@[simp] theorem isOrdinary_nil : IsOrdinary [] :=
  fun _ hname => absurd hname List.not_mem_nil

@[simp] theorem isOrdinary_key_cons {name : String} :
    IsOrdinary (.key name :: p) ↔ IsOrdinaryKey name ∧ IsOrdinary p := by
  simp [IsOrdinary]

@[simp] theorem isOrdinary_index_cons {i : Nat} : IsOrdinary (.index i :: p) ↔ IsOrdinary p := by
  simp [IsOrdinary]

theorem IsOrdinary.tail {step : PathElement} (h : IsOrdinary (step :: p)) : IsOrdinary p :=
  fun name hname => h name (List.mem_cons_of_mem _ hname)

/-- Texts are told apart up to the first character that stops them. -/
theorem append_inj_of_stop {stop : Char → Bool} {a b s t : List Char}
    (ha : ∀ c ∈ a, stop c = false) (hb : ∀ c ∈ b, stop c = false)
    (hs : ∀ c ∈ s.head?, stop c = true) (ht : ∀ c ∈ t.head?, stop c = true)
    (h : a ++ s = b ++ t) : a = b ∧ s = t := by
  have hcut {a s : List Char} (ha : ∀ c ∈ a, stop c = false) (hs : ∀ c ∈ s.head?, stop c = true) :
      (a ++ s).takeWhile (fun c => !stop c) = a := by
    have hrest : s.takeWhile (fun c => !stop c) = [] := by
      cases s with
      | nil => rfl
      | cons c rest => simp [hs c rfl]
    have hfree : ∀ c ∈ a, (!stop c) = true := by simpa using ha
    rw [List.takeWhile_append_of_pos hfree, hrest, List.append_nil]
  have hab : a = b := by rw [← hcut ha hs, h, hcut hb ht]
  subst hab
  exact ⟨rfl, List.append_cancel_left h⟩

/-- The characters that a step begins with. -/
def beginsStep (c : Char) : Bool :=
  c == '.' || c == '['

theorem beginsStep_of_mem_head? (path : ViolationPath) :
    ∀ c ∈ (path.flatMap renderElement).head?, beginsStep c = true := by
  cases path with
  | nil => simp
  | cons step rest =>
      cases step with
      | key name => simp [renderElement, beginsStep]
      | index i => simp [renderElement, beginsStep]

theorem IsOrdinaryKey.not_beginsStep {name : String} (h : IsOrdinaryKey name) :
    ∀ c ∈ name.toList, beginsStep c = false := by
  obtain ⟨-, hpoint, hbracket⟩ := h
  intro c hc
  have hpoint : c ≠ '.' := fun heq => hpoint (heq ▸ hc)
  have hbracket : c ≠ '[' := fun heq => hbracket (heq ▸ hc)
  simp [beginsStep, hpoint, hbracket]

theorem natDigits_inj {i j : Nat} (h : Decimal.natDigits i = Decimal.natDigits j) : i = j := by
  have hvalue := congrArg (fun digits => Nat.ofDigitChars 10 digits 0) h
  simpa [Decimal.natDigits] using hvalue

theorem natDigits_ne_bracket (i : Nat) : ∀ c ∈ Decimal.natDigits i, (c == ']') = false := by
  intro c hc
  have hdigit : c.isDigit = true := Nat.isDigit_of_mem_toDigits (by omega) (by omega) hc
  rw [beq_eq_false_iff_ne]
  rintro rfl
  revert hdigit
  decide

/-- The steps of a path can be read back from their text. -/
theorem flatMap_renderElement_inj (hp : IsOrdinary p) (hq : IsOrdinary q)
    (h : p.flatMap renderElement = q.flatMap renderElement) : p = q := by
  induction p generalizing q with
  | nil =>
      cases q with
      | nil => rfl
      | cons step rest => cases step <;> simp [renderElement] at h
  | cons step p ih =>
      cases q with
      | nil => cases step <;> simp [renderElement] at h
      | cons other q =>
          rw [List.flatMap_cons, List.flatMap_cons] at h
          cases step with
          | key a =>
              cases other with
              | key b =>
                  -- A key ends where the next step begins.
                  have htexts : a.toList ++ p.flatMap renderElement =
                      b.toList ++ q.flatMap renderElement := List.tail_eq_of_cons_eq h
                  obtain ⟨hab, hrest⟩ := append_inj_of_stop
                    (hp a List.mem_cons_self).not_beginsStep
                    (hq b List.mem_cons_self).not_beginsStep
                    (beginsStep_of_mem_head? p) (beginsStep_of_mem_head? q) htexts
                  rw [String.toList_inj.mp hab, ih hp.tail hq.tail hrest]
              | index j => simp [renderElement] at h
          | index i =>
              cases other with
              | key b => simp [renderElement] at h
              | index j =>
                  -- An index ends at its own bracket.
                  have htexts : Decimal.natDigits i ++ (']' :: p.flatMap renderElement) =
                      Decimal.natDigits j ++ (']' :: q.flatMap renderElement) := by
                    simpa [renderElement] using h
                  obtain ⟨hij, hrest⟩ := append_inj_of_stop (natDigits_ne_bracket i)
                    (natDigits_ne_bracket j) (by simp) (by simp) htexts
                  rw [natDigits_inj hij, ih hp.tail hq.tail (List.tail_eq_of_cons_eq hrest)]

/-! ## Paths in writing -/

/-- The text of a path with the point that is left out at its start. -/
def withFirstPoint : List Char → List Char
  | [] => []
  | c :: rest => if c = '[' then c :: rest else '.' :: c :: rest

theorem withFirstPoint_renderPath (hp : IsOrdinary p) :
    withFirstPoint (renderPath p).toList = p.flatMap renderElement := by
  cases p with
  | nil => rfl
  | cons step rest =>
      cases step with
      | key name =>
          have hkey := hp name List.mem_cons_self
          obtain ⟨c, more, hname⟩ := List.exists_cons_of_ne_nil
            (mt String.toList_eq_nil_iff.mp hkey.1)
          have hc : c ≠ '[' := by
            rintro rfl
            exact hkey.2.2 (hname ▸ List.mem_cons_self)
          simp [renderPath, renderElement, hname, withFirstPoint, hc]
      | index i => simp [renderPath, renderElement, withFirstPoint]

/-- Paths over ordinary keys that are written alike are the same. -/
theorem eq_of_renderPath_eq (hp : IsOrdinary p) (hq : IsOrdinary q)
    (h : renderPath p = renderPath q) : p = q := by
  apply flatMap_renderElement_inj hp hq
  rw [← withFirstPoint_renderPath hp, h, withFirstPoint_renderPath hq]

/-- Nothing is written for the empty path only. -/
theorem renderPath_eq_empty_iff (hp : IsOrdinary p) : renderPath p = "" ↔ p = [] := by
  constructor
  · exact eq_of_renderPath_eq hp isOrdinary_nil
  · rintro rfl
    rfl

end Violation

end ImageBuild
