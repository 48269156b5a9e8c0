import ImageBuild.OrderedMap

/-!
# Maps from lists of pairs

A map that is made from a list of pairs holds for each name the value of its last
pair: its entries are the pairs for which `IsLast` holds.  Maps with the same look-ups
are the same, so the order of pairs with different names does not matter.
-/

namespace ImageBuild

variable {α : Type} {name : String} {value : α} {pairs : List (String × α)}

/-! ## Entries -/

/-- A look-up finds an entry, and in ascending entries it finds every one. -/
theorem lookUpEntry_eq_some_iff {entries : List (String × α)} (h : IsAscending entries)
    {name : String} {value : α} :
    lookUpEntry name entries = some value ↔ (name, value) ∈ entries := by
  induction entries with
  | nil => simp [lookUpEntry]
  | cons entry rest ih =>
      obtain ⟨other, v⟩ := entry
      obtain ⟨hfirst, hrest⟩ := List.pairwise_cons.mp h
      rw [lookUpEntry, List.mem_cons, Prod.mk.injEq]
      by_cases hname : name = other
      · subst hname
        have hfresh : (name, value) ∉ rest := fun hmem => String.lt_irrefl name (hfirst _ hmem)
        simp [hfresh, eq_comm]
      · simp [hname, ih hrest]

theorem IsAscending.nodup {entries : List (String × α)} (h : IsAscending entries) :
    entries.Nodup := by
  refine List.Pairwise.imp ?_ h
  rintro x y hlt rfl
  exact String.lt_irrefl x.1 hlt

/-- The last pair of a name decides its value. -/
def lastValue? (name : String) : List (String × α) → Option α
  | [] => none
  | (other, value) :: rest =>
      (lastValue? name rest).or (if name = other then some value else none)

theorem mem_of_lastValue? {name : String} {value : α} {pairs : List (String × α)}
    (h : lastValue? name pairs = some value) : (name, value) ∈ pairs := by
  induction pairs with
  | nil => cases h
  | cons pair rest ih =>
      obtain ⟨other, v⟩ := pair
      rw [lastValue?, Option.or_eq_some_iff] at h
      rcases h with h | ⟨-, h⟩
      · exact List.mem_cons_of_mem _ (ih h)
      · obtain ⟨rfl, hvalue⟩ := Option.ite_none_right_eq_some.mp h
        exact (Option.some.inj hvalue) ▸ List.mem_cons_self

/-- Where no name stands twice, every pair is the last one of its name. -/
theorem lastValue?_eq_some_iff {pairs : List (String × α)}
    (h : pairs.Pairwise fun x y => x.1 ≠ y.1) {name : String} {value : α} :
    lastValue? name pairs = some value ↔ (name, value) ∈ pairs := by
  refine ⟨mem_of_lastValue?, fun hmem => ?_⟩
  induction pairs with
  | nil => cases hmem
  | cons pair rest ih =>
      obtain ⟨hfirst, hrest⟩ := List.pairwise_cons.mp h
      rw [lastValue?]
      rcases List.mem_cons.mp hmem with rfl | hmem
      · have hlater : lastValue? name rest = none := by
          cases hvalue : lastValue? name rest with
          | none => rfl
          | some other =>
              exact absurd rfl (hfirst (name, other) (mem_of_lastValue? hvalue))
        rw [hlater, if_pos rfl, Option.none_or]
      · rw [ih hrest hmem, Option.some_or]

theorem isSome_lastValue?_iff {name : String} {pairs : List (String × α)} :
    (lastValue? name pairs).isSome = true ↔ ∃ value, (name, value) ∈ pairs := by
  induction pairs with
  | nil => simp [lastValue?]
  | cons pair rest ih =>
      obtain ⟨other, v⟩ := pair
      rw [lastValue?, Option.isSome_or, Bool.or_eq_true, ih]
      by_cases hname : name = other
      · simp [hname]
      · simp [hname]

/-! ## Pairs that count -/

/-- A pair stands in a list, and behind it no other one of its name. -/
def IsLast (pairs : List (String × α)) (pair : String × α) : Prop :=
  ∃ before after, pairs = before ++ pair :: after ∧ ∀ later ∈ after, later.1 ≠ pair.1

theorem lastValue?_eq_none_iff : lastValue? name pairs = none ↔ name ∉ pairs.map Prod.fst := by
  rw [← Option.not_isSome_iff_eq_none, isSome_lastValue?_iff]
  simp

theorem isLast_cons_iff {first pair : String × α} :
    IsLast (first :: pairs) pair ↔
      IsLast pairs pair ∨ (first = pair ∧ pair.1 ∉ pairs.map Prod.fst) := by
  constructor
  · rintro ⟨before, after, heq, hafter⟩
    cases before with
    | nil =>
        cases heq
        refine .inr ⟨rfl, fun hmem => ?_⟩
        obtain ⟨later, hlater, hname⟩ := List.mem_map.mp hmem
        exact hafter later hlater hname
    | cons other before =>
        cases heq
        exact .inl ⟨before, after, rfl, hafter⟩
  · rintro (⟨before, after, rfl, hafter⟩ | ⟨rfl, hfresh⟩)
    · exact ⟨first :: before, after, rfl, hafter⟩
    · refine ⟨[], pairs, rfl, fun later hlater hname => hfresh ?_⟩
      exact List.mem_map.mpr ⟨later, hlater, hname⟩

/-- The value of a name is that of its last pair. -/
theorem lastValue?_eq_some_iff_isLast :
    lastValue? name pairs = some value ↔ IsLast pairs (name, value) := by
  induction pairs with
  | nil => simp [lastValue?, IsLast]
  | cons first rest ih =>
      obtain ⟨other, v⟩ := first
      rw [isLast_cons_iff, ← ih, ← lastValue?_eq_none_iff, lastValue?, Option.or_eq_some_iff,
        Option.ite_none_right_eq_some, Option.some.injEq, Prod.mk.injEq]
      refine or_congr_right ?_
      constructor
      · rintro ⟨hnone, rfl, rfl⟩
        exact ⟨⟨rfl, rfl⟩, hnone⟩
      · rintro ⟨⟨rfl, rfl⟩, hnone⟩
        exact ⟨hnone, rfl, rfl⟩

namespace OrderedMap

/-! ## Look-ups -/

theorem get?_insertAll (name : String) (pairs : List (String × α)) (m : OrderedMap α) :
    (m.insertAll pairs).get? name = (lastValue? name pairs).or (m.get? name) := by
  induction pairs generalizing m with
  | nil => rfl
  | cons pair rest ih =>
      obtain ⟨other, value⟩ := pair
      have hstep : m.insertAll ((other, value) :: rest) = (m.insert other value).insertAll rest :=
        rfl
      rw [hstep, ih, get?_insert, lastValue?, Option.or_assoc]
      by_cases hname : name = other
      · simp [hname]
      · simp [hname]

/-- **A map holds the last value that it was given for a name.** -/
theorem get?_ofList (name : String) (pairs : List (String × α)) :
    (ofList pairs).get? name = lastValue? name pairs := by
  rw [ofList, get?_insertAll, get?_empty, Option.or_none]

/-- Later pairs go before earlier ones. -/
theorem get?_ofList_append (name : String) (earlier later : List (String × α)) :
    (ofList (earlier ++ later)).get? name =
      ((ofList later).get? name).or ((ofList earlier).get? name) := by
  have hstep : ofList (earlier ++ later) = (ofList earlier).insertAll later := List.foldl_append
  rw [hstep, get?_insertAll, get?_ofList name later]

theorem get?_eq_some_iff {m : OrderedMap α} {name : String} {value : α} :
    m.get? name = some value ↔ (name, value) ∈ m.entries :=
  lookUpEntry_eq_some_iff m.isAscending

theorem mem_entries_ofList_iff {entry : String × α} :
    entry ∈ (ofList pairs).entries ↔ IsLast pairs entry := by
  obtain ⟨name, value⟩ := entry
  rw [← get?_eq_some_iff, get?_ofList, lastValue?_eq_some_iff_isLast]

theorem mem_keys_iff {m : OrderedMap α} : name ∈ m.keys ↔ m.contains name = true := by
  simp only [keys, contains, List.mem_map, Option.isSome_iff_exists, get?_eq_some_iff]
  constructor
  · rintro ⟨⟨_, value⟩, hmem, rfl⟩
    exact ⟨value, hmem⟩
  · rintro ⟨value, hmem⟩
    exact ⟨(name, value), hmem, rfl⟩

theorem mem_keys_ofList_iff : name ∈ (ofList pairs).keys ↔ name ∈ pairs.map Prod.fst := by
  rw [mem_keys_iff, contains, get?_ofList, isSome_lastValue?_iff]
  simp

/-- The entries of a map are among the pairs that it was made from. -/
theorem mem_of_mem_entries_ofList {pairs : List (String × α)} {entry : String × α}
    (h : entry ∈ (ofList pairs).entries) : entry ∈ pairs := by
  obtain ⟨before, after, rfl, -⟩ := mem_entries_ofList_iff.mp h
  exact List.mem_append_right before List.mem_cons_self

/-- Maps with the same look-ups are the same. -/
theorem ext_get? {m n : OrderedMap α} (h : ∀ name, m.get? name = n.get? name) : m = n := by
  have hmem (entry : String × α) : entry ∈ m.entries ↔ entry ∈ n.entries := by
    rw [← get?_eq_some_iff, ← get?_eq_some_iff, h]
  have hperm : m.entries.Perm n.entries :=
    (List.perm_ext_iff_of_nodup m.isAscending.nodup n.isAscending.nodup).mpr hmem
  have hentries : m.entries = n.entries :=
    hperm.eq_of_pairwise
      (fun x y _ _ hxy hyx => absurd (String.lt_trans hxy hyx) (String.lt_irrefl x.1))
      m.isAscending n.isAscending
  cases m
  cases n
  cases hentries
  rfl

/-- A map is made again from its entries, in any order. -/
theorem ofList_of_perm_entries {m : OrderedMap α} {pairs : List (String × α)}
    (h : pairs.Perm m.entries) : ofList pairs = m := by
  have hdistinct : pairs.Pairwise fun x y => x.1 ≠ y.1 := by
    refine h.symm.pairwise (List.Pairwise.imp ?_ m.isAscending) Ne.symm
    intro x y hlt heq
    exact String.lt_irrefl x.1 (heq ▸ hlt)
  apply ext_get?
  intro name
  apply Option.ext
  intro value
  rw [get?_ofList, lastValue?_eq_some_iff hdistinct, get?_eq_some_iff]
  exact h.mem_iff

end OrderedMap

/-! ## Sets of names -/

namespace NameSet

theorem pairwise_toList (names : NameSet) : names.toList.Pairwise (· < ·) := by
  rw [toList, OrderedMap.keys, List.pairwise_map]
  exact names.members.isAscending

theorem mem_toList_iff {names : NameSet} {name : String} :
    name ∈ names.toList ↔ names.contains name = true :=
  OrderedMap.mem_keys_iff

theorem contains_ofList_iff {names : List String} {name : String} :
    (ofList names).contains name = true ↔ name ∈ names := by
  rw [contains, OrderedMap.contains, ofList, OrderedMap.get?_ofList, isSome_lastValue?_iff]
  simp

/-- Sets with the same names are the same. -/
theorem ext_contains {names more : NameSet}
    (h : ∀ name, names.contains name = true ↔ more.contains name = true) : names = more := by
  have hmembers : names.members = more.members := by
    apply OrderedMap.ext_get?
    intro name
    apply Option.ext
    rintro ⟨⟩
    have hname := h name
    simp only [contains, OrderedMap.contains, Option.isSome_iff_exists] at hname
    constructor
    · intro hget
      obtain ⟨⟨⟩, hmore⟩ := hname.mp ⟨(), hget⟩
      exact hmore
    · intro hget
      obtain ⟨⟨⟩, hnames⟩ := hname.mpr ⟨(), hget⟩
      exact hnames
  cases names
  cases more
  cases hmembers
  rfl

end NameSet

end ImageBuild
