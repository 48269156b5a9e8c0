/-!
# Maps in ascending order

A map from names to values, kept as a list of entries in strictly ascending
order of their names.  Two maps with the same look-ups are therefore the same
map, whatever order their entries were inserted in.
-/

namespace ImageBuild

/-- Put an entry at its place in ascending order, replacing one of the same
name. -/
def insertEntry {α : Type} (name : String) (value : α) :
    List (String × α) → List (String × α)
  | [] => [(name, value)]
  | (other, v) :: rest =>
      if name = other then (name, value) :: rest
      else if name < other then (name, value) :: (other, v) :: rest
      else (other, v) :: insertEntry name value rest

/-- The value of the entry of a name. -/
def lookUpEntry {α : Type} (name : String) : List (String × α) → Option α
  | [] => none
  | (other, v) :: rest => if name = other then some v else lookUpEntry name rest

/-- The names of entries are strictly ascending. -/
def IsAscending {α : Type} (entries : List (String × α)) : Prop :=
  entries.Pairwise fun x y => x.1 < y.1

theorem mem_insertEntry {α : Type} {name : String} {value : α} {x : String × α}
    {entries : List (String × α)} (h : x ∈ insertEntry name value entries) :
    x = (name, value) ∨ x ∈ entries := by
  induction entries with
  | nil => simpa [insertEntry] using h
  | cons e rest ih =>
      simp only [insertEntry] at h
      split at h
      · grind
      · split at h
        · grind
        · rcases List.mem_cons.mp h with h | h
          · grind
          · rcases ih h with h | h <;> grind

theorem IsAscending.insertEntry {α : Type} {name : String} {value : α}
    {entries : List (String × α)} (h : IsAscending entries) :
    IsAscending (insertEntry name value entries) := by
  induction entries with
  | nil => simp [ImageBuild.insertEntry, IsAscending]
  | cons e rest ih =>
      have hrest : IsAscending rest := (List.pairwise_cons.mp h).2
      have hfirst : ∀ x ∈ rest, e.1 < x.1 := (List.pairwise_cons.mp h).1
      simp only [ImageBuild.insertEntry]
      split
      · rename_i heq
        exact List.pairwise_cons.mpr ⟨fun x hx => heq ▸ hfirst x hx, hrest⟩
      · split
        · rename_i hlt
          refine List.pairwise_cons.mpr ⟨fun x hx => ?_, h⟩
          rcases List.mem_cons.mp hx with hx | hx
          · exact hx ▸ hlt
          · exact String.lt_trans hlt (hfirst x hx)
        · rename_i hne hlt
          refine List.pairwise_cons.mpr ⟨fun x hx => ?_, ih hrest⟩
          rcases mem_insertEntry hx with hx | hx
          · exact hx ▸ Std.lt_of_le_of_ne (String.not_lt.mp hlt) (Ne.symm hne)
          · exact hfirst x hx

/-- A map from names to values. -/
structure OrderedMap (α : Type) where
  entries : List (String × α)
  isAscending : IsAscending entries
deriving DecidableEq

namespace OrderedMap

variable {α : Type}

/-- The map without entries. -/
def empty : OrderedMap α := ⟨[], List.Pairwise.nil⟩

instance : Inhabited (OrderedMap α) := ⟨empty⟩

/-- The map with one entry more, or with another value for a name it has. -/
def insert (name : String) (value : α) (m : OrderedMap α) : OrderedMap α :=
  ⟨insertEntry name value m.entries, m.isAscending.insertEntry⟩

/-- The map with more entries, later ones winning. -/
def insertAll (pairs : List (String × α)) (m : OrderedMap α) : OrderedMap α :=
  pairs.foldl (fun m (name, value) => m.insert name value) m

/-- The map of a list of pairs, later pairs winning. -/
def ofList (pairs : List (String × α)) : OrderedMap α :=
  empty.insertAll pairs

/-- The value of a name. -/
def get? (name : String) (m : OrderedMap α) : Option α :=
  lookUpEntry name m.entries

/-- The names of a map in ascending order. -/
def keys (m : OrderedMap α) : List String :=
  m.entries.map Prod.fst

def contains (name : String) (m : OrderedMap α) : Bool :=
  (m.get? name).isSome

def size (m : OrderedMap α) : Nat :=
  m.entries.length

def isEmpty (m : OrderedMap α) : Bool :=
  m.entries.isEmpty

theorem lookUpEntry_insertEntry (name other : String) (value : α) (entries : List (String × α)) :
    lookUpEntry other (insertEntry name value entries) =
      if other = name then some value else lookUpEntry other entries := by
  induction entries with
  | nil => simp [insertEntry, lookUpEntry]
  | cons e rest ih =>
      simp only [insertEntry, lookUpEntry]
      split
      · rename_i heq
        simp only [lookUpEntry, heq]
        grind
      · split
        · simp [lookUpEntry]
        · simp only [lookUpEntry, ih]
          grind

@[simp] theorem get?_empty (name : String) : (empty : OrderedMap α).get? name = none := rfl

/-- An inserted value is found under its name, and all others as before. -/
@[simp] theorem get?_insert (name other : String) (value : α) (m : OrderedMap α) :
    (m.insert name value).get? other = if other = name then some value else m.get? other :=
  lookUpEntry_insertEntry name other value m.entries

end OrderedMap

/-- A set of names, listed in ascending order. -/
structure NameSet where
  members : OrderedMap Unit
deriving DecidableEq

namespace NameSet

/-- The names of a list, each once. -/
def ofList (names : List String) : NameSet :=
  ⟨OrderedMap.ofList (names.map fun name => (name, ()))⟩

/-- The names in ascending order, each once. -/
def toList (s : NameSet) : List String :=
  s.members.keys

def contains (name : String) (s : NameSet) : Bool :=
  s.members.contains name

end NameSet

end ImageBuild
