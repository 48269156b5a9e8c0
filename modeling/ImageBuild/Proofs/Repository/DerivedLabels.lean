import ImageBuild.Proofs.OrderedMap
import ImageBuild.Proofs.Repository.Snapshot

/-!
# The labels that are derived from a Dockerfile

Of all pairs that a Dockerfile sets, the last one of each name counts, and the labels are these
pairs in the order of their names.  A well-known label is looked for under its current spelling
first, so the place of its old spelling in the file does not matter.

* `OrderedMap.ofList_of_perm_table`: a table of the pairs may be listed in any order in between.
* `Labels.find?_ofList_iff`: how well-known labels are found.
* `derives_last_labels`: all this for the labels that a repository derives.
-/

namespace ImageBuild

variable {α : Type} {name : String} {pairs yielded : List (String × α)}

/-- A well-known label among pairs: under its current spelling, or else under its old one, with
the value of the last pair of that name. -/
inductive LabelKind.IsFound (kind : LabelKind) (pairs : List (String × String)) :
    Option (String × String) → Prop where
  | preferred {value : String} (last : IsLast pairs (kind.preferred, value)) :
      IsFound kind pairs (some (kind.preferred, value))
  | legacy {value : String} (absent : kind.preferred ∉ pairs.map Prod.fst)
      (last : IsLast pairs (kind.legacy, value)) :
      IsFound kind pairs (some (kind.legacy, value))
  | nothing (absent : kind.preferred ∉ pairs.map Prod.fst)
      (neither : kind.legacy ∉ pairs.map Prod.fst) : IsFound kind pairs none

/-! ## Tables in between -/

namespace OrderedMap

/-- A table holds the last value that it was given for a name, just as a map does. -/
theorem getElem?_insertMany (table : Std.HashMap String α) (pairs : List (String × α)) :
    (table.insertMany pairs)[name]? = (lastValue? name pairs).or table[name]? := by
  induction pairs generalizing table with
  | nil => rfl
  | cons first rest ih =>
      obtain ⟨other, v⟩ := first
      rw [Std.HashMap.insertMany_cons, ih, Std.HashMap.getElem?_insert, lastValue?,
        Option.or_assoc]
      by_cases hname : name = other
      · simp [hname]
      · simp [hname, Ne.symm hname]

/-- **A table of pairs may be listed in any order**: the map of its entries is that of the
pairs. -/
theorem ofList_of_perm_table (h : yielded.Perm (Std.HashMap.ofList pairs).toList) :
    ofList yielded = ofList pairs := by
  have hdistinct : yielded.Pairwise fun x y => x.1 ≠ y.1 := by
    refine h.symm.pairwise (List.Pairwise.imp ?_ Std.HashMap.distinct_keys_toList) Ne.symm
    intro x y hdiffer
    simpa using hdiffer
  -- In a list without repeated names every pair is the last one of its name.
  apply ext_get?
  intro name
  apply Option.ext
  intro value
  rw [get?_ofList, get?_ofList, lastValue?_eq_some_iff hdistinct, h.mem_iff,
    Std.HashMap.mem_toList_iff_getElem?_eq_some, Std.HashMap.ofList_eq_insertMany_empty,
    getElem?_insertMany]
  simp

end OrderedMap

/-! ## Well-known labels -/

theorem Labels.find?_eq (kind : LabelKind) (labels : Labels) :
    labels.find? kind =
      ((labels.get? kind.preferred).map fun value => (kind.preferred, value)).or
        ((labels.get? kind.legacy).map fun value => (kind.legacy, value)) := by
  unfold find? LabelKind.spellings
  simp only [List.findSome?_cons, List.findSome?_nil]
  cases labels.get? kind.preferred with
  | some value => rfl
  | none =>
      cases labels.get? kind.legacy with
      | some value => rfl
      | none => rfl

/-- The labels of a list are searched by what stands in it. -/
theorem Labels.find?_ofList_iff {kind : LabelKind} {pairs : List (String × String)}
    {found : Option (String × String)} :
    Labels.find? kind (.ofList pairs) = found ↔ kind.IsFound pairs found := by
  rw [find?_eq, OrderedMap.get?_ofList, OrderedMap.get?_ofList]
  constructor
  · rintro rfl
    cases hpreferred : lastValue? kind.preferred pairs with
    | some value => exact .preferred (lastValue?_eq_some_iff_isLast.mp hpreferred)
    | none =>
        have habsent := lastValue?_eq_none_iff.mp hpreferred
        cases hlegacy : lastValue? kind.legacy pairs with
        | some value => exact .legacy habsent (lastValue?_eq_some_iff_isLast.mp hlegacy)
        | none => exact .nothing habsent (lastValue?_eq_none_iff.mp hlegacy)
  · rintro (hlast | ⟨habsent, hlast⟩ | ⟨habsent, hneither⟩)
    · rw [lastValue?_eq_some_iff_isLast.mpr hlast]
      rfl
    · rw [lastValue?_eq_none_iff.mpr habsent, lastValue?_eq_some_iff_isLast.mpr hlast]
      rfl
    · rw [lastValue?_eq_none_iff.mpr habsent, lastValue?_eq_none_iff.mpr hneither]
      rfl

/-! ## Repositories -/

/-- The pairs that the instructions of a Dockerfile set as labels, in their order. -/
def Dockerfile.pairsOf (content : String) : List (String × String) :=
  (instructions content.toList).flatMap Instruction.labelPairs

namespace Repository

variable {r : Repository} {s : FileStore} {path content : String}

/-- The labels that a repository without facts derives are those of its Dockerfile. -/
theorem result_labels_of_waiting (h : r.Waiting (.ofFile path))
    (hread : s.readText path = .ok content) :
    (r.labels s).2.result = .ok (Dockerfile.labelsOf content) := by
  have haccess : (r.labels s).2.result.map Answer.labels =
      .ok (.labels (Dockerfile.labelsOf content)) := (access_readable h hread .labels).1
  cases hresult : (r.labels s).2.result with
  | error e =>
      rw [hresult] at haccess
      cases haccess
  | ok labels =>
      rw [hresult] at haccess
      cases haccess
      rfl

/-- **Derived labels are the last ones of their names, and the current spelling goes first.**
The labels list each name that the Dockerfile sets once, in ascending order and with the value of
its last pair, also when the pairs have been listed in another order in between.  A well-known
label is found under its current spelling wherever this stands in the file. -/
theorem derives_last_labels (h : r.Waiting (.ofFile path))
    (hread : s.readText path = .ok content) :
    ∃ labels : Labels, (r.labels s).2.result = .ok labels ∧
      labels.keys.Pairwise (· < ·) ∧
      (∀ name, name ∈ labels.keys ↔ name ∈ (Dockerfile.pairsOf content).map Prod.fst) ∧
      (∀ entry, entry ∈ labels.entries ↔ IsLast (Dockerfile.pairsOf content) entry) ∧
      (∀ yielded : List (String × String),
        yielded.Perm (Std.HashMap.ofList (Dockerfile.pairsOf content)).toList →
          OrderedMap.ofList yielded = labels) ∧
      ∀ kind found, labels.find? kind = found ↔
        kind.IsFound (Dockerfile.pairsOf content) found := by
  refine ⟨.ofList (Dockerfile.pairsOf content), result_labels_of_waiting h hread, ?_,
    fun name => OrderedMap.mem_keys_ofList_iff, fun entry => OrderedMap.mem_entries_ofList_iff,
    fun yielded => OrderedMap.ofList_of_perm_table, fun kind found => Labels.find?_ofList_iff⟩
  rw [OrderedMap.keys, List.pairwise_map]
  exact OrderedMap.isAscending _

/-- Old and current spellings, each with several values, and one that is only old. -/
def spelledDockerfile : String :=
  "LABEL name=a\nLABEL Name=b Version=1\nlabel name=c\nFROM d\nLABEL Name=e Version=2\n"

/-- A repository with the Dockerfile. -/
def spelledStore : FileStore where
  workingDirectory := []
  entries := [(["repo"], .directory), (["repo", "Dockerfile"], .text spelledDockerfile)]

/-- The current spelling is found although the old one comes later. -/
theorem derives_last_labels_spelled :
    ∃ c r, (Configuration.load { directory := "repo" } spelledStore).result = .ok c ∧
      (assemble (some (.ofFile "repo/Dockerfile")) (some c) none spelledStore).result = .ok r ∧
      r.Waiting (.ofFile "repo/Dockerfile") ∧
      ∃ labels : Labels, (r.labels spelledStore).2.result = .ok labels ∧
        labels.find? .name = some ("name", "c") ∧ labels.find? .version = some ("Version", "2") ∧
        labels.find? .release = none := by
  have hparts : ∃ c r, (Configuration.load { directory := "repo" } spelledStore).result = .ok c ∧
      c.isFlatpak = false ∧
      (assemble (some (.ofFile "repo/Dockerfile")) (some c) none spelledStore).result = .ok r :=
    ⟨_, _, rfl, rfl, rfl⟩
  obtain ⟨c, r, hload, hflatpak, hassembled⟩ := hparts
  obtain ⟨hsource, hderived, -, -⟩ := assemble_fields hassembled
  have hwaiting : r.Waiting (.ofFile "repo/Dockerfile") :=
    ⟨hderived, assemble_configuration hassembled ▸ hflatpak, hsource⟩
  have hread : spelledStore.readText "repo/Dockerfile" = .ok spelledDockerfile := rfl
  have hpairs : Dockerfile.pairsOf spelledDockerfile =
      [("name", "a"), ("Name", "b"), ("Version", "1"), ("name", "c"), ("Name", "e"),
        ("Version", "2")] := by
    cbv
  obtain ⟨labels, hlabels, -, -, -, -, hfound⟩ := derives_last_labels hwaiting hread
  rw [hpairs] at hfound
  refine ⟨c, r, hload, hassembled, hwaiting, labels, hlabels, ?_, ?_, ?_⟩
  · refine (hfound .name _).mpr (.preferred ⟨[_, _, _], [_, _], rfl, ?_⟩)
    simp [LabelKind.preferred]
  · refine (hfound .version _).mpr (.legacy ?_ ⟨[_, _, _, _, _], [], rfl, ?_⟩)
    · simp [LabelKind.preferred]
    · simp
  · refine (hfound .release _).mpr (.nothing ?_ ?_)
    · simp [LabelKind.preferred]
    · simp [LabelKind.legacy]

end Repository

end ImageBuild
