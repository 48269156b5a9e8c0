import ImageBuild.Yaml.Event

/-!
# Documents

The nodes of one document, with every alias replaced by the number of the node
it stands for.  A fault of form ends a document early and stays with it, so
that values read from the nodes in front of it can be judged first.
-/

namespace ImageBuild.Yaml

/-- A piece of a document. -/
inductive Item where
  | reference (anchor : Nat)
  | scalar (tag : Option (List Char)) (text : List Char) (plain : Bool)
  | sequenceStart (tag : Option (List Char))
  | sequenceEnd
  | mappingStart (tag : Option (List Char))
  | mappingEnd
deriving DecidableEq, Repr

/-- The items of a document with their places, the items that its anchors
number, and the fault that ends it early. -/
structure Document where
  items : List (Item × Mark)
  anchored : List (Nat × List (Item × Mark))
  fault : Option Fault

namespace Document

/-- The document while its items are gathered, last one first.  `names` are
the names of anchors, each once, with their numbers, and `positions` says which
item an anchor number stands for. -/
structure Draft where
  items : List (Item × Mark)
  names : List (List Char × Nat)
  positions : List (Nat × Nat)

/-- The anchor of the item that comes next.  It is numbered by the count of
names so far, and replaces an earlier anchor of the same name. -/
def Draft.anchor (d : Draft) : Option (List Char) → Draft
  | none => d
  | some name =>
      let number := d.names.length
      { d with
        names := (name, number) :: d.names.filter fun (other, _) => other != name
        positions := (number, d.items.length) :: d.positions }

def Draft.push (d : Draft) (item : Item) (mark : Mark) : Draft :=
  { d with items := (item, mark) :: d.items }

def Draft.finish (d : Draft) (fault : Option Fault) : Document :=
  let items := d.items.reverse
  { items, fault
    anchored := d.positions.map fun (number, position) => (number, items.drop position) }

/-- The first document of events, and the events behind it. -/
def gather (problem : Option Malformed) : List Event → Draft → Document × List Event
  | [], d => (d.finish (problem.map Fault.malformed), [])
  | e :: rest, d =>
      match e.kind with
      | .documentStart => gather problem rest d
      | .documentEnd => (d.finish none, rest)
      | .reference name =>
          match d.names.find? fun (other, _) => other == name with
          | some (_, number) => gather problem rest (d.push (.reference number) e.mark)
          | none => (d.finish (some (.unknownAnchor e.mark)), rest)
      | .scalar p text plain =>
          gather problem rest ((d.anchor p.anchor).push (.scalar p.tag text plain) e.mark)
      | .sequenceStart p =>
          gather problem rest ((d.anchor p.anchor).push (.sequenceStart p.tag) e.mark)
      | .sequenceEnd => gather problem rest (d.push .sequenceEnd e.mark)
      | .mappingStart p =>
          gather problem rest ((d.anchor p.anchor).push (.mappingStart p.tag) e.mark)
      | .mappingEnd => gather problem rest (d.push .mappingEnd e.mark)

/-- The first document of events, `none` when there is none, and whether more
documents, or a fault of form, follow behind it. -/
def first? (events : List Event) (problem : Option Malformed) : Option Document × Bool :=
  if events.isEmpty && problem.isNone then (none, false)
  else
    let (document, rest) := gather problem events ⟨[], [], []⟩
    (some document, !rest.isEmpty || problem.isSome)

end Document

end ImageBuild.Yaml
