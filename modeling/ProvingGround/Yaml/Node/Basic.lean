import ProvingGround.Yaml.Event.Grammar

/-!
# Documents as trees

A document is a tree of nodes with a table of the nodes that aliases point at. A text that breaks
off still gives a tree: a broken leaf stands where reading stopped, so that whoever walks the tree
in the order of the text meets the fault exactly when it comes to that place.

Aliases point at numbers. The number of an anchor is the count of different anchor names before it;
an anchor name used again takes a new number, and of several anchors under one number the one that
begins last counts.
-/

namespace ProvingGround.Yaml

/-! ### Nodes and documents -/

inductive Node where
  | scalar (mark : Mark) (scalar : Scalar)
  | sequence (mark : Mark) (tag : Option String) (items : List Node)
  | mapping (mark : Mark) (tag : Option String) (entries : List (Node × Node))
  | reference (mark : Mark) (number : Nat)
  /-- The content of an empty stream. -/
  | nothing (mark : Mark)
  /-- Reading stopped here. -/
  | broken (fault : FormFault)
  deriving Repr, Inhabited

/-- A document and what came with it. -/
structure Document where
  root : Node
  /-- The nodes that aliases point at. -/
  anchors : List (Nat × Node) := []
  /-- How many events it took. -/
  size : Nat
  /-- Reading stopped before the document was complete. -/
  fault : Option FormFault := none
  /-- Something other than the end of the stream follows. -/
  hasMore : Bool := false

/-! ### Building -/

/-- An anchored node under construction: its number and the event it began with. -/
structure Anchoring where
  number : Nat
  start : Nat

/-- A collection under construction, its parts in reverse. -/
inductive OpenNode where
  | sequence (mark : Mark) (tag : Option String) (anchoring : Option Anchoring) (items : List Node)
  | mapping (mark : Mark) (tag : Option String) (anchoring : Option Anchoring)
      (entries : List (Node × Node)) (key : Option Node)

structure Builder where
  /-- The collections being read, the innermost first. -/
  openNodes : List OpenNode := []
  root : Option Node := none
  /-- The numbers of anchor names. -/
  names : List (String × Nat) := []
  /-- Anchored nodes with the events they began with. -/
  anchored : List (Nat × Nat × Node) := []
  size : Nat := 0

namespace Builder

/-- A node into the innermost collection, or as the root. -/
def place (b : Builder) (n : Node) : Builder :=
  match b.openNodes with
  | .sequence m t a items :: rest => { b with openNodes := .sequence m t a (n :: items) :: rest }
  | .mapping m t a entries none :: rest =>
    { b with openNodes := .mapping m t a entries (some n) :: rest }
  | .mapping m t a entries (some k) :: rest =>
    { b with openNodes := .mapping m t a ((k, n) :: entries) none :: rest }
  | [] => { b with root := some n }

/-- Records an anchored node, unless one that began later has its number. -/
def record (b : Builder) (a : Option Anchoring) (n : Node) : Builder :=
  match a with
  | none => b
  | some a =>
    match b.anchored.lookup a.number with
    | some (start, _) =>
      if start > a.start then b else { b with anchored := (a.number, a.start, n) :: b.anchored }
    | none => { b with anchored := (a.number, a.start, n) :: b.anchored }

def anchor (b : Builder) (name : Option String) : Builder × Option Anchoring :=
  match name with
  | none => (b, none)
  | some name =>
    let number := b.names.length
    ({ b with names := (name, number) :: b.names.filter (·.1 ≠ name) }, some ⟨number, b.size⟩)

def leaf (b : Builder) (a : Option Anchoring) (n : Node) : Builder := (b.record a n).place n

/-- Completes the innermost collection. -/
def close (b : Builder) : Builder :=
  match b.openNodes with
  | .sequence m t a items :: rest =>
    { b with openNodes := rest }.leaf a (.sequence m t items.reverse)
  | .mapping m t a entries _ :: rest =>
    { b with openNodes := rest }.leaf a (.mapping m t entries.reverse)
  | [] => b

/-- Completes the innermost collection with a broken leaf. -/
def closeBroken (b : Builder) (f : FormFault) : Builder :=
  match b.openNodes with
  | .sequence m t a items :: rest =>
    { b with openNodes := rest }.leaf a (.sequence m t (Node.broken f :: items).reverse)
  | .mapping m t a entries key :: rest =>
    let entry := (key.getD (.broken f), Node.broken f)
    { b with openNodes := rest }.leaf a (.mapping m t (entry :: entries).reverse)
  | [] => b

def breakOff (b : Builder) (f : FormFault) : Document :=
  let closed := (List.range b.openNodes.length).foldl (fun b _ => b.closeBroken f) b
  { root := closed.root.getD (.broken f)
    anchors := closed.anchored.map fun (n, _, node) => (n, node)
    size := b.size
    fault := some f }

def finish (b : Builder) (hasMore : Bool) (stop : Mark) : Document :=
  { root := b.root.getD (.nothing stop)
    anchors := b.anchored.map fun (n, _, node) => (n, node)
    size := if b.root.isNone then 1 else b.size
    hasMore := hasMore }

def count (b : Builder) : Builder := { b with size := b.size + 1 }

/-- What follows a document is the end of the stream and nothing else. -/
def followedByMore (rest : List Event) (failure : Option FormFault) : Bool :=
  match rest, failure with
  | [], none => false
  | [], some _ => true
  | e :: _, _ => e.happening ≠ .streamEnd

/-- Takes up the events of the first document. -/
def build (failure : Option FormFault) : List Event → Builder → Document
  | [], b =>
    match failure with
    | some f => b.breakOff f
    | none => b.finish false .start
  | e :: rest, b =>
    match e.happening with
    | .streamStart => build failure rest b
    | .documentStart => build failure rest b
    | .streamEnd => b.finish false e.mark
    | .documentEnd => b.finish (followedByMore rest failure) e.mark
    | .reference name =>
      match b.names.lookup name with
      | none => b.breakOff (.unknownAnchor e.mark)
      | some number => build failure rest (b.leaf none (.reference e.mark number)).count
    | .scalar name s =>
      let (b, a) := b.anchor name
      build failure rest (b.leaf a (.scalar e.mark s)).count
    | .sequenceStart name tag =>
      let (b, a) := b.anchor name
      build failure rest { b with openNodes := .sequence e.mark tag a [] :: b.openNodes }.count
    | .mappingStart name tag =>
      let (b, a) := b.anchor name
      build failure rest { b with openNodes := .mapping e.mark tag a [] none :: b.openNodes }.count
    | .sequenceEnd => build failure rest b.close.count
    | .mappingEnd => build failure rest b.close.count

end Builder

def Document.read (text : String) : Document :=
  let (events, failure) := Event.read text
  Builder.build failure events {}

/-! ### Looking at nodes -/

namespace Node

def mark : Node → Mark
  | scalar m _ => m
  | sequence m _ _ => m
  | mapping m _ _ => m
  | reference m _ => m
  | nothing m => m
  | broken _ => .start

mutual

def fault? : Node → Option FormFault
  | broken f => some f
  | sequence _ _ items => itemsFault? items
  | mapping _ _ entries => entriesFault? entries
  | _ => none

def itemsFault? : List Node → Option FormFault
  | [] => none
  | n :: rest => (fault? n).or (itemsFault? rest)

def entriesFault? : List (Node × Node) → Option FormFault
  | [] => none
  | (k, v) :: rest => (fault? k).or ((fault? v).or (entriesFault? rest))

end

end Node

end ProvingGround.Yaml
