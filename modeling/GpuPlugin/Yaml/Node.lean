import GpuPlugin.Yaml.Event

/-!
# Yaml/Node — the nodes of a document

A node is a scalar, a sequence or a mapping, or an alias for one of these.  When a text breaks off,
a cut stands for the node that would have come next, at the end of every collection around it.  An
alias is resolved against the whole document: it stands for the node that took its number last.
-/

namespace GpuPlugin.Yaml

inductive Node where
  | scalar (props : Props) (text : String) (style : Style)
  | sequence (props : Props) (items : List Node)
  | mapping (props : Props) (entries : List (Node × Node))
  | alias (mark : Mark) (anchor : Nat)
  /-- The text breaks off here. -/
  | cut (fault : SyntaxError)
  deriving Repr

namespace Node

def mark : Node → Mark
  | .scalar p _ _ | .sequence p _ | .mapping p _ => p.mark
  | .alias m _ => m
  | .cut e => e.mark

/-- Whether a node itself has an anchor's number. -/
def hasAnchor (n : Nat) : Node → Bool
  | .scalar p _ _ | .sequence p _ | .mapping p _ => p.anchor == some n
  | .alias _ _ | .cut _ => false

mutual

/-- A node and all nodes in it, in the order in which they start. -/
def nodes : Node → List Node
  | .scalar p text style => [.scalar p text style]
  | .sequence p items => .sequence p items :: itemNodes items
  | .mapping p entries => .mapping p entries :: entryNodes entries
  | .alias m anchor => [.alias m anchor]
  | .cut e => [.cut e]

def itemNodes : List Node → List Node
  | [] => []
  | x :: rest => x.nodes ++ itemNodes rest

def entryNodes : List (Node × Node) → List Node
  | [] => []
  | (k, v) :: rest => k.nodes ++ v.nodes ++ entryNodes rest

end

/-- Why a node is not whole, if it is not. -/
def fault? (n : Node) : Option SyntaxError :=
  n.nodes.findSome? fun
    | .cut e => some e
    | _ => none

end Node

/-! ## Growing a tree -/

/-- A collection that has not ended yet, its last child first. -/
inductive OpenNode where
  | sequence (props : Props) (items : List Node)
  /-- A key may be waiting for its value. -/
  | mapping (props : Props) (entries : List (Node × Node)) (key : Option Node)

namespace OpenNode

/-- Add a child. -/
def add : OpenNode → Node → OpenNode
  | .sequence p items, n => .sequence p (n :: items)
  | .mapping p entries none, n => .mapping p entries (some n)
  | .mapping p entries (some key), n => .mapping p ((key, n) :: entries) none

/-- The collection, once it ends. -/
def close : OpenNode → Node
  | .sequence p items => .sequence p items.reverse
  | .mapping p entries _ => .mapping p entries.reverse

/-- The collection, when the text breaks off. -/
def breakOff (e : SyntaxError) : OpenNode → Node
  | .sequence p items => .sequence p (.cut e :: items).reverse
  | .mapping p entries key => .mapping p ((key.getD (.cut e), .cut e) :: entries).reverse

end OpenNode

/-- A tree that is growing: the collections around the next node, the innermost first, and the root
once it is complete. -/
structure Growth where
  around : List OpenNode := []
  root : Option Node := none

namespace Growth

/-- Add a complete node. -/
def add (g : Growth) (n : Node) : Growth :=
  match g.around with
  | [] => { g with root := some n }
  | inner :: outer => { g with around := inner.add n :: outer }

def step (g : Growth) : Event → Growth
  | .scalar p text style => g.add (.scalar p text style)
  | .alias m anchor => g.add (.alias m anchor)
  | .sequenceStart p => { g with around := .sequence p [] :: g.around }
  | .mappingStart p => { g with around := .mapping p [] none :: g.around }
  | .collectionEnd =>
    match g.around with
    | [] => g
    | inner :: outer => { g with around := outer }.add inner.close

/-- The root, when the text breaks off. -/
def breakOff (g : Growth) (e : SyntaxError) : Node :=
  match g.root, g.around with
  | some n, _ => n
  | none, [] => .cut e
  | none, inner :: outer => outer.foldl (fun n o => (o.add n).breakOff e) (inner.breakOff e)

end Growth

/-! ## Documents -/

/-- **A document**: its root, unless the text holds nothing at all, and what is wrong with the text.
A root is whole even so when the text goes wrong after it. -/
structure Document where
  root : Option Node
  fault : Option SyntaxError := none
  deriving Repr

namespace Document

def ofEvents (events : Events) : Document :=
  let g := events.list.foldl Growth.step {}
  match events.fault with
  | none => ⟨g.root, none⟩
  | some e => ⟨some (g.breakOff e), some e⟩

/-- **The document of a text.** -/
def read (text : String) : Document := ofEvents (.ofTokens (.read text.toList))

/-- The node that took an anchor's number last. -/
def anchored (d : Document) (n : Nat) : Option Node :=
  (d.root.elim [] Node.nodes).reverse.find? (·.hasAnchor n)

/-- What a node stands for. -/
def resolve (d : Document) (node : Node) : Node :=
  match node with
  | .alias _ n => (d.anchored n).getD node
  | _ => node

end Document

end GpuPlugin.Yaml
