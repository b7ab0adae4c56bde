import AttrHoist.Registry
import AttrHoist.Store.Basic
import AttrHoist.Tree.Print
import AttrHoist.Tree.Walk

/-!
Sessions: steps that build and change nodes in a store, name expressions in a registry and declare
them. A session has variables that hold nodes, so that a change through one variable shows through
every other way to the same node. What is registered is a copy that is in the store like any other
node.
-/

namespace AttrHoist

/-- A change of one attribute of a node. -/
inductive HeadChange where
  | kind (value : Kind)
  | text (value : String)
  | field (value : Option String)
  | named (value : Bool)
  | leading (value : String)
  | trailing (value : String)
  deriving Repr

/-- The head after a change. -/
def HeadChange.apply (h : Head) : HeadChange → Head
  | kind value => { h with kind := value }
  | text value => { h with text := value }
  | field value => { h with field := value }
  | named value => { h with named := value }
  | leading value => { h with leading := value }
  | trailing value => { h with trailing := value }

/-- The name of a variable of a session. -/
abbrev Variable := String

/-- One step of a session. Variables name the nodes that a step is about; `into` names the one that
takes the result. -/
inductive Step where
  /-- Creates a tree. -/
  | node (tree : Node) (into : Variable)
  /-- Creates a node and attaches the children to it. -/
  | make (head : Head) (children : List Variable) (into : Variable)
  /-- Finds a descendant by positions. -/
  | get (of : Variable) (path : List Nat) (into : Option Variable)
  /-- Finds the first child in a role. -/
  | child (of : Variable) (field : String) (into : Option Variable)
  | childrenIn (of : Variable) (field : String)
  | namedChildren (of : Variable)
  | ancestors (of : Variable)
  | walk (of : Variable)
  | isLeaf (of : Variable)
  | withChildren (of : Variable) (children : List Variable) (into : Variable)
  | clone (of : Variable) (changes : List HeadChange) (into : Variable)
  | change (of : Variable) (change : HeadChange)
  | parent (of : Variable)
  /-- Asks whether two variables hold the very same node. -/
  | same (a b : Variable)
  | dump (of : Variable)
  | render (of : Variable)
  | sourceText (of : Variable)
  /-- Starts a new registry. -/
  | registry (stem : Option String)
  | register (of : Variable)
  | entries
  /-- Empties the registry and keeps what it held. -/
  | drain
  /-- Creates the declaration of one of the entries last drained. -/
  | declaration (entry : Nat) (into : Variable)
  /-- Creates a program with declarations for all entries last drained. -/
  | inject (of : Variable) (into : Variable)

/-- The answer to a step. -/
inductive Reply where
  | node (value : Option Node)
  | nodes (values : List Node)
  | kinds (values : List Kind)
  | flag (value : Bool)
  | text (value : String)
  /-- The kind of a parent and the first variable that holds it. -/
  | parent (value : Option (Kind × Option Variable))
  | count (value : Nat)
  | registered (name : String) (count : Nat)
  | entries (values : List Entry)
  | drained (values : List Entry) (count : Nat)
  /-- The step names something that does not exist. -/
  | unknown
  deriving Repr

/-- The state between two steps: the nodes, the variables in order of their first use, the registry
and what was last drained from it. An entry holds a node of the store as its expression. -/
structure Session where
  store : Store := {}
  bindings : List (Variable × Nat) := []
  registry : Registry Nat := {}
  drained : List (Entry Nat) := []

namespace Session

def ref? (s : Session) (v : Variable) : Option Nat := s.bindings.lookup v

/-- Gives a variable a value; one that is in use keeps its place in the order. -/
def assign (s : Session) (v : Variable) (r : Nat) : Session :=
  { s with bindings :=
      if (s.ref? v).isSome then s.bindings.map fun p => if p.1 = v then (v, r) else p
      else s.bindings ++ [(v, r)] }

def assign? (s : Session) (v : Option Variable) (r : Nat) : Session :=
  match v with
  | some v => s.assign v r
  | none => s

/-- Takes a new store, puts a node of it into a variable and answers with the node. -/
def give (s : Session) (v : Variable) (made : Store × Nat) : Session × Reply :=
  ({ s with store := made.1 }.assign v made.2, .node (some (made.1.read made.2)))

/-- The first variable that holds a node. -/
def holder? (s : Session) (r : Nat) : Option Variable :=
  (s.bindings.find? (·.2 = r)).map (·.1)

/-- An entry with the tree that its expression is at present. -/
def readEntry (s : Session) (e : Entry Nat) : Entry := e.map s.store.read

/-- Creates the declarations of all entries last drained and a copy of the program that has them
after its own children. -/
def injectInto (s : Session) (program : Nat) : Store × Nat :=
  if s.drained.isEmpty then (s.store, program)
  else
    let (store, declarations) :=
      s.store.insertAll (s.drained.map fun e => (s.readEntry e).declaration)
    store.withChildren program ((s.store.cell program).children ++ declarations)

/-- Carries out a step; the answer is missing if the step names something that does not exist. -/
def step? (s : Session) : Step → Option (Session × Reply)
  | .node tree into => some (s.give into (s.store.insert tree))
  | .make head children into => do
    let refs ← children.mapM s.ref?
    return s.give into (s.store.create head refs, s.store.size)
  | .get of path into => do
    let r ← s.store.descendant? (← s.ref? of) path
    return (s.assign? into r, .node (some (s.store.read r)))
  | .child of field into => do
    match (s.store.childrenIn (← s.ref? of) field).head? with
    | some r => return (s.assign? into r, .node (some (s.store.read r)))
    | none => return (s, .node none)
  | .childrenIn of field => do
    return (s, .nodes ((s.store.childrenIn (← s.ref? of) field).map s.store.read))
  | .namedChildren of => do
    return (s, .kinds ((s.store.read (← s.ref? of)).namedChildren.map Node.kind))
  | .ancestors of => do
    return (s, .kinds ((s.store.ancestors (← s.ref? of)).map fun r => (s.store.cell r).head.kind))
  | .walk of => do
    return (s, .kinds ((s.store.read (← s.ref? of)).walk.map Node.kind))
  | .isLeaf of => do
    return (s, .flag (s.store.read (← s.ref? of)).isLeaf)
  | .withChildren of children into => do
    return s.give into (s.store.withChildren (← s.ref? of) (← children.mapM s.ref?))
  | .clone of changes into => do
    return s.give into (s.store.clone (← s.ref? of) fun h => changes.foldl HeadChange.apply h)
  | .change of change => do
    let r ← s.ref? of
    let store := s.store.setHead r (HeadChange.apply · change)
    return ({ s with store }, .node (some (store.read r)))
  | .parent of => do
    match (s.store.cell (← s.ref? of)).parent with
    | some p => return (s, .parent (some ((s.store.cell p).head.kind, s.holder? p)))
    | none => return (s, .parent none)
  | .same a b => do
    return (s, .flag ((← s.ref? a) == (← s.ref? b)))
  | .dump of => do
    return (s, .node (some (s.store.read (← s.ref? of))))
  | .render of => do
    return (s, .text (s.store.read (← s.ref? of)).render)
  | .sourceText of => do
    return (s, .text (s.store.read (← s.ref? of)).sourceText)
  | .registry stem =>
    let registry : Registry Nat := match stem with
      | some stem => { stem }
      | none => {}
    some ({ s with registry }, .count registry.size)
  | .register of => do
    let (store, r) := s.store.clone (← s.ref? of) fun h => { h with leading := "" }
    let registry := s.registry.add r
    return ({ s with store, registry }, .registered s.registry.nextName registry.size)
  | .entries => some (s, .entries (s.registry.entries.map s.readEntry))
  | .drain =>
    let registry := s.registry.clear
    some ({ s with registry, drained := s.registry.entries },
      .drained (s.registry.entries.map s.readEntry) registry.size)
  | .declaration entry into => do
    return s.give into (s.store.insert (s.readEntry (← s.drained[entry]?)).declaration)
  | .inject of into => do
    return s.give into (s.injectInto (← s.ref? of))

/-- Carries out a step. One that names something that does not exist changes nothing. -/
def step (s : Session) (t : Step) : Session × Reply :=
  (s.step? t).getD (s, .unknown)

/-- Carries out steps one after the other and collects the answers. -/
def run (s : Session) : List Step → Session × List Reply
  | [] => (s, [])
  | t :: ts =>
    let (s, reply) := s.step t
    let (s, replies) := s.run ts
    (s, reply :: replies)

end Session

end AttrHoist
