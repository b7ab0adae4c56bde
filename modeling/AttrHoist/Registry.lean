import AttrHoist.Traced
import AttrHoist.Tree.Node

/-!
Expressions that have been given names, and the declarations that bind these names at the end of a
module.
-/

namespace AttrHoist

/-- An expression with the name that stands for it. The expression is a tree, or what leads to one. -/
structure Entry (α : Type := Node) where
  index : Nat
  name : String
  expression : α
  deriving Repr

/-- The same entry with the expression in another form. -/
def Entry.map {α β : Type} (f : α → β) (e : Entry α) : Entry β :=
  ⟨e.index, e.name, f e.expression⟩

/-- What generated names start with, unless a registry is told otherwise. -/
def generatedStem : String := "__$hoisted_o"

/-- The named expressions of one file, oldest first. A name is the stem followed by the number of
entries before. -/
structure Registry (α : Type := Node) where
  stem : String := generatedStem
  entries : List (Entry α) := []
  deriving Repr

namespace Registry

section
variable {α : Type}

def size (r : Registry α) : Nat := r.entries.length

/-- The name that the next expression gets. -/
def nextName (r : Registry α) : String := r.stem ++ toString r.size

/-- The registry with one more expression. -/
def add (r : Registry α) (expression : α) : Registry α :=
  { r with entries := r.entries ++ [⟨r.size, r.nextName, expression⟩] }

/-- The registry without its entries. -/
def clear (r : Registry α) : Registry α := { r with entries := [] }

end

/-- The registry with one more tree, kept without the text in front of it. -/
def insert (r : Registry) (expression : Node) : Registry := r.add (expression.withLeading "")

/-- Names an expression and reports it. -/
def register (r : Registry) (expression : Node) : Traced (String × Registry) :=
  ⟨(r.nextName, r.insert expression), [.registered r.nextName expression.kind]⟩

end Registry

/-- The declaration of an entry's name, on a line of its own. -/
def Entry.declaration (e : Entry) : Node :=
  .mk { kind := Kind.lexicalDeclaration } [
    .token Kind.constKeyword "\n",
    .mk { kind := Kind.declarator, field := some "declarator" } [
      .identifier e.name " " (some "name"),
      .token "=" " ",
      e.expression.mapHead fun h => { h with leading := " ", field := some "value" }],
    .token ";"]

/-- A program with declarations for the entries after its statements. The names are read inside
functions only. A function that runs when the module has been evaluated finds them declared; one that
is called while the module is being evaluated, say where it is written, does not. -/
def Node.inject (program : Node) (entries : List Entry) : Node :=
  .mk program.head (program.children ++ entries.map Entry.declaration)

end AttrHoist
