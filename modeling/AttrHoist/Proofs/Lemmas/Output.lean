import AttrHoist.Proofs.Lemmas.Copies
import AttrHoist.Proofs.Lemmas.Kept

/-!
# The module after a pass

The statements of the module come first and decide names as before; the appended declarations follow. The value of
a declaration stands two steps below it, outside all functions.
-/

namespace AttrHoist

/-! ## Names at module level -/

/-- The declaration that the first of several statements gives to a name. -/
def firstBinding? (ns : List Node) (name : String) : Option Declaration :=
  (ns.filterMap Node.exported?).findSome? (·.statementBinding? name)

theorem firstBinding?_append (ns ms : List Node) (name : String) :
    firstBinding? (ns ++ ms) name = (firstBinding? ns name).or (firstBinding? ms name) := by
  rw [firstBinding?, List.filterMap_append, List.findSome?_append]
  rfl

namespace Node

theorem moduleBinding_eq (t : Node) (name : String) :
    t.moduleBinding name = (firstBinding? t.namedChildren name).getD .unresolved := rfl

theorem scopeBinding?_program {n : Node} (hk : n.kind = Kind.program) (name : String) :
    n.scopeBinding? name = some (n.moduleBinding name) := by
  unfold scopeBinding? isFunction
  rw [hk]
  rfl

variable {t : Node} (accepts : String → Bool) (r : Resolver)

theorem children_hoist (t : Node) : ∃ ns, (t.hoist accepts r).value.children =
      ns ++ declarationsOf ((t.accepted accepts r).map Site.node) ∧
    ns.length = t.children.length ∧ List.Forall₂ (Pass.Kept accepts r) (Site.root t).children ns := by
  obtain ⟨ns, hr, ho⟩ := t.hoist_eq accepts r
  have hkept := Pass.kept_of_becomes hr.becomes fun _ hc => Pass.not_taken_statement hc
  refine ⟨ns, by rw [ho, children_mk], ?_, hkept⟩
  rw [← hkept.length_eq, Site.length_children]
  rfl

theorem head_hoist (t : Node) : (t.hoist accepts r).value.head = t.head := by
  obtain ⟨ns, _, ho⟩ := t.hoist_eq accepts r
  rw [ho, head_mk]

theorem length_children_hoist (t : Node) : (t.hoist accepts r).value.children.length =
    t.children.length + (t.accepted accepts r).length := by
  obtain ⟨ns, hns, hl, _⟩ := t.children_hoist accepts r
  rw [hns, List.length_append, hl, length_declarationsOf, List.length_map]

/-- A name that a statement of the module decides is decided in the same way after a pass; others are left to the
appended declarations. -/
theorem moduleBinding_hoist (hf : t.isFunction = false) (name : String) :
    (t.hoist accepts r).value.moduleBinding name =
      ((firstBinding? t.namedChildren name).or
        (firstBinding? (declarationsOf ((t.accepted accepts r).map Site.node)) name)).getD .unresolved := by
  obtain ⟨ns, hns, _, hkept⟩ := t.children_hoist accepts r
  have hout := Pass.undeclared_outside accepts r
  have hc : ∀ c ∈ (Site.root t).children, c.insideFunction = false :=
    fun c hc => hout.child rfl (Pass.not_taken_root accepts r t) hf hc
  have hnamed := hout.keptWhere_named (Pass.keptWhere_of_kept hc hkept)
  rw [Site.map_node_children] at hnamed
  have hdecl : ∀ d ∈ declarationsOf ((t.accepted accepts r).map Site.node),
      (d.named && d.kind != Kind.comment) = true := by
    intro d hd
    obtain ⟨p, _, rfl⟩ := List.mem_map.mp hd
    rfl
  rw [moduleBinding_eq, namedChildren, hns, List.filter_append, List.filter_eq_self.mpr hdecl, firstBinding?_append]
  congr 2
  exact ((Pass.similarity_kept accepts r).parts.statements hout.sameNames hnamed name).symm

theorem moduleBinding_hoist_of_fixed (hf : t.isFunction = false) {name : String}
    (h : (t.moduleBinding name).isFixed = true) :
    (t.hoist accepts r).value.moduleBinding name = t.moduleBinding name := by
  rw [moduleBinding_eq] at h
  rw [moduleBinding_hoist accepts r hf, moduleBinding_eq]
  cases hb : firstBinding? t.namedChildren name with
  | none => rw [hb] at h; cases h
  | some d => rfl

end Node

/-! ## Values in declarations -/

/-- The declarator of the value that is taken after `i` others. -/
def declaratorOf (i : Nat) (v : Node) : Node :=
  .mk { kind := Kind.declarator, field := some "declarator" }
    [.identifier (generatedName i) " " (some "name"), .token "=" " ", v.asValue]

theorem declarationOf_eq (i : Nat) (v : Node) : declarationOf i v =
    .mk { kind := Kind.lexicalDeclaration } [.token Kind.constKeyword "\n", declaratorOf i v, .token ";"] := by
  cases v
  rfl

/-- The site of a value in its declaration, which is the statement at position `j` of a module. -/
def Site.ofValue (out : Node) (j i : Nat) (v : Node) : Site :=
  (((Site.root out).descend (declarationOf i v) j).descend (declaratorOf i v) 1).descend v.asValue 2

theorem follow_ofValue {out : Node} {j i : Nat} {v : Node} (h : out.children[j]? = some (declarationOf i v))
    (path : List Nat) : (Site.root out).follow (j :: 1 :: 2 :: path) = (Site.ofValue out j i v).follow path := by
  have h1 : (Site.root out).children[j]? = some ((Site.root out).descend (declarationOf i v) j) := by
    rw [Site.getElem?_children]
    exact congrArg (Option.map _) h
  have h2 : ((Site.root out).descend (declarationOf i v) j).children[1]? =
      some (((Site.root out).descend (declarationOf i v) j).descend (declaratorOf i v) 1) := by
    rw [Site.getElem?_children, Site.descend, declarationOf_eq]
    rfl
  have h3 : (((Site.root out).descend (declarationOf i v) j).descend (declaratorOf i v) 1).children[2]? =
      some (Site.ofValue out j i v) := by
    rw [Site.getElem?_children]
    rfl
  rw [Site.follow, h1, Option.bind_some, Site.follow, h2, Option.bind_some, Site.follow, h3, Option.bind_some]

theorem alike_asValue (v : Node) : v.Alike v.asValue := by
  cases v
  exact ⟨rfl, rfl, rfl, rfl⟩

theorem Node.declaration_hoist {t : Node} {accepts : String → Bool} {r : Resolver} {i : Nat} {v : Site}
    (h : (t.accepted accepts r)[i]? = some v) :
    (t.hoist accepts r).value.children[t.children.length + i]? = some (declarationOf i v.node) := by
  obtain ⟨ns, hns, hl, _⟩ := t.children_hoist accepts r
  rw [hns, List.getElem?_append_right (by omega), getElem?_declarationsOf, hl, Nat.add_sub_cancel_left,
    List.getElem?_map, h]
  rfl

/-! ## A module with markup inside a callback -/

namespace Sample

/-- `<B name={value} />`. -/
def markup (name : String) (value : Node) (field : Option String := none) : Node :=
  .mk { kind := "jsx_self_closing_element", field, leading := " " }
    [.token "<", .identifier "B" "" (some "name"),
      .mk { kind := Kind.markupAttribute, field := some "attribute", leading := " " }
        [.mk { kind := "property_identifier", text := name } [], .token "=",
          .mk { kind := Kind.markupContainer } [.token "\x7b", value, .token "\x7d"]],
      .token "/>" " "]

/-- `{ a: 1 }`. -/
def record : Node :=
  .mk { kind := Kind.object }
    [.token "\x7b",
      .mk { kind := Kind.pair, leading := " " }
        [.mk { kind := "property_identifier", text := "a", field := some "key" } [], .token ":",
          .mk { kind := Kind.number, text := "1", field := some "value", leading := " " } []],
      .token "\x7d" " "]

/-- `()`. -/
def noParameters : Node :=
  .mk { kind := "formal_parameters", field := some "parameters" } [.token "(", .token ")"]

/-- `() => body`. -/
def callback (body : Node) : Node :=
  .mk { kind := Kind.arrow } [noParameters, .token "=>" " ", body]

/-- `import { B } from 'x';`. -/
def importB : Node :=
  .mk { kind := Kind.importStatement }
    [.token "import",
      .mk { kind := Kind.importClause, leading := " " }
        [.mk { kind := Kind.namedImports }
          [.token "\x7b", .mk { kind := Kind.importSpecifier, leading := " " } [.identifier "B" "" (some "name")],
            .token "\x7d" " "]],
      .token "from" " ", .mk { kind := Kind.string, text := "'x'", field := some "source", leading := " " } [],
      .token ";"]

/-- `function App() { return value; }`. -/
def component (value : Node) : Node :=
  .mk { kind := "function_declaration", leading := "\n" }
    [.token "function", .identifier "App" " " (some "name"), noParameters,
      .mk { kind := "statement_block", field := some "body", leading := " " }
        [.token "\x7b",
          .mk { kind := "return_statement", leading := " " } [.token "return", value, .token ";"],
          .token "\x7d" " "]]

/-- `import { B } from 'x'; function App() { return <B style={{ a: 1 }} />; }`. -/
def plain : Node := .mk { kind := Kind.program } [importB, component (markup "style" record)]

/-- `import { B } from 'x'; function App() { return <B render={() => <B style={{ a: 1 }} />} />; }`. -/
def nested : Node :=
  .mk { kind := Kind.program }
    [importB, component (markup "render" (callback (markup "style" record (some "body"))))]

end Sample

end AttrHoist
