import AttrHoist.Attribute
import AttrHoist.Constancy
import AttrHoist.Registry

/-!
The hoisting pass: accepted values are replaced by references and declared at the end of the module.
Decisions are made on the tree as it was given, so that they do not depend on what has been replaced
before.
-/

namespace AttrHoist

namespace Pass

mutual
/-- Replaces the outermost accepted values in a tree, which is reached by `trail`. -/
def replace (accept : Site → Traced Bool) (trail : List Crumb) :
    Node → Registry → Traced (Node × Registry)
  | .mk h cs, registry => do
    if ← accept ⟨.mk h cs, trail⟩ then
      let (name, registry) ← registry.register (.mk h cs)
      .report (.replaced h.kind name)
      return (.identifier name h.leading h.field, registry)
    else
      let (cs', registry) ← replaceAll accept (.mk h cs) trail 0 cs registry
      return (.mk h cs', registry)

/-- Replaces the outermost accepted values in the children of `parent` from the given position on. -/
def replaceAll (accept : Site → Traced Bool) (parent : Node) (trail : List Crumb) :
    Nat → List Node → Registry → Traced (List Node × Registry)
  | _, [], registry => return ([], registry)
  | i, c :: cs, registry => do
    let (c', registry) ← replace accept (⟨parent, i⟩ :: trail) c registry
    let (cs', registry) ← replaceAll accept parent trail (i + 1) cs registry
    return (c' :: cs', registry)
end

/-- Whether a pass takes the value at a site. -/
def takes (accepts : String → Bool) (resolver : Resolver) (s : Site) : Traced Bool :=
  if s.isCandidate accepts then resolver.hoistable s else pure false

end Pass

/-- One pass over a tree: takes the values of attributes with accepted names that are constant by
the resolver. -/
def Node.hoist (root : Node) (accepts : String → Bool) (resolver : Resolver) : Traced Node := do
  let (replaced, registry) ← Pass.replace (Pass.takes accepts resolver) [] root {}
  if registry.entries.isEmpty then return replaced
  .report (.moved registry.size)
  return replaced.inject registry.entries

end AttrHoist
