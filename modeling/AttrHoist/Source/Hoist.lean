import AttrHoist.Options
import AttrHoist.Pass
import AttrHoist.Source.Language
import AttrHoist.Tree.Concrete
import AttrHoist.Tree.Print

/-! Hoisting in source text: parse, run the pass, print. The grammar is a parameter. -/

namespace AttrHoist

/-- What a grammar makes of a source. -/
structure Parse where
  root : Concrete
  hasError : Bool := false
  deriving Repr

/-- A grammar for each language. It need not know every source. -/
abbrev Grammar := Language → String → Option Parse

/-- Work that reports events and may fail; what was reported before a failure stays reported. -/
abbrev Job := ExceptT Fault Traced

namespace Job

def report (e : Event) : Job Unit := ExceptT.lift (.report e)

end Job

/-- The tree of a source in a named language. -/
def Grammar.parse (g : Grammar) (source language : String) : Job Node := do
  let some l := Language.ofName? language | throw (.unsupportedLanguage language)
  let some parsed := g l source | throw .noTree
  if parsed.hasError then Job.report (.malformed language)
  let some node := parsed.root.toNode? source | throw .undecodable
  return node

/-- The source text after one pass. The reported length counts characters. -/
def Grammar.hoistSource (g : Grammar) (source language : String) (options : Options) : Job String := do
  Job.report (.started language source.length)
  let tree ← g.parse source language
  let hoisted ← ExceptT.lift (tree.hoist options.accepts .lexical)
  return hoisted.render

/-- Several named sources, each in the language of its name; the first failure ends the work. -/
def Grammar.hoistSources (g : Grammar) (files : List (String × String)) (options : Options) :
    Job (List (String × String)) :=
  files.mapM fun (name, source) => do
    let language ← MonadExcept.ofExcept (Language.ofPath name)
    let text ← g.hoistSource source language.name options
    return (name, text)

/-- The trees after each of several passes. The filter of a pass is looked at when its turn comes. -/
def Node.hoistPasses (resolver : Resolver) : List (Option FilterSetting) → Node → Job (List Node)
  | [], _ => return []
  | setting :: rest, tree => do
    let options ← MonadExcept.ofExcept (Options.ofSetting? setting)
    let hoisted ← ExceptT.lift (tree.hoist options.accepts resolver)
    return hoisted :: (← hoistPasses resolver rest hoisted)

end AttrHoist
