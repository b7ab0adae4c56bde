import AttrHoist.Attribute
import AttrHoist.Command.Arguments
import AttrHoist.Command.Manual
import AttrHoist.Command.Run
import AttrHoist.Constancy
import AttrHoist.Event
import AttrHoist.Fault
import AttrHoist.Files
import AttrHoist.Main
import AttrHoist.Options
import AttrHoist.Pass
import AttrHoist.Pattern.Basic
import AttrHoist.Pattern.Lexeme
import AttrHoist.Pattern.Match
import AttrHoist.Pattern.Parse
import AttrHoist.Registry
import AttrHoist.Report
import AttrHoist.Scope.Declaration
import AttrHoist.Scope.Names
import AttrHoist.Scope.Reads
import AttrHoist.Scope.Resolve
import AttrHoist.Source.Hoist
import AttrHoist.Source.Language
import AttrHoist.Source.Path
import AttrHoist.Store.Basic
import AttrHoist.Store.Session
import AttrHoist.Text.Blank
import AttrHoist.Text.Decimal
import AttrHoist.Text.LetterCase
import AttrHoist.Text.Lowercase
import AttrHoist.Text.Printable
import AttrHoist.Text.Quoted
import AttrHoist.Text.Runs
import AttrHoist.Text.Utf8
import AttrHoist.Text.Word
import AttrHoist.Traced
import AttrHoist.Tree.Concrete
import AttrHoist.Tree.Kind
import AttrHoist.Tree.Node
import AttrHoist.Tree.Outline
import AttrHoist.Tree.Print
import AttrHoist.Tree.Site
import AttrHoist.Tree.Walk
import AttrHoist.Proofs.Lemmas.Sites
import AttrHoist.Proofs.Lemmas.Rewritten
import AttrHoist.Proofs.Lemmas.Kept
import AttrHoist.Proofs.Undo
import AttrHoist.Proofs.Lemmas.Copies
import AttrHoist.Proofs.Lemmas.Output
import AttrHoist.Proofs.Moved
import AttrHoist.Proofs.Exemption
import AttrHoist.Proofs.Lemmas.Images
import AttrHoist.Proofs.Repeat
import AttrHoist.Proofs.Lemmas.Pieces
import AttrHoist.Proofs.Lossless
import AttrHoist.Proofs.Resolution
import AttrHoist.Proofs.Clashes
import AttrHoist.Proofs.Lemmas.Edits
import AttrHoist.Proofs.Lemmas.Spans
import AttrHoist.Proofs.SourceText
import AttrHoist.Proofs.Lemmas.Growth
import AttrHoist.Proofs.Lemmas.Actions
import AttrHoist.Proofs.Links
import AttrHoist.Proofs.Isolation
import AttrHoist.Proofs.Delivery
import AttrHoist.Proofs.Outermost
import AttrHoist.Proofs.Shadowing
import AttrHoist.Proofs.Agreement
import AttrHoist.Proofs.Convergence
import AttrHoist.Proofs.Lemmas.Surroundings
import AttrHoist.Proofs.Lemmas.Bare
import AttrHoist.Proofs.Seclusion
import AttrHoist.Proofs.Remarks
import AttrHoist.Proofs.Widening
import AttrHoist.Proofs.Receiver
import AttrHoist.Proofs.Lemmas.Stacks
import AttrHoist.Proofs.Preorder
import AttrHoist.Proofs.Declarations
import AttrHoist.Proofs.OwnText
