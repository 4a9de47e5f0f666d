import SchemaTypes.Command.Arguments
import SchemaTypes.Command.Configuration
import SchemaTypes.Command.Run
import SchemaTypes.Compilation.Files
import SchemaTypes.Compilation.Fragment
import SchemaTypes.Compilation.Progress
import SchemaTypes.Compilation.Reference
import SchemaTypes.Compilation.Result
import SchemaTypes.CompileError
import SchemaTypes.Declarations
import SchemaTypes.FileSystem.Reading
import SchemaTypes.FileSystem.Tree
import SchemaTypes.FileSystem.Writing
import SchemaTypes.Identifier
import SchemaTypes.Json.Cursor
import SchemaTypes.Json.Literal
import SchemaTypes.Json.Parser
import SchemaTypes.Json.Printer
import SchemaTypes.Json.SyntaxError
import SchemaTypes.Json.Value
import SchemaTypes.Loader
import SchemaTypes.Main
import SchemaTypes.Model
import SchemaTypes.Number.Binary64
import SchemaTypes.Number.Layout
import SchemaTypes.Number.Power
import SchemaTypes.Number.Shortest
import SchemaTypes.Path
import SchemaTypes.Schema.Pointer
import SchemaTypes.Schema.Rule
import SchemaTypes.Settings
import SchemaTypes.Table
import SchemaTypes.Text.Escaped
import SchemaTypes.Text.Lines
import SchemaTypes.Toml.Assignment
import SchemaTypes.Toml.Document
import SchemaTypes.Toml.Reader
import SchemaTypes.Toml.Scalar
import SchemaTypes.Toml.Statement
import SchemaTypes.Toml.Text
import SchemaTypes.Toml.Value
import SchemaTypes.TypeScript.Comment
import SchemaTypes.TypeScript.Declaration
import SchemaTypes.TypeScript.Type
import SchemaTypes.TypeScript.Unfolding
import SchemaTypes.Unicode.Alphabetic
import SchemaTypes.Unicode.CaseIgnorable
import SchemaTypes.Unicode.CaseMap
import SchemaTypes.Unicode.Cased
import SchemaTypes.Unicode.Character
import SchemaTypes.Unicode.GraphemeExtend
import SchemaTypes.Unicode.Lowercase
import SchemaTypes.Unicode.Numeric
import SchemaTypes.Unicode.Unprintable
import SchemaTypes.Unicode.Uppercase
import SchemaTypes.Proofs.Build.Outcome
import SchemaTypes.Proofs.Build.Transition
import SchemaTypes.Proofs.Build.Resolution
import SchemaTypes.Proofs.Build.Scope
import SchemaTypes.Proofs.Build.Growth
import SchemaTypes.Proofs.Build.Finish
import SchemaTypes.Proofs.Declarations.History
import SchemaTypes.Proofs.Declarations.Recorded
import SchemaTypes.Proofs.Declarations.Emission
import SchemaTypes.Proofs.Names.Awaited
import SchemaTypes.Proofs.Names.Identified
import SchemaTypes.Proofs.Names.Printed
import SchemaTypes.Proofs.Path.NormalForm
import SchemaTypes.Proofs.References.Answer
import SchemaTypes.Proofs.References.Denotation
import SchemaTypes.Proofs.Termination.Agreement
import SchemaTypes.Proofs.Termination.Descent
import SchemaTypes.Proofs.Termination.Exhaustion
import SchemaTypes.Proofs.Names.Bound
import SchemaTypes.Proofs.Build.Sound
import SchemaTypes.Proofs.Comparison.Similar
import SchemaTypes.Proofs.Comparison.Match
import SchemaTypes.Proofs.Comparison.Resolution
import SchemaTypes.Proofs.Comparison.Settings
import SchemaTypes.Proofs.Meaning.Chronicle
import SchemaTypes.Proofs.Meaning.Survey
import SchemaTypes.Proofs.Meaning.Answers
import SchemaTypes.Proofs.Meaning.Reading
import SchemaTypes.Proofs.Meaning.Made
import SchemaTypes.Proofs.Meaning.Rendering
import SchemaTypes.Proofs.Meaning.Faithful
import SchemaTypes.Proofs.Comparison.Abreast
import SchemaTypes.Proofs.Comparison.Revisit
import SchemaTypes.Proofs.Comparison.Lockstep
import SchemaTypes.Proofs.Comparison.Inlining
import SchemaTypes.Proofs.Build.Anatomy
import SchemaTypes.Proofs.Declarations.Root
import SchemaTypes.Proofs.Meaning.Inside
import SchemaTypes.Proofs.References.Residence
import SchemaTypes.Proofs.References.Loading
import SchemaTypes.Proofs.Remarks.Replaced
import SchemaTypes.Proofs.Remarks.Together
import SchemaTypes.Proofs.Remarks.Facing
import SchemaTypes.Proofs.Remarks.Mirrored
import SchemaTypes.Proofs.Remarks.Resolved
import SchemaTypes.Proofs.Remarks.Interference
import SchemaTypes.Proofs.FileSystem.Written
import SchemaTypes.Proofs.Command.Delivered
import SchemaTypes.Proofs.Failures.Justified
import SchemaTypes.Proofs.Failures.Thorough
import SchemaTypes.Proofs.Output.Lines
import SchemaTypes.Proofs.Unicode.Runs
import SchemaTypes.Proofs.Unicode.CaseMaps
import SchemaTypes.Proofs.Names.Spelling
import SchemaTypes.Proofs.Output.Literals
import SchemaTypes.Proofs.Names.Referred
import SchemaTypes.Proofs.Output.Hanging
import SchemaTypes.Proofs.Output.Split
import SchemaTypes.Proofs.Unicode.Folding
import SchemaTypes.Proofs.Names.Caseless
import SchemaTypes.Proofs.Names.Usable
import SchemaTypes.Proofs.Path.Walking
import SchemaTypes.Proofs.Names.Ascii
import SchemaTypes.Proofs.Names.Derived
import SchemaTypes.Proofs.Names.Rederived
import SchemaTypes.Proofs.Precedence.Reader
import SchemaTypes.Proofs.Precedence.Reading
import SchemaTypes.Proofs.Precedence.Flattening
import SchemaTypes.Proofs.Precedence.Grouping
import SchemaTypes.Proofs.Precedence.Inline
import SchemaTypes.Proofs.Declarations.Generated
import SchemaTypes.Proofs.Output.Pieces
import SchemaTypes.Proofs.Output.Comments
import SchemaTypes.Proofs.Names.Letters
import SchemaTypes.Proofs.Output.Quotation
import SchemaTypes.Proofs.Output.Blocks
import SchemaTypes.Proofs.Output.Recovered
import SchemaTypes.Proofs.Meaning.Junctions
import SchemaTypes.Proofs.Output.Blanks
import SchemaTypes.Proofs.Declarations.Ordering
import SchemaTypes.Proofs.Comparison.Respelled
import SchemaTypes.Proofs.States.Reached
import SchemaTypes.Proofs.States.Invariants
import SchemaTypes.Proofs.States.Sound
import SchemaTypes.Proofs.States.Stacks
import SchemaTypes.Proofs.States.Growing
import SchemaTypes.Proofs.References.Positions
