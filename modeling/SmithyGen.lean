import SmithyGen.Code
import SmithyGen.Code.Argument
import SmithyGen.Code.Expression
import SmithyGen.Code.Literal
import SmithyGen.Code.Number
import SmithyGen.Code.Parser
import SmithyGen.Code.Pattern
import SmithyGen.Code.Statement
import SmithyGen.Code.Token
import SmithyGen.CommandLine.Arguments
import SmithyGen.CommandLine.Help
import SmithyGen.CommandLine.Invocation
import SmithyGen.CommandLine.Parameter
import SmithyGen.Config
import SmithyGen.Document.Basic
import SmithyGen.Document.Docstring
import SmithyGen.Document.Imports
import SmithyGen.Document.Render
import SmithyGen.Emit.Artifact
import SmithyGen.Emit.Client
import SmithyGen.Emit.Server
import SmithyGen.Emit.TypeExpr
import SmithyGen.Emit.Types
import SmithyGen.Fault
import SmithyGen.FilePath
import SmithyGen.FileTree
import SmithyGen.Generate
import SmithyGen.Idl.Ast
import SmithyGen.Idl.Comment
import SmithyGen.Idl.Declaration
import SmithyGen.Idl.Lexeme
import SmithyGen.Idl.Reader
import SmithyGen.Idl.Trait
import SmithyGen.Interchange
import SmithyGen.Json.Reader
import SmithyGen.Json.Writer
import SmithyGen.Load
import SmithyGen.Logged
import SmithyGen.Logging
import SmithyGen.Main
import SmithyGen.Model
import SmithyGen.Model.Build
import SmithyGen.Model.Resolve
import SmithyGen.Naming
import SmithyGen.Notice
import SmithyGen.Number.Binary64
import SmithyGen.Number.Reading
import SmithyGen.Number.Rounded
import SmithyGen.Number.Shortest
import SmithyGen.Prelude
import SmithyGen.Rule
import SmithyGen.Run
import SmithyGen.Scan
import SmithyGen.Session
import SmithyGen.Template
import SmithyGen.Template.Field
import SmithyGen.Template.Format
import SmithyGen.Template.Problem
import SmithyGen.Template.Spec
import SmithyGen.Template.Subject
import SmithyGen.Text.Basic
import SmithyGen.Text.DigitChar
import SmithyGen.Text.IdentChar
import SmithyGen.Text.Normal
import SmithyGen.Text.Quoted
import SmithyGen.Text.Similar
import SmithyGen.Text.Upper
import SmithyGen.Text.Utf8
import SmithyGen.Text.WordChar
import SmithyGen.UriTemplate
import SmithyGen.Value
import SmithyGen.Value.Literal
import SmithyGen.Write
import SmithyGen.Proofs.ArtifactPaths
import SmithyGen.Proofs.Attribute
import SmithyGen.Proofs.BoundName
import SmithyGen.Proofs.Building
import SmithyGen.Proofs.Call
import SmithyGen.Proofs.CheckRun
import SmithyGen.Proofs.CodeNames
import SmithyGen.Proofs.Configuration
import SmithyGen.Proofs.Containment
import SmithyGen.Proofs.DistinctKeys
import SmithyGen.Proofs.Docstring
import SmithyGen.Proofs.ElementForms
import SmithyGen.Proofs.EmitterView
import SmithyGen.Proofs.Entries
import SmithyGen.Proofs.FieldDefaults
import SmithyGen.Proofs.FieldReading
import SmithyGen.Proofs.FilePath
import SmithyGen.Proofs.FileTree
import SmithyGen.Proofs.Generation
import SmithyGen.Proofs.Handler
import SmithyGen.Proofs.Identifier
import SmithyGen.Proofs.Idl.Blocks
import SmithyGen.Proofs.Idl.Closing
import SmithyGen.Proofs.Idl.Comment
import SmithyGen.Proofs.Idl.Contract
import SmithyGen.Proofs.Idl.Declared
import SmithyGen.Proofs.Idl.Enclosed
import SmithyGen.Proofs.Idl.Faults
import SmithyGen.Proofs.Idl.Headings
import SmithyGen.Proofs.Idl.Members
import SmithyGen.Proofs.Idl.Places
import SmithyGen.Proofs.Idl.Properties
import SmithyGen.Proofs.Idl.Requiring
import SmithyGen.Proofs.Idl.RoundTrip
import SmithyGen.Proofs.Idl.Source
import SmithyGen.Proofs.Idl.TraitValues
import SmithyGen.Proofs.Idl.Words
import SmithyGen.Proofs.ImportClosure
import SmithyGen.Proofs.ImportLines
import SmithyGen.Proofs.ImportOrder
import SmithyGen.Proofs.Integer
import SmithyGen.Proofs.Interchange
import SmithyGen.Proofs.JsonString
import SmithyGen.Proofs.Literal
import SmithyGen.Proofs.LiteralToken
import SmithyGen.Proofs.Loading
import SmithyGen.Proofs.ModelImage
import SmithyGen.Proofs.Naming
import SmithyGen.Proofs.Outcome
import SmithyGen.Proofs.Package
import SmithyGen.Proofs.PathExpression
import SmithyGen.Proofs.PathLiteral
import SmithyGen.Proofs.PathReadings
import SmithyGen.Proofs.PathTemplate
import SmithyGen.Proofs.Protection
import SmithyGen.Proofs.ReferenceSpelling
import SmithyGen.Proofs.References
import SmithyGen.Proofs.Regeneration
import SmithyGen.Proofs.Resolution
import SmithyGen.Proofs.RuleLines
import SmithyGen.Proofs.RuleTexts
import SmithyGen.Proofs.Search
import SmithyGen.Proofs.SearchLines
import SmithyGen.Proofs.Sending
import SmithyGen.Proofs.Serving
import SmithyGen.Proofs.Slots
import SmithyGen.Proofs.Symbol
import SmithyGen.Proofs.Template
import SmithyGen.Proofs.Text
import SmithyGen.Proofs.Tidy
import SmithyGen.Proofs.TypeChain
import SmithyGen.Proofs.TypeImports
import SmithyGen.Proofs.TypeLocality
import SmithyGen.Proofs.TypeModule
import SmithyGen.Proofs.Union
import SmithyGen.Proofs.Validation
import SmithyGen.Proofs.Wire
import SmithyGen.Proofs.WordBoundaries
import SmithyGen.Proofs.Writing
