import ComponentCompiler.Address.Basic
import ComponentCompiler.Address.Escape
import ComponentCompiler.Address.Host
import ComponentCompiler.Address.Read
import ComponentCompiler.Build.Binding
import ComponentCompiler.Build.Guard
import ComponentCompiler.Build.Handler
import ComponentCompiler.Build.Tree
import ComponentCompiler.Chunk.Assemble
import ComponentCompiler.Chunk.Basic
import ComponentCompiler.Chunk.Link
import ComponentCompiler.CommandLine.Arguments
import ComponentCompiler.CommandLine.Run
import ComponentCompiler.Content.Basic
import ComponentCompiler.Content.Dependency
import ComponentCompiler.Content.Walk
import ComponentCompiler.Entries
import ComponentCompiler.Failure
import ComponentCompiler.Files.Output
import ComponentCompiler.Files.Path
import ComponentCompiler.Files.Tree
import ComponentCompiler.Generator.Basic
import ComponentCompiler.Generator.Flavor
import ComponentCompiler.Generator.Registry
import ComponentCompiler.Generator.Session
import ComponentCompiler.HostName.Alphabet
import ComponentCompiler.HostName.Composition
import ComponentCompiler.HostName.Direction
import ComponentCompiler.HostName.Encoded
import ComponentCompiler.HostName.Joining
import ComponentCompiler.HostName.Label
import ComponentCompiler.HostName.Mark
import ComponentCompiler.HostName.Permitted
import ComponentCompiler.HostName.Punycode
import ComponentCompiler.Imports.Group
import ComponentCompiler.Imports.Registry
import ComponentCompiler.Json.Reader
import ComponentCompiler.Json.Writer
import ComponentCompiler.Log
import ComponentCompiler.Main
import ComponentCompiler.Mapping.Builtin
import ComponentCompiler.Mapping.Document
import ComponentCompiler.Mapping.Header
import ComponentCompiler.Mapping.Source
import ComponentCompiler.Mapping.Table
import ComponentCompiler.Markup.Basic
import ComponentCompiler.Markup.Render
import ComponentCompiler.Naming
import ComponentCompiler.Number.Arithmetic
import ComponentCompiler.Number.Binary64
import ComponentCompiler.Number.Decimal
import ComponentCompiler.Number.Layout
import ComponentCompiler.Number.Shortest
import ComponentCompiler.Number.Whole
import ComponentCompiler.Pass.Basic
import ComponentCompiler.Pass.ComponentTree
import ComponentCompiler.Pass.ImportBlock
import ComponentCompiler.Pass.InjectedStyles
import ComponentCompiler.Pass.InlineStyles
import ComponentCompiler.Pass.ScopedClasses
import ComponentCompiler.Proofs.Build.Account
import ComponentCompiler.Proofs.Build.Element
import ComponentCompiler.Proofs.Build.Reach
import ComponentCompiler.Proofs.Build.Success
import ComponentCompiler.Proofs.Build.Visit
import ComponentCompiler.Proofs.Chunk.Store
import ComponentCompiler.Proofs.Content.Walk
import ComponentCompiler.Proofs.Entries
import ComponentCompiler.Proofs.Linking.LeastOrder
import ComponentCompiler.Proofs.Linking.Precedence
import ComponentCompiler.Proofs.Markup.Restyle
import ComponentCompiler.Proofs.Styling.Assignment
import ComponentCompiler.Proofs.Styling.ClassName
import ComponentCompiler.Proofs.Styling.Decoration
import ComponentCompiler.Proofs.Styling.Wardrobe
import ComponentCompiler.Proofs.Stylesheet.Rule
import ComponentCompiler.Proofs.Traced
import ComponentCompiler.Schema.Checked
import ComponentCompiler.Schema.Content
import ComponentCompiler.Schema.Form
import ComponentCompiler.Schema.Issue
import ComponentCompiler.Schema.Number
import ComponentCompiler.Script.Identifier
import ComponentCompiler.Script.Literal
import ComponentCompiler.Script.Member
import ComponentCompiler.Script.Statement
import ComponentCompiler.Service.Exchange
import ComponentCompiler.Service.Respond
import ComponentCompiler.Settings
import ComponentCompiler.Stylesheet.Rule
import ComponentCompiler.Styling.Assignment
import ComponentCompiler.Styling.ClassName
import ComponentCompiler.Styling.Split
import ComponentCompiler.Text.Base64
import ComponentCompiler.Text.Blank
import ComponentCompiler.Text.CaseTable
import ComponentCompiler.Text.Casing
import ComponentCompiler.Text.Decimal
import ComponentCompiler.Text.Encoding
import ComponentCompiler.Text.Join
import ComponentCompiler.Text.Printable
import ComponentCompiler.Text.Search
import ComponentCompiler.Traced
import ComponentCompiler.Value.Basic
import ComponentCompiler.Value.Calendar
import ComponentCompiler.Value.Display
import ComponentCompiler.Value.ReadFault
import ComponentCompiler.Value.SameKey
import ComponentCompiler.Yaml.Cursor
import ComponentCompiler.Yaml.Node.Basic
import ComponentCompiler.Yaml.Node.Grammar
import ComponentCompiler.Yaml.Node.Scalar
import ComponentCompiler.Yaml.Node.Tag
import ComponentCompiler.Yaml.Node.Timestamp
import ComponentCompiler.Yaml.Node.Value
import ComponentCompiler.Yaml.Token.Basic
import ComponentCompiler.Yaml.Token.Block
import ComponentCompiler.Yaml.Token.Directive
import ComponentCompiler.Yaml.Token.List
import ComponentCompiler.Yaml.Token.Mark
import ComponentCompiler.Yaml.Token.Plain
import ComponentCompiler.Yaml.Token.Quoted
import ComponentCompiler.Proofs.Outcome
import ComponentCompiler.Proofs.Pass.Compiled
import ComponentCompiler.Proofs.Pass.ComponentTree
import ComponentCompiler.Proofs.Pass.Styles
import ComponentCompiler.Proofs.Styling.Delivery
import ComponentCompiler.Proofs.Styling.Instances
import ComponentCompiler.Proofs.Build.Nesting
import ComponentCompiler.Proofs.Script.Literal
import ComponentCompiler.Proofs.Content.Writable
import ComponentCompiler.Proofs.Schema.Checked
import ComponentCompiler.Proofs.Schema.Content
import ComponentCompiler.Proofs.Schema.ReadBack
import ComponentCompiler.Proofs.Markup.Writable
import ComponentCompiler.Proofs.Build.Failure
import ComponentCompiler.Proofs.Chunk.Writable
import ComponentCompiler.Proofs.Pass.Writable
import ComponentCompiler.Proofs.Generator.Failure
import ComponentCompiler.Proofs.Markup.Outline
import ComponentCompiler.Proofs.Content.Occurrence
import ComponentCompiler.Proofs.Build.Coverage
import ComponentCompiler.Proofs.Build.Walked
import ComponentCompiler.Proofs.Pass.WalkOnce
import ComponentCompiler.Proofs.Script.Member
import ComponentCompiler.Proofs.Styling.Correspondence
import ComponentCompiler.Proofs.Markup.Unstyled
import ComponentCompiler.Proofs.Generator.Stages
import ComponentCompiler.Proofs.Generator.Agreement
import ComponentCompiler.Proofs.Imports.Lines
import ComponentCompiler.Proofs.Generator.Layout
import ComponentCompiler.Proofs.Generator.Imports
import ComponentCompiler.Proofs.Linking.Circles
import ComponentCompiler.Proofs.Linking.Relinking
import ComponentCompiler.Proofs.Pass.Sequence
import ComponentCompiler.Proofs.Markup.Shape
import ComponentCompiler.Proofs.Build.Shape
import ComponentCompiler.Proofs.Build.Acyclic
import ComponentCompiler.Proofs.Generator.Shape
import ComponentCompiler.Proofs.Generator.Session
import ComponentCompiler.Proofs.Script.Reader
import ComponentCompiler.Proofs.Script.ReadBack
import ComponentCompiler.Proofs.Generator.Files
import ComponentCompiler.Proofs.Script.Path
import ComponentCompiler.Proofs.Build.Binding
import ComponentCompiler.Proofs.Imports.Manifest
import ComponentCompiler.Proofs.Script.Quoted
import ComponentCompiler.Proofs.Markup.Fragment
import ComponentCompiler.Proofs.Markup.RawText
import ComponentCompiler.Proofs.Markup.ReadBack
import ComponentCompiler.Proofs.Imports.Grouping
import ComponentCompiler.Proofs.Naming.Breaks
import ComponentCompiler.Proofs.Naming.Boundaries
import ComponentCompiler.Proofs.Styling.CamelCase
import ComponentCompiler.Proofs.Styling.Allocation
import ComponentCompiler.Proofs.Build.Declared
import ComponentCompiler.Proofs.Styling.Template
import ComponentCompiler.Proofs.Styling.Survival
import ComponentCompiler.Proofs.Number.Text
import ComponentCompiler.Proofs.Stylesheet.Declared
import ComponentCompiler.Proofs.Generator.StaticStyles
import ComponentCompiler.Proofs.Script.Logic
import ComponentCompiler.Proofs.Build.Guard
import ComponentCompiler.Proofs.Stylesheet.Blocks
import ComponentCompiler.Proofs.Script.PropertyName
import ComponentCompiler.Proofs.Styling.BracketReference
import ComponentCompiler.Proofs.Script.LineBreaks
import ComponentCompiler.Proofs.Files.Containment
import ComponentCompiler.Proofs.CommandLine.Status
import ComponentCompiler.Proofs.Markup.Indentation
import ComponentCompiler.Proofs.Service.Decision
