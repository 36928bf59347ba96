import SchemaGen.Catalog.Basic
import SchemaGen.Catalog.Closure
import SchemaGen.Catalog.Loader
import SchemaGen.CodeUnit
import SchemaGen.CommandLine.Arguments
import SchemaGen.CommandLine.Command
import SchemaGen.CommandLine.Flag
import SchemaGen.CommandLine.Run
import SchemaGen.Declaration.Basic
import SchemaGen.Declaration.Build
import SchemaGen.Declaration.Order
import SchemaGen.Declaration.Render
import SchemaGen.Definition.Basic
import SchemaGen.Definition.Build
import SchemaGen.Definition.Render
import SchemaGen.Fault
import SchemaGen.File.Find
import SchemaGen.File.Glob
import SchemaGen.File.Output
import SchemaGen.File.Path
import SchemaGen.File.SchemaFile
import SchemaGen.File.Store
import SchemaGen.Forest
import SchemaGen.Generation
import SchemaGen.LogLevel
import SchemaGen.Main
import SchemaGen.Plugin.Apply
import SchemaGen.Plugin.Builtin
import SchemaGen.Plugin.Registry
import SchemaGen.Plugin.Scripted
import SchemaGen.Preamble
import SchemaGen.Proofs.Catalog.Agreement
import SchemaGen.Proofs.Catalog.Aliases
import SchemaGen.Proofs.Catalog.BreadthFirst
import SchemaGen.Proofs.Catalog.FirstSeen
import SchemaGen.Proofs.Catalog.Index
import SchemaGen.Proofs.Catalog.Objects
import SchemaGen.Proofs.Catalog.ReferenceOrder
import SchemaGen.Proofs.Catalog.Strict
import SchemaGen.Proofs.Catalog.Traversal
import SchemaGen.Proofs.CodeUnit
import SchemaGen.Proofs.Declaration.BeforeUse
import SchemaGen.Proofs.Declaration.Canonical
import SchemaGen.Proofs.Declaration.Classes
import SchemaGen.Proofs.Declaration.Counting
import SchemaGen.Proofs.Declaration.Cycles
import SchemaGen.Proofs.Declaration.EnumValues
import SchemaGen.Proofs.Declaration.Inventory
import SchemaGen.Proofs.Declaration.MemberNames
import SchemaGen.Proofs.Declaration.Mentions
import SchemaGen.Proofs.Declaration.Nesting
import SchemaGen.Proofs.Declaration.OverloadOrder
import SchemaGen.Proofs.Declaration.Precedence
import SchemaGen.Proofs.Declaration.Shape
import SchemaGen.Proofs.Declaration.Sorting
import SchemaGen.Proofs.Declaration.TypeNames
import SchemaGen.Proofs.Definition.Bodies
import SchemaGen.Proofs.Definition.Delegations
import SchemaGen.Proofs.Definition.Discriminant
import SchemaGen.Proofs.Definition.Mirror
import SchemaGen.Proofs.Definition.Nesting
import SchemaGen.Proofs.Definition.PerformanceMap
import SchemaGen.Proofs.Definition.ReadOnce
import SchemaGen.Proofs.Definition.Selection
import SchemaGen.Proofs.File.Output
import SchemaGen.Proofs.File.Path
import SchemaGen.Proofs.File.SchemaFile
import SchemaGen.Proofs.File.Store
import SchemaGen.Proofs.Forest.Create
import SchemaGen.Proofs.Forest.Edits
import SchemaGen.Proofs.Forest.Keeps
import SchemaGen.Proofs.Forest.Links
import SchemaGen.Proofs.Forest.Outline
import SchemaGen.Proofs.Forest.Permuting
import SchemaGen.Proofs.Forest.Planting
import SchemaGen.Proofs.Forest.Reorder
import SchemaGen.Proofs.Forest.Shows
import SchemaGen.Proofs.Generation.ExitStatus
import SchemaGen.Proofs.Generation.FailStop
import SchemaGen.Proofs.Generation.Faults
import SchemaGen.Proofs.Generation.Includes
import SchemaGen.Proofs.Generation.Interleaving
import SchemaGen.Proofs.Generation.Literals
import SchemaGen.Proofs.Generation.Outputs
import SchemaGen.Proofs.Generation.Overwriting
import SchemaGen.Proofs.Generation.Preambles
import SchemaGen.Proofs.Plugin.Additivity
import SchemaGen.Proofs.Plugin.Choosing
import SchemaGen.Proofs.Plugin.LookupCounter
import SchemaGen.Proofs.Plugin.Registration
import SchemaGen.Proofs.Plugin.Schedule
import SchemaGen.Proofs.Text.ByteOrder
import SchemaGen.Proofs.Text.Literal
import SchemaGen.Proofs.Text.Nesting
import SchemaGen.Proofs.Text.Snake
import SchemaGen.Proofs.Text.Split
import SchemaGen.Proofs.Text.Trim
import SchemaGen.Proofs.Text.WholeWord
import SchemaGen.Proofs.Tree.Labels
import SchemaGen.Proofs.Tree.Numbering
import SchemaGen.Proofs.Tree.Outermost
import SchemaGen.Proofs.Tree.Subtrees
import SchemaGen.Proofs.TypeExpr.Expression
import SchemaGen.Proofs.TypeExpr.KeyType
import SchemaGen.Proofs.TypeExpr.Reading
import SchemaGen.Proofs.TypeExpr.Selector
import SchemaGen.References
import SchemaGen.Report
import SchemaGen.Schema.Basic
import SchemaGen.Schema.Descriptor
import SchemaGen.Schema.Document
import SchemaGen.Schema.Role
import SchemaGen.Settings.Basic
import SchemaGen.Settings.Config
import SchemaGen.Settings.JsonText
import SchemaGen.Settings.Value
import SchemaGen.Text.Base64
import SchemaGen.Text.Cases
import SchemaGen.Text.CharClass
import SchemaGen.Text.CodeRun
import SchemaGen.Text.CommaRow
import SchemaGen.Text.Decimal
import SchemaGen.Text.Integer
import SchemaGen.Text.Letters
import SchemaGen.Text.Literal
import SchemaGen.Text.Naming
import SchemaGen.Text.Pattern
import SchemaGen.Text.Printables
import SchemaGen.Text.Words
import SchemaGen.Tree
import SchemaGen.TypeExpr.Grammar
import SchemaGen.TypeExpr.Resolver
import SchemaGen.Version.Basic
import SchemaGen.Version.Constraint
import SchemaGen.World
import SchemaGen.Yaml.Cursor
import SchemaGen.Yaml.Node
import SchemaGen.Yaml.Parse
import SchemaGen.Yaml.Property
import SchemaGen.Yaml.Record
import SchemaGen.Yaml.Scalar
import SchemaGen.Yaml.Scan
import SchemaGen.Yaml.Tag
import SchemaGen.Yaml.Timestamp
import SchemaGen.Yaml.Token
