import TemplateBundle.Bits
import TemplateBundle.Outcome
import TemplateBundle.Text.Char
import TemplateBundle.Text.Utf8
import TemplateBundle.Text.Unprintable
import TemplateBundle.Text.Quoted
import TemplateBundle.Text.Scanner
import TemplateBundle.Decimal.Shortest
import TemplateBundle.Json.Value
import TemplateBundle.Json.Printer
import TemplateBundle.Json.Numeral
import TemplateBundle.Json.Document
import TemplateBundle.Json.Reader
import TemplateBundle.Json.Record
import TemplateBundle.CompilerOptions
import TemplateBundle.Path.Basic
import TemplateBundle.Path.Naming
import TemplateBundle.Discovery
import TemplateBundle.Resolution
import TemplateBundle.Template.Syntax
import TemplateBundle.Template.Tag
import TemplateBundle.Template.Outline
import TemplateBundle.Template.Parser
import TemplateBundle.Decimal.Reading
import TemplateBundle.Render.Error
import TemplateBundle.Render.Comparison
import TemplateBundle.Render.Text
import TemplateBundle.Script
import TemplateBundle.Render.Scope
import TemplateBundle.Render.Page
import TemplateBundle.Render.Helper
import TemplateBundle.Render.Evaluation
import TemplateBundle.Artifact
import TemplateBundle.Engine
import TemplateBundle.Files.Error
import TemplateBundle.Files.Tree
import TemplateBundle.Files.Write
import TemplateBundle.AnyError
import TemplateBundle.Bundler.Error
import TemplateBundle.Report
import TemplateBundle.Bundler.Config
import TemplateBundle.Build.Options
import TemplateBundle.Files.Glob
import TemplateBundle.Build.Target
import TemplateBundle.Yaml.Cursor
import TemplateBundle.Yaml.Scalar
import TemplateBundle.Yaml.Token
import TemplateBundle.Yaml.Node
import TemplateBundle.Yaml.Value
import TemplateBundle.Warning
import TemplateBundle.Bundler.Wrapper
import TemplateBundle.Bundler.Source
import TemplateBundle.Bundler.Bundling
import TemplateBundle.Bundler.Loader
import TemplateBundle.Bundler.Basic
import TemplateBundle.Toml.Table
import TemplateBundle.Toml.Scalar
import TemplateBundle.Toml.Reader
import TemplateBundle.Build.Manifest
import TemplateBundle.Session
import TemplateBundle.Build.Build
import TemplateBundle.CommandLine.Command
import TemplateBundle.CommandLine.Arguments
import TemplateBundle.CommandLine.Execution
import TemplateBundle.Main
import TemplateBundle.Proofs.Resolution.Reachability
import TemplateBundle.Proofs.Resolution.Level
import TemplateBundle.Proofs.Resolution.Search
import TemplateBundle.Proofs.Resolution.Delays
import TemplateBundle.Proofs.Json.Scalar
import TemplateBundle.Proofs.Json.Spelling
import TemplateBundle.Proofs.Json.Members
import TemplateBundle.Proofs.Json.Printing
import TemplateBundle.Proofs.CompilerOptions
import TemplateBundle.Proofs.Artifact
import TemplateBundle.Proofs.Template.Acceptance
import TemplateBundle.Proofs.Engine
import TemplateBundle.Proofs.Render.Adding
import TemplateBundle.Proofs.Bundler.Work
import TemplateBundle.Proofs.Bundler.Wrapping
import TemplateBundle.Proofs.Json.Normal
import TemplateBundle.Proofs.Bundler.JsonWrapper
import TemplateBundle.Proofs.Bundler.BundleWrapper
import TemplateBundle.Proofs.Render.Inclusions
import TemplateBundle.Proofs.Render.Agreement
import TemplateBundle.Proofs.Engine.Agreement
import TemplateBundle.Proofs.Engine.Layers
import TemplateBundle.Proofs.Bundler.Loading
import TemplateBundle.Proofs.Bundler.Gathering
import TemplateBundle.Proofs.Bundler.Reload
import TemplateBundle.Proofs.Resolution.Queue
import TemplateBundle.Proofs.Bundler.History
import TemplateBundle.Proofs.Bundler.Data
import TemplateBundle.Proofs.Bundler.Streams
import TemplateBundle.Proofs.Engine.Records
import TemplateBundle.Proofs.Engine.Artifacts
import TemplateBundle.Proofs.Engine.Acceptance
import TemplateBundle.Proofs.Engine.Orders
import TemplateBundle.Proofs.Bundler.Settling
import TemplateBundle.Proofs.Bundler.SelfContained
import TemplateBundle.Proofs.Bundler.Repeating
import TemplateBundle.Proofs.Bundler.Independence
import TemplateBundle.Proofs.Session
import TemplateBundle.Proofs.Build.Templates
import TemplateBundle.Proofs.Build.Independence
import TemplateBundle.Proofs.Path.Order
import TemplateBundle.Proofs.Files.Writing
import TemplateBundle.Proofs.Files.Replacement
import TemplateBundle.Proofs.Build.Attempts
import TemplateBundle.Proofs.Build.Outputs
import TemplateBundle.Proofs.CommandLine.Sources
import TemplateBundle.Proofs.Text.Scanner
import TemplateBundle.Proofs.Text.Pieces
import TemplateBundle.Proofs.Path.Spelling
import TemplateBundle.Proofs.Path.Partials
import TemplateBundle.Proofs.Path.Here
import TemplateBundle.Proofs.Path.Components
import TemplateBundle.Proofs.Path.Naming
import TemplateBundle.Proofs.Files.Spelling
import TemplateBundle.Proofs.Files.Names
import TemplateBundle.Proofs.Template.Tags
import TemplateBundle.Proofs.Template.Places
import TemplateBundle.Proofs.Template.Parsing
import TemplateBundle.Proofs.Discovery
import TemplateBundle.Proofs.Discovery.Markers
import TemplateBundle.Proofs.Resolution.Sources
import TemplateBundle.Proofs.Bundler.Setups
import TemplateBundle.Proofs.Bundler.Lookups
import TemplateBundle.Proofs.Bundler.Frame
import TemplateBundle.Proofs.Bundler.Contexts
import TemplateBundle.Proofs.Bundler.Partials
import TemplateBundle.Proofs.Bundler.Origins
import TemplateBundle.Proofs.Bundler.Requests
import TemplateBundle.Proofs.Build.CommandLine
import TemplateBundle.Proofs.Build.Expansion
import TemplateBundle.Proofs.Build.Data
import TemplateBundle.Proofs.CommandLine.Outputs
import TemplateBundle.Proofs.Report
