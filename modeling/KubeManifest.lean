import KubeManifest.Build.Container
import KubeManifest.Build.Image
import KubeManifest.Build.ImageName
import KubeManifest.Build.Port
import KubeManifest.Build.Probe
import KubeManifest.Build.Project
import KubeManifest.Build.Section
import KubeManifest.Build.Settings
import KubeManifest.Collection.Age
import KubeManifest.Collection.Annotation
import KubeManifest.Collection.Basic
import KubeManifest.Collection.Build
import KubeManifest.Collection.Selector
import KubeManifest.CommandLine.Grammar
import KubeManifest.CommandLine.Help
import KubeManifest.CommandLine.Request
import KubeManifest.CommandLine.Run
import KubeManifest.CommandLine.Screen
import KubeManifest.Console.Emoji
import KubeManifest.Console.EmojiNames
import KubeManifest.Console.Line
import KubeManifest.Console.Listing
import KubeManifest.Console.Markup
import KubeManifest.Console.Panel
import KubeManifest.Console.Table
import KubeManifest.Failure
import KubeManifest.Files
import KubeManifest.Fragment.Directory
import KubeManifest.Fragment.Enrich
import KubeManifest.Fragment.Filename
import KubeManifest.Fragment.Reader
import KubeManifest.Generation.Assembly
import KubeManifest.Generation.Config
import KubeManifest.Generation.Output
import KubeManifest.Generation.Run
import KubeManifest.Json.Reader
import KubeManifest.Json.Writer
import KubeManifest.Kind.Table
import KubeManifest.Kind.Versions
import KubeManifest.Kind.Workload
import KubeManifest.Main
import KubeManifest.Manifest.Format
import KubeManifest.Manifest.Load
import KubeManifest.Manifest.Tree
import KubeManifest.Manifest.Write
import KubeManifest.Merge.Basic
import KubeManifest.Merge.Container
import KubeManifest.Merge.Env
import KubeManifest.Merge.PodSpec
import KubeManifest.Merge.Port
import KubeManifest.Model.Container
import KubeManifest.Model.Entries
import KubeManifest.Model.LabelSelector
import KubeManifest.Model.ObjectMeta
import KubeManifest.Model.Probe
import KubeManifest.Moment.Basic
import KubeManifest.Moment.Iso
import KubeManifest.Number.Binary64
import KubeManifest.Number.Integer
import KubeManifest.Number.Shortest
import KubeManifest.Path
import KubeManifest.Proofs.Build.BuiltImages
import KubeManifest.Proofs.Build.Containers
import KubeManifest.Proofs.Build.ImageName
import KubeManifest.Proofs.Build.NullAdded
import KubeManifest.Proofs.Build.Obstacles
import KubeManifest.Proofs.Build.PortRange
import KubeManifest.Proofs.Build.PortSyntax
import KubeManifest.Proofs.Build.ProbeSettings
import KubeManifest.Proofs.Build.UniquePorts
import KubeManifest.Proofs.Collection.Age
import KubeManifest.Proofs.Collection.Order
import KubeManifest.Proofs.Collection.Selector
import KubeManifest.Proofs.Collection.Sorted
import KubeManifest.Proofs.Collection.WrittenSelector
import KubeManifest.Proofs.CommandLine.Failures
import KubeManifest.Proofs.Console.Emoji
import KubeManifest.Proofs.Console.Line
import KubeManifest.Proofs.Console.Marks
import KubeManifest.Proofs.Console.Markup
import KubeManifest.Proofs.Console.Panel
import KubeManifest.Proofs.Files.Contents
import KubeManifest.Proofs.Files.Places
import KubeManifest.Proofs.Fragment.Distinct
import KubeManifest.Proofs.Fragment.Enrich
import KubeManifest.Proofs.Fragment.Extension
import KubeManifest.Proofs.Fragment.FileStem
import KubeManifest.Proofs.Fragment.Filename
import KubeManifest.Proofs.Fragment.Identity
import KubeManifest.Proofs.Fragment.Mentioned
import KubeManifest.Proofs.Fragment.Renumber
import KubeManifest.Proofs.Fragment.Repeated
import KubeManifest.Proofs.Generation.Additive
import KubeManifest.Proofs.Generation.DryRun
import KubeManifest.Proofs.Generation.Frame
import KubeManifest.Proofs.Generation.Interrupted
import KubeManifest.Proofs.Generation.NullAdded
import KubeManifest.Proofs.Generation.Obstacles
import KubeManifest.Proofs.Generation.Outputs
import KubeManifest.Proofs.Generation.OwnFiles
import KubeManifest.Proofs.Generation.Replaced
import KubeManifest.Proofs.Generation.Sound
import KubeManifest.Proofs.Generation.Versions
import KubeManifest.Proofs.Generation.WellFormed
import KubeManifest.Proofs.Generation.Workloads
import KubeManifest.Proofs.Json.Labels
import KubeManifest.Proofs.Kind.TwoWay
import KubeManifest.Proofs.Manifest.Aggregate
import KubeManifest.Proofs.Manifest.Clean
import KubeManifest.Proofs.Manifest.Flattened
import KubeManifest.Proofs.Manifest.Loaded
import KubeManifest.Proofs.Manifest.NormalForm
import KubeManifest.Proofs.Manifest.Renumber
import KubeManifest.Proofs.Manifest.Restated
import KubeManifest.Proofs.Manifest.Writable
import KubeManifest.Proofs.Merge.Additive
import KubeManifest.Proofs.Merge.GapFilling
import KubeManifest.Proofs.Merge.Idempotent
import KubeManifest.Proofs.Merge.Lists
import KubeManifest.Proofs.Merge.Ports
import KubeManifest.Proofs.Merge.Store
import KubeManifest.Proofs.Merge.Variables
import KubeManifest.Proofs.Merge.Whole
import KubeManifest.Proofs.Model.Additive
import KubeManifest.Proofs.Model.Conserved
import KubeManifest.Proofs.Model.Models
import KubeManifest.Proofs.Model.Projection
import KubeManifest.Proofs.Model.Readable
import KubeManifest.Proofs.Model.Renumber
import KubeManifest.Proofs.Model.Shape
import KubeManifest.Proofs.Model.WellFormed
import KubeManifest.Proofs.Moment.Calendar
import KubeManifest.Proofs.Moment.Iso
import KubeManifest.Proofs.Number.Binary64
import KubeManifest.Proofs.Number.Decimal
import KubeManifest.Proofs.Path
import KubeManifest.Proofs.Resource.Additive
import KubeManifest.Proofs.Resource.Pods
import KubeManifest.Proofs.Resource.Projection
import KubeManifest.Proofs.Resource.Readable
import KubeManifest.Proofs.Resource.Renumber
import KubeManifest.Proofs.Resource.Rewrite
import KubeManifest.Proofs.Resource.Writable
import KubeManifest.Proofs.Results
import KubeManifest.Proofs.Text.Blank
import KubeManifest.Proofs.Text.Case
import KubeManifest.Proofs.Text.Cut
import KubeManifest.Proofs.Text.Pattern
import KubeManifest.Proofs.Text.Words
import KubeManifest.Proofs.Url.Authority
import KubeManifest.Proofs.Value.Decidable
import KubeManifest.Proofs.Value.Entries
import KubeManifest.Proofs.Value.NullAdded
import KubeManifest.Proofs.Value.Order
import KubeManifest.Proofs.Value.Paths
import KubeManifest.Proofs.Value.Plain
import KubeManifest.Proofs.Value.Proper
import KubeManifest.Proofs.Value.Prune
import KubeManifest.Proofs.Value.Relabel
import KubeManifest.Proofs.Value.Renumber
import KubeManifest.Proofs.Value.Restated
import KubeManifest.Proofs.Value.Same
import KubeManifest.Proofs.Yaml.Renumber
import KubeManifest.Resource
import KubeManifest.Text.Blank
import KubeManifest.Text.Case
import KubeManifest.Text.CharSet
import KubeManifest.Text.Combining
import KubeManifest.Text.Cut
import KubeManifest.Text.Decode
import KubeManifest.Text.Digit
import KubeManifest.Text.Pattern
import KubeManifest.Text.Printable
import KubeManifest.Text.Quoted
import KubeManifest.Text.Width
import KubeManifest.Text.Word
import KubeManifest.Text.Words
import KubeManifest.Url.Basic
import KubeManifest.Url.Literal
import KubeManifest.Value.Basic
import KubeManifest.Value.Display
import KubeManifest.Value.Kind
import KubeManifest.Value.Misfit
import KubeManifest.Value.Plain
import KubeManifest.Value.Same
import KubeManifest.Yaml.Cursor
import KubeManifest.Yaml.Failure
import KubeManifest.Yaml.Node
import KubeManifest.Yaml.Reader
import KubeManifest.Yaml.Representation
import KubeManifest.Yaml.Scalar
import KubeManifest.Yaml.Schema
import KubeManifest.Yaml.Spelling
import KubeManifest.Yaml.Style
import KubeManifest.Yaml.Token
import KubeManifest.Yaml.Token.Scan
import KubeManifest.Yaml.Token.Text
import KubeManifest.Yaml.Writer
import KubeManifest.Yaml.Writer.Text
