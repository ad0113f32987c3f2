import HeaderSynth.Annotation.Arguments
import HeaderSynth.Annotation.Exposure
import HeaderSynth.Annotation.Members
import HeaderSynth.Annotation.Rule
import HeaderSynth.Annotation.Tables
import HeaderSynth.Annotation.Types
import HeaderSynth.Cli.Commands
import HeaderSynth.Cli.Disk
import HeaderSynth.Cli.FileTree
import HeaderSynth.Cli.Options
import HeaderSynth.Cli.Request
import HeaderSynth.Cli.Style
import HeaderSynth.Config.Basic
import HeaderSynth.Config.Decoding
import HeaderSynth.Declaration.Access
import HeaderSynth.Declaration.Aggregate
import HeaderSynth.Declaration.ClassType
import HeaderSynth.Declaration.DefaultValue
import HeaderSynth.Declaration.Delegate
import HeaderSynth.Declaration.Emission
import HeaderSynth.Declaration.Enumeration
import HeaderSynth.Declaration.Literal
import HeaderSynth.Declaration.Member
import HeaderSynth.Declaration.ObjectFiles
import HeaderSynth.Declaration.Signature
import HeaderSynth.Declaration.TypeText
import HeaderSynth.Dump.Generate
import HeaderSynth.Dump.Plan
import HeaderSynth.Error
import HeaderSynth.Json.Basic
import HeaderSynth.Json.Decode
import HeaderSynth.Json.Escape
import HeaderSynth.Json.Printer
import HeaderSynth.Json.Reader
import HeaderSynth.Json.Token
import HeaderSynth.Logged
import HeaderSynth.Main
import HeaderSynth.Naming.Header
import HeaderSynth.Naming.Native
import HeaderSynth.Output.Modules
import HeaderSynth.Output.SourceFile
import HeaderSynth.Output.Path
import HeaderSynth.Proofs.Json.Literals
import HeaderSynth.Reflection.Decoding
import HeaderSynth.Reflection.Encoding
import HeaderSynth.Reflection.Field
import HeaderSynth.Reflection.Flags
import HeaderSynth.Reflection.Graph
import HeaderSynth.Reflection.Instance
import HeaderSynth.Reflection.Object
import HeaderSynth.Reflection.ObjectId
import HeaderSynth.Reflection.Snapshot
import HeaderSynth.Reflection.Validation
import HeaderSynth.Sorted.Map
import HeaderSynth.Sorted.Order
import HeaderSynth.Sorted.Set
import HeaderSynth.Text.Affix
import HeaderSynth.Text.Case
import HeaderSynth.Text.CaseTable
import HeaderSynth.Text.DoubleRange
import HeaderSynth.Text.FixedPoint
import HeaderSynth.Text.Hex
import HeaderSynth.Toml.Document
import HeaderSynth.Toml.Scalar
import HeaderSynth.Toml.Text
import HeaderSynth.Toml.Value
import HeaderSynth.Proofs.Text.Hexadecimal
import HeaderSynth.Proofs.Json.RoundTrip
import HeaderSynth.Proofs.Json.Nesting
import HeaderSynth.Proofs.Reflection.Records
import HeaderSynth.Proofs.Reflection.Fields
import HeaderSynth.Proofs.Reflection.Readable
import HeaderSynth.Proofs.Reflection.NameIndex
import HeaderSynth.Proofs.Reflection.RoundTrip
import HeaderSynth.Proofs.Dump.Planning
import HeaderSynth.Proofs.Declaration.Content
import HeaderSynth.Proofs.Dump.Files
import HeaderSynth.Proofs.Dump.Inclusions
import HeaderSynth.Proofs.Output.Paths
import HeaderSynth.Proofs.Dump.Paths
import HeaderSynth.Proofs.Naming.Claims
import HeaderSynth.Proofs.Sorted.ByteOrder
import HeaderSynth.Proofs.Dump.Listing
import HeaderSynth.Proofs.Output.Reachability
import HeaderSynth.Proofs.Dump.Descriptors
import HeaderSynth.Proofs.Declaration.ObjectMentions
import HeaderSynth.Proofs.Dump.UnknownObjects
import HeaderSynth.Proofs.Dump.HeaderNames
import HeaderSynth.Proofs.Declaration.TypeSteps
import HeaderSynth.Proofs.Declaration.TypeUses
import HeaderSynth.Proofs.Declaration.ObjectUses
import HeaderSynth.Proofs.Declaration.Definitions
import HeaderSynth.Proofs.Dump.Usage
import HeaderSynth.Proofs.Dump.Headings
import HeaderSynth.Proofs.Dump.Exposure
import HeaderSynth.Proofs.Dump.Hashes
import HeaderSynth.Proofs.Annotation.Collected
import HeaderSynth.Proofs.Annotation.ClassExposure
import HeaderSynth.Proofs.Annotation.ClassFlags
import HeaderSynth.Proofs.Declaration.Signatures
import HeaderSynth.Proofs.Declaration.Enumerators
import HeaderSynth.Proofs.Declaration.StringLiterals
import HeaderSynth.Proofs.Declaration.StoredEnums
import HeaderSynth.Proofs.Dump.LocalIncludes
import HeaderSynth.Proofs.Reflection.Memory
import HeaderSynth.Proofs.Declaration.FixedArrays
import HeaderSynth.Proofs.Declaration.ParameterNames
import HeaderSynth.Proofs.Declaration.OverrideStubs
import HeaderSynth.Proofs.Dump.NestedEnums
import HeaderSynth.Proofs.Declaration.TypeDemands
import HeaderSynth.Proofs.Declaration.EnumLiterals
import HeaderSynth.Proofs.Text.Brackets
import HeaderSynth.Proofs.Annotation.Unambiguous
import HeaderSynth.Proofs.Reflection.OuterCycles
import HeaderSynth.Proofs.Sorted.Lookups
import HeaderSynth.Proofs.Annotation.Additions
import HeaderSynth.Proofs.Reflection.SuperChains
import HeaderSynth.Proofs.Text.MacroArguments
import HeaderSynth.Proofs.Declaration.DelegateMacros
import HeaderSynth.Proofs.Output.Searches
import HeaderSynth.Proofs.Reflection.Writes
import HeaderSynth.Proofs.Declaration.RepeatedTypes
import HeaderSynth.Proofs.Declaration.AccessLevels
import HeaderSynth.Proofs.Declaration.MemberLevels
