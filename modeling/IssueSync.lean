import IssueSync.Files.Access
import IssueSync.Files.Directory
import IssueSync.Files.Path
import IssueSync.Json.Rules
import IssueSync.Json.Value
import IssueSync.Libraries
import IssueSync.Main
import IssueSync.Ordered.TextMap
import IssueSync.Ordered.TextSet
import IssueSync.Program.Arguments
import IssueSync.Program.DocumentCommand
import IssueSync.Program.Failure
import IssueSync.Program.Invocation
import IssueSync.Program.Logging
import IssueSync.Program.Run
import IssueSync.Program.Settings
import IssueSync.Rule.Configuration
import IssueSync.Rule.Correspondence
import IssueSync.Rule.Field
import IssueSync.Rule.Mapping
import IssueSync.Rule.Placeholder
import IssueSync.Rule.Reading
import IssueSync.Rule.Template
import IssueSync.Rule.Validation
import IssueSync.Status.Log
import IssueSync.Table.Loading
import IssueSync.Table.ProjectTable
import IssueSync.Table.Store
import IssueSync.Text.Blank
import IssueSync.Text.Digits
import IssueSync.Text.Hidden
import IssueSync.Text.LetterCase
import IssueSync.Text.Quoting
import IssueSync.Text.Search
import IssueSync.Text.SystemText
import IssueSync.Toml.Document
import IssueSync.Toml.Quoted
import IssueSync.Toml.Scalar
import IssueSync.Toml.Table
import IssueSync.Value.Html
import IssueSync.Value.Joining
import IssueSync.Value.TagName
import IssueSync.Value.Transformation
import IssueSync.Xml.Character
import IssueSync.Xml.Document
import IssueSync.Xml.Markup
import IssueSync.Xml.Namespace
import IssueSync.Xml.Node
import IssueSync.Xml.Piece
import IssueSync.Xml.Reference
import IssueSync.Proofs.Loading.Outcome
import IssueSync.Proofs.Loading.Delimiters
import IssueSync.Proofs.Placeholder.Division
import IssueSync.Proofs.Placeholder.Writing
import IssueSync.Proofs.Reading.TemplateContent
import IssueSync.Proofs.Value.TagName
import IssueSync.Proofs.Xml.ContentMarkup
import IssueSync.Proofs.Loading.TemplateText
import IssueSync.Proofs.Loading.MoreFields
import IssueSync.Proofs.Loading.JoinedDocuments
import IssueSync.Proofs.Table.Publication
import IssueSync.Proofs.Text.Trimming
import IssueSync.Proofs.Text.Occurrence
import IssueSync.Proofs.Status.Sections
import IssueSync.Proofs.Status.History
import IssueSync.Proofs.Status.Quoting
import IssueSync.Proofs.Table.KeyOwner
import IssueSync.Proofs.Reading.NormalForm
import IssueSync.Proofs.Xml.DataKept
import IssueSync.Proofs.Json.PrettyText
import IssueSync.Proofs.Secrecy.JsonText
import IssueSync.Proofs.Program.DocumentCommands
import IssueSync.Proofs.Secrecy.Commands
import IssueSync.Proofs.Reading.Along
import IssueSync.Proofs.Reading.Unread
import IssueSync.Proofs.Reading.Layout
import IssueSync.Proofs.Reading.Translation
import IssueSync.Proofs.Reading.Connection
import IssueSync.Proofs.Reading.DefaultNamespace
import IssueSync.Proofs.Text.SystemText
import IssueSync.Proofs.Files.OneFile
import IssueSync.Proofs.Program.SettingsText
import IssueSync.Proofs.Rule.RepeatedIds
import IssueSync.Proofs.Value.ElementName
import IssueSync.Proofs.Value.HtmlText
import IssueSync.Proofs.Program.SettingsFile
import IssueSync.Proofs.Program.SettingsInUse
import IssueSync.Proofs.Xml.Unescape
import IssueSync.Proofs.Program.SettingsLoaded
import IssueSync.Proofs.Program.RunEffects
import IssueSync.Proofs.Program.TransformOutput
