import DocSite.Build.Basic
import DocSite.Build.Listing
import DocSite.Build.Site
import DocSite.CommandLine.Arguments
import DocSite.CommandLine.Run
import DocSite.Config
import DocSite.Document.Basic
import DocSite.Document.Stylesheet
import DocSite.Exchange.Classes
import DocSite.Exchange.Docs
import DocSite.Exchange.Format
import DocSite.Exchange.Names
import DocSite.Exchange.Roots
import DocSite.Exchange.Signatures
import DocSite.Exchange.Slot
import DocSite.Exchange.Types
import DocSite.Files.Discovery
import DocSite.Files.Path
import DocSite.Files.Tree
import DocSite.Interface.Class
import DocSite.Interface.Declaration
import DocSite.Interface.Description
import DocSite.Interface.Doc
import DocSite.Interface.Identifier
import DocSite.Interface.Path
import DocSite.Interface.Root
import DocSite.Interface.Signature
import DocSite.Interface.TypeExpr
import DocSite.Json.Basic
import DocSite.Json.Printer
import DocSite.Json.Reader
import DocSite.Json.Token
import DocSite.Main
import DocSite.Markup.Definition
import DocSite.Markup.Escape
import DocSite.Markup.Html
import DocSite.Markup.Node
import DocSite.Render.Basic
import DocSite.Render.Class
import DocSite.Render.Declaration
import DocSite.Render.Documentation
import DocSite.Render.Fault
import DocSite.Render.ModuleType
import DocSite.Render.Noted
import DocSite.Render.Root
import DocSite.Render.Signature
import DocSite.Render.TypeText
import DocSite.Site.Href
import DocSite.Site.Link
import DocSite.Site.Location
import DocSite.Site.Packages
import DocSite.Site.Page
import DocSite.Site.Scopes
import DocSite.Text.Alphanumeric
import DocSite.Text.Hexadecimal
import DocSite.Text.Lowercase
import DocSite.Text.Printable
import DocSite.Text.Quoted
import DocSite.Text.Ranges
import DocSite.Toml.Basic
import DocSite.Toml.DateTime
import DocSite.Toml.Number
import DocSite.Toml.Reader
import DocSite.Toml.Token
import DocSite.Proofs.Outline
import DocSite.Proofs.Separation
import DocSite.Proofs.PageTree
import DocSite.Proofs.Declarations
import DocSite.Proofs.Locations
import DocSite.Proofs.Anchors
import DocSite.Proofs.Links
import DocSite.Proofs.Checkpoints
import DocSite.Proofs.Endings
import DocSite.Proofs.NormalForm
import DocSite.Proofs.JsonText
import DocSite.Proofs.Nesting
import DocSite.Proofs.WrittenData
import DocSite.Proofs.Faithful
import DocSite.Proofs.SavedRoots
import DocSite.Proofs.Contents
import DocSite.Proofs.Entities
import DocSite.Proofs.HtmlText
import DocSite.Proofs.HtmlTree
import DocSite.Proofs.RespelledRoots
import DocSite.Proofs.Neutral
import DocSite.Proofs.TextAgreement
import DocSite.Proofs.Interference
import DocSite.Proofs.ScopeTokens
import DocSite.Proofs.Segments
import DocSite.Proofs.Identification
import DocSite.Proofs.Storage
import DocSite.Proofs.PageFiles
import DocSite.Proofs.PageStorage
import DocSite.Proofs.StoredPages
import DocSite.Proofs.RelativeLinks
import DocSite.Proofs.TypeSyntax
import DocSite.Proofs.TypeWriting
import DocSite.Proofs.TypeReading
import DocSite.Proofs.FoundFiles
import DocSite.Proofs.SiteBuild
import DocSite.Proofs.KeptText
import DocSite.Proofs.ConstructorText
import DocSite.Proofs.Tables
import DocSite.Proofs.TableRows
import DocSite.Proofs.RowAnchors
import DocSite.Proofs.ShownDocs
import DocSite.Proofs.MentionedDocs
import DocSite.Proofs.References
import DocSite.Proofs.AssignedPackages
import DocSite.Proofs.Discovery
import DocSite.Proofs.DocumentText
import DocSite.Proofs.Documents
import DocSite.Proofs.Navigation
import DocSite.Proofs.HeadingSlugs
import DocSite.Proofs.DefinitionLayout
