import DocPages.Cli.Arguments
import DocPages.Cli.FileSystem
import DocPages.Cli.Run
import DocPages.Comment.Block
import DocPages.Comment.Chunk
import DocPages.Comment.Definition
import DocPages.Comment.Inline
import DocPages.Comment.ListRun
import DocPages.Comment.Parse
import DocPages.Comment.Reference
import DocPages.Comment.Span
import DocPages.Data.Binary64
import DocPages.Data.Json
import DocPages.Data.SortedMap
import DocPages.Data.Value
import DocPages.Data.Yaml.Cursor
import DocPages.Data.Yaml.Document
import DocPages.Data.Yaml.Scalar
import DocPages.Data.Yaml.Token
import DocPages.Dialect.Basic
import DocPages.Dialect.Escape
import DocPages.Main
import DocPages.Markdown.Block
import DocPages.Markdown.Entity
import DocPages.Markdown.Html
import DocPages.Markdown.Inline
import DocPages.Markdown.Link
import DocPages.Markdown.PlainText
import DocPages.Page.Entity
import DocPages.Page.Value
import DocPages.Proofs.Comment.Content
import DocPages.Proofs.Comment.Definitions
import DocPages.Proofs.Comment.InlineText
import DocPages.Proofs.Comment.Marker
import DocPages.Proofs.Comment.InlineForm
import DocPages.Proofs.Comment.Nesting
import DocPages.Proofs.Comment.Occurrence
import DocPages.Proofs.Comment.Outline
import DocPages.Proofs.Comment.OutlineItems
import DocPages.Proofs.Comment.OutlineParse
import DocPages.Proofs.Comment.ParagraphBreak
import DocPages.Proofs.Comment.ReadingOrder
import DocPages.Proofs.Comment.References
import DocPages.Proofs.Comment.DefinitionPlacement
import DocPages.Proofs.Comment.BracketGroups
import DocPages.Proofs.Comment.FirstParagraph
import DocPages.Proofs.Comment.TokenGrammar
import DocPages.Proofs.Data.Traversal
import DocPages.Proofs.Page.Attachment
import DocPages.Proofs.Page.LaidOutSource
import DocPages.Proofs.Page.LocalLinks
import DocPages.Proofs.Page.Parts
import DocPages.Proofs.Settings.Assignment
import DocPages.Proofs.Settings.Layers
import DocPages.Proofs.Source.Forest
import DocPages.Proofs.Source.ParentChain
import DocPages.Proofs.Source.Resolution
import DocPages.Proofs.Text.CamelCase
import DocPages.Proofs.Text.Collapse
import DocPages.Proofs.Text.Lines
import DocPages.Proofs.Text.Path
import DocPages.Proofs.Text.SourceLayout
import DocPages.Proofs.Text.Url
import DocPages.Render.Functions
import DocPages.Render.Renderer
import DocPages.Render.Templates
import DocPages.Settings.Basic
import DocPages.Settings.Key
import DocPages.Settings.Setting
import DocPages.Source.Fields
import DocPages.Source.Package
import DocPages.Source.Scope
import DocPages.Source.Symbol
import DocPages.Template.Eval
import DocPages.Template.Parse
import DocPages.Template.Token
import DocPages.Template.Tree
import DocPages.Template.Value
import DocPages.Text.Blank
import DocPages.Text.CamelCase
import DocPages.Text.Casing
import DocPages.Text.CodeRun
import DocPages.Text.Letter
import DocPages.Text.Lines
import DocPages.Text.Numeral
import DocPages.Text.Path
import DocPages.Text.Percent
import DocPages.Text.SourceLayout
import DocPages.Text.Summary
import DocPages.Text.Url
import DocPages.Text.WordChar
import DocPages.Toml.Document
import DocPages.Toml.Scalar
import DocPages.Proofs.Comment.WellFormed
import DocPages.Proofs.Template.Value
import DocPages.Proofs.Template.Writing
import DocPages.Proofs.Render.Pieces
import DocPages.Proofs.Render.Library
import DocPages.Proofs.Render.DocTemplate
import DocPages.Proofs.Render.PageTemplates
import DocPages.Proofs.Render.PackageTemplate
import DocPages.Proofs.Render.Failures
import DocPages.Proofs.Render.FileTemplate
import DocPages.Proofs.Render.EmptySources
import DocPages.Proofs.Dialect.Escaping
import DocPages.Proofs.Dialect.SourcePath
import DocPages.Proofs.Cli.FileSystem
import DocPages.Proofs.Cli.Execution
import DocPages.Proofs.Cli.Stages
import DocPages.Proofs.Page.LineEndings
import DocPages.Proofs.Render.Overrides
import DocPages.Proofs.Template.Comparison
import DocPages.Proofs.Render.DefaultSources
import DocPages.Proofs.Markdown.Paragraph
import DocPages.Proofs.Markdown.EscapedText
import DocPages.Proofs.Comment.Headings
import DocPages.Proofs.Comment.FencedCode
import DocPages.Proofs.Comment.IndentedCode
import DocPages.Proofs.Comment.Wrapping
import DocPages.Proofs.Source.ReadBack
import DocPages.Proofs.Source.Abridging
import DocPages.Proofs.Dialect.EscapedWords
import DocPages.Proofs.Text.Blank
import DocPages.Proofs.Text.Words
import DocPages.Proofs.Text.Percent
import DocPages.Proofs.Text.Query
import DocPages.Proofs.Text.Summary
import DocPages.Proofs.Dialect.HeaderSlug
import DocPages.Proofs.Dialect.SourceQuery
import DocPages.Proofs.Dialect.KeptUrls
import DocPages.Proofs.Source.AnchorWalk
import DocPages.Proofs.Comment.ListItems
import DocPages.Proofs.Text.HangingIndent
import DocPages.Proofs.Render.NestedItems
