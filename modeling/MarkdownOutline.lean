import MarkdownOutline.Log
import MarkdownOutline.Render.Trace
import MarkdownOutline.Session
import MarkdownOutline.Proofs.Html.Refinement
import MarkdownOutline.Proofs.Html.Token
import MarkdownOutline.Proofs.Html.Split
import MarkdownOutline.Proofs.Html.Shown
import MarkdownOutline.Proofs.Text.Reference
import MarkdownOutline.Proofs.Html.Address
import MarkdownOutline.Proofs.Html.Safety
import MarkdownOutline.Proofs.Block.Grammar
import MarkdownOutline.Proofs.Inline.Nodes
import MarkdownOutline.Proofs.Outline.Headings
import MarkdownOutline.Proofs.Html.Inlay
import MarkdownOutline.Proofs.Outline.Collected
import MarkdownOutline.Proofs.Outline.Agreement
import MarkdownOutline.Proofs.Inline.Frames
import MarkdownOutline.Proofs.Inline.Runs
import MarkdownOutline.Proofs.Inline.Spelling
import MarkdownOutline.Proofs.Text.Backslash
import MarkdownOutline.Proofs.Block.Extent
import MarkdownOutline.Proofs.Inline.Literal
import MarkdownOutline.Proofs.Block.Literal
import MarkdownOutline.Proofs.Html.Literal
import MarkdownOutline.Proofs.Block.Append
import MarkdownOutline.Proofs.Block.Address
import MarkdownOutline.Proofs.Block.Nesting
import MarkdownOutline.Proofs.Outline.Fault
import MarkdownOutline.Proofs.Failure
import MarkdownOutline.Proofs.Document.Grammar
import MarkdownOutline.Proofs.Document.Located
import MarkdownOutline.Proofs.Document.Parsed
import MarkdownOutline.Proofs.Block.Span
import MarkdownOutline.Proofs.Outline.Past
import MarkdownOutline.Scoped.Block
import MarkdownOutline.Proofs.Scoped.Read
import MarkdownOutline.Proofs.Scoped.Convert
import MarkdownOutline.Proofs.Scoped.Session
import MarkdownOutline.Proofs.Source.Marker
import MarkdownOutline.Proofs.Outline.Nested
import MarkdownOutline.Proofs.Outline.Layout
import MarkdownOutline.Proofs.Outline.Trimmed
import MarkdownOutline.Proofs.Walk.Relation
import MarkdownOutline.Proofs.Outline.Numbered
import MarkdownOutline.Proofs.Outline.Captured
import MarkdownOutline.Proofs.Outline.Steered
import MarkdownOutline.Proofs.Inline.Reference
import MarkdownOutline.Proofs.Inline.Label
import MarkdownOutline.Proofs.Inline.SingleList
import MarkdownOutline.Proofs.Inline.Strikes
import MarkdownOutline.Proofs.Inline.Closing
import MarkdownOutline.Proofs.Block.Opener
import MarkdownOutline.Proofs.Block.Gap
import MarkdownOutline.Proofs.Block.Layer
import MarkdownOutline.Proofs.Block.Looseness
import MarkdownOutline.Proofs.Block.Cut
import MarkdownOutline.Proofs.Block.Lazy
import MarkdownOutline.Proofs.Block.Whole
import MarkdownOutline.Proofs.Block.Quoted
import MarkdownOutline.Proofs.Block.Itemized
import MarkdownOutline.Proofs.Block.Verbatim
import MarkdownOutline.Proofs.Block.Tiling
import MarkdownOutline.Proofs.Block.Parted
import MarkdownOutline.Proofs.Block.Hashes
import MarkdownOutline.Proofs.Inline.Inert
import MarkdownOutline.Proofs.Inline.Destination
import MarkdownOutline.Proofs.Html.Slugs
import MarkdownOutline.Proofs.Html.Anchors
import MarkdownOutline.Proofs.Html.Skipped
import MarkdownOutline.Proofs.Outline.Inner
import MarkdownOutline.Proofs.Html.Links
import MarkdownOutline.Proofs.Outline.Linked
import MarkdownOutline.Proofs.Block.Drawn
import MarkdownOutline.Proofs.Block.Tabs
import MarkdownOutline.Proofs.Html.Painted
import MarkdownOutline.Proofs.Text.Escape
import MarkdownOutline.Proofs.Text.Case
import MarkdownOutline.Proofs.Text.Slug
import MarkdownOutline.Proofs.Inline.Marked
import MarkdownOutline.Proofs.Inline.Capped
