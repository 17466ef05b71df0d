import Mathdown.Cache.Directory
import Mathdown.CommandLine
import Mathdown.Compile
import Mathdown.Config.Layering
import Mathdown.Config.Load
import Mathdown.Config.Reference
import Mathdown.Event.Height
import Mathdown.Grammar.Choice
import Mathdown.Highlight
import Mathdown.Main
import Mathdown.Markdown.Document
import Mathdown.Programs
import Mathdown.Proofs.Cache.Files
import Mathdown.Proofs.Cache.Refinement
import Mathdown.Proofs.Command.Outcomes
import Mathdown.Proofs.Compile.Balance
import Mathdown.Proofs.Compile.Concatenation
import Mathdown.Proofs.Compile.Deferral
import Mathdown.Proofs.Compile.HeadingIds
import Mathdown.Proofs.Compile.HeadingTexts
import Mathdown.Proofs.Compile.Images
import Mathdown.Proofs.Compile.Legibility
import Mathdown.Proofs.Compile.Limits
import Mathdown.Proofs.Compile.Payloads
import Mathdown.Proofs.Compile.Pieces
import Mathdown.Proofs.Compile.Rejection
import Mathdown.Proofs.Compile.Requests
import Mathdown.Proofs.Compile.Spans
import Mathdown.Proofs.Compile.Succession
import Mathdown.Proofs.Compile.Tables
import Mathdown.Proofs.Config.Expansion
import Mathdown.Proofs.Config.Loading
import Mathdown.Proofs.Config.Safety
import Mathdown.Proofs.Grammar.Choice
import Mathdown.Proofs.Html.Escapes
import Mathdown.Proofs.Placeholder.Ranges
import Mathdown.Proofs.Render.Isolation
import Mathdown.Proofs.Render.Lookups
import Mathdown.Proofs.Render.Provenance
import Mathdown.Proofs.Render.Recording
import Mathdown.Proofs.Render.Scheduling
import Mathdown.Proofs.Render.Simulation
import Mathdown.Proofs.Render.Transparency
import Mathdown.Proofs.Render.Warmth
import Mathdown.Proofs.Text.Slugs
import Mathdown.Render.Lookup
import Mathdown.Render.Record
import Mathdown.Render.Run
import Mathdown.Tex
import Mathdown.Text.Escape
import Mathdown.Text.Slug
