import FlexForm.Text.Case
import FlexForm.Text.Quoted
import FlexForm.Overlay
import FlexForm.Link.Basic
import FlexForm.Pattern.Search
import FlexForm.Json.Display
import FlexForm.Timestamp.Reader
import FlexForm.Schema.Load
import FlexForm.Form.Check
import FlexForm.Form.Defaults
import FlexForm.Message.Check
import FlexForm.Placeholder
import FlexForm.Schema.Dump
import FlexForm.Pattern.Reader
import FlexForm.Path.Access
import FlexForm.Grammar.Scan
import FlexForm.Lifecycle
import FlexForm.Settings.Source
import FlexForm.Web.Service
import FlexForm.CommandLine.Run
import FlexForm.Main
import FlexForm.Proofs.Json.Position
import FlexForm.Proofs.Grammar.Meaning
import FlexForm.Proofs.Grammar.Quiet
import FlexForm.Proofs.Grammar.Words
import FlexForm.Proofs.Render.Print
import FlexForm.Proofs.Catalog.Button
import FlexForm.Proofs.Catalog.Poster
import FlexForm.Proofs.Catalog.Carousel
import FlexForm.Proofs.Render.Finite
import FlexForm.Proofs.Json.Null
import FlexForm.Proofs.Lifecycle.Publish
import FlexForm.Proofs.Compile.Faults
import FlexForm.Proofs.Lifecycle.Runs
import FlexForm.Proofs.Form.Occurrences
import FlexForm.Proofs.Message.Actions
import FlexForm.Proofs.Compile.Upgrade
import FlexForm.Proofs.Timestamp.Text
import FlexForm.Proofs.Record.Restore
import FlexForm.Proofs.Schema.Everywhere
import FlexForm.Proofs.Schema.Restore
import FlexForm.Proofs.Template.Restore
import FlexForm.Proofs.Folder.Walk
import FlexForm.Proofs.Shelf.Agreement
import FlexForm.Proofs.Document.Restore
import FlexForm.Proofs.Render.Markers
import FlexForm.Proofs.Settings.Sources
import FlexForm.Proofs.Shelf.Confinement
import FlexForm.Proofs.Shelf.Faults
import FlexForm.Proofs.Web.Statuses
import FlexForm.Proofs.Overlay.Interchange
import FlexForm.Proofs.Form.Initial
import FlexForm.Proofs.Json.LineEnds
import FlexForm.Proofs.Placeholder
import FlexForm.Proofs.Render.Agreement
import FlexForm.Proofs.Path.Joining
import FlexForm.Proofs.Path.Refusal
import FlexForm.Proofs.Message.Location
import FlexForm.Proofs.Link.Secure
import FlexForm.Proofs.Grammar.Equality
