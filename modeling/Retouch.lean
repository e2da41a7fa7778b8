import Retouch.Text.Basic
import Retouch.Text.CaseMap
import Retouch.Text.Digit
import Retouch.Text.Latin
import Retouch.Text.Printable
import Retouch.Decimal.Numeral
import Retouch.Text.Quoted
import Retouch.Json.Reader
import Retouch.Json.Writer
import Retouch.Markup.Enclosing
import Retouch.Style.Change
import Retouch.Style.ClassList
import Retouch.Style.Property
import Retouch.Style.Value
import Retouch.Style.Membership
import Retouch.Style.Utility
import Retouch.Project.Path
import Retouch.Locate.Location
import Retouch.Style.Declarations
import Retouch.Style.ObjectLiteral
import Retouch.Patch.Replacement
import Retouch.Patch.Styles
import Retouch.Overlay.Frame
import Retouch.Page.Outline
import Retouch.Wire.FrameMessage
import Retouch.Wire.Response
import Retouch.Backend.Answer
import Retouch.Base64
import Retouch.Host.EventBus
import Retouch.Host.Call
import Retouch.Host.Connection
import Retouch.Upload.Reassembly
import Retouch.Wire.Channel
import Retouch.Workbench
import Retouch.Report.Event
import Retouch.Report.Status
import Retouch.Page.Script
import Retouch.Overlay.Call
import Retouch.Project.Directory
import Retouch.Http.Service
import Retouch.Host.Remote
import Retouch.Compare.Unified
import Retouch.CommandLine.Option
import Retouch.CommandLine.Command
import Retouch.CommandLine.Run
import Retouch.Main
import Retouch.Proofs.Backend.Refusal
import Retouch.Proofs.Backend.Undo
import Retouch.Proofs.Backend.Walk
import Retouch.Proofs.Host.Baseline
import Retouch.Proofs.Host.Deferred
import Retouch.Proofs.Host.Loss
import Retouch.Proofs.Host.Settling
import Retouch.Proofs.Host.Untouched
import Retouch.Proofs.Patch.Rewritten
import Retouch.Proofs.Wire.Exchange
import Retouch.Proofs.Wire.RoundTrip
import Retouch.Proofs.Workbench.Agreement
import Retouch.Proofs.Backend.Saving
import Retouch.Proofs.Upload.Naming
import Retouch.Proofs.Upload.Assembling
import Retouch.Proofs.Style.Removal
import Retouch.Proofs.Style.Fitting
import Retouch.Proofs.Project.Rewriting
import Retouch.Proofs.Overlay.Clearing
import Retouch.Proofs.Overlay.Hiding
import Retouch.Proofs.Markup.Grammar
import Retouch.Proofs.Markup.Written
import Retouch.Proofs.Markup.Nesting
import Retouch.Proofs.Patch.Inverted
import Retouch.Proofs.Backend.Position
import Retouch.Proofs.Locate.Identified
import Retouch.Proofs.Locate.Snippet
import Retouch.Proofs.Patch.Occurrences
import Retouch.Proofs.Json.Text
import Retouch.Proofs.Patch.Escaping
import Retouch.Proofs.Markup.StartTag
import Retouch.Proofs.Patch.Verbatim
import Retouch.Proofs.Patch.Context
import Retouch.Proofs.Patch.AttributeText
import Retouch.Proofs.Patch.OwnText
import Retouch.Proofs.Style.Edited
import Retouch.Proofs.Style.Declared
import Retouch.Proofs.Style.Folded
import Retouch.Proofs.Style.InForce
import Retouch.Proofs.Patch.Reported
import Retouch.Proofs.Patch.Assigned
import Retouch.Proofs.Overlay.Withholding
import Retouch.Proofs.Overlay.InStep
import Retouch.Proofs.Page.Selecting
import Retouch.Proofs.Host.UndoStacks
import Retouch.Proofs.Backend.Recent
import Retouch.Proofs.Project.Normalizing
import Retouch.Proofs.Patch.Commuting
import Retouch.Proofs.Style.Sized
import Retouch.Proofs.Style.PropertyName
import Retouch.Proofs.Host.Subscribing
