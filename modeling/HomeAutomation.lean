import HomeAutomation.Text.Blank
import HomeAutomation.Text.Lowercase
import HomeAutomation.Text.Quoted
import HomeAutomation.Text.Numeral
import HomeAutomation.Text.Percent
import HomeAutomation.Number
import HomeAutomation.Url
import HomeAutomation.Json.Parser
import HomeAutomation.Json.Printer
import HomeAutomation.Json.Display
import HomeAutomation.Yaml.Printer
import HomeAutomation.Capability.Basic
import HomeAutomation.Draft.Acceptance
import HomeAutomation.Native.Description
import HomeAutomation.Backend.Script
import HomeAutomation.Http.Reaction
import HomeAutomation.Settings
import HomeAutomation.Proofs.Backend.Address
import HomeAutomation.Proofs.Backend.Answer
import HomeAutomation.Proofs.Backend.Blame
import HomeAutomation.Proofs.Backend.Change
import HomeAutomation.Proofs.Backend.Ending
import HomeAutomation.Proofs.Backend.Exchange
import HomeAutomation.Proofs.Backend.Intent
import HomeAutomation.Proofs.Backend.Key
import HomeAutomation.Proofs.Backend.Listing
import HomeAutomation.Proofs.Backend.Payload
import HomeAutomation.Proofs.Backend.Plan
import HomeAutomation.Proofs.Backend.Repetition
import HomeAutomation.Proofs.Backend.Showable
import HomeAutomation.Proofs.Backend.SingleHop
import HomeAutomation.Proofs.Backend.Token
import HomeAutomation.Proofs.Backend.Trace
import HomeAutomation.Proofs.Capability.Authoring
import HomeAutomation.Proofs.Capability.Layout
import HomeAutomation.Proofs.Capability.Wire
import HomeAutomation.Proofs.Double.Finite
import HomeAutomation.Proofs.Double.Order
import HomeAutomation.Proofs.Draft.Accepted
import HomeAutomation.Proofs.Draft.Dropping
import HomeAutomation.Proofs.Draft.Finite
import HomeAutomation.Proofs.Draft.Gate
import HomeAutomation.Proofs.Draft.Layout
import HomeAutomation.Proofs.Draft.MissingNumber
import HomeAutomation.Proofs.Draft.Preview
import HomeAutomation.Proofs.Draft.Range
import HomeAutomation.Proofs.Draft.Runnable
import HomeAutomation.Proofs.Draft.Shape
import HomeAutomation.Proofs.Draft.Window
import HomeAutomation.Proofs.Draft.Wire
import HomeAutomation.Proofs.Http.Blame
import HomeAutomation.Proofs.Http.Classification
import HomeAutomation.Proofs.Http.EntryPoints
import HomeAutomation.Proofs.Http.Secret
import HomeAutomation.Proofs.Http.Spelling
import HomeAutomation.Proofs.Hub.Addressing
import HomeAutomation.Proofs.Hub.Creation
import HomeAutomation.Proofs.Hub.LostReply
import HomeAutomation.Proofs.Hub.Refinement
import HomeAutomation.Proofs.Hub.Store
import HomeAutomation.Proofs.Native.Alternatives
import HomeAutomation.Proofs.Native.Clock
import HomeAutomation.Proofs.Native.Data
import HomeAutomation.Proofs.Native.Describable
import HomeAutomation.Proofs.Native.Event
import HomeAutomation.Proofs.Native.Moving
import HomeAutomation.Proofs.Native.Quoting
import HomeAutomation.Proofs.Native.Template
import HomeAutomation.Proofs.Settings.Cleaning
import HomeAutomation.Proofs.Text.Layer
import HomeAutomation.Proofs.Text.Literal
import HomeAutomation.Proofs.Text.Numeral
import HomeAutomation.Proofs.Text.Percent
import HomeAutomation.Proofs.Text.Utf8
import HomeAutomation.Proofs.Text.Word
import HomeAutomation.Proofs.Validation.Field
import HomeAutomation.Proofs.Validation.Layout
import HomeAutomation.Proofs.Validation.Rereading
