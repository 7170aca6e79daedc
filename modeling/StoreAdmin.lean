import StoreAdmin.Client.Session
import StoreAdmin.Config.Store
import StoreAdmin.Model.Link
import StoreAdmin.Record.Inspect
import StoreAdmin.Resource.Operation
import StoreAdmin.Proofs.Address.Percent
import StoreAdmin.Proofs.Address.Route
import StoreAdmin.Proofs.Address.Join
import StoreAdmin.Proofs.Number.Decimal
import StoreAdmin.Proofs.Record.Shape
import StoreAdmin.Proofs.Record.Legible
import StoreAdmin.Proofs.Record.Nodes
import StoreAdmin.Proofs.Record.Xml
import StoreAdmin.Proofs.Record.Catalogue
import StoreAdmin.Proofs.Record.Body
import StoreAdmin.Proofs.Session.Activity
import StoreAdmin.Proofs.Session.Exchange
import StoreAdmin.Proofs.Session.Attempt
import StoreAdmin.Proofs.Session.Rounds
import StoreAdmin.Proofs.Session.Call
import StoreAdmin.Proofs.Session.Course
import StoreAdmin.Proofs.Session.Session
import StoreAdmin.Proofs.Session.Refusal
import StoreAdmin.Proofs.Session.Cancellation
import StoreAdmin.Proofs.Session.Recovery
import StoreAdmin.Proofs.Session.Sharing
import StoreAdmin.Proofs.Text.Blank
import StoreAdmin.Proofs.Xml.Reference
import StoreAdmin.Proofs.Xml.Element
import StoreAdmin.Proofs.Json.Literal
import StoreAdmin.Proofs.Json.Document
import StoreAdmin.Proofs.Record.Json
import StoreAdmin.Proofs.Text.Cut
import StoreAdmin.Proofs.Json.Depth
import StoreAdmin.Proofs.Xml.Root
import StoreAdmin.Proofs.Json.End
import StoreAdmin.Proofs.Record.Extension
import StoreAdmin.Proofs.Record.Truncation
import StoreAdmin.Proofs.Session.Observation
import StoreAdmin.Proofs.Session.Secrecy
import StoreAdmin.Proofs.Text.Order
import StoreAdmin.Proofs.Text.Reading
import StoreAdmin.Proofs.Address.Query
import StoreAdmin.Proofs.Resource.Request
import StoreAdmin.Proofs.Resource.Perform
import StoreAdmin.Proofs.Resource.Target
import StoreAdmin.Proofs.Config.Store
import StoreAdmin.Proofs.Record.Redaction
import StoreAdmin.Proofs.Session.Script
import StoreAdmin.Proofs.Session.Obtaining
import StoreAdmin.Proofs.Session.Absence
import StoreAdmin.Proofs.Config.Exposure
import StoreAdmin.Proofs.Address.Gateway
import StoreAdmin.Proofs.Json.Spelling
import StoreAdmin.Proofs.Record.Children
import StoreAdmin.Proofs.Record.Members
import StoreAdmin.Proofs.Record.Order
import StoreAdmin.Proofs.Session.ErrorDocument
import StoreAdmin.Proofs.Session.Workload
import StoreAdmin.Proofs.Session.Matching
