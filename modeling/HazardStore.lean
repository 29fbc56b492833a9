import HazardStore.Calendar
import HazardStore.CommandLine.Arguments
import HazardStore.CommandLine.Help
import HazardStore.Decimal
import HazardStore.Double.Basic
import HazardStore.Double.Printer
import HazardStore.Double.Reader
import HazardStore.Double.Rounding
import HazardStore.Double.Shortest
import HazardStore.GroundMotion.Alignment
import HazardStore.GroundMotion.Field
import HazardStore.Identifier
import HazardStore.Json.Document
import HazardStore.Json.Fields
import HazardStore.Json.Number
import HazardStore.Json.Reader
import HazardStore.Json.Requests
import HazardStore.Json.Skip
import HazardStore.Main
import HazardStore.Measure.Basic
import HazardStore.Measure.Kind
import HazardStore.Measure.Reference
import HazardStore.Measure.Text
import HazardStore.Migration.Error
import HazardStore.Migration.History
import HazardStore.Migration.Known
import HazardStore.Migration.Migrator
import HazardStore.Program.Command
import HazardStore.Program.Connection
import HazardStore.Program.Outcome
import HazardStore.Program.Settings
import HazardStore.Record
import HazardStore.Schema.Problem
import HazardStore.Schema.Verification
import HazardStore.Server.Column
import HazardStore.Server.Reply
import HazardStore.Server.Statement
import HazardStore.Session.Basic
import HazardStore.Session.Dialogue
import HazardStore.Session.Journal
import HazardStore.Session.Run
import HazardStore.Session.Script
import HazardStore.Store.Containers
import HazardStore.Store.Error
import HazardStore.Store.Events
import HazardStore.Store.Fields
import HazardStore.Store.Health
import HazardStore.Store.Measures
import HazardStore.Store.Ruptures
import HazardStore.Store.Seeding
import HazardStore.Text.Blank
import HazardStore.Text.Numeral
import HazardStore.Violation
import HazardStore.Proofs.GroundMotion.Alignment
import HazardStore.Proofs.GroundMotion.Field
import HazardStore.Proofs.Double.Rounding
import HazardStore.Proofs.Double.Text
import HazardStore.Proofs.Measure.RoundTrip
import HazardStore.Proofs.Measure.Table
import HazardStore.Proofs.Session.Runs
import HazardStore.Proofs.Measure.Seeding
import HazardStore.Proofs.Measure.Registration
import HazardStore.Proofs.Rupture.Database
import HazardStore.Proofs.Rupture.Discipline
import HazardStore.Proofs.Rupture.Sites
import HazardStore.Proofs.Measure.Grammar
import HazardStore.Proofs.Measure.Presence
import HazardStore.Proofs.Measure.Identity
import HazardStore.Proofs.Session.Transactions
import HazardStore.Proofs.Store.Operations
import HazardStore.Proofs.Session.Answers
import HazardStore.Proofs.Rupture.Growth
import HazardStore.Proofs.Rupture.SiteValues
import HazardStore.Proofs.Schema.Checks
import HazardStore.Proofs.Schema.Report
import HazardStore.Proofs.Migration.Runs
import HazardStore.Proofs.Migration.History
import HazardStore.Proofs.Migration.Agreement
import HazardStore.Proofs.Rupture.SiteOrder
import HazardStore.Proofs.Rupture.Storing
import HazardStore.Proofs.Rupture.Repetition
import HazardStore.Proofs.Rupture.SiteBySite
import HazardStore.Proofs.Rupture.Assignment
import HazardStore.Proofs.Rupture.Admission
import HazardStore.Proofs.Migration.Attempts
import HazardStore.Proofs.Migration.Progress
import HazardStore.Proofs.Migration.Status
import HazardStore.Proofs.Text.Numeral
import HazardStore.Proofs.Text.Trim
import HazardStore.Proofs.Program.Settings
import HazardStore.Proofs.Rupture.Rejection
import HazardStore.Proofs.Server.Effects
import HazardStore.Proofs.Session.Plans
import HazardStore.Proofs.Store.Texts
import HazardStore.Proofs.Program.Messages
import HazardStore.Proofs.Server.Conditions
import HazardStore.Proofs.Store.Conditions
import HazardStore.Proofs.Server.Arity
