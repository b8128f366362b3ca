import WorkflowLint.Cache
import WorkflowLint.Check.Inputs
import WorkflowLint.Check.Steps
import WorkflowLint.Check.Uses
import WorkflowLint.Cli.Args
import WorkflowLint.Cli.Lookups
import WorkflowLint.Cli.Output
import WorkflowLint.Cli.Run
import WorkflowLint.Command
import WorkflowLint.Config
import WorkflowLint.Decimal.Binary64
import WorkflowLint.Decimal.Shortest
import WorkflowLint.Fetch.Callers
import WorkflowLint.Fetch.Record
import WorkflowLint.Fetch.State
import WorkflowLint.FileTree
import WorkflowLint.Finding
import WorkflowLint.Http
import WorkflowLint.Http.Client
import WorkflowLint.Json
import WorkflowLint.LocalAction
import WorkflowLint.Main
import WorkflowLint.Manifest
import WorkflowLint.Path
import WorkflowLint.Problem
import WorkflowLint.Reference
import WorkflowLint.Reference.Address
import WorkflowLint.Report
import WorkflowLint.Script
import WorkflowLint.Session
import WorkflowLint.Status
import WorkflowLint.Text.Blank
import WorkflowLint.Text.CaseTable
import WorkflowLint.Text.Digit
import WorkflowLint.Text.Lowercase
import WorkflowLint.Text.Split
import WorkflowLint.Workflow
import WorkflowLint.Workflow.Location
import WorkflowLint.Yaml.Field
import WorkflowLint.Yaml.Lexer
import WorkflowLint.Yaml.Node
import WorkflowLint.Yaml.Number
import WorkflowLint.Yaml.Reader
import WorkflowLint.Yaml.ScalarText
import WorkflowLint.Yaml.Source
import WorkflowLint.Yaml.Token
import WorkflowLint.Yaml.Value
import WorkflowLint.Proofs.Fetch.Op
import WorkflowLint.Proofs.Fetch.Coherence
import WorkflowLint.Proofs.Lookups
import WorkflowLint.Proofs.Session.Trace
import WorkflowLint.Proofs.Fetch.WakeUp
import WorkflowLint.Proofs.Session.Records
import WorkflowLint.Proofs.Session.WakeUp
import WorkflowLint.Proofs.Fetch.Supersession
import WorkflowLint.Proofs.Session.LatestAttempt
import WorkflowLint.Proofs.Fetch.Starts
import WorkflowLint.Proofs.Session.RetryBudget
import WorkflowLint.Proofs.Addresses
import WorkflowLint.Proofs.Fetch.Answers
import WorkflowLint.Proofs.Look
import WorkflowLint.Proofs.Fetch.Callers
import WorkflowLint.Proofs.Session.StatusTable
import WorkflowLint.Proofs.Session.Transparency
import WorkflowLint.Proofs.Fetch.Restarts
import WorkflowLint.Proofs.Session.Refresh
import WorkflowLint.Proofs.Fetch.Settled
import WorkflowLint.Proofs.Session.Agreement
import WorkflowLint.Proofs.Session.Settled
import WorkflowLint.Proofs.Fetch.Endings
import WorkflowLint.Proofs.Session.Waiting
import WorkflowLint.Proofs.Fetch.Isolation
import WorkflowLint.Proofs.Session.Isolation
import WorkflowLint.Proofs.Reference.Reading
import WorkflowLint.Proofs.Reference.RoundTrip
import WorkflowLint.Proofs.Reference.Grammar
import WorkflowLint.Proofs.Reference.Identity
import WorkflowLint.Proofs.Manifest.Inputs
import WorkflowLint.Proofs.Manifest.Merge
import WorkflowLint.Proofs.Effects
import WorkflowLint.Proofs.Check.Verdicts
import WorkflowLint.Proofs.Check.Validity
import WorkflowLint.Proofs.Check.Inputs
import WorkflowLint.Proofs.Yaml.Distinct
import WorkflowLint.Proofs.Workflow.Scan
import WorkflowLint.Proofs.Check.PassedKeys
import WorkflowLint.Proofs.Session.StatusEffects
import WorkflowLint.Proofs.Session.CheckEffects
import WorkflowLint.Proofs.Session.Unnamed
import WorkflowLint.Proofs.Session.Blocks
import WorkflowLint.Proofs.Text.Blank
import WorkflowLint.Proofs.Text.Lines
import WorkflowLint.Proofs.Command.Grammar
import WorkflowLint.Proofs.Command.Values
import WorkflowLint.Proofs.Path.Components
import WorkflowLint.Proofs.Script.LineLocal
import WorkflowLint.Proofs.Workflow.Root
import WorkflowLint.Proofs.Script.Quoting
import WorkflowLint.Proofs.LocalAction.Location
