import RuleDesk.Api.Server
import RuleDesk.Proofs.Rule.OptionCuts
import RuleDesk.Proofs.Text.Numerals
import RuleDesk.Proofs.Text.Occurrences
import RuleDesk.Workspace.Command
import RuleDesk.Proofs.Rule.Keywords
import RuleDesk.Proofs.Rule.Canonical
import RuleDesk.Proofs.Rule.ClauseReading
import RuleDesk.Proofs.Rule.Survival
import RuleDesk.Proofs.Rule.Frames
import RuleDesk.Proofs.Rule.OptionLists
import RuleDesk.Proofs.Rule.RoundTrip
import RuleDesk.Proofs.Rule.FreeTexts
import RuleDesk.Proofs.Rule.KeyOccurrences
import RuleDesk.Proofs.Rule.Exactness
import RuleDesk.Proofs.Rule.Reexport
import RuleDesk.Proofs.Validation.Export
import RuleDesk.Proofs.Text.Utf8
import RuleDesk.Proofs.Json.Documents
import RuleDesk.Proofs.Json.Schemas
import RuleDesk.Proofs.Rule.Records
import RuleDesk.Proofs.Project.RoundTrip
import RuleDesk.Proofs.Import.Lines
import RuleDesk.Proofs.Import.RulesFile
import RuleDesk.Proofs.Outcomes
import RuleDesk.Proofs.Api.Handlers
import RuleDesk.Proofs.Api.Requests
import RuleDesk.Proofs.Api.Simulation
import RuleDesk.Proofs.Rule.Grammar
import RuleDesk.Proofs.Rule.Verdicts
import RuleDesk.Proofs.Rule.Fingerprints
import RuleDesk.Proofs.Rule.SameLine
import RuleDesk.Proofs.Workspace.Atomicity
import RuleDesk.Proofs.Form.Exchange
import RuleDesk.Proofs.Form.Records
import RuleDesk.Workspace.Allocation
import RuleDesk.Proofs.Rule.TightLines
import RuleDesk.Proofs.Workspace.Allocation
import RuleDesk.Proofs.Workspace.Deletion
import RuleDesk.Proofs.Validation.HexBlocks
import RuleDesk.Proofs.Validation.Copies
import RuleDesk.Proofs.Rule.RepeatedOptions
import RuleDesk.Proofs.Workspace.CopyCollisions
import RuleDesk.Proofs.Rule.Rereading
import RuleDesk.Proofs.Form.Acceptance
import RuleDesk.Proofs.Rule.OptionOrder
import RuleDesk.Proofs.Rule.CanonicalOrder
import RuleDesk.Proofs.Rule.CutPlaces
import RuleDesk.Proofs.Validation.AddressGrammar
import RuleDesk.Proofs.Validation.Rebuilt
import RuleDesk.Proofs.Rule.FlowSets
import RuleDesk.Proofs.Project.Entries
import RuleDesk.Proofs.Workspace.Messages
import RuleDesk.Proofs.Api.Imports
import RuleDesk.Api.InPlace
import RuleDesk.Proofs.Api.Steps
