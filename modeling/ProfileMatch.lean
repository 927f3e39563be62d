import ProfileMatch.Main
import ProfileMatch.Proofs.Address.RoundTrip
import ProfileMatch.Proofs.Command.Agreement
import ProfileMatch.Proofs.Device.Verdict
import ProfileMatch.Proofs.Difference.Comparison
import ProfileMatch.Proofs.Matching.Acceptance
import ProfileMatch.Proofs.Matching.Kind
import ProfileMatch.Proofs.Matching.Noninterference
import ProfileMatch.Proofs.Matching.RouteWaiver
import ProfileMatch.Proofs.Matching.RuleOrder
import ProfileMatch.Proofs.Matching.Selection
import ProfileMatch.Proofs.Matching.WellFormed
import ProfileMatch.Proofs.Profile.Defaults
import ProfileMatch.Proofs.Profile.RoundTrip
import ProfileMatch.Proofs.Command.Unwaived
import ProfileMatch.Proofs.Address.Masking
import ProfileMatch.Proofs.Route.Lexicographic
import ProfileMatch.Proofs.Address.Spelling
import ProfileMatch.Proofs.Route.Spelling
import ProfileMatch.Proofs.Route.Styles
import ProfileMatch.Proofs.Route.Loss
import ProfileMatch.Proofs.RoutingRule.Translation
import ProfileMatch.Proofs.Text.Trimming
import ProfileMatch.Proofs.Number.Hexadecimal
import ProfileMatch.Proofs.Device.Notation
import ProfileMatch.Proofs.Device.Spelling
import ProfileMatch.Proofs.Device.HardwareAddress
import ProfileMatch.Proofs.Device.Subchannels
import ProfileMatch.Proofs.Table
import ProfileMatch.Proofs.Difference.Editing
import ProfileMatch.Proofs.Matching.Channels
import ProfileMatch.Proofs.Json.Reordered
import ProfileMatch.Proofs.Profile.MemberOrder
import ProfileMatch.Proofs.Profile.Preservation
import ProfileMatch.Proofs.Route.Canonical
import ProfileMatch.Proofs.Address.Truncation
import ProfileMatch.Proofs.Route.Network
import ProfileMatch.Proofs.Profile.Accessors
import ProfileMatch.Proofs.Text.Items
import ProfileMatch.Proofs.Profile.Lists
