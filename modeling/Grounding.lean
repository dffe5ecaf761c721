import Grounding.Text.Blank
import Grounding.Text.Digit
import Grounding.Text.Capital
import Grounding.Text.Quoted
import Grounding.Number.Decimal
import Grounding.Number.Figures
import Grounding.Json.Encoding
import Grounding.Json.Sent
import Grounding.Platform
import Grounding.Room
import Grounding.Settings.Environment
import Grounding.Settings.Values
import Grounding.Retrieval.Basic
import Grounding.Network.Link
import Grounding.Context.Loose
import Grounding.Conversation.Basic
import Grounding.Conversation.Loose
import Grounding.Conversation.Kept
import Grounding.Gateway.Session
import Grounding.Gateway.Loose
import Grounding.Gateway.Registry
import Grounding.Http.Surface
import Grounding.Main
import Grounding.Proofs.Network.Building
import Grounding.Proofs.Network.Unlinkable
import Grounding.Proofs.Gateway.Change
import Grounding.Proofs.Gateway.FailedChange
import Grounding.Proofs.Gateway.LinkHistory
import Grounding.Proofs.Gateway.RetrievalShape
import Grounding.Proofs.Network.Resolution
import Grounding.Proofs.Network.Ports
import Grounding.Proofs.Network.Encryption
import Grounding.Proofs.Network.Destination
import Grounding.Proofs.Text.Trimming
import Grounding.Proofs.Network.CanonicalForm
import Grounding.Proofs.Network.NumericAddress
import Grounding.Proofs.Network.NumericHosts
import Grounding.Proofs.Gateway.Requests
import Grounding.Proofs.Gateway.Traffic
import Grounding.Proofs.Gateway.RequestTimeout
import Grounding.Proofs.Gateway.Answers
import Grounding.Proofs.Number.Nearest
import Grounding.Proofs.Number.SignificantFigures
import Grounding.Proofs.Number.FigureText
import Grounding.Proofs.Retrieval.FiniteNumbers
import Grounding.Proofs.Retrieval.Reading
import Grounding.Proofs.Retrieval.Rereading
import Grounding.Proofs.Retrieval.BothReadings
import Grounding.Proofs.Context.Block
import Grounding.Proofs.Context.Relevance
import Grounding.Proofs.Conversation.LastUser
import Grounding.Proofs.Conversation.CopyRoom
import Grounding.Proofs.Conversation.Frame
import Grounding.Proofs.Conversation.Stacking
import Grounding.Proofs.Gateway.Clients
import Grounding.Proofs.Gateway.ProcessWide
import Grounding.Proofs.Gateway.Preparation
import Grounding.Proofs.Gateway.OtherMessages
import Grounding.Proofs.Json.Scanning
import Grounding.Proofs.Json.Grammar
import Grounding.Proofs.Gateway.Health
import Grounding.Proofs.Settings.Checked
import Grounding.Proofs.Settings.Fields
import Grounding.Proofs.Settings.Loading
import Grounding.Proofs.Http.Calls
import Grounding.Proofs.Http.Shown
import Grounding.Proofs.Http.Rejection
import Grounding.Proofs.Http.Shallow
import Grounding.Proofs.Http.Answered
import Grounding.Proofs.Http.WrittenBack
import Grounding.Proofs.Probe.Launch
import Grounding.Proofs.Probe.ShownContext
import Grounding.Proofs.Probe.OpeningSettings
