import PeerLending.Word
import PeerLending.Word.Text
import PeerLending.Text.Ranges
import PeerLending.Text.GraphemeExtend
import PeerLending.Text.Printable
import PeerLending.Text.Quoted
import PeerLending.Text.ZeroWidth
import PeerLending.Text.EastAsianWidth
import PeerLending.Text.Emoji
import PeerLending.Text.Joining
import PeerLending.Word.Signed
import PeerLending.FixedPoint
import PeerLending.Interest
import PeerLending.Decimal
import PeerLending.Decimal.OfWord
import PeerLending.Decimal.Format
import PeerLending.Json
import PeerLending.Double
import PeerLending.Double.Shortest
import PeerLending.Json.Number
import PeerLending.Json.Parse
import PeerLending.Json.Decode
import PeerLending.Keccak
import PeerLending.Address
import PeerLending.Address.Hex
import PeerLending.Json.Shape
import PeerLending.AddrMap
import PeerLending.Market.State
import PeerLending.Index.Pool
import PeerLending.Index.PeerToPeer
import PeerLending.Market.Accrue
import PeerLending.Snapshot
import PeerLending.Market.View
import PeerLending.Operation
import PeerLending.QueryError
import PeerLending.User.View
import PeerLending.Snapshot.Views
import PeerLending.Json.Snapshot
import PeerLending.Json.Views
import PeerLending.Capacity
import PeerLending.Simulation.Step
import PeerLending.Simulation
import PeerLending.Json.Outcome
import PeerLending.Provider
import PeerLending.Session
import PeerLending.Json.Session
import PeerLending.Json.Load
import PeerLending.Cli.Args
import PeerLending.Cli.Command
import PeerLending.Text.Width
import PeerLending.Cli.Render
import PeerLending.Cli.Run
import PeerLending.Main
import PeerLending.Proofs.Arith
import PeerLending.Proofs.Step
import PeerLending.Proofs.Outcome
import PeerLending.Proofs.Run
import PeerLending.Proofs.Capacity
import PeerLending.Proofs.Rounding
import PeerLending.Proofs.Conservation
import PeerLending.Proofs.Prefix
import PeerLending.Proofs.Freshness
import PeerLending.Proofs.Frame
import PeerLending.Proofs.Twin
import PeerLending.Proofs.Effect
import PeerLending.Proofs.Commute
import PeerLending.Proofs.Consistency
import PeerLending.Proofs.Exit
import PeerLending.Proofs.Interest
import PeerLending.Proofs.Accrual
import PeerLending.Proofs.Health
import PeerLending.Proofs.Headroom
import PeerLending.Proofs.Spread
import PeerLending.Proofs.Limiter
import PeerLending.Proofs.CommandLine
import PeerLending.Proofs.NetApy
import PeerLending.Proofs.Serving
import PeerLending.Proofs.Quotients
import PeerLending.Proofs.Shares
import PeerLending.Proofs.DecimalDisplay
