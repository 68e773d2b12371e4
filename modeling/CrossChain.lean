import CrossChain.Account
import CrossChain.Address.Checksum
import CrossChain.Address.Hex
import CrossChain.Address.Native
import CrossChain.Alert
import CrossChain.Alert.Delivery
import CrossChain.Alert.Markdown
import CrossChain.Amount
import CrossChain.Backend
import CrossChain.Cache.Basic
import CrossChain.Cache.Eviction
import CrossChain.Cache.Flight
import CrossChain.Chain.Basic
import CrossChain.Chain.Connector
import CrossChain.Chain.Index
import CrossChain.Command.Arguments
import CrossChain.Command.Chains
import CrossChain.Command.Fee
import CrossChain.Command.Invocation
import CrossChain.Command.Query
import CrossChain.Command.Run
import CrossChain.Command.Usage
import CrossChain.Digest.Keccak
import CrossChain.Digest.Sha256
import CrossChain.Encoding.Base58
import CrossChain.Encoding.Base64
import CrossChain.Encoding.Bech32
import CrossChain.Error
import CrossChain.Export
import CrossChain.FeeTable
import CrossChain.FeeTable.Index
import CrossChain.Hub
import CrossChain.Json.Basic
import CrossChain.Json.Printer
import CrossChain.Json.Reader
import CrossChain.Json.Token
import CrossChain.Lookup
import CrossChain.Main
import CrossChain.Maker
import CrossChain.Node.Basic
import CrossChain.Node.Benfen
import CrossChain.Node.Bitcoin
import CrossChain.Node.Bitcoin.Address
import CrossChain.Node.Evm
import CrossChain.Node.Evm.Abi
import CrossChain.Node.Family
import CrossChain.Node.Fuel
import CrossChain.Node.JsonRpc
import CrossChain.Node.Session
import CrossChain.Node.Solana
import CrossChain.Node.Solana.Layout
import CrossChain.Node.Solana.Program
import CrossChain.Node.Starknet
import CrossChain.Node.Sui
import CrossChain.Node.Sui.LegacyCoin
import CrossChain.Node.Ton
import CrossChain.Node.Ton.Address
import CrossChain.Node.ZksyncLite
import CrossChain.Number.Binary64
import CrossChain.Number.Bits
import CrossChain.Number.Decimal
import CrossChain.Number.FloatNumeral
import CrossChain.Number.Integer
import CrossChain.Number.U256
import CrossChain.Proofs.Account
import CrossChain.Proofs.Address.Bitcoin
import CrossChain.Proofs.Address.Checksum
import CrossChain.Proofs.Address.Felt
import CrossChain.Proofs.Address.Hex
import CrossChain.Proofs.Address.MixedCase
import CrossChain.Proofs.Address.Sentinel
import CrossChain.Proofs.Address.Ton
import CrossChain.Proofs.Address.Ton.Checksum
import CrossChain.Proofs.Address.Ton.Edited
import CrossChain.Proofs.Alert.Markdown
import CrossChain.Proofs.Amount
import CrossChain.Proofs.Amount.Accepted
import CrossChain.Proofs.Amount.Display
import CrossChain.Proofs.Amount.Exact
import CrossChain.Proofs.Amount.Integer
import CrossChain.Proofs.Cache.Eviction
import CrossChain.Proofs.Cache.Flight
import CrossChain.Proofs.Cache.Run
import CrossChain.Proofs.Cache.Traffic
import CrossChain.Proofs.Chain.Attempt
import CrossChain.Proofs.Chain.Connector
import CrossChain.Proofs.Chain.Index
import CrossChain.Proofs.Chain.Load
import CrossChain.Proofs.Command.Fee
import CrossChain.Proofs.Command.OneAmount
import CrossChain.Proofs.Encoding.Base58
import CrossChain.Proofs.Encoding.Bech32
import CrossChain.Proofs.Except
import CrossChain.Proofs.FeeTable.Agreement
import CrossChain.Proofs.FeeTable.Index
import CrossChain.Proofs.FeeTable.LeastCovering
import CrossChain.Proofs.FeeTable.Usable
import CrossChain.Proofs.FeeTable.Views
import CrossChain.Proofs.FeeTable.Walks
import CrossChain.Proofs.Hub.Coins
import CrossChain.Proofs.Hub.Connections
import CrossChain.Proofs.Hub.Reload
import CrossChain.Proofs.Maker
import CrossChain.Proofs.Node.Batch
import CrossChain.Proofs.Node.Bitcoin.Paths
import CrossChain.Proofs.Node.CacheAside
import CrossChain.Proofs.Node.Canonical
import CrossChain.Proofs.Node.CoinBalance
import CrossChain.Proofs.Node.Context
import CrossChain.Proofs.Node.Evm.Abi
import CrossChain.Proofs.Node.Evm.Contract
import CrossChain.Proofs.Node.Family
import CrossChain.Proofs.Node.KeptTokens
import CrossChain.Proofs.Node.Metadata
import CrossChain.Proofs.Node.Pool
import CrossChain.Proofs.Node.Quantity
import CrossChain.Proofs.Node.Quiet
import CrossChain.Proofs.Node.Replies
import CrossChain.Proofs.Node.Solana.Names
import CrossChain.Proofs.Node.Solana.Search
import CrossChain.Proofs.Node.SplitBalance
import CrossChain.Proofs.Node.Trimming
import CrossChain.Proofs.Node.Usable
import CrossChain.Proofs.Node.Verdict
import CrossChain.Proofs.Number.Decimal
import CrossChain.Proofs.Number.FloatNumeral
import CrossChain.Proofs.Number.Integer
import CrossChain.Proofs.Number.Nearest
import CrossChain.Proofs.Number.Numeral
import CrossChain.Proofs.Reload
import CrossChain.Proofs.Scheduler
import CrossChain.Proofs.Session
import CrossChain.Proofs.Session.CacheAside
import CrossChain.Proofs.Store.Database
import CrossChain.Proofs.Store.WriteBack
import CrossChain.Proofs.Text.Digits
import CrossChain.Proofs.Text.LetterCase
import CrossChain.Proofs.Text.Utf8
import CrossChain.Proofs.TimeOfDay
import CrossChain.Proofs.Token.Addition
import CrossChain.Proofs.Token.Index
import CrossChain.Proofs.Token.Row
import CrossChain.Proofs.Token.Swap
import CrossChain.Reload
import CrossChain.Scheduler
import CrossChain.Settings
import CrossChain.Snapshot
import CrossChain.Store.Basic
import CrossChain.Store.Database
import CrossChain.Store.Database.Cell
import CrossChain.Store.Database.Json
import CrossChain.Store.Database.Layout
import CrossChain.Store.Database.Table
import CrossChain.Store.Memory
import CrossChain.Store.Row
import CrossChain.Terminal
import CrossChain.Terminal.Table
import CrossChain.Text.Blank
import CrossChain.Text.Digits
import CrossChain.Text.Folded
import CrossChain.Text.LetterCase
import CrossChain.Text.LetterCaseTable
import CrossChain.Text.Quoted
import CrossChain.Text.QuotedTable
import CrossChain.Text.Utf8
import CrossChain.Text.Width
import CrossChain.Text.WidthTable
import CrossChain.TimeOfDay
import CrossChain.Token.Basic
import CrossChain.Token.Cache
import CrossChain.Token.Index
import CrossChain.Token.Swap
import CrossChain.Toml.Basic
import CrossChain.Toml.Reader
import CrossChain.Toml.Scalar
import CrossChain.Transport
import CrossChain.Transport.Http
import CrossChain.Transport.Queued
import CrossChain.Transport.Scripted
import CrossChain.Transport.Url
import CrossChain.Trial.Fixture
import CrossChain.Trial.Record
