import Hundi.Lib.Json
import Hundi.Lib.JsonParse
import Hundi.Lib.JsNumber
import Hundi.Lib.Table
import Hundi.Lib.EventLoop
import Hundi.Lib.ProofOutline
import Hundi.Lib.Allowance
import Hundi.Core.CanonicalJson
import Hundi.Core.Verify
import Hundi.Facilitator.Schema
import Hundi.Facilitator.StateMachine
import Hundi.Facilitator.Ledger
import Hundi.Facilitator.Settlement
import Hundi.Facilitator.Executor
import Hundi.Facilitator.Routes
import Hundi.Facilitator.Effects
import Hundi.Facilitator.Steps
import Hundi.Facilitator.Frame
import Hundi.Facilitator.Invariants
import Hundi.Facilitator.Spending
import Hundi.Facilitator.Mediation
import Hundi.Facilitator.Approval
import Hundi.Facilitator.Splitting
import Hundi.Facilitator.PaymentLink
import Hundi.Facilitator.Evidence
import Hundi.Facilitator.Interference
import Hundi.Facilitator.Charge
import Hundi.Facilitator.Failures
import Hundi.Facilitator.WriteAhead
import Hundi.Facilitator.Refund
import Hundi.Facilitator.Idempotency
import Hundi.Lib.TextDecoder
import Hundi.Lib.HashChain
import Hundi.Core.Reparse
import Hundi.Facilitator.LedgerChain
import Hundi.Facilitator.Storage
import Hundi.Facilitator.DryRun
import Hundi.Facilitator.Catalog
import Hundi.Buyer.Cart
import Hundi.Lib.Follow
import Hundi.Facilitator.Orders
import Hundi.Facilitator.Stray
import Hundi.Facilitator.Compensator
import Hundi.Facilitator.Signing
import Hundi.Facilitator.Decisions
import Hundi.Facilitator.Capture
import Hundi.Facilitator.Payments
import Hundi.Facilitator.CaptureRecord
import Hundi.Facilitator.AttemptBudget
import Hundi.Facilitator.Wallet
import Hundi.Facilitator.ApprovalExpiry
import Hundi.Facilitator.KickBudget
import Hundi.Facilitator.Proposals
import Hundi.Dashboard.Ceremony
import Hundi.Core.Budget
import Hundi.Core.CanonicalForm
import Hundi.Facilitator.LedgerAudit
import Hundi.Lib.JsText
import Hundi.Buyer.LlmClient
import Hundi.Buyer.LlmBrain
import Hundi.McpServer.RequestPurchase
import Hundi.Facilitator.CatalogSearch
import Hundi.Facilitator.LedgerHeal
import Hundi.Lib.JsValue
import Hundi.Core.Unchecked
import Hundi.Facilitator.KeyLock
import Hundi.Lib.Trace
import Hundi.McpServer.GetOrder
import Hundi.McpServer.OrderAudit
import Hundi.Cli.IpGuard
import Hundi.Core.Base64Url
import Hundi.Dashboard.CborDecoder
import Hundi.Dashboard.CborExact
import Hundi.Dashboard.PasskeySignature
import Hundi.Dashboard.Registration
import Hundi.Lib.JsMap
import Hundi.Cli.SafeFetch
import Hundi.Cli.ScannedProduct
import Hundi.Cli.ShopifyDedupe
import Hundi.Cli.PageBoundaries
import Hundi.Lib.Decimal
import Hundi.Cli.ParsedJson
import Hundi.Cli.ShopifyFeed
import Hundi.Cli.JsonLd
import Hundi.Cli.ScannedPrices
import Hundi.Cli.ShopifyScan
import Hundi.Facilitator.BrowserScan
import Hundi.Cli.ScanStore
import Hundi.Core.HexEncoding
import Hundi.Lib.JobChain
import Hundi.Lib.Rounds
import Hundi.Facilitator.Progress
import Hundi.Facilitator.Convergence
import Hundi.Facilitator.Trail
import Hundi.Facilitator.TrailSpec
import Hundi.Facilitator.LedgerRuns
import Hundi.Lib.EventSourcing
import Hundi.Facilitator.Replay
import Hundi.Facilitator.Revocation
import Hundi.Buyer.RequestPayment
import Hundi.Buyer.Brains
import Hundi.McpServer.PurchaseTool
import Hundi.Lib.TopK
import Hundi.McpServer.ListOrders
import Hundi.Facilitator.HandsFree
import Hundi.McpServer.PrepareMandate
import Hundi.Facilitator.Upsell
import Hundi.McpServer.AgentIdentity
