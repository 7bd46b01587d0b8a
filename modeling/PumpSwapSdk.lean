import PumpSwapSdk.Foundation.MachineWord
import PumpSwapSdk.Foundation.ConstantProduct
import PumpSwapSdk.Foundation.Exchange
import PumpSwapSdk.Foundation.Rounding
import PumpSwapSdk.Foundation.Binary64
import PumpSwapSdk.Foundation.LittleEndian
import PumpSwapSdk.Foundation.ByteFormat
import PumpSwapSdk.Foundation.StaleRead
import PumpSwapSdk.Foundation.SplitCharge
import PumpSwapSdk.Foundation.TokenLedger
import PumpSwapSdk.Foundation.AccountBank
import PumpSwapSdk.Foundation.Retry
import PumpSwapSdk.Foundation.Reservation
import PumpSwapSdk.Foundation.Message
import PumpSwapSdk.Basic
import PumpSwapSdk.Constants
import PumpSwapSdk.State.Reader
import PumpSwapSdk.State.Fees
import PumpSwapSdk.State.Pool
import PumpSwapSdk.State.Accounts
import PumpSwapSdk.State.Format
import PumpSwapSdk.State.Disjoint
import PumpSwapSdk.State.Truncation
import PumpSwapSdk.State.Shareholders
import PumpSwapSdk.Math
import PumpSwapSdk.Pricing.Exact
import PumpSwapSdk.Pricing.NoArbitrage
import PumpSwapSdk.Pricing.BuyAgreement
import PumpSwapSdk.Pricing.ExactOutput
import PumpSwapSdk.Pricing.FeeRounding
import PumpSwapSdk.Pricing.FixedWidth
import PumpSwapSdk.Pricing.SplitSale
import PumpSwapSdk.Util
import PumpSwapSdk.State.Accessors
import PumpSwapSdk.Pricing.Monotonicity
import PumpSwapSdk.Derivations
import PumpSwapSdk.Instruction
import PumpSwapSdk.Client.Rpc
import PumpSwapSdk.Client.FeeSelection
import PumpSwapSdk.Client.Swap
import PumpSwapSdk.Client.SwapAccounts
import PumpSwapSdk.Client.Funding
import PumpSwapSdk.Client.SellClose
import PumpSwapSdk.Client.Liquidity
import PumpSwapSdk.Client.Payout
import PumpSwapSdk.Client.Incentives
import PumpSwapSdk.Client.Transaction
import PumpSwapSdk.Client.LiquidityAccounts
import PumpSwapSdk.Client.FeeMove
import PumpSwapSdk.Client.PayoutStream
import PumpSwapSdk.Client.PayoutList
import PumpSwapSdk.Client.SweepRace
import PumpSwapSdk.Client.Staleness
import PumpSwapSdk.Client.IdentityFactor
import PumpSwapSdk.Jito
import PumpSwapSdk.Jito.Retries
import PumpSwapSdk.Jito.Reservations
import PumpSwapSdk.Client.PayoutSize
import PumpSwapSdk.Client.SwapSize
import PumpSwapSdk.Client.UserBank
import PumpSwapSdk.Client.BankSteps
import PumpSwapSdk.Client.SwapLedger
import PumpSwapSdk.Client.Settlement
import PumpSwapSdk.Client.SwapTrade
import PumpSwapSdk.Client.SwapRun
import PumpSwapSdk.Client.SwapSeries
