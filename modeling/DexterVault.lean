import DexterVault.Core.Machine
import DexterVault.Core.Framing
import DexterVault.Core.BitString
import DexterVault.Core.Borsh
import DexterVault.Core.Records
import DexterVault.Core.Wire
import DexterVault.Core.KeyedSum
import DexterVault.Core.Locality
import DexterVault.Core.Transition
import DexterVault.Core.Agreement
import DexterVault.Core.History
import DexterVault.Core.Occurrence
import DexterVault.Core.Odometer
import DexterVault.Core.Backing
import DexterVault.Core.Holding
import DexterVault.Core.Sha256
import DexterVault.State.Accounts
import DexterVault.State.Execution
import DexterVault.State.Layouts
import DexterVault.State.Ledger
import DexterVault.State.Terms
import DexterVault.Verify.Introspection
import DexterVault.Verify.Webauthn
import DexterVault.Instructions.Setup
import DexterVault.Instructions.Withdrawal
import DexterVault.Instructions.Session
import DexterVault.Instructions.Gate
import DexterVault.Instructions.Voucher
import DexterVault.Instructions.Claim
import DexterVault.Instructions.Credit
import DexterVault.Instructions.Migration
import DexterVault.Instructions.Operations
import DexterVault.Instructions.SwigCompat
import DexterVault.Instructions.SetSwigAtomic
import DexterVault.Instructions.Hops
import DexterVault.Instructions.Legacy
import DexterVault.Program.Step
import DexterVault.Program.Change
import DexterVault.Program.TermsChange
import DexterVault.Program.Images
import DexterVault.Program.Payment
import DexterVault.Program.Transaction
import DexterVault.Accounting.Sessions
import DexterVault.Program.Deployment
import DexterVault.Program.Addresses
import DexterVault.Program.Closing
import DexterVault.Program.Locks
import DexterVault.Program.Storage
import DexterVault.Program.Entrypoints
import DexterVault.Program.RawCalls
import DexterVault.Program.RawTransaction
import DexterVault.Program.Assertions
import DexterVault.Program.Admission
import DexterVault.Accounting.Meters
import DexterVault.Accounting.Replay
import DexterVault.Accounting.Endorsement
import DexterVault.Accounting.SessionCount
import DexterVault.Accounting.SiblingLists
import DexterVault.Accounting.Overcommit
import DexterVault.Accounting.Claims
import DexterVault.Accounting.ClaimLife
import DexterVault.Accounting.SwigBinding
import DexterVault.Accounting.Reserves
import DexterVault.Custody.Consent
import DexterVault.Custody.TabGate
import DexterVault.Custody.Grace
import DexterVault.Custody.CrossVault
import DexterVault.Custody.RootOfTrust
import DexterVault.Accounting.LockAdmission
import DexterVault.Custody.Expiry
import DexterVault.Accounting.CloseNeutral
import DexterVault.Custody.SingleUse
import DexterVault.Lending.Loan
import DexterVault.Lending.Recovery
import DexterVault.Lending.StandbyReserve
import DexterVault.Verify.Soundness
import DexterVault.Verify.ClientData
import DexterVault.Verify.Decoder
import DexterVault.Custody.ValueBinding
import DexterVault.Custody.SwigRoles
import DexterVault.Custody.Isolation
import DexterVault.Custody.SwigHolders
import DexterVault.Custody.Exit
import DexterVault.Generations.Chain
import DexterVault.Generations.Reading
import DexterVault.Generations.Tolerance
import DexterVault.Generations.LegacyImages
import DexterVault.Generations.ZeroFill
import DexterVault.Generations.FleetScript
import DexterVault.Generations.Repair
import DexterVault.Generations.FleetWalk
import DexterVault.Generations.Landing
import DexterVault.Generations.Population
import DexterVault.Generations.WalkSafety
import DexterVault.Generations.WalkEnd
import DexterVault.Generations.WalkCost
