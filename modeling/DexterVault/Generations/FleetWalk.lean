import DexterVault.Core.Agreement
import DexterVault.Core.Transition
import DexterVault.Generations.FleetScript

/-!
# The walk of the fleet script

The script takes a census of the vault accounts, estimates what the migrations
will cost, and then walks one vault after the other: it reads the account, sends
the migration its stamp asks for, and reads the account again.  A migration that
landed without being confirmed is noticed by its stamp; any other error is
retried or ends the walk.

The chain does not wait for the script.  Between two of its steps any migration
of the vault may land, an earlier send of its own or somebody else's.
-/

namespace DexterVault.FleetWalk

open DexterVault.Machine
open DexterVault.Framing
open DexterVault.Accounts
open DexterVault.Execution
open DexterVault.Layouts
open DexterVault.Reading
open DexterVault.Hops
open DexterVault.FleetScript
open DexterVault.Migration (MigrateV5ToV6 MigrateV5ToV6WithSession
  MigrateV5ToV6WithSessionArgs)

/-! ## Constants -/

/-- `GEN_SIZE`, without the current layout. -/
def genSize : Generation → ℕ
  | .v2 => 289
  | .v3 => 305
  | .v4 => 341
  | .v5 => 399

def v6Size : ℕ := 279

def sessionAccountSize : ℕ := 162

def lamportsPerSig : ℕ := 5000

/-- The layout of a version byte from 2 to 5. -/
def generationOf (version : Byte) : Option Generation :=
  [.v2, .v3, .v4, .v5].find? fun generation => generation.stamp = version

/-! ## The census -/

inductive Cls
  | older (generation : Generation)
  | v6
  | bornBroken279
  | mismatch
  | oddball
  | nonVault
  deriving DecidableEq

/-- `versionByte` is -1 in the script where the account is too short for one. -/
structure Rec where
  data : Bytes
  size : ℕ
  lamports : ℕ
  versionByte : Option Byte
  cls : Cls
  walkable : Bool
  authority : Option Pubkey
  session : Option SessionInfo
  deriving DecidableEq

/-- `none` stands for a thrown error. -/
def classify (data : Bytes) (lamports : ℕ) : Option Rec :=
  let base (cls : Cls) : Rec := {
    data := data
    size := data.length
    lamports := lamports
    versionByte := data[8]?
    cls := cls
    walkable := false
    authority := none
    session := none }
  if data.take 8 ≠ vaultDiscriminator then
    some (base .nonVault)
  else if data.length = v6Size then
    if data[8]? = some vaultVersionV6 then do
      let p ← readPrefix data
      return { base .v6 with authority := some p.authority }
    else
      some (base .bornBroken279)
  else
    match data[8]?.bind generationOf with
    | none => some (base .oddball)
    | some generation =>
        if data.length = genSize generation then do
          let p ← readPrefix data
          let session ← readActiveSession data p.afterAuthority
          return { base (.older generation) with
            walkable := true
            authority := some p.authority
            session := some session }
        else
          some (base .mismatch)

/-- `--include-mismatch` admits two more cohorts. -/
def admitMismatch (includeMismatch : Bool) (r : Rec) : Option Rec :=
  if includeMismatch = false then
    some r
  else if r.cls = .mismatch ∧ r.versionByte = some vaultVersionV4 ∧
      r.size = 399 then do
    let p ← readPrefix r.data
    let session ← readActiveSession r.data p.afterAuthority
    return { r with
      authority := some p.authority
      session := some session
      walkable := true }
  else if r.cls = .bornBroken279 ∧ r.versionByte = some vaultVersionV4 then do
    let p ← readPrefix r.data
    if r.data[p.afterAuthority]? ≠ some 0 then
      return r
    else
      return { r with authority := some p.authority, walkable := true }
  else
    some r

/-! ## The estimate -/

structure VaultPlan where
  hops : List Generation
  lamports : ℕ
  rentDelta : ℤ
  needsSessionCarry : Bool
  deriving DecidableEq

/-- The size that a hop out of an older layout is meant to grow the account
to. -/
def grownSize : Generation → ℕ
  | .v2 => genSize .v3
  | .v3 => genSize .v4
  | _ => genSize .v5

/-- `expiresAt > BigInt(now)` for a session that was read. -/
def isLive (now : I64) (session : Option SessionInfo) : Bool :=
  session.any fun session =>
    session.some && session.expiresAt.any fun expiresAt => now < expiresAt

/-- One turn of the loop. -/
def planHop (rentMin : Rent) (now : I64) (session : Option SessionInfo)
    (plan : VaultPlan) : Generation → VaultPlan
  | .v5 =>
      let live := isLive now session
      let carry : ℤ := if live then rentMin sessionAccountSize else 0
      let refund := plan.lamports - rentMin v6Size
      { hops := plan.hops ++ [.v5]
        lamports := plan.lamports - refund
        rentDelta := plan.rentDelta + carry - refund
        needsSessionCarry := plan.needsSessionCarry || live }
  | generation =>
      let need := rentMin (grownSize generation)
      { plan with
        hops := plan.hops ++ [generation]
        lamports := max plan.lamports need
        rentDelta := plan.rentDelta + (need - plan.lamports : ℕ) }

/-- The layouts from the one of the stamp up to V5. -/
def hopsFrom (generation : Generation) : List Generation :=
  [.v2, .v3, .v4, .v5].filter fun later => generation.stamp ≤ later.stamp

def planVault (r : Rec) (rentMin : Rent) (now : I64) : VaultPlan :=
  ((r.versionByte.bind generationOf).elim [] hopsFrom).foldl
    (planHop rentMin now r.session) ⟨[], r.lamports, 0, false⟩

def VaultPlan.fees (plan : VaultPlan) (sigsPerTx : ℕ) : ℕ :=
  plan.hops.length * lamportsPerSig * sigsPerTx

/-! ## Migrations on the chain -/

/-- The instructions the script builds for a vault, without the keys of the
vault, the authority and the payer. -/
inductive MigrateIx
  | migrate (generation : Generation)
  | migrateV5ToV6WithSession (session liveCounterparty : Pubkey)
  deriving DecidableEq

/-- The layout an instruction migrates out of. -/
def MigrateIx.generation : MigrateIx → Generation
  | .migrate generation => generation
  | .migrateV5ToV6WithSession .. => .v5

/-- A transaction with one migration of the vault. -/
structure Submission where
  instruction : MigrateIx
  context : Context
  dexterAuthority : Pubkey
  payer : Pubkey
  payerLamports : ℕ

/-- The vault account, the session accounts, and what all payers together have
paid so far. -/
structure OnChain where
  data : Bytes
  lamports : ℕ
  sessionData : Pubkey → Option Bytes
  paid : ℤ

/-- `HOP_NAMES`. -/
def hopOf : Generation → Rent → Context → MigrateV5ToV6 → Funded → Result Funded
  | .v2 => migrateV2ToV3
  | .v3 => migrateV3ToV4
  | .v4 => migrateV4ToV5
  | .v5 => migrateV5ToV6

section Chain

variable (runtime : Runtime) (rent : Rent) (vaultKey : Pubkey)

/-- The chain after a migration of the vault. -/
def OnChain.settle (chain : OnChain) (submission : Submission) (after : Funded) :
    OnChain :=
  { chain with
    data := after.data
    lamports := after.lamports
    paid := chain.paid + submission.payerLamports - after.payerLamports }

/-- A transaction that fails leaves no trace. -/
def land (chain : OnChain) (submission : Submission) : Result OnChain :=
  let account : Funded :=
    ⟨chain.data, chain.lamports, submission.payerLamports⟩
  match submission.instruction with
  | .migrate generation => do
      let after ← hopOf generation rent submission.context
        ⟨vaultKey, submission.dexterAuthority, submission.payer⟩ account
      return chain.settle submission after
  | .migrateV5ToV6WithSession session liveCounterparty => do
      let (after, created) ← migrateV5ToV6WithSession runtime rent
        submission.context
        ⟨vaultKey, submission.dexterAuthority, session, submission.payer⟩
        ⟨liveCounterparty⟩ (chain.sessionData session) account
      return { chain.settle submission after with
        sessionData :=
          Function.update chain.sessionData session (some created) }

end Chain

/-! ## The loop over one vault -/

/-- The version byte as the script compares it.  In data below nine bytes it is
`undefined`, which equals no version and is neither less nor greater than one, so
the walk fails on it and an error of a send is not taken for a landed migration; a
zero has the same effect, for no layout has that stamp and none is below it. -/
def stampOf (data : Bytes) : Byte := data.getD 8 0

/-- Where the walk stands: at the top of its loop, behind a send that is neither
confirmed nor given up, behind the loop, or at its end. -/
inductive Phase
  | reading
  | sending (version : Byte) (instruction : MigrateIx) (attempt : ℕ)
  | verifying
  | verified
  | failed
  deriving DecidableEq

section Script

variable (runtime : Runtime) (vaultKey : Pubkey) (includeMismatch : Bool)

/-- The refusal of an account that has the current size and an older stamp. -/
def passesSize (data : Bytes) : Bool :=
  data.length ≠ v6Size || includeMismatch &&
    (readPrefix data).any fun p => data[p.afterAuthority]? = some 0

/-- The instruction for an account of an older layout; an address that cannot
be derived is a thrown error. -/
def instructionFor (now : I64) (data : Bytes) : Generation → Option MigrateIx
  | .v5 => do
      match ← pickHop now data with
      | .plain => return .migrate .v5
      | .withSession counterparty =>
          let (session, _) ← runtime.findProgramAddress
            (sessionSeeds vaultKey counterparty) programId
          return .migrateV5ToV6WithSession session counterparty
  | generation => some (.migrate generation)

/-- The top of the loop. -/
def look (now : I64) (data : Bytes) : Phase :=
  if stampOf data = vaultVersionV6 then
    .verifying
  else
    match generationOf (stampOf data) with
    | none => .failed
    | some generation =>
        if passesSize includeMismatch data then
          (instructionFor runtime vaultKey now data generation).elim .failed
            fun instruction => .sending (stampOf data) instruction 0
        else
          .failed

/-- What follows an error of a send: a stamp that has grown says that the
migration landed all the same. -/
def rethink (data : Bytes) (version : Byte) (instruction : MigrateIx)
    (attempt : ℕ) (transient : Bool) : Phase :=
  if version < stampOf data then
    .reading
  else if transient = false ∨ attempt = 2 then
    .failed
  else
    .sending version instruction (attempt + 1)

/-- The check after the loop. -/
def verify (data : Bytes) : Phase :=
  if stampOf data = vaultVersionV6 ∧ data.length = v6Size then
    .verified
  else
    .failed

end Script

/-! ## Script and chain together -/

structure World where
  chain : OnChain
  phase : Phase

/-- The clock of the script is the argument of `looked`.  `confirmed` is a send
that lands and is reported as landed; `thrown` is a send that ends in an error,
whether it has landed, lands later or never does. -/
inductive Event
  | landed (submission : Submission)
  | looked (now : I64)
  | confirmed (submission : Submission)
  | thrown (transient : Bool)
  | checked
  | interrupted

inductive Refusal
  | program (error : ProgramError)
  | outOfTurn

section System

variable (runtime : Runtime) (rent : Rent) (vaultKey : Pubkey)
  (includeMismatch : Bool)

def advance (world : World) : Event → Except Refusal World
  | .landed submission => do
      let chain ← (land runtime rent vaultKey world.chain submission).mapError
        .program
      return { world with chain := chain }
  | .looked now =>
      match world.phase with
      | .reading => return { world with
          phase := look runtime vaultKey includeMismatch now world.chain.data }
      | _ => throw .outOfTurn
  | .confirmed submission =>
      match world.phase with
      | .sending _ instruction _ =>
          if submission.instruction = instruction then do
            let chain ←
              (land runtime rent vaultKey world.chain submission).mapError
                .program
            return ⟨chain, .reading⟩
          else
            throw .outOfTurn
      | _ => throw .outOfTurn
  | .thrown transient =>
      match world.phase with
      | .sending version instruction attempt => return { world with
          phase := rethink world.chain.data version instruction attempt
            transient }
      | _ => throw .outOfTurn
  | .checked =>
      match world.phase with
      | .verifying => return { world with phase := verify world.chain.data }
      | _ => throw .outOfTurn
  | .interrupted =>
      match world.phase with
      | .verified | .failed => throw .outOfTurn
      | _ => return { world with phase := .failed }

/-- The walk of one vault.  No other call writes the vault meanwhile. -/
def walk : Transition.System World Event Refusal where
  step := advance runtime rent vaultKey includeMismatch
  environment _ _ := False

end System

end DexterVault.FleetWalk
