import DexterVault.State.Accounts

/-!
# The runtime around the handlers

What a handler sees of the chain: the instructions of the transaction, the
signers, the clock, program-derived addresses and the typed account loads that
the framework performs before the handler body.  Hashing and address derivation
belong to the runtime and are parameters.
-/

namespace DexterVault.Execution

open DexterVault.Machine
open DexterVault.Framing
open DexterVault.KeyedSum
open DexterVault.Accounts

/-- The system calls whose code is not part of the program. -/
structure Runtime where
  sha256 : Bytes → FixedBytes 32
  createProgramAddress : List Bytes → Pubkey → Option Pubkey

/-- Program-derived addresses are hashes of the concatenated seeds and the
program id; no two inputs share one. -/
def Runtime.CollisionFree (runtime : Runtime) : Prop :=
  ∀ left leftProgram right rightProgram address,
    runtime.createProgramAddress left leftProgram = some address →
    runtime.createProgramAddress right rightProgram = some address →
    left.flatten = right.flatten ∧ leftProgram = rightProgram

structure Instruction where
  programId : Pubkey
  data : Bytes
  deriving DecidableEq

structure AccountMeta where
  key : Pubkey
  isWritable : Bool
  deriving DecidableEq

/-- The transaction as one instruction of it sees it: the instructions sysvar,
the keys that signed, and the clock. -/
structure Context where
  instructions : List Instruction
  currentIndex : ℕ
  signers : List Pubkey
  unixTimestamp : I64
  deriving DecidableEq

/-! ## Decisions

A condition on the members of a collection is decided by going through them,
also where all values of their type could be gone through. -/

section Decisions

variable {Value : Type} {condition : Value → Prop} [DecidablePred condition]

instance (priority := 2000) decidableForallOption (value : Option Value) :
    Decidable (∀ found ∈ value, condition found) :=
  Option.decidableForallMem value

instance (priority := 2000) decidableForallList (values : List Value) :
    Decidable (∀ found ∈ values, condition found) :=
  List.decidableBAll condition values

instance (priority := 2000) decidableForallFinset (values : Finset Value) :
    Decidable (∀ found ∈ values, condition found) :=
  Finset.decidableDforallFinset

end Decisions

/-! ## Results -/

/-- Whether a computation ends with a given value. -/
instance decidableEqOk {Error Value : Type} [DecidableEq Value]
    (result : Except Error Value) (value : Value) :
    Decidable (result = .ok value) :=
  match result with
  | .ok found => decidable_of_iff (found = value) (by rw [Except.ok.injEq])
  | .error _ => .isFalse nofun

/-- `require!`. -/
def require (condition : Prop) [Decidable condition] (error : ProgramError) :
    Result Unit :=
  if condition then .ok () else .error error

/-- `ok_or`. -/
def okOr {Value : Type} (value : Option Value) (error : ProgramError) :
    Result Value :=
  match value with
  | some value => .ok value
  | none => .error error

@[simp]
theorem require_eq_ok_iff {condition : Prop} [Decidable condition]
    {error : ProgramError} {result : Unit} :
    require condition error = .ok result ↔ condition := by
  unfold require
  split <;> simp_all

@[simp]
theorem okOr_eq_ok_iff {Value : Type} {value : Option Value}
    {error : ProgramError} {result : Value} :
    okOr value error = .ok result ↔ value = some result := by
  cases value <;> simp [okOr]

/-- A computation that starts with a check succeeds by passing it and going
on. -/
@[simp]
theorem bind_eq_ok_iff {Value Output : Type} {first : Result Value}
    {next : Value → Result Output} {result : Output} :
    (first >>= next) = .ok result ↔
      ∃ value, first = .ok value ∧ next value = .ok result := by
  cases first with
  | error error => simp [Bind.bind, Except.bind]
  | ok value => simp [Bind.bind, Except.bind]

@[simp]
theorem pure_eq_ok_iff {Value : Type} {value result : Value} :
    (pure value : Result Value) = .ok result ↔ value = result := by
  simp [pure, Except.pure]

/-! ## Which errors a computation can raise -/

def Raises {Value : Type} (result : Result Value)
    (errors : ProgramError → Prop) : Prop :=
  ∀ error, result = .error error → errors error

section Raises

variable {Value Output : Type} {errors : ProgramError → Prop}

@[simp]
theorem raises_require_iff {condition : Prop} [Decidable condition]
    {error : ProgramError} :
    Raises (require condition error) errors ↔ condition ∨ errors error := by
  unfold Raises require
  split <;> simp_all

@[simp]
theorem raises_okOr_iff {value : Option Value} {error : ProgramError} :
    Raises (okOr value error) errors ↔ (value = none → errors error) := by
  cases value <;> simp [Raises, okOr]

@[simp]
theorem raises_pure (value : Value) : Raises (pure value) errors := by
  simp [Raises, pure, Except.pure]

theorem raises_bind_iff {first : Result Value} {next : Value → Result Output} :
    Raises (first >>= next) errors ↔
      Raises first errors ∧
        ∀ value, first = .ok value → Raises (next value) errors := by
  cases first with
  | error error => simp [Raises, Bind.bind, Except.bind]
  | ok value => simp [Raises, Bind.bind, Except.bind]

/-- A computation that starts with a check raises what the check raises or,
the check passed, what the rest raises. -/
theorem Raises.bind {first : Result Value} {next : Value → Result Output}
    (hfirst : Raises first errors)
    (hnext : ∀ value, first = .ok value → Raises (next value) errors) :
    Raises (first >>= next) errors :=
  raises_bind_iff.mpr ⟨hfirst, hnext⟩

theorem Raises.mono {weaker : ProgramError → Prop} {result : Result Value}
    (hraises : Raises result errors)
    (hweaker : ∀ error, errors error → weaker error) : Raises result weaker :=
  fun error herror => hweaker error (hraises error herror)

end Raises

/-! ## Typed loads -/

/-- `Account<T>`: the account exists and its discriminator is the one of the
type that is read. -/
def load {Data : Type} (read : Account → Option Data) (state : State)
    (key : Pubkey) : Result Data :=
  match state.accounts.lookup key with
  | none => .error RuntimeError.accountNotInitialized
  | some account => okOr (read account) RuntimeError.accountDiscriminatorMismatch

@[simp]
theorem load_eq_ok_iff {Data : Type} {read : Account → Option Data}
    {state : State} {key : Pubkey} {data : Data} :
    load read state key = .ok data ↔ state.view read key = some data := by
  unfold load State.view
  cases state.accounts.lookup key <;> simp

def loadVault (state : State) (key : Pubkey) : Result Vault :=
  load Account.vault? state key

def loadSession (state : State) (key : Pubkey) : Result SessionAccount :=
  load Account.session? state key

def loadClaim (state : State) (key : Pubkey) : Result LockedClaim :=
  load Account.claim? state key

def loadStandbyBacker (state : State) (key : Pubkey) : Result StandbyBacker :=
  load Account.standbyBacker? state key

def loadTokenAccount (state : State) (key : Pubkey) : Result TokenAccount :=
  okOr (state.tokens.lookup key) RuntimeError.accountNotInitialized

/-- `init`: the address must be vacant. -/
def requireVacant (state : State) (key : Pubkey) : Result Unit :=
  require (state.accounts.lookup key = none) RuntimeError.accountAlreadyInUse

/-- `init_if_needed`: a vacant address gives the runtime-zeroed account. -/
def loadOrInit {Data : Type} (read : Account → Option Data) (zeroed : Data)
    (state : State) (key : Pubkey) : Result Data :=
  if state.accounts.lookup key = none then .ok zeroed else load read state key

theorem loadOrInit_eq_ok_iff {Data : Type} {read : Account → Option Data}
    {zeroed : Data} {state : State} {key : Pubkey} {data : Data} :
    loadOrInit read zeroed state key = .ok data ↔
      (state.accounts.lookup key = none ∧ data = zeroed) ∨
        state.view read key = some data := by
  unfold loadOrInit
  split
  · next hvacant =>
      rw [State.view_of_lookup_none hvacant]
      simp [hvacant, eq_comm]
  · next hfound => simp [hfound]

/-! ## Signers and addresses -/

def requireSigner (context : Context) (key : Pubkey) : Result Unit :=
  require (key ∈ context.signers) RuntimeError.constraintSigner

/-- `address = ...`. -/
def requireAddress (key expected : Pubkey) : Result Unit :=
  require (key = expected) RuntimeError.constraintAddress

/-- The first bump, counting down, for which `create` gives an address. -/
def firstBump (create : U8 → Option Pubkey) : ℕ → Option (Pubkey × U8)
  | 0 => none
  | bump + 1 =>
      match create (Fin.ofNat 256 (bump + 1)) with
      | some address => some (address, Fin.ofNat 256 (bump + 1))
      | none => firstBump create bump

/-- `Pubkey::find_program_address`: the canonical bump is the greatest that
gives an address. -/
def Runtime.findProgramAddress (runtime : Runtime) (seeds : List Bytes)
    (program : Pubkey) : Option (Pubkey × U8) :=
  firstBump
    (fun bump => runtime.createProgramAddress (seeds ++ [encodeU8 bump]) program)
    255

theorem firstBump_eq_some {create : U8 → Option Pubkey} {start : ℕ}
    {address : Pubkey} {bump : U8}
    (hfound : firstBump create start = some (address, bump)) :
    create bump = some address := by
  induction start with
  | zero => simp [firstBump] at hfound
  | succ start ih =>
      unfold firstBump at hfound
      split at hfound
      · next hcreate =>
          cases hfound
          exact hcreate
      · exact ih hfound

/-- A canonical address is the one its bump creates. -/
theorem Runtime.create_of_find {runtime : Runtime} {seeds : List Bytes}
    {program address : Pubkey} {bump : U8}
    (hfind : runtime.findProgramAddress seeds program = some (address, bump)) :
    runtime.createProgramAddress (seeds ++ [encodeU8 bump]) program =
      some address :=
  firstBump_eq_some hfind

/-- `seeds = ..., bump`: the key is the canonical address; the result is its
bump. -/
def requireCanonical (runtime : Runtime) (seeds : List Bytes)
    (program key : Pubkey) : Result U8 := do
  let found ← okOr (runtime.findProgramAddress seeds program)
    RuntimeError.constraintSeeds
  require (found.1 = key) RuntimeError.constraintSeeds
  return found.2

@[simp]
theorem requireCanonical_eq_ok_iff {runtime : Runtime} {seeds : List Bytes}
    {program key : Pubkey} {bump : U8} :
    requireCanonical runtime seeds program key = .ok bump ↔
      runtime.findProgramAddress seeds program = some (key, bump) := by
  simp only [requireCanonical, bind_eq_ok_iff, okOr_eq_ok_iff,
    require_eq_ok_iff, pure_eq_ok_iff]
  constructor
  · rintro ⟨⟨address, bump⟩, hfind, _, rfl, rfl⟩
    exact hfind
  · intro hfind
    exact ⟨(key, bump), hfind, (), rfl, rfl⟩

/-- `seeds = ..., bump = stored`: the key is the address the stored bump
creates. -/
def requireDerived (runtime : Runtime) (seeds : List Bytes) (bump : U8)
    (program key : Pubkey) : Result Unit :=
  require
    (runtime.createProgramAddress (seeds ++ [encodeU8 bump]) program = some key)
    RuntimeError.constraintSeeds

section RuntimeErrors

variable {state : State} {key : Pubkey}

/-- The failure of the framework or of the runtime around a handler. -/
def IsRuntimeError (error : ProgramError) : Prop :=
  ∃ failure : RuntimeError, error = failure

theorem isRuntimeError (failure : RuntimeError) :
    IsRuntimeError (failure : ProgramError) := ⟨failure, rfl⟩

theorem raises_load {Data : Type} (read : Account → Option Data) :
    Raises (load read state key) IsRuntimeError := by
  unfold load
  split
  · rintro _ ⟨⟩
    exact isRuntimeError _
  · exact raises_okOr_iff.mpr fun _ => isRuntimeError _

theorem raises_loadOrInit {Data : Type} (read : Account → Option Data)
    (zeroed : Data) :
    Raises (loadOrInit read zeroed state key) IsRuntimeError := by
  unfold loadOrInit
  split
  · rintro _ ⟨⟩
  · exact raises_load read

theorem raises_requireCanonical (runtime : Runtime) (seeds : List Bytes)
    (program : Pubkey) :
    Raises (requireCanonical runtime seeds program key) IsRuntimeError := by
  refine Raises.bind (raises_okOr_iff.mpr fun _ => isRuntimeError _) fun _ _ => ?_
  refine Raises.bind (raises_require_iff.mpr (.inr (isRuntimeError _))) fun _ _ => ?_
  exact raises_pure _

end RuntimeErrors

/-! ## The addresses of the program -/

def sessionSeeds (vault counterparty : Pubkey) : List Bytes :=
  [sessionSeed, vault.toList, counterparty.toList]

def claimSeeds (vault : Pubkey) (voucherHash : FixedBytes 32) : List Bytes :=
  [lockedClaimSeed, vault.toList, voucherHash.toList]

def standbyBackerSeeds (financierSwig : Pubkey) : List Bytes :=
  [standbyBackerSeed, financierSwig.toList]

def swigWalletSeeds (swig : Pubkey) : List Bytes :=
  [swigWalletAddressSeed, swig.toList]

def requireSwigWallet (runtime : Runtime) (swig wallet : Pubkey) : Result U8 :=
  requireCanonical runtime (swigWalletSeeds swig) swigProgramId wallet

/-- The address a session account has for its vault and counterparty. -/
def SessionAddress (runtime : Runtime) (vault counterparty : Pubkey) (bump : U8)
    (key : Pubkey) : Prop :=
  runtime.createProgramAddress
    (sessionSeeds vault counterparty ++ [encodeU8 bump]) programId = some key

instance (runtime : Runtime) (vault counterparty : Pubkey) (bump : U8)
    (key : Pubkey) :
    Decidable (SessionAddress runtime vault counterparty bump key) :=
  inferInstanceAs (Decidable (_ = _))

/-- A session address determines the vault, the counterparty and the bump it
was derived from. -/
theorem SessionAddress.unique {runtime : Runtime}
    (hfree : runtime.CollisionFree) {vault vault' counterparty counterparty' : Pubkey}
    {bump bump' : U8} {key : Pubkey}
    (hleft : SessionAddress runtime vault counterparty bump key)
    (hright : SessionAddress runtime vault' counterparty' bump' key) :
    vault = vault' ∧ counterparty = counterparty' ∧ bump = bump' := by
  have hseeds := (hfree _ _ _ _ _ hleft hright).1
  simp only [sessionSeeds, List.flatten_append, List.flatten_cons,
    List.flatten_nil, List.append_nil, List.append_assoc,
    List.append_cancel_left_eq] at hseeds
  obtain ⟨hvault, hrest⟩ := List.append_inj hseeds (by simp)
  obtain ⟨hcounterparty, hbump⟩ := List.append_inj hrest (by simp)
  simp only [encodeU8, List.cons.injEq, and_true] at hbump
  exact ⟨FixedBytes.toList_injective hvault,
    FixedBytes.toList_injective hcounterparty, hbump⟩

/-- The associated token account of the wallet of a swig, for the USDC mint. -/
def usdcAta (runtime : Runtime) (swig : Pubkey) : Option Pubkey := do
  let wallet ← runtime.findProgramAddress (swigWalletSeeds swig) swigProgramId
  let ata ← runtime.findProgramAddress
    [wallet.1.toList, tokenProgramId.toList, usdcMainnet.toList]
    associatedTokenProgramId
  return ata.1

/-- A canonical address determines its seeds and its bump. -/
theorem findProgramAddress_injective {runtime : Runtime}
    (hfree : runtime.CollisionFree) {seeds seeds' : List Bytes}
    {program program' address : Pubkey} {bump bump' : U8}
    (hleft : runtime.findProgramAddress seeds program = some (address, bump))
    (hright : runtime.findProgramAddress seeds' program' =
      some (address, bump')) :
    seeds.flatten ++ encodeU8 bump = seeds'.flatten ++ encodeU8 bump' := by
  have hsame := (hfree _ _ _ _ _ (Runtime.create_of_find hleft)
    (Runtime.create_of_find hright)).1
  simpa [List.flatten_append] using hsame

def tokenBalance (state : State) (key : Pubkey) : ℕ :=
  (state.tokens.lookup key).elim 0 fun account => account.amount.val

/-- The USDC that the wallet of a swig holds. -/
def usdcBalance (runtime : Runtime) (state : State) (swig : Pubkey) : ℕ :=
  (usdcAta runtime swig).elim 0 (tokenBalance state)

end DexterVault.Execution
