import DexterVault.Instructions.SwigCompat

/-!
# set_swig_atomic with its calls into the Swig program

`Setup.setSwigAtomic` takes the outcome of the four calls as a flag.  Here the
handler makes them: it builds the instructions, invokes the Swig program on one
after the other, and goes on to the passkey and to the vault.  The Swig program
is a parameter, a partial function on the accounts outside the program.
-/

namespace DexterVault.SwigCalls

open DexterVault.Machine
open DexterVault.Framing
open DexterVault.Accounts
open DexterVault.Execution
open DexterVault.Webauthn
open DexterVault.SwigCompat

/-! ## Constants -/

def systemProgramId : Pubkey := FixedBytes.zero

def swigMarkerFinalizeWithdrawal : Bytes :=
  [178, 87, 206, 68, 201, 186, 164, 232]

def swigMarkerSettleTab : Bytes := [173, 22, 98, 31, 110, 129, 59, 161]

/-- Thirty days. -/
def defaultSessionTtlSeconds : U64 := 2592000

def defaultSpendLimitAtomic : U64 := 1000000000

def actingAuthorityAccountIndex : U8 := 3

/-! ## The calls -/

/-- `solana_program::instruction`. -/
structure CpiMeta where
  key : Pubkey
  isSigner : Bool
  isWritable : Bool
  deriving DecidableEq

structure CpiInstruction where
  programId : Pubkey
  accounts : List CpiMeta
  data : Bytes
  deriving DecidableEq

structure SetSwigAtomic where
  vault : Pubkey
  feePayer : Pubkey
  swigAccount : Pubkey
  swigWalletAddress : Pubkey
  deriving DecidableEq

structure SetSwigAtomicArgs extends Assertion where
  swigId : FixedBytes 32
  swigAccountBump : U8
  swigWalletAddressBump : U8
  dexterMasterPubkey : Pubkey
  deriving DecidableEq

section Calls

variable (accounts : SetSwigAtomic) (args : SetSwigAtomicArgs)

def createMetas : List CpiMeta :=
  [⟨accounts.swigAccount, false, true⟩, ⟨accounts.feePayer, true, true⟩,
    ⟨accounts.swigWalletAddress, false, true⟩, ⟨systemProgramId, false, false⟩]

/-- The fee payer stands twice: it pays, and it acts under role 0. -/
def addMetas : List CpiMeta :=
  [⟨accounts.swigAccount, false, true⟩, ⟨accounts.feePayer, true, true⟩,
    ⟨systemProgramId, false, false⟩, ⟨accounts.feePayer, true, false⟩]

/-- The swig with role 0. -/
def createMessage : SwigMessage :=
  .createV1 args.swigId args.swigAccountBump args.swigWalletAddressBump
    (.ed25519 accounts.feePayer) [.manageAuthority]

def role1Message : SwigMessage :=
  .addAuthorityV1 0 (.programExec programId swigMarkerFinalizeWithdrawal) [.all]
    actingAuthorityAccountIndex

def role2Message : SwigMessage :=
  .addAuthorityV1 0
    (.ed25519Session args.dexterMasterPubkey FixedBytes.zero
      defaultSessionTtlSeconds)
    [.tokenLimit usdcMainnet defaultSpendLimitAtomic, .programAll]
    actingAuthorityAccountIndex

def role3Message : SwigMessage :=
  .addAuthorityV1 0 (.programExec programId swigMarkerSettleTab) [.all]
    actingAuthorityAccountIndex

/-- What the Swig program is asked for, in order. -/
def messages : List (List CpiMeta × SwigMessage) :=
  [(createMetas accounts, createMessage accounts args),
    (addMetas accounts, role1Message), (addMetas accounts, role2Message args),
    (addMetas accounts, role3Message)]

end Calls

section Handler

variable {World : Type} (invoke : World → CpiInstruction → Option World)
  (swig : SwigState)

/-- An instruction is built and invoked; whatever goes wrong there is one
error. -/
def callSwig (accounts : List CpiMeta) (message : SwigMessage) (world : World) :
    Result World := do
  let data ← message.build swig
  okOr (invoke world ⟨swigProgramId, accounts, data⟩)
    VaultError.passkeyVerificationFailed

def handler (runtime : Runtime) (context : Context) (accounts : SetSwigAtomic)
    (args : SetSwigAtomicArgs) (state : State) (world : World) :
    Result (State × World) := do
  let vault ← loadVault state accounts.vault
  requireSigner context accounts.feePayer
  Setup.requireSupportedVersion vault
  require (vault.swigAddress = defaultPubkey)
    VaultError.passkeyVerificationFailed
  let world ← callSwig invoke swig (createMetas accounts)
    (createMessage accounts args) world
  let world ← callSwig invoke swig (addMetas accounts) role1Message world
  let world ← callSwig invoke swig (addMetas accounts) (role2Message args) world
  let world ← callSwig invoke swig (addMetas accounts) role3Message world
  verifyPasskeySigned runtime context vault.passkeyPubkey args.clientDataJson
    args.authenticatorData (Setup.setSwigMessage accounts.swigAccount)
  let bound := state.write accounts.vault
    (.vault { vault with swigAddress := accounts.swigAccount })
  return (bound, world)

end Handler

/-! ## What the Swig program receives -/

/-- The instruction goes to the Swig program with the accounts and reads as
the message. -/
structure Carries (swig : SwigState) (request : List CpiMeta × SwigMessage)
    (instruction : CpiInstruction) : Prop where
  programId : instruction.programId = swigProgramId
  accounts : instruction.accounts = request.1
  reads : SwigMessage.read swig instruction.data = some request.2

section Correctness

variable {swig : SwigState}

theorem actionsSize_le (actions : List ClientActionCompat) :
    actionsSize swig actions ≤ actions.length * 2 ^ 11 := by
  induction actions with
  | nil => exact Nat.le_refl 0
  | cons action actions ih =>
      have hbody := swig.length_intoBytes action
      have hsize : actionsSize swig (action :: actions) =
          8 + (swig.intoBytes action).length + actionsSize swig actions := rfl
      rw [hsize, List.length_cons]
      omega

theorem messages_fit (swig : SwigState) (accounts : SetSwigAtomic)
    (args : SetSwigAtomicArgs) :
    ∀ request ∈ messages accounts args, request.2.Fits swig := by
  have hone : ∀ action, actionsSize swig [action] < 2 ^ 16 := fun action =>
    Nat.lt_of_le_of_lt (actionsSize_le [action]) (by simp)
  have htwo : ∀ first second, actionsSize swig [first, second] < 2 ^ 16 :=
    fun first second =>
      Nat.lt_of_le_of_lt (actionsSize_le [first, second]) (by simp)
  have hmarker : ∀ marker : Bytes, marker.length = 8 →
      (Authority.programExec programId marker).Fits := by
    intro marker hlength
    show marker.length ≤ 40
    omega
  intro request hmem
  simp only [messages, List.mem_cons, List.not_mem_nil, or_false] at hmem
  rcases hmem with rfl | rfl | rfl | rfl
  · exact ⟨trivial, hone _⟩
  · exact ⟨hmarker _ rfl, hone _, Nat.succ_lt_succ (Nat.zero_lt_succ _)⟩
  · exact ⟨trivial, htwo _ _, by decide⟩
  · exact ⟨hmarker _ rfl, hone _, by decide⟩

/-- A call is the invocation of one instruction, which carries the message. -/
theorem callSwig_carries (metas : List CpiMeta) {message : SwigMessage}
    (hfits : message.Fits swig) :
    ∃ instruction, Carries swig (metas, message) instruction ∧
      ∀ {World : Type} (invoke : World → CpiInstruction → Option World) world,
        callSwig invoke swig metas message world =
          okOr (invoke world instruction) VaultError.passkeyVerificationFailed := by
  obtain ⟨data, hbuild, hread⟩ : ∃ data, message.build swig = .ok data ∧
      SwigMessage.read swig data = some message := by
    cases message with
    | createV1 => exact createV1_reads hfits
    | addAuthorityV1 => exact addAuthorityV1_reads hfits
  refine ⟨⟨swigProgramId, metas, data⟩, ⟨rfl, rfl, hread⟩, ?_⟩
  intro World invoke world
  rw [callSwig, hbuild]
  rfl

/-- Four instructions, the same in every state and for every Swig program, say
what is asked for; the handler succeeds where the Swig program accepts them in
order and the vault can be bound, and leaves behind what the two have made of
it. -/
theorem handler_ok_iff (swig : SwigState) (runtime : Runtime) (context : Context)
    (accounts : SetSwigAtomic) (args : SetSwigAtomicArgs) :
    ∃ instructions,
      List.Forall₂ (Carries swig) (messages accounts args) instructions ∧
        ∀ {World : Type} (invoke : World → CpiInstruction → Option World) state
            next world after,
          handler invoke swig runtime context accounts args state world =
              .ok (next, after) ↔
            instructions.foldlM invoke world = some after ∧
              Setup.setSwigAtomic runtime context
                ⟨accounts.vault, accounts.feePayer, accounts.swigAccount⟩
                { args with swigCreated := true } state = .ok next := by
  have hfit := messages_fit swig accounts args
  simp only [messages, List.forall_mem_cons] at hfit
  obtain ⟨hcreate, hrole1, hrole2, hrole3, -⟩ := hfit
  obtain ⟨create, hreads, hcall⟩ :=
    callSwig_carries (createMetas accounts) hcreate
  obtain ⟨role1, hreads1, hcall1⟩ := callSwig_carries (addMetas accounts) hrole1
  obtain ⟨role2, hreads2, hcall2⟩ := callSwig_carries (addMetas accounts) hrole2
  obtain ⟨role3, hreads3, hcall3⟩ := callSwig_carries (addMetas accounts) hrole3
  refine ⟨[create, role1, role2, role3],
    .cons hreads (.cons hreads1 (.cons hreads2 (.cons hreads3 .nil))), ?_⟩
  intro World invoke state next world after
  simp only [handler, Setup.setSwigAtomic, hcall, hcall1, hcall2, hcall3,
    bind_eq_ok_iff, okOr_eq_ok_iff, pure_eq_ok_iff, require_eq_ok_iff,
    List.foldlM_cons, List.foldlM_nil, Option.bind_eq_bind, Option.bind_eq_some_iff,
    Option.pure_def, Option.some.injEq, Prod.mk.injEq]
  constructor
  · rintro ⟨vault, hvault, _, hsigner, _, hversion, _, hdefault, _, hinvoke, _,
      hinvoke1, _, hinvoke2, _, hinvoke3, _, hsigned, rfl, rfl⟩
    exact ⟨⟨_, hinvoke, _, hinvoke1, _, hinvoke2, _, hinvoke3, rfl⟩,
      vault, hvault, _, hsigner, _, hversion, (), hdefault, (), trivial, _,
      hsigned, rfl⟩
  · rintro ⟨⟨_, hinvoke, _, hinvoke1, _, hinvoke2, _, hinvoke3, rfl⟩,
      vault, hvault, _, hsigner, _, hversion, _, hdefault, -, -, _, hsigned, rfl⟩
    exact ⟨vault, hvault, _, hsigner, _, hversion, (), hdefault, _, hinvoke, _,
      hinvoke1, _, hinvoke2, _, hinvoke3, _, hsigned, rfl, rfl⟩

end Correctness

end DexterVault.SwigCalls
