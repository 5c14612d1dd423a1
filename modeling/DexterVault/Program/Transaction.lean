import DexterVault.Program.Payment

/-!
# Transactions with the Swig transfer

The submitter assembles a transaction: calls of the program, Swig's `SignV2`
instructions that ride on the preceding call, and instructions of any other
program.  `SignV2` performs a token transfer out of the wallet of a swig when
the preceding instruction belongs to the vault program, starts with a
discriminator registered on the swig and names `[swig, swig_wallet]` as its
first two accounts.  The transfer itself is the submitter's own argument.
-/

namespace DexterVault.Transactions

open DexterVault.Machine
open DexterVault.Framing
open DexterVault.KeyedSum
open DexterVault.Accounts
open DexterVault.Execution
open DexterVault.Credit
open DexterVault.Program

/-! ## Token transfers -/

/-- The accounts and the amount of an SPL `TransferChecked`. -/
structure Transfer where
  source : Pubkey
  mint : Pubkey
  destination : Pubkey
  amount : U64
  deriving DecidableEq

inductive TransferError
  | invalidAccount
  | mintMismatch
  | ownerMismatch
  | insufficientFunds
  | overflow
  deriving DecidableEq

/-- A transfer under the signature of `authority`.  A transfer from an account to
itself changes nothing. -/
def transferChecked (authority : Pubkey) (transfer : Transfer) (state : State) :
    Except TransferError State :=
  match state.tokens.lookup transfer.source,
    state.tokens.lookup transfer.destination with
  | some source, some destination =>
      if source.mint ≠ transfer.mint ∨ destination.mint ≠ transfer.mint then
        .error .mintMismatch
      else if source.owner ≠ authority then
        .error .ownerMismatch
      else
        match checkedSub source.amount transfer.amount with
        | none => .error .insufficientFunds
        | some left =>
            if transfer.source = transfer.destination then
              .ok state
            else
              match checkedAdd destination.amount transfer.amount with
              | none => .error .overflow
              | some received => .ok { state with
                  tokens := (state.tokens.insert transfer.source
                    { source with amount := left }).insert transfer.destination
                    { destination with amount := received } }
  | _, _ => .error .invalidAccount

/-- The account at `key` belongs to `party`: it is owned by it, or is the account
that `party` itself names. -/
def Belongs (state : State) (key party : Pubkey) : Prop :=
  key = party ∨ ∃ account ∈ state.tokens.lookup key, account.owner = party

instance (state : State) (key party : Pubkey) :
    Decidable (Belongs state key party) :=
  inferInstanceAs (Decidable (_ ∨ _))

/-- The USDC that `party` holds at `key`. -/
def usdcOf (party : Pubkey) (state : State) (key : Pubkey) : ℕ :=
  (state.tokens.lookup key).elim 0 fun account =>
    if account.mint = usdcMainnet ∧ (key = party ∨ account.owner = party) then
      account.amount.val
    else 0

/-- The USDC that left the accounts of `party` from one state to the other. -/
def paidOut (party : Pubkey) (before after : State) : ℕ :=
  ∑ key ∈ before.tokens.keys, (usdcOf party before key - usdcOf party after key)

/-- The USDC that reached them. -/
def paidIn (party : Pubkey) (before after : State) : ℕ :=
  paidOut party after before

/-- The USDC that a transfer moves. -/
def Transfer.usdc (transfer : Transfer) : ℕ :=
  if transfer.mint = usdcMainnet ∧ transfer.source ≠ transfer.destination then
    transfer.amount.val
  else 0

section Transfers

variable {authority party key : Pubkey} {transfer : Transfer}
  {before after : State}

/-- Outside one account nothing decreases, so that account's decrease is all
that left. -/
theorem paidOut_eq_of_one
    (hothers : ∀ other ≠ key, usdcOf party before other ≤ usdcOf party after other) :
    paidOut party before after =
      usdcOf party before key - usdcOf party after key := by
  by_cases hkey : key ∈ before.tokens.keys
  · apply Finset.sum_eq_single_of_mem key hkey
    intro other _ hother
    exact Nat.sub_eq_zero_of_le (hothers other hother)
  · have hvacant : before.tokens.lookup key = none :=
      Finmap.lookup_eq_none.mpr fun hmem => hkey (Finmap.mem_keys.mpr hmem)
    have hzero : usdcOf party before key = 0 := by
      rw [usdcOf, hvacant, Option.elim_none]
    rw [hzero, Nat.zero_sub]
    apply Finset.sum_eq_zero
    intro other hother
    have hne : other ≠ key := fun hsame => hkey (hsame ▸ hother)
    exact Nat.sub_eq_zero_of_le (hothers other hne)

theorem paidOut_self (party : Pubkey) (state : State) :
    paidOut party state state = 0 :=
  Finset.sum_eq_zero fun key _ => Nat.sub_self (usdcOf party state key)

/-- What an executed transfer has found and written. -/
structure Transferred (authority : Pubkey) (transfer : Transfer)
    (before after : State) (source destination : TokenAccount) : Prop where
  sourceAt : before.tokens.lookup transfer.source = some source
  destinationAt : before.tokens.lookup transfer.destination = some destination
  sourceMint : source.mint = transfer.mint
  destinationMint : destination.mint = transfer.mint
  owner : source.owner = authority
  accounts : after.accounts = before.accounts
  moved : after.tokens = before.tokens ∧ transfer.source = transfer.destination ∨
    transfer.source ≠ transfer.destination ∧
      ∃ left received : U64,
        left.val + transfer.amount.val = source.amount.val ∧
        received.val = destination.amount.val + transfer.amount.val ∧
        after.tokens = (before.tokens.insert transfer.source
          { source with amount := left }).insert transfer.destination
            { destination with amount := received }

theorem transferChecked_ok
    (hok : transferChecked authority transfer before = .ok after) :
    ∃ source destination,
      Transferred authority transfer before after source destination := by
  unfold transferChecked at hok
  split at hok
  · next source destination hsource hdestination =>
    split at hok
    · cases hok
    next hmints =>
    rw [not_or, not_not, not_not] at hmints
    split at hok
    · cases hok
    next howner =>
    rw [not_not] at howner
    split at hok
    · cases hok
    next left hleft =>
    rw [checkedSub_eq_some_iff] at hleft
    split at hok
    · next hsame =>
      cases hok
      exact ⟨source, destination, hsource, hdestination, hmints.1, hmints.2,
        howner, rfl, .inl ⟨rfl, hsame⟩⟩
    next hdifferent =>
    split at hok
    · cases hok
    next received hreceived =>
    rw [checkedAdd_eq_some_iff] at hreceived
    cases hok
    have hspent : left.val + transfer.amount.val = source.amount.val := by omega
    exact ⟨source, destination, hsource, hdestination, hmints.1, hmints.2,
      howner, rfl, .inr ⟨hdifferent, left, received, hspent, hreceived, rfl⟩⟩
  · cases hok

/-- The USDC of a party in an account that carries on with another amount. -/
theorem usdcOf_eq {account : TokenAccount} {state : State}
    (haccount : state.tokens.lookup key = some account) :
    usdcOf party state key =
      if account.mint = usdcMainnet ∧ (key = party ∨ account.owner = party) then
        account.amount.val
      else 0 := by
  rw [usdcOf, haccount, Option.elim_some]

/-- A transfer either leaves the state as it was and moves nothing, or writes
the amounts of its two accounts. -/
theorem Transferred.outcome {source destination : TokenAccount}
    (htransfer : Transferred authority transfer before after source
      destination) :
    (after = before ∧ transfer.usdc = 0) ∨
    transfer.source ≠ transfer.destination ∧ ∃ left received : U64,
      left.val + transfer.amount.val = source.amount.val ∧
      received.val = destination.amount.val + transfer.amount.val ∧
      after.tokens.lookup transfer.source =
        some { source with amount := left } ∧
      after.tokens.lookup transfer.destination =
        some { destination with amount := received } ∧
      ∀ other ≠ transfer.source, other ≠ transfer.destination →
        after.tokens.lookup other = before.tokens.lookup other := by
  rcases htransfer.moved with ⟨htokens, hsame⟩ |
      ⟨hdifferent, left, received, hleft, hreceived, htokens⟩
  · left
    constructor
    · cases before
      cases after
      exact congrArg₂ State.mk htransfer.accounts htokens
    · exact if_neg fun h => h.2 hsame
  · right
    refine ⟨hdifferent, left, received, hleft, hreceived, ?_, ?_, ?_⟩
    · rw [htokens, Finmap.lookup_insert_of_ne _ hdifferent, Finmap.lookup_insert]
    · rw [htokens, Finmap.lookup_insert]
    · intro other hsource hdestination
      rw [htokens, Finmap.lookup_insert_of_ne _ hdestination,
        Finmap.lookup_insert_of_ne _ hsource]

/-- A transfer takes what it moves out of the wallet that signs it. -/
theorem paidOut_of_transfer
    (hok : transferChecked authority transfer before = .ok after) :
    paidOut authority before after = transfer.usdc := by
  obtain ⟨source, destination, htransfer⟩ := transferChecked_ok hok
  rcases htransfer.outcome with ⟨rfl, hnothing⟩ |
      ⟨hdifferent, left, received, hleft, hreceived, hsourceAfter,
        hdestinationAfter, hkept⟩
  · rw [paidOut_self, hnothing]
  have hothers : ∀ other ≠ transfer.source,
      usdcOf authority before other ≤ usdcOf authority after other := by
    intro other hother
    by_cases hdestination : other = transfer.destination
    · subst hdestination
      have hgrows : destination.amount.val ≤ received.val := by omega
      rw [usdcOf_eq htransfer.destinationAt, usdcOf_eq hdestinationAfter]
      split
      · exact hgrows
      · exact Nat.le_refl 0
    · rw [usdcOf, usdcOf, hkept other hother hdestination]
  rw [paidOut_eq_of_one hothers, usdcOf_eq htransfer.sourceAt,
    usdcOf_eq hsourceAfter, Transfer.usdc]
  simp only [htransfer.sourceMint, htransfer.owner, or_true, and_true,
    hdifferent, ne_eq, not_false_eq_true]
  split <;> omega

/-- What a transfer moves reaches the party its destination belongs to, and
nobody else. -/
theorem paidIn_of_transfer
    (hok : transferChecked authority transfer before = .ok after) :
    paidIn party before after =
      if Belongs before transfer.destination party then transfer.usdc else 0 := by
  obtain ⟨source, destination, htransfer⟩ := transferChecked_ok hok
  rcases htransfer.outcome with ⟨rfl, hnothing⟩ |
      ⟨hdifferent, left, received, hleft, hreceived, hsourceAfter,
        hdestinationAfter, hkept⟩
  · rw [paidIn, paidOut_self, hnothing, ite_self]
  have hothers : ∀ other ≠ transfer.destination,
      usdcOf party after other ≤ usdcOf party before other := by
    intro other hother
    by_cases hsource : other = transfer.source
    · subst hsource
      have hfalls : left.val ≤ source.amount.val := by omega
      rw [usdcOf_eq htransfer.sourceAt, usdcOf_eq hsourceAfter]
      split
      · exact hfalls
      · exact Nat.le_refl 0
    · rw [usdcOf, usdcOf, hkept other hsource hother]
  have hbelongs : Belongs before transfer.destination party ↔
      transfer.destination = party ∨ destination.owner = party := by
    simp [Belongs, htransfer.destinationAt]
  rw [paidIn, paidOut_eq_of_one hothers, usdcOf_eq htransfer.destinationAt,
    usdcOf_eq hdestinationAfter, Transfer.usdc]
  simp only [htransfer.destinationMint, hbelongs, hdifferent, ne_eq,
    not_false_eq_true, and_true]
  by_cases hmint : transfer.mint = usdcMainnet
  · simp only [hmint, true_and, if_true]
    split <;> omega
  · simp only [hmint, false_and, if_false, Nat.sub_zero, ite_self]

end Transfers

/-! ## Calls and their discriminators -/

/-- The name an instruction has in the program module. -/
def Call.name : Call → String
  | .initializeVault .. => "initialize_vault"
  | .setSwig .. => "set_swig"
  | .setSwigAtomic .. => "set_swig_atomic"
  | .settleVoucher .. => "settle_voucher"
  | .requestWithdrawal .. => "request_withdrawal"
  | .finalizeWithdrawal .. => "finalize_withdrawal"
  | .forceRelease .. => "force_release"
  | .rotatePasskey .. => "rotate_passkey"
  | .rotateDexterAuthority .. => "rotate_dexter_authority"
  | .provePasskey .. => "prove_passkey"
  | .registerSessionKey .. => "register_session_key"
  | .revokeSessionKey .. => "revoke_session_key"
  | .settleTabVoucher .. => "settle_tab_voucher"
  | .migrateV5ToV6 .. => "migrate_v5_to_v6"
  | .migrateV5ToV6WithSession .. => "migrate_v5_to_v6_with_session"
  | .lockVoucher .. => "lock_voucher"
  | .transferLockOwnership .. => "transfer_lock_ownership"
  | .settleLockedVoucher .. => "settle_locked_voucher"
  | .recoverAbandonedLock .. => "recover_abandoned_lock"
  | .openStandby .. => "open_standby"
  | .drawCredit .. => "draw_credit"
  | .repayCredit .. => "repay_credit"
  | .seizeCollateral .. => "seize_collateral"
  | .setStandbyReserve .. => "set_standby_reserve"
  | .closeStandby .. => "close_standby"
  | .closeSession .. => "close_session"

/-- The first eight bytes of the hash of the qualified name. -/
def discriminator (runtime : Runtime) (call : Call) : Bytes :=
  (runtime.sha256 (ascii "global:" ++ ascii (Call.name call))).toList.take 8

/-- The swig and the wallet at the first two accounts of the instructions that
authorise a transfer. -/
def Call.drivenWallet : Call → Option (Pubkey × Pubkey)
  | .finalizeWithdrawal _ accounts _ =>
      some (accounts.swig, accounts.swigWalletAddress)
  | .settleTabVoucher _ accounts _ =>
      some (accounts.swig, accounts.swigWalletAddress)
  | .settleLockedVoucher _ accounts =>
      some (accounts.swig, accounts.swigWalletAddress)
  | .drawCredit _ accounts _ =>
      some (accounts.financierSwig, accounts.financierSwigWalletAddress)
  | .repayCredit _ accounts _ => some (accounts.swig, accounts.swigWalletAddress)
  | .seizeCollateral _ accounts =>
      some (accounts.swig, accounts.swigWalletAddress)
  | _ => none

/-! ## Transactions -/

/-- One instruction of a transaction with what it does.  `foreign` covers every
other instruction, whatever program it belongs to: a `SignV2` under a role that
does not rely on the instruction before it, and an instruction of the vault program
that runs on an account in an older layout, so that no `SignV2` follows it. -/
inductive Item
  | vault (instruction : Instruction) (call : Call)
  | signV2 (instruction : Instruction) (swig wallet : Pubkey)
      (transfer : Transfer)
  | foreign (instruction : Instruction)

def Item.instruction : Item → Instruction
  | .vault instruction _ | .signV2 instruction _ _ _ | .foreign instruction =>
      instruction

/-- The discriminators registered on each swig. -/
abbrev Markers := Pubkey → List Bytes

/-- Swig's check of the preceding instruction. -/
def ProgramExec (markers : Markers) (swig wallet : Pubkey) : Option Item → Prop
  | some (.vault instruction call) =>
      instruction.programId = programId ∧
        Call.drivenWallet call = some (swig, wallet) ∧
        ∃ marker ∈ markers swig, marker <+: instruction.data
  | _ => False

instance (markers : Markers) (swig wallet : Pubkey) :
    ∀ previous, Decidable (ProgramExec markers swig wallet previous)
  | some (.vault _ _) => inferInstanceAs (Decidable (_ ∧ _ ∧ _))
  | some (.signV2 _ _ _ _) | some (.foreign _) | none => instDecidableFalse

/-- The execution of the items that follow `previous`. -/
inductive Executes (runtime : Runtime) (markers : Markers) :
    Option Item → State → List Item → State → Prop
  | done {previous : Option Item} {state : State} :
      Executes runtime markers previous state [] state
  | vault {previous : Option Item} {before between after : State}
      {instruction : Instruction} {call : Call} {rest : List Item} :
      step runtime before call = .ok between →
      Executes runtime markers (some (.vault instruction call)) between rest
        after →
      Executes runtime markers previous before
        (.vault instruction call :: rest) after
  | signV2 {previous : Option Item} {before between after : State}
      {instruction : Instruction} {swig wallet : Pubkey} {transfer : Transfer}
      {rest : List Item} :
      ProgramExec markers swig wallet previous →
      transferChecked wallet transfer before = .ok between →
      Executes runtime markers (some (.signV2 instruction swig wallet transfer))
        between rest after →
      Executes runtime markers previous before
        (.signV2 instruction swig wallet transfer :: rest) after
  | foreign {previous : Option Item} {before between after : State}
      {instruction : Instruction} {rest : List Item} :
      Environment before between →
      Executes runtime markers (some (.foreign instruction)) between rest
        after →
      Executes runtime markers previous before
        (.foreign instruction :: rest) after

structure Transaction where
  items : List Item
  signers : List Pubkey
  unixTimestamp : I64

namespace Transaction

variable (transaction : Transaction)

/-- What the instruction at `index` sees of the transaction. -/
def contextAt (index : ℕ) : Context where
  instructions := transaction.items.map Item.instruction
  currentIndex := index
  signers := transaction.signers
  unixTimestamp := transaction.unixTimestamp

/-- The runtime and the entry point of the program decode every call out of the
transaction. -/
def Decoded (runtime : Runtime) : Prop :=
  ∀ index instruction call,
    transaction.items[index]? = some (.vault instruction call) →
      instruction.programId = programId ∧
        discriminator runtime call <+: instruction.data ∧
        call.context = transaction.contextAt index

end Transaction

/-- The transaction lands: all its instructions execute, in order. -/
structure Lands (runtime : Runtime) (markers : Markers)
    (transaction : Transaction) (before after : State) : Prop where
  decoded : transaction.Decoded runtime
  executes : Executes runtime markers none before transaction.items after

section Pair

variable {runtime : Runtime} {markers : Markers}

/-- A call with the `SignV2` behind it. -/
structure Ride where
  instruction : Instruction
  call : Call
  signInstruction : Instruction
  swig : Pubkey
  wallet : Pubkey
  transfer : Transfer

def Ride.items (ride : Ride) : List Item :=
  [.vault ride.instruction ride.call,
    .signV2 ride.signInstruction ride.swig ride.wallet ride.transfer]

/-- The two steps of a ride, between the items before it and those after it. -/
structure RideAt (runtime : Runtime) (markers : Markers)
    (previous : Option Item) (start finish : State) (earlier later : List Item)
    (ride : Ride) (before between after : State) : Prop where
  reached : Executes runtime markers previous start earlier before
  called : step runtime before ride.call = .ok between
  authorised : ProgramExec markers ride.swig ride.wallet
    (some (.vault ride.instruction ride.call))
  transferred : transferChecked ride.wallet ride.transfer between = .ok after
  goesOn : Executes runtime markers
    (some (.signV2 ride.signInstruction ride.swig ride.wallet ride.transfer))
    after later finish

/-- A `SignV2` behind a call, wherever in a transaction the two stand, is the
step after it. -/
theorem Executes.ride {previous : Option Item} {start finish : State}
    {earlier later : List Item} {ride : Ride}
    (hexecutes : Executes runtime markers previous start
      (earlier ++ (ride.items ++ later)) finish) :
    ∃ before between after, RideAt runtime markers previous start finish earlier
      later ride before between after := by
  induction earlier generalizing previous start with
  | nil =>
      cases hexecutes with
      | vault hstep hrest =>
          cases hrest with
          | signV2 hexec hpaid hlater =>
              exact ⟨_, _, _, .done, hstep, hexec, hpaid, hlater⟩
  | cons item earlier ih =>
      cases hexecutes with
      | vault hstep hrest =>
          obtain ⟨before, between, after, hride⟩ := ih hrest
          exact ⟨before, between, after, { hride with
            reached := .vault hstep hride.reached }⟩
      | signV2 hexec hpaid hrest =>
          obtain ⟨before, between, after, hride⟩ := ih hrest
          exact ⟨before, between, after, { hride with
            reached := .signV2 hexec hpaid hride.reached }⟩
      | foreign hmove hrest =>
          obtain ⟨before, between, after, hride⟩ := ih hrest
          exact ⟨before, between, after, { hride with
            reached := .foreign hmove hride.reached }⟩

end Pair

end DexterVault.Transactions
