import DexterVault.Core.Locality
import DexterVault.Program.Closing
import DexterVault.Program.Deployment

/-!
# The accounts that a call locks

The runtime schedules transactions in parallel when neither locks for writing
what the other one locks.  The lists below are the accounts of each instruction
that hold data of the program or a token balance, as its accounts struct declares
them; an instruction reads and writes nothing else, and writes what is declared
`mut`, `init` or `init_if_needed` only.  Signers, the swig and its wallet hold no
such data.  The migrations of the layouts before V5, and runs on an image of V5, are
no calls and are left out.
-/

namespace DexterVault.Locks

open Set
open DexterVault.Machine
open DexterVault.Framing
open DexterVault.Accounts
open DexterVault.Execution
open DexterVault.Agreement
open DexterVault.Locality
open DexterVault.Setup
open DexterVault.Withdrawal
open DexterVault.Session
open DexterVault.Gate
open DexterVault.Voucher
open DexterVault.Claim
open DexterVault.Credit
open DexterVault.Migration
open DexterVault.Program

/-- What is stored at an address. -/
def cell (state : State) (key : Pubkey) : Option Account × Option TokenAccount :=
  (state.accounts.lookup key, state.tokens.lookup key)

theorem cell_injective : Function.Injective cell := by
  intro left right hcells
  have hcell : ∀ key, cell left key = cell right key := congrFun hcells
  refine Closing.State.ext_lookup ?_ fun key => congrArg Prod.fst (hcell key)
  exact Finmap.ext_lookup fun key => congrArg Prod.snd (hcell key)

/-- The accounts declared writable. -/
def writable : Call → List Pubkey
  | .initializeVault _ accounts _ => [accounts.vault]
  | .setSwig _ vault _ => [vault]
  | .setSwigAtomic _ accounts _ => [accounts.vault]
  | .settleVoucher _ accounts _ => accounts.vault :: accounts.session.toList
  | .requestWithdrawal _ vault _ => [vault]
  | .finalizeWithdrawal _ accounts _ => [accounts.vault]
  | .forceRelease _ vault _ => [vault]
  | .rotatePasskey _ vault _ => [vault]
  | .rotateDexterAuthority _ accounts _ => [accounts.vault]
  | .provePasskey _ _ _ => []
  | .registerSessionKey _ accounts _ =>
      accounts.vault :: accounts.session ::
        (accounts.remainingAccounts.filter AccountMeta.isWritable).map
          AccountMeta.key
  | .revokeSessionKey _ accounts _ => [accounts.vault, accounts.session]
  | .settleTabVoucher _ accounts _ => [accounts.vault, accounts.session]
  | .migrateV5ToV6 _ accounts => [accounts.vault]
  | .migrateV5ToV6WithSession _ accounts _ => [accounts.vault, accounts.session]
  | .lockVoucher _ accounts _ =>
      [accounts.vault, accounts.session, accounts.claim]
  | .transferLockOwnership _ accounts _ => [accounts.claim]
  | .settleLockedVoucher _ accounts => [accounts.claim, accounts.vault]
  | .recoverAbandonedLock _ accounts _ => [accounts.claim, accounts.vault]
  | .openStandby _ accounts _ => [accounts.vault, accounts.standbyBacker]
  | .drawCredit _ accounts _ => [accounts.vault]
  | .repayCredit _ accounts _ => [accounts.vault]
  | .seizeCollateral _ accounts => [accounts.vault]
  | .setStandbyReserve _ accounts _ => [accounts.standbyBacker]
  | .closeStandby _ accounts _ => [accounts.vault, accounts.standbyBacker]
  | .closeSession _ accounts _ => [accounts.session]

/-- The accounts declared without `mut`. -/
def readable : Call → List Pubkey
  | .finalizeWithdrawal _ accounts _ => [accounts.vaultUsdcAta]
  | .provePasskey _ vault _ => [vault]
  | .registerSessionKey _ accounts _ =>
      accounts.vaultUsdcAta ::
        (accounts.remainingAccounts.filter fun acct => !acct.isWritable).map
          AccountMeta.key
  | .lockVoucher _ accounts _ => [accounts.vaultUsdcAta]
  | .closeSession _ accounts _ => [accounts.vault]
  | _ => []

def locks (call : Call) : Locks Pubkey where
  reads := {key | key ∈ readable call}
  writes := {key | key ∈ writable call}

/-- Whether two calls may run at the same time is read off their lists. -/
theorem independent_iff {first second : Call} :
    Independent locks first second ↔
      (∀ key ∈ writable first, key ∉ readable second ∧ key ∉ writable second) ∧
        ∀ key ∈ writable second, key ∉ readable first ∧ key ∉ writable first := by
  have hapart : ∀ left right : Call,
      Disjoint (locks left).writes (locks right).all ↔
        ∀ key ∈ writable left, key ∉ readable right ∧ key ∉ writable right := by
    intro left right
    rw [disjoint_left]
    simp only [locks, Locks.all, mem_union, mem_ofPred_eq, not_or]
  rw [← hapart, ← hapart]
  exact ⟨fun h => ⟨h.forth, h.back⟩, fun h => ⟨h.1, h.2⟩⟩

instance (first second : Call) : Decidable (Independent locks first second) :=
  decidable_of_iff _ independent_iff.symm

/-! ## What a call writes -/

/-- A successful result differs from the state at the given keys only. -/
def Frames (keys : List Pubkey) (state : State) (result : Result State) : Prop :=
  ∀ next, result = .ok next →
    EqOn (cell state) (cell next) {key | key ∈ keys}ᶜ

section Frames

variable {keys : List Pubkey} {state middle : State} {key : Pubkey}
  {Value : Type}

theorem Frames.pure
    (hsame : EqOn (cell state) (cell middle) {key | key ∈ keys}ᶜ) :
    Frames keys state (Pure.pure middle) := by
  rintro _ ⟨⟩
  exact hsame

theorem Frames.bind {first : Result Value} {rest : Value → Result State}
    (hrest : ∀ value, first = .ok value → Frames keys state (rest value)) :
    Frames keys state (first >>= rest) := by
  intro next hok
  obtain ⟨value, hfirst, hnext⟩ := bind_eq_ok_iff.mp hok
  exact hrest value hfirst next hnext

theorem cell_write (hkey : key ∈ keys) (account : Account)
    (hsame : EqOn (cell state) (cell middle) {key | key ∈ keys}ᶜ) :
    EqOn (cell state) (cell (middle.write key account))
      {key | key ∈ keys}ᶜ := by
  intro other hother
  have hne : other ≠ key := fun heq => hother (heq ▸ hkey)
  rw [hsame hother, cell, cell, Closing.lookup_write, if_neg hne]
  rfl

theorem cell_close (hkey : key ∈ keys) :
    EqOn (cell state) (cell (state.close key)) {key | key ∈ keys}ᶜ := by
  intro other hother
  have hne : other ≠ key := fun heq => hother (heq ▸ hkey)
  rw [cell, cell, Closing.lookup_close, if_neg hne]
  rfl

/-- The sweep writes to accounts that were passed writable. -/
theorem gate_frames {runtime : Runtime} {vaultKey sessionKey : Pubkey}
    {now : I64} {accts : List AccountMeta} {gate after : Gate}
    (hkeys : ∀ acct ∈ accts, acct.isWritable = true → acct.key ∈ keys)
    (hsame : EqOn (cell state) (cell gate.state) {key | key ∈ keys}ᶜ)
    (hok : accts.foldlM (gateStep runtime vaultKey sessionKey now) gate =
      .ok after) :
    EqOn (cell state) (cell after.state) {key | key ∈ keys}ᶜ := by
  induction accts generalizing gate with
  | nil =>
      rw [List.foldlM_nil, pure_eq_ok_iff] at hok
      rwa [← hok]
  | cons acct accts ih =>
      rw [List.foldlM_cons, bind_eq_ok_iff] at hok
      obtain ⟨middle, hstep, hrest⟩ := hok
      refine ih (fun other hmem => hkeys other (List.mem_cons_of_mem _ hmem)) ?_
        hrest
      obtain ⟨-, -, session, -, hcase⟩ := gateStep_ok hstep
      rcases hcase with ⟨-, -, -, -, hstate⟩ | ⟨-, hwritable, -, -, -, hstate⟩
      · rwa [hstate]
      · rw [hstate]
        exact cell_write (hkeys acct List.mem_cons_self hwritable) _ hsame

end Frames

section Writes

variable {runtime : Runtime} {context : Context} {state : State}

theorem registerSessionKey_frames (accounts : RegisterSessionKey)
    (args : RegisterSessionKeyArgs) :
    Frames (writable (.registerSessionKey context accounts args)) state
      (registerSessionKey runtime context accounts args state) := by
  intro next hok
  obtain ⟨_, _, _, _, gate, _, -, hgate, -, rfl⟩ := registerSessionKey_gate hok
  refine cell_write (by simp [writable]) _ (cell_write (by simp [writable]) _ ?_)
  refine gate_frames (fun acct hmem hwritable => ?_) (eqOn_refl _ _) hgate
  exact List.mem_cons_of_mem _ (List.mem_cons_of_mem _
    (List.mem_map_of_mem (List.mem_filter.mpr ⟨hmem, hwritable⟩)))

theorem settleVoucher_frames (accounts : SettleVoucher)
    (args : SettleVoucherArgs) :
    Frames (writable (.settleVoucher context accounts args)) state
      (settleVoucher runtime context accounts args state) := by
  by_cases hincrement : args.increment = true
  · intro next hok
    obtain ⟨_, key, _, _, hopenable, -, rfl⟩ := openable_of_ok hok hincrement
    have hkey : key ∈ writable (.settleVoucher context accounts args) := by
      simp [writable, hopenable.session]
    exact cell_write (by simp [writable]) _ (cell_write hkey _ (eqOn_refl _ _))
  · unfold settleVoucher
    simp only [if_neg hincrement]
    repeat refine Frames.bind fun _ _ => ?_
    exact Frames.pure (cell_write (by simp [writable]) _ (eqOn_refl _ _))

/-- An accepted call changes nothing but the accounts it declares writable. -/
theorem step_frames (call : Call) :
    Frames (writable call) state (step runtime state call) := by
  cases call with
  | registerSessionKey => exact registerSessionKey_frames _ _
  | settleVoucher => exact settleVoucher_frames _ _
  | closeSession =>
      refine Frames.bind fun _ _ => ?_
      repeat refine Frames.bind fun _ _ => ?_
      exact Frames.pure (cell_close (by simp [writable]))
  | provePasskey =>
      refine Frames.bind fun _ _ => ?_
      repeat refine Frames.bind fun _ _ => ?_
      exact Frames.pure (eqOn_refl _ _)
  | initializeVault | setSwig | setSwigAtomic | requestWithdrawal
  | finalizeWithdrawal | forceRelease | rotatePasskey | rotateDexterAuthority
  | migrateV5ToV6 | transferLockOwnership | drawCredit | repayCredit
  | seizeCollateral | setStandbyReserve =>
      refine Frames.bind fun _ _ => ?_
      repeat refine Frames.bind fun _ _ => ?_
      exact Frames.pure (cell_write (by simp [writable]) _ (eqOn_refl _ _))
  | revokeSessionKey | settleTabVoucher | migrateV5ToV6WithSession
  | settleLockedVoucher | recoverAbandonedLock | openStandby | closeStandby =>
      refine Frames.bind fun _ _ => ?_
      repeat refine Frames.bind fun _ _ => ?_
      exact Frames.pure (cell_write (by simp [writable]) _
        (cell_write (by simp [writable]) _ (eqOn_refl _ _)))
  | lockVoucher =>
      refine Frames.bind fun _ _ => ?_
      repeat refine Frames.bind fun _ _ => ?_
      exact Frames.pure (cell_write (by simp [writable]) _
        (cell_write (by simp [writable]) _
          (cell_write (by simp [writable]) _ (eqOn_refl _ _))))

end Writes

/-! ## What a call reads -/

section Loads

variable {left right : State} {keys : Set Pubkey} {key : Pubkey}

theorem lookup_same (hsame : EqOn (cell left) (cell right) keys)
    (hkey : key ∈ keys) :
    left.accounts.lookup key = right.accounts.lookup key :=
  congrArg Prod.fst (hsame hkey)

theorem view_same (hsame : EqOn (cell left) (cell right) keys)
    (hkey : key ∈ keys) {Data : Type} (read : Account → Option Data) :
    left.view read key = right.view read key := by
  rw [State.view, State.view, lookup_same hsame hkey]

theorem load_same (hsame : EqOn (cell left) (cell right) keys)
    (hkey : key ∈ keys) {Data : Type} (read : Account → Option Data)
    (data : Data) :
    load read left key = .ok data ↔ load read right key = .ok data := by
  rw [load_eq_ok_iff, load_eq_ok_iff, view_same hsame hkey]

theorem tokens_same (hsame : EqOn (cell left) (cell right) keys)
    (hkey : key ∈ keys) : left.tokens.lookup key = right.tokens.lookup key :=
  congrArg Prod.snd (hsame hkey)

theorem loadTokenAccount_same (hsame : EqOn (cell left) (cell right) keys)
    (hkey : key ∈ keys) :
    loadTokenAccount left key = loadTokenAccount right key := by
  rw [loadTokenAccount, loadTokenAccount, tokens_same hsame hkey]

theorem requireVacant_same (hsame : EqOn (cell left) (cell right) keys)
    (hkey : key ∈ keys) : requireVacant left key = requireVacant right key := by
  simp only [requireVacant, lookup_same hsame hkey]

theorem loadOrInit_same (hsame : EqOn (cell left) (cell right) keys)
    (hkey : key ∈ keys) {Data : Type} (read : Account → Option Data)
    (zeroed data : Data) :
    loadOrInit read zeroed left key = .ok data ↔
      loadOrInit read zeroed right key = .ok data := by
  rw [loadOrInit_eq_ok_iff, loadOrInit_eq_ok_iff, lookup_same hsame hkey,
    view_same hsame hkey]

theorem loadVaultV5_same (hsame : EqOn (cell left) (cell right) keys)
    (hkey : key ∈ keys) : loadVaultV5 left key = loadVaultV5 right key := by
  rw [loadVaultV5, loadVaultV5, State.vaultV5?, State.vaultV5?,
    view_same hsame hkey]

theorem write_same (hsame : EqOn (cell left) (cell right) keys)
    (written : Pubkey) (account : Account) :
    EqOn (cell (left.write written account)) (cell (right.write written account))
      keys := by
  intro other hother
  have htokens := tokens_same hsame hother
  rw [cell, cell, Closing.lookup_write, Closing.lookup_write,
    lookup_same hsame hother]
  exact Prod.ext rfl htokens

theorem close_same (hsame : EqOn (cell left) (cell right) keys)
    (closed : Pubkey) :
    EqOn (cell (left.close closed)) (cell (right.close closed)) keys := by
  intro other hother
  have htokens := tokens_same hsame hother
  rw [cell, cell, Closing.lookup_close, Closing.lookup_close,
    lookup_same hsame hother]
  exact Prod.ext rfl htokens

end Loads

section Reads

variable {runtime : Runtime} {context : Context} {left right : State}
  {keys : Set Pubkey}

/-- The same accumulators, and states that share the cells. -/
def GatesShare (keys : Set Pubkey) (left right : Gate) : Prop :=
  EqOn (cell left.state) (cell right.state) keys ∧
    right = { left with state := right.state }

theorem gateStep_shares {vaultKey sessionKey : Pubkey} {now : I64}
    {left right : Gate} (hshare : GatesShare keys left right) {acct : AccountMeta}
    (hkey : acct.key ∈ keys) :
    Agrees (GatesShare keys)
      (gateStep runtime vaultKey sessionKey now left acct)
      (gateStep runtime vaultKey sessionKey now right acct) := by
  obtain ⟨hsame, hright⟩ := hshare
  rw [hright]
  unfold gateStep
  simp only [State.session?, view_same hsame hkey]
  refine Agrees.bind_self fun _ _ => Agrees.bind_self fun _ _ => ?_
  refine Agrees.bind_self fun sibling _ => ?_
  refine Agrees.bind_self fun _ _ => Agrees.bind_self fun _ _ => ?_
  split
  · refine Agrees.bind_self fun _ _ => Agrees.bind_self fun _ _ => ?_
    exact Agrees.pure ⟨hsame, rfl⟩
  · refine Agrees.bind_self fun _ _ => Agrees.bind_self fun _ _ => ?_
    exact Agrees.pure ⟨write_same hsame _ _, rfl⟩

theorem overcommitGate_shares {vaultKey sessionKey : Pubkey} {now : I64}
    {accts : List AccountMeta} (hsame : EqOn (cell left) (cell right) keys)
    (hkeys : ∀ acct ∈ accts, acct.key ∈ keys) :
    Agrees (GatesShare keys)
      (overcommitGate runtime vaultKey sessionKey now accts left)
      (overcommitGate runtime vaultKey sessionKey now accts right) := by
  have hstart : GatesShare keys (Gate.start left) (Gate.start right) :=
    ⟨hsame, rfl⟩
  exact Agrees.foldlM_mem hstart fun acct hmem _ _ hshare =>
    gateStep_shares hshare (hkeys acct hmem)

/-- A sibling is declared one way or the other. -/
theorem sibling_locked {accounts : RegisterSessionKey}
    {args : RegisterSessionKeyArgs} {acct : AccountMeta}
    (hmem : acct ∈ accounts.remainingAccounts) :
    acct.key ∈ (locks (.registerSessionKey context accounts args)).all := by
  cases hwritable : acct.isWritable with
  | true =>
      refine .inr (List.mem_cons_of_mem _ (List.mem_cons_of_mem _ ?_))
      exact List.mem_map_of_mem (List.mem_filter.mpr ⟨hmem, hwritable⟩)
  | false =>
      refine .inl (List.mem_cons_of_mem _ ?_)
      exact List.mem_map_of_mem (List.mem_filter.mpr ⟨hmem, by simp [hwritable]⟩)

theorem registerSessionKey_shares (accounts : RegisterSessionKey)
    (args : RegisterSessionKeyArgs)
    (hsame : EqOn (cell left) (cell right)
      (locks (.registerSessionKey context accounts args)).all) :
    Agrees (fun next other => EqOn (cell next) (cell other)
        (locks (.registerSessionKey context accounts args)).all)
      (registerSessionKey runtime context accounts args left)
      (registerSessionKey runtime context accounts args right) := by
  have hvault : accounts.vault ∈
      (locks (.registerSessionKey context accounts args)).all := by
    simp [locks, Locks.all, writable]
  have hsession : accounts.session ∈
      (locks (.registerSessionKey context accounts args)).all := by
    simp [locks, Locks.all, writable]
  have hata : accounts.vaultUsdcAta ∈
      (locks (.registerSessionKey context accounts args)).all := by
    simp [locks, Locks.all, readable]
  unfold registerSessionKey
  refine Agrees.bind_same (load_same hsame hvault _) fun vault _ => ?_
  simp only [loadTokenAccount_same hsame hata]
  refine Agrees.bind_self fun vaultUsdcAta _ => ?_
  refine Agrees.bind_same (loadOrInit_same hsame hsession _ _) fun session _ => ?_
  -- up to the gate
  repeat refine Agrees.bind_self fun _ _ => ?_
  refine (overcommitGate_shares hsame fun _ => sibling_locked).bind ?_
  rintro gate other _ ⟨hswept, hright⟩
  rw [hright]
  -- from the gate to the writes
  repeat refine Agrees.bind_self fun _ _ => ?_
  exact Agrees.pure (write_same (write_same hswept _ _) _ _)

theorem settleVoucher_shares (accounts : SettleVoucher)
    (args : SettleVoucherArgs)
    (hsame : EqOn (cell left) (cell right)
      (locks (.settleVoucher context accounts args)).all) :
    Agrees (fun next other => EqOn (cell next) (cell other)
        (locks (.settleVoucher context accounts args)).all)
      (settleVoucher runtime context accounts args left)
      (settleVoucher runtime context accounts args right) := by
  have hvault : accounts.vault ∈
      (locks (.settleVoucher context accounts args)).all := by
    simp [locks, Locks.all, writable]
  have hpassed : ∀ passed,
      loadOptionalSession runtime accounts.vault args.allowedCounterparty left
          accounts.session = .ok passed ↔
        loadOptionalSession runtime accounts.vault args.allowedCounterparty
          right accounts.session = .ok passed := by
    intro passed
    cases hsession : accounts.session with
    | none => exact Iff.rfl
    | some key =>
        have hkey : key ∈ (locks (.settleVoucher context accounts args)).all := by
          simp [locks, Locks.all, writable, hsession]
        simp only [loadOptionalSession, loadSession, bind_eq_ok_iff,
          load_same hsame hkey]
  unfold settleVoucher
  refine Agrees.bind_same (load_same hsame hvault _) fun vault _ => ?_
  refine Agrees.bind_self fun _ _ => ?_
  refine Agrees.bind_same hpassed fun passed _ => ?_
  refine Agrees.bind_self fun _ _ => ?_
  split
  · repeat refine Agrees.bind_self fun _ _ => ?_
    exact Agrees.pure (write_same (write_same hsame _ _) _ _)
  · refine Agrees.bind_self fun _ _ => ?_
    exact Agrees.pure (write_same hsame _ _)

theorem lockVoucher_shares (accounts : LockVoucher) (args : LockVoucherArgs)
    (hsame : EqOn (cell left) (cell right)
      (locks (.lockVoucher context accounts args)).all) :
    Agrees (fun next other => EqOn (cell next) (cell other)
        (locks (.lockVoucher context accounts args)).all)
      (lockVoucher runtime context accounts args left)
      (lockVoucher runtime context accounts args right) := by
  have hata : accounts.vaultUsdcAta ∈
      (locks (.lockVoucher context accounts args)).all := by
    simp [locks, Locks.all, readable]
  have hclaim : accounts.claim ∈
      (locks (.lockVoucher context accounts args)).all := by
    simp [locks, Locks.all, writable]
  unfold lockVoucher
  simp only [requireVacant_same hsame hclaim, loadTokenAccount_same hsame hata]
  refine Agrees.bind_same
    (load_same hsame (by simp [locks, Locks.all, writable]) _) fun vault _ => ?_
  refine Agrees.bind_self fun vaultUsdcAta _ => ?_
  refine Agrees.bind_same
    (load_same hsame (by simp [locks, Locks.all, writable]) _) fun session _ => ?_
  repeat refine Agrees.bind_self fun _ _ => ?_
  exact Agrees.pure (write_same (write_same (write_same hsame _ _) _ _) _ _)

/-- The accounts that a call declares decide whether it is accepted and what it
writes to them, one case for each instruction. -/
theorem step_shares (call : Call)
    (hsame : EqOn (cell left) (cell right) (locks call).all) :
    Agrees (fun next other => EqOn (cell next) (cell other) (locks call).all)
      (step runtime left call) (step runtime right call) := by
  cases call with
  | registerSessionKey => exact registerSessionKey_shares _ _ hsame
  | settleVoucher => exact settleVoucher_shares _ _ hsame
  | lockVoucher => exact lockVoucher_shares _ _ hsame
  | initializeVault =>
      refine Agrees.bind_same (fun _ => ?_) fun _ _ => ?_
      · rw [requireVacant_same hsame (by simp [locks, Locks.all, writable])]
      repeat refine Agrees.bind_self fun _ _ => ?_
      exact Agrees.pure (write_same hsame _ _)
  | setStandbyReserve =>
      refine Agrees.bind_self fun _ _ => ?_
      refine Agrees.bind_same (loadOrInit_same hsame
        (by simp [locks, Locks.all, writable]) _ _) fun found _ => ?_
      repeat refine Agrees.bind_self fun _ _ => ?_
      exact Agrees.pure (write_same hsame _ _)
  | setSwig | setSwigAtomic | requestWithdrawal | forceRelease | rotatePasskey
  | rotateDexterAuthority | drawCredit | repayCredit | seizeCollateral
  | transferLockOwnership =>
      refine Agrees.bind_same (load_same hsame
        (by simp [locks, Locks.all, writable]) _) fun found _ => ?_
      repeat refine Agrees.bind_self fun _ _ => ?_
      exact Agrees.pure (write_same hsame _ _)
  | provePasskey =>
      refine Agrees.bind_same (load_same hsame
        (by simp [locks, Locks.all, readable]) _) fun vault _ => ?_
      repeat refine Agrees.bind_self fun _ _ => ?_
      exact Agrees.pure hsame
  | finalizeWithdrawal context accounts args =>
      have hata : accounts.vaultUsdcAta ∈
          (locks (.finalizeWithdrawal context accounts args)).all := by
        simp [locks, Locks.all, readable]
      refine Agrees.bind_same (load_same hsame
        (by simp [locks, Locks.all, writable]) _) fun vault _ => ?_
      simp only [loadTokenAccount_same hsame hata]
      repeat refine Agrees.bind_self fun _ _ => ?_
      exact Agrees.pure (write_same hsame _ _)
  | migrateV5ToV6 context accounts =>
      have hvault : accounts.vault ∈
          (locks (.migrateV5ToV6 context accounts)).all := by
        simp [locks, Locks.all, writable]
      refine Agrees.bind_self fun _ _ => Agrees.bind_self fun _ _ => ?_
      simp only [loadVaultV5_same hsame hvault]
      repeat refine Agrees.bind_self fun _ _ => ?_
      exact Agrees.pure (write_same hsame _ _)
  | migrateV5ToV6WithSession context accounts args =>
      have hvault : accounts.vault ∈
          (locks (.migrateV5ToV6WithSession context accounts args)).all := by
        simp [locks, Locks.all, writable]
      have hsession : accounts.session ∈
          (locks (.migrateV5ToV6WithSession context accounts args)).all := by
        simp [locks, Locks.all, writable]
      refine Agrees.bind_self fun _ _ => Agrees.bind_self fun _ _ => ?_
      simp only [requireVacant_same hsame hsession,
        loadVaultV5_same hsame hvault]
      repeat refine Agrees.bind_self fun _ _ => ?_
      exact Agrees.pure (write_same (write_same hsame _ _) _ _)
  | revokeSessionKey | settleTabVoucher | settleLockedVoucher
  | recoverAbandonedLock | openStandby | closeStandby =>
      refine Agrees.bind_same (load_same hsame
        (by simp [locks, Locks.all, writable]) _) fun first _ => ?_
      refine Agrees.bind_same (load_same hsame
        (by simp [locks, Locks.all, writable]) _) fun second _ => ?_
      repeat refine Agrees.bind_self fun _ _ => ?_
      exact Agrees.pure (write_same (write_same hsame _ _) _ _)
  | closeSession =>
      refine Agrees.bind_same (load_same hsame
        (by simp [locks, Locks.all, readable]) _) fun vault _ => ?_
      refine Agrees.bind_same (load_same hsame
        (by simp [locks, Locks.all, writable]) _) fun session _ => ?_
      repeat refine Agrees.bind_self fun _ _ => ?_
      exact Agrees.pure (close_same hsame _)

/-- Every instruction keeps to the accounts it declares. -/
theorem confined (runtime : Runtime) :
    Confined (system runtime) cell locks where
  framed _ call next hok := step_frames call next hok
  determined _ _ call hsame := step_shares call hsame

end Reads

/-! ## Two parties at the same time -/

/-- Two schedules whose calls lock no common account for writing may be merged
in any way: the state at the end is always the same, every call gets the verdict
that it gets when the other schedule is not there, and so do the accounts that
only one schedule locks. -/
theorem parallel_schedules (runtime : Runtime) (state : State)
    {left right whole other : List Call} (hwhole : Interleaved left right whole)
    (hother : Interleaved left right other)
    (hindependent : ∀ first ∈ right, ∀ second ∈ left,
      Independent locks first second) :
    (serve (system runtime) state whole).1 =
        (serve (system runtime) state other).1 ∧
      (serve (system runtime) state whole).2.Perm
        ((serve (system runtime) state left).2 ++
          (serve (system runtime) state right).2) ∧
      ∀ key, (∀ call ∈ right, key ∉ writable call) →
        cell (serve (system runtime) state whole).1 key =
          cell (serve (system runtime) state left).1 key := by
  have hconfined : Confined (system runtime) cell locks :=
    ⟨fun _ call next hok => step_frames call next hok,
      fun _ _ call hsame => step_shares call hsame⟩
  have hserved := hconfined.serve_rescheduled cell_injective
    (hwhole.rescheduled hindependent) state
  have hagain := hconfined.serve_rescheduled cell_injective
    (hother.rescheduled hindependent) state
  rw [serve_append] at hserved hagain
  obtain ⟨hstate, hverdicts⟩ := hserved
  -- the accounts of the second schedule are untouched by the first one
  have hapart : EqOn (cell state) (cell (serve (system runtime) state left).1)
      {key | ∃ call ∈ right, key ∈ (locks call).all} := by
    apply hconfined.serve_apart
    intro second hsecond
    rw [disjoint_right]
    rintro key ⟨first, hfirst, hkey⟩
    exact disjoint_right.mp (hindependent first hfirst second hsecond).back hkey
  have hright : (serve (system runtime) state right).2 =
      (serve (system runtime) (serve (system runtime) state left).1 right).2 := by
    refine hconfined.serve_same ?_ hapart
    exact fun call hmem key hkey => ⟨call, hmem, hkey⟩
  refine ⟨hstate.trans hagain.1.symm, ?_, ?_⟩
  · rw [hright]
    exact hverdicts
  · intro key hkey
    have hleft : EqOn (cell (serve (system runtime) state left).1)
        (cell (serve (system runtime)
          (serve (system runtime) state left).1 right).1) {key} :=
      hconfined.serve_apart fun call hmem =>
        disjoint_singleton_right.mpr (hkey call hmem)
    rw [hstate]
    exact (hleft rfl).symm

open DexterVault.Deployment in
/-- Two vaults are bound to their swigs in either order. -/
theorem parallel_bindings :
    (serve (system sampleRuntime) rivalCreated [bindSwig, bindRival]).1 =
      (serve (system sampleRuntime) rivalCreated [bindRival, bindSwig]).1 :=
  (parallel_schedules sampleRuntime rivalCreated
    (.left (.right .nil)) (.right (.left .nil)) (by decide)).1

end DexterVault.Locks
