import DexterVault.Generations.Chain
import DexterVault.Generations.Reading

/-!
# The readers of the fleet script

The script that walks the fleet reads vault accounts with hand-added offsets: a
prefix up to the recorded authority, and behind it the session of the four
older layouts.  It picks the last migration by what it read and by its clock.
The readers agree with the frozen structs on every image of the four layouts,
so the migration it picks passes the session checks of the program, and the
other one does not.
-/

namespace DexterVault.FleetScript

open DexterVault.Machine
open DexterVault.Framing
open DexterVault.Borsh
open DexterVault.Borsh.Codec
open DexterVault.Accounts
open DexterVault.Execution
open DexterVault.Layouts
open DexterVault.Reading
open DexterVault.Hops
open DexterVault.Migration (MigrateV5ToV6 MigrateV5ToV6WithSession
  MigrateV5ToV6WithSessionArgs)

/-! ## The readers -/

/-- `new PublicKey(slice)` for at most 32 bytes, read as one big-endian number:
a shorter slice is the low end of the key. -/
def newPublicKey (slice : Bytes) : Pubkey :=
  ⟨(List.replicate (32 - slice.length) 0 ++ slice).take 32, by
    rw [List.length_take, List.length_append, List.length_replicate]
    omega⟩

/-- `data.subarray(start, start + length)`, cut at the end of the data. -/
def subarray (data : Bytes) (start length : ℕ) : Bytes :=
  (data.drop start).take length

/-- `data.readBigInt64LE(offset)`, which throws past the end of the data. -/
def readBigInt64LE (data : Bytes) (offset : ℕ) : Option I64 :=
  (i64.decode (data.drop offset)).map Prod.fst

structure Prefix where
  version : Byte
  pendingWithdrawalSome : Bool
  authority : Pubkey
  authorityOffset : ℕ
  afterAuthority : ℕ
  deriving DecidableEq

/-- `none` stands for a thrown error. -/
def readPrefix (data : Bytes) : Option Prefix := do
  let o := 8
  let version := data.getD o 0
  let o := o + 1 + 1 + 33 + 32 + 4 + 4
  let pwTag ← data[o]?
  if pwTag ≠ 0 ∧ pwTag ≠ 1 then
    none
  else
    let pendingWithdrawalSome : Bool := pwTag = 1
    let o := o + (1 + if pendingWithdrawalSome then 48 else 0)
    let o := o + 32
    return {
      version := version
      pendingWithdrawalSome := pendingWithdrawalSome
      authority := newPublicKey (subarray data o 32)
      authorityOffset := o
      afterAuthority := o + 32 }

structure SessionInfo where
  some : Bool
  expiresAt : Option I64
  counterparty : Option Pubkey
  deriving DecidableEq

/-- A tag past the end of the data is `undefined`, which is not 1. -/
def readActiveSession (data : Bytes) (afterAuthority : ℕ) :
    Option SessionInfo :=
  if data[afterAuthority]? ≠ Option.some 1 then
    Option.some ⟨false, none, none⟩
  else do
    let s := afterAuthority + 1
    let expiresAt ← readBigInt64LE data (s + 40)
    return ⟨true, Option.some expiresAt,
      Option.some (newPublicKey (subarray data (s + 48) 32))⟩

/-- The instruction the script sends for a V5 vault. -/
inductive Picked
  | plain
  | withSession (counterparty : Pubkey)
  deriving DecidableEq

/-- The hop at version 5, by the clock of the script. -/
def pickHop (now : I64) (data : Bytes) : Option Picked := do
  let p ← readPrefix data
  let session ← readActiveSession data p.afterAuthority
  let live : Bool :=
    session.some && session.expiresAt.any fun expiresAt => now < expiresAt
  if live then
    let counterparty ← session.counterparty
    return .withSession counterparty
  else
    return .plain

/-! ## Reading at an offset -/

section Offsets

variable {data rest : Bytes}

@[simp]
theorem newPublicKey_toList (key : Pubkey) : newPublicKey key.toList = key := by
  apply FixedBytes.toList_injective
  have hlength : key.toList.length = 32 := key.toList_length
  simp only [newPublicKey, hlength, List.Vector.toList_mk, Nat.sub_self,
    List.replicate_zero, List.nil_append]
  exact List.take_of_length_le (Nat.le_of_eq hlength)

theorem subarray_append {front middle : Bytes} {start length : ℕ}
    (hfront : front.length = start) (hmiddle : middle.length = length) :
    subarray (front ++ (middle ++ rest)) start length = middle := by
  rw [subarray, List.drop_left' hfront, List.take_left' hmiddle]

theorem readBigInt64LE_append {front : Bytes} {offset : ℕ} (value : I64)
    (hfront : front.length = offset) :
    readBigInt64LE (front ++ (i64.encode value ++ rest)) offset = some value := by
  rw [readBigInt64LE, List.drop_left' hfront, decode_encode_append]
  rfl

theorem getElem?_append_cons {front : Bytes} {offset : ℕ} (tag : Byte)
    (rest : Bytes) (hfront : front.length = offset) :
    (front ++ tag :: rest)[offset]? = some tag := by
  rw [List.getElem?_append_right (Nat.le_of_eq hfront), hfront, Nat.sub_self]
  rfl

end Offsets

/-! ## The prefix -/

/-- The fields of a header before the pending withdrawal. -/
def headerFront (header : VaultHeader) : Bytes :=
  u8.encode header.version ++
    (u8.encode header.bump ++
      ((array 33).encode header.passkeyPubkey ++
        ((array 32).encode header.swigAddress ++
          (u32.encode header.coolingOffSeconds ++
            u32.encode header.pendingVoucherCount))))

theorem encode_header (header : VaultHeader) :
    vaultHeader.encode header = headerFront header ++
      (pendingWithdrawal.option.encode header.pendingWithdrawal ++
        (header.identityClaim.toList ++ header.dexterAuthority.toList)) := by
  simp only [vaultHeader, encode_equiv, encode_prod, Equiv.coe_fn_symm_mk,
    headerFront, List.append_assoc]
  rfl

/-- What the script finds in an account that begins with a header. -/
def prefixOf (header : VaultHeader) : Prefix where
  version := header.version
  pendingWithdrawalSome := header.pendingWithdrawal.isSome
  authority := header.dexterAuthority
  authorityOffset := 8 + (vaultHeader.encode header).length - 32
  afterAuthority := 8 + (vaultHeader.encode header).length

theorem length_prefixFront (header : VaultHeader) :
    (vaultDiscriminator ++ headerFront header).length = 83 := by
  simp [headerFront, vaultDiscriminator]

/-- The walk behind the tag, for a withdrawal of the length the tag stands
for. -/
theorem readPrefix_tag {header : VaultHeader} {tag : Byte} {body rest : Bytes}
    (hzero : tag = 0 ∨ tag = 1)
    (hbody : body.length = if tag = 1 then 48 else 0) :
    readPrefix ((vaultDiscriminator ++ headerFront header) ++ tag ::
        (body ++ (header.identityClaim.toList ++
          (header.dexterAuthority.toList ++ rest)))) =
      some ⟨header.version, tag = 1, header.dexterAuthority,
        83 + (1 + body.length) + 32, 83 + (1 + body.length) + 32 + 32⟩ := by
  have htag := getElem?_append_cons tag (body ++
    (header.identityClaim.toList ++ (header.dexterAuthority.toList ++ rest)))
    (length_prefixFront header)
  have hsplit : (vaultDiscriminator ++ headerFront header) ++ tag ::
        (body ++ (header.identityClaim.toList ++
          (header.dexterAuthority.toList ++ rest))) =
      ((vaultDiscriminator ++ headerFront header) ++ tag ::
        (body ++ header.identityClaim.toList)) ++
          (header.dexterAuthority.toList ++ rest) := by
    simp only [List.append_assoc, List.cons_append]
  have hfront : ((vaultDiscriminator ++ headerFront header) ++ tag ::
      (body ++ header.identityClaim.toList)).length =
        83 + (1 + body.length) + 32 := by
    rw [List.length_append, length_prefixFront, List.length_cons,
      List.length_append, header.identityClaim.toList_length]
    omega
  have hauthority : subarray ((vaultDiscriminator ++ headerFront header) ++
      tag :: (body ++ (header.identityClaim.toList ++
        (header.dexterAuthority.toList ++ rest))))
      (83 + (1 + body.length) + 32) 32 = header.dexterAuthority.toList := by
    rw [hsplit]
    exact subarray_append hfront header.dexterAuthority.toList_length
  have hlength : (if decide (tag = 1) = true then 48 else 0) = body.length := by
    rw [hbody]
    simp only [decide_eq_true_eq]
  have hknown : ¬ (tag ≠ 0 ∧ tag ≠ 1) := by tauto
  simp only [readPrefix, htag, Option.bind_eq_bind, Option.bind_some,
    if_neg hknown, hlength, hauthority, newPublicKey_toList, Option.pure_def]
  rfl

theorem readPrefix_header (header : VaultHeader) (rest : Bytes) :
    readPrefix (vaultDiscriminator ++ (vaultHeader.encode header ++ rest)) =
      some (prefixOf header) := by
  have hdata (tag : Byte) (body : Bytes)
      (hpending : pendingWithdrawal.option.encode header.pendingWithdrawal =
        tag :: body) :
      vaultDiscriminator ++ (vaultHeader.encode header ++ rest) =
        (vaultDiscriminator ++ headerFront header) ++ tag ::
          (body ++ (header.identityClaim.toList ++
            (header.dexterAuthority.toList ++ rest))) := by
    rw [encode_header, hpending]
    simp only [List.append_assoc, List.cons_append]
  cases hpending : header.pendingWithdrawal with
  | none =>
      have hlength : (vaultHeader.encode header).length = 140 := by
        simp [length_encode_header, hpending]
      rw [hdata 0 [] (hpending ▸ rfl), readPrefix_tag (.inl rfl) rfl, prefixOf,
        hlength, hpending]
      rfl
  | some pending =>
      have hbody : (pendingWithdrawal.encode pending).length = 48 := by
        simp [pendingWithdrawal]
      have hlength : (vaultHeader.encode header).length = 188 := by
        simp [length_encode_header, hpending]
      rw [hdata 1 (pendingWithdrawal.encode pending) (hpending ▸ rfl),
        readPrefix_tag (.inr rfl) hbody, prefixOf, hlength, hpending, hbody]
      rfl

/-! ## The session -/

/-- The fields of a session that the script reads. -/
structure SessionHead where
  expiresAt : I64
  counterparty : Pubkey
  deriving DecidableEq

/-- The session of a vault of an older layout. -/
def sessionHead : (generation : Generation) → generation.Tail →
    Option SessionHead
  | .v2, activeSession => activeSession.map fun session =>
      ⟨session.expiresAt, session.allowedCounterparty⟩
  | .v3, activeSession => activeSession.map fun session =>
      ⟨session.expiresAt, session.allowedCounterparty⟩
  | .v4, (activeSession, _) => activeSession.map fun session =>
      ⟨session.expiresAt, session.allowedCounterparty⟩
  | .v5, (activeSession, _, _) => activeSession.map fun session =>
      ⟨session.expiresAt, session.allowedCounterparty⟩

def sessionInfo (head : Option SessionHead) : SessionInfo :=
  ⟨head.isSome, head.map SessionHead.expiresAt, head.map SessionHead.counterparty⟩

/-- The bytes begin with an optional session whose first fields are these. -/
inductive BeginsWith (bytes : Bytes) : Option SessionHead → Prop
  | none (rest : Bytes) (hbytes : bytes = 0 :: rest) : BeginsWith bytes none
  | some (front rest : Bytes) (head : SessionHead) (hfront : front.length = 40)
      (hbytes : bytes = 1 :: (front ++ (i64.encode head.expiresAt ++
        (head.counterparty.toList ++ rest)))) :
      BeginsWith bytes (some head)

theorem BeginsWith.append {bytes : Bytes} {head : Option SessionHead}
    (hbegins : BeginsWith bytes head) (more : Bytes) :
    BeginsWith (bytes ++ more) head := by
  cases hbegins with
  | none rest hbytes =>
      exact .none (rest ++ more) (by rw [hbytes, List.cons_append])
  | some front rest head hfront hbytes =>
      refine .some front (rest ++ more) head hfront ?_
      rw [hbytes]
      simp only [List.cons_append, List.append_assoc]

theorem readActiveSession_of_beginsWith {before bytes : Bytes} {start : ℕ}
    {head : Option SessionHead} (hbegins : BeginsWith bytes head)
    (hstart : before.length = start) :
    readActiveSession (before ++ bytes) start = some (sessionInfo head) := by
  cases hbegins with
  | none rest hbytes =>
      have htag : (before ++ bytes)[start]? = some 0 := by
        rw [hbytes]
        exact getElem?_append_cons 0 _ hstart
      rw [readActiveSession, if_pos (by rw [htag]; decide)]
      rfl
  | some front rest head hfront hbytes =>
      have htag : (before ++ bytes)[start]? = some 1 := by
        rw [hbytes]
        exact getElem?_append_cons 1 _ hstart
      have hlength : (before ++ 1 :: front).length = start + 1 + 40 := by
        rw [List.length_append, List.length_cons, hstart, hfront]
      have hexpiry : before ++ bytes = (before ++ 1 :: front) ++
          (i64.encode head.expiresAt ++ (head.counterparty.toList ++ rest)) := by
        rw [hbytes]
        simp only [List.cons_append, List.append_assoc]
      have hparty : before ++ bytes =
          ((before ++ 1 :: front) ++ i64.encode head.expiresAt) ++
            (head.counterparty.toList ++ rest) := by
        rw [hexpiry]
        simp only [List.append_assoc]
      have hreadExpiry :
          readBigInt64LE (before ++ bytes) (start + 1 + 40) =
            some head.expiresAt := by
        rw [hexpiry]
        exact readBigInt64LE_append head.expiresAt hlength
      have hreadParty : subarray (before ++ bytes) (start + 1 + 48) 32 =
          head.counterparty.toList := by
        rw [hparty]
        refine subarray_append ?_ head.counterparty.toList_length
        rw [List.length_append, hlength, length_encode_i64]
      rw [readActiveSession, if_neg (not_not.mpr htag)]
      simp only [hreadExpiry, hreadParty, newPublicKey_toList,
        Option.bind_eq_bind, Option.bind_some, Option.pure_def]
      rfl

theorem beginsWith_session (sessionPubkey : FixedBytes 32) (maxAmount : U64)
    (head : SessionHead) (more : Bytes) :
    BeginsWith (1 :: (sessionPubkey.toList ++ (u64.encode maxAmount ++
      (i64.encode head.expiresAt ++ (head.counterparty.toList ++ more)))))
      (some head) := by
  refine .some (sessionPubkey.toList ++ u64.encode maxAmount) more head ?_ ?_
  · rw [List.length_append, sessionPubkey.toList_length, length_encode_u64]
  · rw [List.append_assoc]

theorem beginsWith_registration (activeSession : Option SessionRegistration) :
    BeginsWith (sessionRegistration.option.encode activeSession)
      (activeSession.map fun session =>
        ⟨session.expiresAt, session.allowedCounterparty⟩) := by
  cases activeSession with
  | none => exact .none [] rfl
  | some session => exact beginsWith_session _ _ ⟨_, _⟩ _

/-- The first fields of a session are the same in the four layouts. -/
theorem beginsWith_tail (generation : Generation) (tail : generation.Tail) :
    BeginsWith (generation.tail.encode tail) (sessionHead generation tail) := by
  cases generation with
  | v2 =>
      cases tail with
      | none => exact .none [] rfl
      | some session => exact beginsWith_session _ _ ⟨_, _⟩ _
  | v3 =>
      cases tail with
      | none => exact .none [] rfl
      | some session => exact beginsWith_session _ _ ⟨_, _⟩ _
  | v4 => exact (beginsWith_registration tail.1).append _
  | v5 => exact (beginsWith_registration tail.1).append _

/-! ## Agreement on images -/

/-- The session of a stored vault of an older layout. -/
def activeHead (generation : Generation) (stored : generation.Value) :
    Option SessionHead :=
  sessionHead generation (generation.tailOf stored)

/-- The migration out of the generation decodes the stored vault, and the
script finds the same authority and the same session. -/
structure Agrees (generation : Generation) (stored : generation.Value)
    (data : Bytes) : Prop where
  decoded : readFrozen generation.layout generation.stamp data = .ok stored
  found : readPrefix data = some (prefixOf (generation.header stored))
  authority : (readPrefix data).map Prefix.authority =
    some (generation.header stored).dexterAuthority
  session : (readPrefix data).bind (fun p =>
    readActiveSession data p.afterAuthority) =
      some (sessionInfo (activeHead generation stored))

theorem agrees_of_image {generation : Generation} {stored : generation.Value}
    {data : Bytes} (himage : IsImage generation.layout stored data)
    (hstamp : (generation.header stored).version = generation.stamp) :
    Agrees generation stored data := by
  obtain ⟨-, slack, hdata⟩ := himage
  let header := generation.header stored
  let tail := generation.tailOf stored
  have hstored : stored = generation.fields (header, tail) :=
    (Equiv.apply_symm_apply generation.fields stored).symm
  have hencode : generation.layout.encode stored =
      vaultHeader.encode header ++ generation.tail.encode tail := by
    conv_lhs => rw [hstored]
    exact Generation.encode_layout header tail
  have hsplit : data = vaultDiscriminator ++ (vaultHeader.encode header ++
      (generation.tail.encode tail ++ slack)) := by
    rw [← hdata, hencode]
    simp only [List.append_assoc]
  have hstamped : Stamped generation.layout stored generation.stamp := by
    rw [Stamped, hencode, ← hstamp]
    exact ⟨_, rfl⟩
  have hfound : readPrefix data = some (prefixOf header) := by
    rw [hsplit]
    exact readPrefix_header header _
  refine ⟨(readFrozen_eq_ok_iff hstamped).mpr ⟨slack, hdata⟩, hfound, ?_, ?_⟩
  · rw [hfound]
    rfl
  · rw [hfound, Option.bind_some, hsplit, ← List.append_assoc]
    exact readActiveSession_of_beginsWith
      ((beginsWith_tail generation tail).append slack) (List.length_append ..)

/-! ## The choice of the last hop -/

/-- The errors with which the program refuses a vault for its session. -/
def IsSessionRefusal : ProgramError → Prop
  | .vault .sessionAlreadyActive | .vault .noActiveSession
  | .vault .sessionExpiryInPast | .vault .sessionAccountMisderived => True
  | _ => False

theorem not_refusal_of_runtime {error : ProgramError}
    (hruntime : IsRuntimeError error) : ¬ IsSessionRefusal error := by
  obtain ⟨failure, rfl⟩ := hruntime
  exact id

section LastHop

variable {runtime : Runtime} {rent : Rent} {context : Context}
  {account : Funded} {v5 : VaultV5Reader}

theorem raises_of_ok {Value : Type} {result : Result Value} {value : Value}
    {errors : ProgramError → Prop} (hok : result = .ok value) :
    Raises result errors := by
  rw [hok]
  exact raises_pure value

theorem writeV6_raises (v6 : Vault) :
    Raises (writeV6 rent v6 account) fun error => ¬ IsSessionRefusal error := by
  refine Raises.bind (raises_require_iff.mpr (.inr id)) fun _ _ => ?_
  refine Raises.bind (raises_require_iff.mpr (.inr id)) fun _ _ => ?_
  exact raises_pure _

/-- Without a session that is still live the plain path has no objection to the
session. -/
theorem plain_passes {accounts : MigrateV5ToV6}
    (hread : readFrozen vaultV5Reader vaultVersionV5 account.data = .ok v5)
    (hexpired : ∀ session ∈ v5.activeSession,
      session.expiresAt ≤ context.unixTimestamp) :
    Raises (migrateV5ToV6 rent context accounts account)
      fun error => ¬ IsSessionRefusal error := by
  refine Raises.bind (raises_require_iff.mpr (.inr id)) fun _ _ => ?_
  refine Raises.bind (raises_require_iff.mpr (.inr id)) fun _ _ => ?_
  refine Raises.bind (raises_of_ok hread) fun found hfound => ?_
  obtain rfl : v5 = found := Except.ok.inj (hread.symm.trans hfound)
  refine Raises.bind (raises_require_iff.mpr (.inr id)) fun _ _ => ?_
  refine Raises.bind (raises_require_iff.mpr (.inl hexpired)) fun _ _ => ?_
  exact writeV6_raises _

theorem plain_rejected {accounts : MigrateV5ToV6} {session : SessionRegistration}
    (hread : readFrozen vaultV5Reader vaultVersionV5 account.data = .ok v5)
    (hactive : v5.activeSession = some session)
    (hlive : context.unixTimestamp < session.expiresAt) :
    ∃ error, migrateV5ToV6 rent context accounts account = .error error := by
  cases hresult : migrateV5ToV6 rent context accounts account with
  | error error => exact ⟨error, rfl⟩
  | ok after =>
      simp only [migrateV5ToV6, hread, bind_eq_ok_iff, require_eq_ok_iff,
        Except.ok.injEq, exists_eq_left'] at hresult
      obtain ⟨_, -, _, -, _, -, _, hexpired, -⟩ := hresult
      have hle := I64.le_def.mp (hexpired session hactive)
      exact absurd (I64.lt_def.mp hlive) (not_lt_of_ge hle)

variable {accounts : MigrateV5ToV6WithSession}
  {args : MigrateV5ToV6WithSessionArgs} {sessionData : Option Bytes}

/-- With the counterparty of a session that is live the other path has no
objection to the session either. -/
theorem session_passes {session : SessionRegistration}
    (hread : readFrozen vaultV5Reader vaultVersionV5 account.data = .ok v5)
    (hactive : v5.activeSession = some session)
    (hlive : context.unixTimestamp < session.expiresAt)
    (hparty : session.allowedCounterparty = args.liveCounterparty) :
    Raises (migrateV5ToV6WithSession runtime rent context accounts args
      sessionData account) fun error => ¬ IsSessionRefusal error := by
  refine Raises.bind (raises_require_iff.mpr (.inr id)) fun _ _ => ?_
  refine Raises.bind (raises_require_iff.mpr (.inr id)) fun _ _ => ?_
  refine Raises.bind (raises_require_iff.mpr (.inr id)) fun _ _ => ?_
  refine Raises.bind ((raises_requireCanonical _ _ _).mono fun _ =>
    not_refusal_of_runtime) fun _ _ => ?_
  refine Raises.bind (raises_require_iff.mpr (.inr id)) fun _ _ => ?_
  refine Raises.bind (raises_of_ok hread) fun found hfound => ?_
  obtain rfl : v5 = found := Except.ok.inj (hread.symm.trans hfound)
  refine Raises.bind (raises_require_iff.mpr (.inr id)) fun _ _ => ?_
  rw [hactive]
  refine Raises.bind (raises_of_ok rfl) fun carried hcarried => ?_
  obtain rfl : session = carried := Except.ok.inj hcarried
  refine Raises.bind (raises_require_iff.mpr (.inl hlive)) fun _ _ => ?_
  refine Raises.bind (raises_require_iff.mpr (.inl hparty)) fun _ _ => ?_
  refine Raises.bind (writeV6_raises _) fun _ _ => ?_
  exact raises_pure _

theorem session_rejected
    (hread : readFrozen vaultV5Reader vaultVersionV5 account.data = .ok v5)
    (hexpired : ∀ session ∈ v5.activeSession,
      session.expiresAt ≤ context.unixTimestamp) :
    ∃ error, migrateV5ToV6WithSession runtime rent context accounts args
      sessionData account = .error error := by
  cases hresult : migrateV5ToV6WithSession runtime rent context accounts args
      sessionData account with
  | error error => exact ⟨error, rfl⟩
  | ok after =>
      obtain ⟨session, hactive, hlive⟩ :=
        live_of_migrateV5ToV6WithSession hread hresult
      have hle := I64.le_def.mp (hexpired session hactive)
      exact absurd (I64.lt_def.mp hlive) (not_lt_of_ge hle)

end LastHop

/-- What the program makes of the instruction the script picks, and of the one
it does not pick, at a time on the chain: no accounts, no signers and no
funding let the session be the reason of a refusal, or let the other
instruction pass. -/
def RightChoice (now : I64) (data : Bytes) : Picked → Prop
  | .plain =>
      (∀ rent context accounts account, account.data = data →
        context.unixTimestamp = now →
          Raises (migrateV5ToV6 rent context accounts account)
            fun error => ¬ IsSessionRefusal error) ∧
      ∀ runtime rent context accounts args sessionData account,
        account.data = data → context.unixTimestamp = now →
          ∃ error, migrateV5ToV6WithSession runtime rent context accounts args
            sessionData account = .error error
  | .withSession counterparty =>
      (∀ runtime rent context accounts sessionData account,
        account.data = data → context.unixTimestamp = now →
          Raises (migrateV5ToV6WithSession runtime rent context accounts
            ⟨counterparty⟩ sessionData account)
            fun error => ¬ IsSessionRefusal error) ∧
      ∀ rent context accounts account, account.data = data →
        context.unixTimestamp = now →
          ∃ error, migrateV5ToV6 rent context accounts account = .error error

theorem pickHop_of_image {v5 : VaultV5Reader} {data : Bytes} {now : I64}
    (himage : IsImage vaultV5Reader v5 data)
    (hversion : v5.version = vaultVersionV5) :
    ∃ picked, pickHop now data = some picked ∧ RightChoice now data picked := by
  have hagrees : Agrees .v5 v5 data := agrees_of_image himage hversion
  have hread : readFrozen vaultV5Reader vaultVersionV5 data = .ok v5 :=
    hagrees.decoded
  have hfound := hagrees.found
  have hsession := hagrees.session
  rw [hfound, Option.bind_some] at hsession
  have hplain (hexpired : ∀ session ∈ v5.activeSession, session.expiresAt ≤ now) :
      RightChoice now data .plain := by
    refine ⟨fun _ _ _ _ hdata hnow => ?_, fun _ _ _ _ _ _ _ hdata hnow => ?_⟩
    · exact plain_passes (hdata ▸ hread) (hnow ▸ hexpired)
    · exact session_rejected (hdata ▸ hread) (hnow ▸ hexpired)
  unfold pickHop
  simp only [Option.bind_eq_bind, hfound, Option.bind_some, hsession]
  cases hactive : v5.activeSession with
  | none =>
      have hhead : activeHead .v5 v5 = none :=
        congrArg (Option.map fun session : SessionRegistration =>
          (⟨session.expiresAt, session.allowedCounterparty⟩ : SessionHead)) hactive
      rw [hhead]
      refine ⟨.plain, rfl, hplain ?_⟩
      rw [hactive]
      rintro session ⟨⟩
  | some session =>
      have hhead : activeHead .v5 v5 =
          some ⟨session.expiresAt, session.allowedCounterparty⟩ :=
        congrArg (Option.map fun session : SessionRegistration =>
          (⟨session.expiresAt, session.allowedCounterparty⟩ : SessionHead)) hactive
      rw [hhead]
      by_cases hlive : now < session.expiresAt
      · refine ⟨.withSession session.allowedCounterparty, ?_, ?_, ?_⟩
        · simp [sessionInfo, hlive]
        · intro runtime rent context accounts sessionData account hdata hnow
          exact session_passes (hdata ▸ hread) hactive (hnow ▸ hlive) rfl
        · intro rent context accounts account hdata hnow
          exact plain_rejected (hdata ▸ hread) hactive (hnow ▸ hlive)
      · refine ⟨.plain, by simp [sessionInfo, hlive], hplain ?_⟩
        rw [hactive]
        rintro found ⟨⟩
        exact I64.le_def.mpr (le_of_not_gt (mt I64.lt_def.mpr hlive))

/-- On every image of the four layouts the script reads what the migration
decodes, and at the time of the chain it picks the migration out of V5 that the
session allows. -/
theorem fleet_script_agrees :
    (∀ (generation : Generation) (stored : generation.Value) (data : Bytes),
      IsImage generation.layout stored data →
      (generation.header stored).version = generation.stamp →
        Agrees generation stored data) ∧
    ∀ v5 data now, IsImage vaultV5Reader v5 data → v5.version = vaultVersionV5 →
      ∃ picked, pickHop now data = some picked ∧ RightChoice now data picked :=
  ⟨fun _ _ _ himage hstamp => agrees_of_image himage hstamp,
    fun _ _ _ himage hversion => pickHop_of_image himage hversion⟩

/-! ## A vault with a session -/

section Examples

open Deployment
open Chain

/-- The account that the sample vault has in the last of the four layouts. -/
def sampleData : Bytes :=
  resize 399 (vaultDiscriminator ++ vaultV5Reader.encode (atV5 sampleVault))

theorem sampleData_image :
    IsImage vaultV5Reader (atV5 sampleVault) sampleData :=
  ⟨length_resize _ _, prefix_resize (List.prefix_refl _) (by decide +kernel)⟩

theorem fleet_script_agrees_sample :
    Agrees .v3 sampleVault sampleAccount.data ∧
      pickHop now sampleData = some (.withSession seller) ∧
      RightChoice now sampleData (.withSession seller) := by
  obtain ⟨hreaders, hpicks⟩ := fleet_script_agrees
  obtain ⟨picked, hpicked, hright⟩ := hpicks _ _ now sampleData_image rfl
  have hsession : pickHop now sampleData = some (.withSession seller) := by
    decide +kernel
  obtain rfl : picked = .withSession seller :=
    Option.some.inj (hpicked.symm.trans hsession)
  exact ⟨hreaders .v3 sampleVault _ sampleAccount_image rfl, hsession, hright⟩

end Examples

end DexterVault.FleetScript
