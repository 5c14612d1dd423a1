import DexterVault.Generations.Reading
import DexterVault.Program.Deployment

/-!
# Which calls respect an older layout

The header has one encoding in every layout, so a call that keeps its length
and no more than rewrites it leaves the rest of an older account alone.  A call
that changes the length of the pending withdrawal moves the bytes that the
current layout reads by 48 and leaves those behind them in place; a call that
changes the credit line writes into the session, where there is one.  The gates
compare what the current layout finds at their offsets.
-/

namespace DexterVault.Tolerance

open DexterVault.Machine
open DexterVault.Framing
open DexterVault.Borsh
open DexterVault.Borsh.Codec
open DexterVault.Accounts
open DexterVault.Execution
open DexterVault.Layouts
open DexterVault.Hops
open DexterVault.Program
open DexterVault.Withdrawal
open DexterVault.Reading

/-- Account data that holds a vault in the layout of its generation, with any
slack behind the encoding. -/
structure Stored (generation : Generation) (own : generation.Value)
    (data : Bytes) : Prop where
  roomy : 8 + generation.layout.space ≤ data.length
  encoded : vaultDiscriminator ++ generation.layout.encode own <+: data
  stamped : (generation.header own).version = generation.stamp

/-! ## Gates -/

structure Gates where
  pendingVoucherCount : U32
  outstandingLockedAmount : U64
  borrowed : U64
  deriving DecidableEq

/-- The values the handler finds. -/
def gatesSeen (seen : Vault) : Gates :=
  ⟨seen.pendingVoucherCount, seen.outstandingLockedAmount, seen.borrowed⟩

/-- The values the layout of the generation holds. -/
def gatesHeld (generation : Generation) (own : generation.Value) : Gates :=
  ⟨(generation.header own).pendingVoucherCount,
    generation.outstandingLockedAmount (generation.tailOf own),
    generation.borrowed (generation.tailOf own)⟩

/-- The values that a call has compared when it is accepted. -/
def evaluated (call : Call) (gates : Gates) : List ℕ :=
  match call with
  | .finalizeWithdrawal .. =>
      [gates.pendingVoucherCount.val, gates.outstandingLockedAmount.val,
        gates.borrowed.val]
  | .forceRelease .. => [gates.pendingVoucherCount.val]
  | .openStandby .. | .drawCredit .. | .repayCredit .. | .seizeCollateral ..
  | .closeStandby .. => [gates.borrowed.val]
  | _ => []

/-- The data still decodes in the layout of its generation, as the original
vault with the intended changes; the gates used the values of that layout; and
the migration out of the generation reads the same vault. -/
structure Respected (generation : Generation) (call : Call)
    (own : generation.Value) (data after : Bytes) : Prop where
  size : after.length = data.length
  decodes : tryDeserialize generation.layout after =
    .ok (generation.intended call own)
  gates : ∀ seen, tryDeserialize vault data = .ok seen →
    evaluated call (gatesSeen seen) = evaluated call (gatesHeld generation own)
  migratable : readFrozen generation.layout generation.stamp after =
    .ok (generation.intended call own)

/-! ## The condition -/

/-- Where the header ends. -/
def tailStart (header : VaultHeader) : ℕ := 8 + (vaultHeader.encode header).length

/-- Eight bytes as an unsigned integer. -/
def word (data : Bytes) (start : ℕ) : ℕ :=
  fromLittleEndian ((data.drop start).take 8)

/-- Where the encoding that the current layout finds in the data ends. -/
def readEnd (data : Bytes) : ℕ :=
  match vault.decode (data.drop 8) with
  | some (_, rest) => data.length - rest.length
  | none => 0

/-- The bytes of the older encoding that the current layout does not reach
stand at `start` as well. -/
def Repeats (generation : Generation) (own : generation.Value) (data : Bytes)
    (start : ℕ) : Prop :=
  let beyond := 8 + (generation.layout.encode own).length - readEnd data
  (data.drop start).take beyond = (data.drop (readEnd data)).take beyond

instance (generation : Generation) (own : generation.Value) (data : Bytes)
    (start : ℕ) : Decidable (Repeats generation own data start) :=
  inferInstanceAs (Decidable (_ = _))

/-- The call changes neither the credit line of the vault nor the one that the
current layout finds. -/
def Idle (generation : Generation) (call : Call) (own : generation.Value)
    (data : Bytes) : Prop :=
  generation.mapCredit (creditAfter call) (generation.tailOf own) =
      generation.tailOf own ∧
    ∀ found, creditLine.decode
      (data.drop (tailStart (generation.header own) + 25)) = some found →
      creditAfter call found.1 = found.1

/-- Exactly when a call respects the account. -/
def Tolerates (generation : Generation) (call : Call) (own : generation.Value)
    (data : Bytes) : Prop :=
  let start := tailStart (generation.header own)
  match call with
  | .requestWithdrawal .. =>
      (generation.header own).pendingWithdrawal.isSome ∨
        Repeats generation own data (readEnd data + 48)
  | .finalizeWithdrawal .. =>
      word data (start + 1) =
          (generation.outstandingLockedAmount (generation.tailOf own)).val ∧
        word data (start + 25) =
          (generation.borrowed (generation.tailOf own)).val ∧
        Repeats generation own data (readEnd data - 48)
  | .openStandby .. | .drawCredit .. | .repayCredit .. | .seizeCollateral ..
  | .closeStandby .. =>
      generation.hasSession (generation.tailOf own) = false ∨
        (word data (start + 25) =
            (generation.borrowed (generation.tailOf own)).val ∧
          Idle generation call own data)
  | _ => True

/-! ## What the current layout finds -/

section Overlay

variable {generation : Generation} {header : VaultHeader}
  {tail : generation.Tail} {found : CurrentTail} {data rest : Bytes}

theorem length_encode_currentTail_le (found : CurrentTail) :
    (currentTail.encode found).length ≤ 83 :=
  currentTail.length_encode_le found

/-- The two readings of one account agree on the header. -/
structure Overlay (generation : Generation) (header : VaultHeader)
    (tail : generation.Tail) (found : CurrentTail) (data rest : Bytes) :
    Prop where
  data_eq : data = (vaultDiscriminator ++ vaultHeader.encode header) ++
    (currentTail.encode found ++ rest)
  own : generation.tail.encode tail <+: currentTail.encode found ++ rest

theorem exists_overlay {seen : Vault}
    (hencoded : vaultDiscriminator ++
      generation.layout.encode (generation.fields (header, tail)) <+: data)
    (hseen : tryDeserialize vault data = .ok seen) :
    ∃ found rest, seen = vaultFields (header, found) ∧
      Overlay generation header tail found data rest := by
  obtain ⟨⟨seenHeader, found⟩, rfl⟩ := vaultFields.surjective seen
  obtain ⟨rest, hdata⟩ := tryDeserialize_eq_ok_iff.mp hseen
  obtain ⟨slack, hown⟩ := hencoded
  have hparts : vaultHeader.encode seenHeader ++
      (currentTail.encode found ++ rest) =
        vaultHeader.encode header ++ (generation.tail.encode tail ++ slack) := by
    rw [← hown, Generation.encode_layout, List.append_assoc,
      List.append_assoc] at hdata
    rw [← List.append_assoc (vaultHeader.encode header)]
    have hcancel := List.append_cancel_left hdata
    rw [← hcancel]
    exact (List.append_assoc _ _ _).symm
  obtain ⟨rfl, htail⟩ := vaultHeader.encode_append_inj hparts
  refine ⟨found, rest, rfl, ?_, slack, htail.symm⟩
  rw [htail, ← hown, Generation.encode_layout]
  simp only [List.append_assoc]

namespace Overlay

variable (hoverlay : Overlay generation header tail found data rest)

include hoverlay

theorem readEnd_eq : readEnd data =
    (vaultDiscriminator ++ vaultHeader.encode header).length +
      (currentTail.encode found).length := by
  have hdecode : vault.decode (data.drop 8) =
      some (vaultFields (header, found), rest) := by
    rw [vault.decode_eq_some_iff, hoverlay.data_eq, List.append_assoc,
      List.drop_left' (by rfl), ← List.append_assoc]
    rfl
  rw [readEnd, hdecode, hoverlay.data_eq]
  simp only [List.length_append]
  omega

theorem drop_readEnd : data.drop (readEnd data) = rest := by
  rw [hoverlay.readEnd_eq, hoverlay.data_eq, ← List.append_assoc,
    List.drop_left' List.length_append]

theorem beyond_eq :
    8 + (generation.layout.encode (generation.fields (header, tail))).length -
        readEnd data =
      (generation.tail.encode tail).length -
        (currentTail.encode found).length := by
  have hdiscriminator : vaultDiscriminator.length = 8 := rfl
  rw [hoverlay.readEnd_eq, Generation.encode_layout]
  simp only [List.length_append]
  omega

/-- Writing the same current tail behind another front. -/
theorem kept_iff (written : Bytes) :
    written ++ generation.tail.encode tail <+:
        overwrite (written ++ currentTail.encode found) data ↔
      Repeats generation (generation.fields (header, tail)) data
        (written.length + (currentTail.encode found).length) := by
  rw [overwrite_append, List.prefix_append_right_inj,
    prefix_append_iff hoverlay.own, Repeats, hoverlay.beyond_eq,
    hoverlay.drop_readEnd, List.length_append]

/-- A front of the same length leaves the rest where it was. -/
theorem repeats_of_length {written : Bytes} (hlength : written.length =
      (vaultDiscriminator ++ vaultHeader.encode header).length) :
    Repeats generation (generation.fields (header, tail)) data
      (written.length + (currentTail.encode found).length) := by
  rw [Repeats, hlength, ← hoverlay.readEnd_eq]

theorem drop_tail (offset : ℕ) : data.drop (tailStart header + offset) =
    (currentTail.encode found ++ rest).drop offset := by
  have hstart : tailStart header =
      (vaultDiscriminator ++ vaultHeader.encode header).length := by
    rw [tailStart, List.length_append]
    rfl
  rw [hoverlay.data_eq, hstart, List.drop_length_add_append]

theorem drop_credit : data.drop (tailStart header + 25) =
    creditLine.encode found.2.2 ++ rest := by
  rw [hoverlay.drop_tail]
  rfl

theorem decode_credit :
    creditLine.decode (data.drop (tailStart header + 25)) =
      some (found.2.2, rest) := by
  rw [hoverlay.drop_credit, decode_encode_append]

theorem word_borrowed : word data (tailStart header + 25) =
    found.2.2.borrowed.val := by
  rw [word, hoverlay.drop_credit]
  exact @fromLittleEndian_littleEndian 8 _ found.2.2.borrowed.isLt

theorem word_outstandingLockedAmount : word data (tailStart header + 1) =
    found.2.1.outstandingLockedAmount.val := by
  rw [word, hoverlay.drop_tail]
  exact @fromLittleEndian_littleEndian 8 _
    found.2.1.outstandingLockedAmount.isLt

end Overlay

end Overlay

/-! ## What an accepted call leaves -/

section Runs

variable {runtime : Runtime} {call : Call} {vaultKey : Pubkey}
  {state next : State} {generation : Generation} {header : VaultHeader}
  {tail : generation.Tail} {found : CurrentTail} {data after rest : Bytes}

/-- An accepted call on the account, and what it has written. -/
structure Ran (runtime : Runtime) (call : Call) (vaultKey : Pubkey)
    (state : State) (header : VaultHeader) (found : CurrentTail)
    (data after : Bytes) (next : State) : Prop where
  step : step runtime
    (state.write vaultKey (.vault (vaultFields (header, found)))) call = .ok next
  named : tolerantVault call = some vaultKey
  seen : tryDeserialize vault data = .ok (vaultFields (header, found))
  after_eq : after = overwrite
    ((vaultDiscriminator ++ vaultHeader.encode (headerAfter call header)) ++
      currentTail.encode (tailAfter call found)) data
  size : after.length = data.length

theorem runOnImage_ok
    (hencoded : vaultDiscriminator ++
      generation.layout.encode (generation.fields (header, tail)) <+: data)
    (hvault : tolerantVault call = some vaultKey)
    (hrun : runOnImage runtime call vaultKey state data = .ok (next, after)) :
    ∃ found rest, Overlay generation header tail found data rest ∧
      Ran runtime call vaultKey state header found data after next := by
  simp only [runOnImage, bind_eq_ok_iff, okOr_eq_ok_iff, pure_eq_ok_iff,
    Prod.mk.injEq] at hrun
  obtain ⟨seen, hseen, reached, hstep, written, hwritten, image, himage, rfl,
    rfl⟩ := hrun
  obtain ⟨found, rest, rfl, hoverlay⟩ := exists_overlay hencoded hseen
  have hwrites := step_writes hvault State.view_write_self hstep
  obtain rfl := Option.some.inj (hwritten.symm.trans hwrites)
  obtain ⟨hfits, rfl⟩ := trySerialize_eq_ok_iff.mp himage
  refine ⟨found, rest, hoverlay, hstep, hvault, hseen, ?_, length_overwrite hfits⟩
  rw [List.append_assoc]
  rfl

theorem version_headerAfter (call : Call) (header : VaultHeader) :
    (headerAfter call header).version = header.version := by
  cases call <;> rfl

theorem stamped_fields (hstamped : header.version = generation.stamp) :
    Stamped generation.layout (generation.fields (header, tail))
      generation.stamp := by
  rw [Stamped, ← hstamped, Generation.encode_layout]
  exact ⟨_, rfl⟩

/-- The gates apart, a call respects an account if one string is a prefix of
what it leaves. -/
theorem respected_iff_begins (hstamped : header.version = generation.stamp)
    (hran : Ran runtime call vaultKey state header found data after next) :
    Respected generation call (generation.fields (header, tail)) data after ↔
      (vaultDiscriminator ++ vaultHeader.encode (headerAfter call header)) ++
          generation.tail.encode
            (generation.mapCredit (creditAfter call) tail) <+: after ∧
        evaluated call (gatesSeen (vaultFields (header, found))) =
          evaluated call (gatesHeld generation
            (generation.fields (header, tail))) := by
  have hintended : generation.intended call (generation.fields (header, tail)) =
      generation.fields (headerAfter call header,
        generation.mapCredit (creditAfter call) tail) := by
    rw [Generation.intended, Generation.header_fields, Generation.tailOf_fields]
  have hencoded : vaultDiscriminator ++ generation.layout.encode
      (generation.intended call (generation.fields (header, tail))) =
        (vaultDiscriminator ++ vaultHeader.encode (headerAfter call header)) ++
          generation.tail.encode
            (generation.mapCredit (creditAfter call) tail) := by
    rw [hintended, Generation.encode_layout, List.append_assoc]
  constructor
  · intro hrespected
    refine ⟨?_, hrespected.gates _ hran.seen⟩
    rw [← hencoded]
    exact tryDeserialize_eq_ok_iff.mp hrespected.decodes
  · rintro ⟨hbegins, hgates⟩
    rw [← hencoded] at hbegins
    refine ⟨hran.size, tryDeserialize_eq_ok_iff.mpr hbegins, ?_, ?_⟩
    · intro seen hseen
      obtain rfl := Except.ok.inj (hran.seen.symm.trans hseen)
      exact hgates
    · refine (readFrozen_eq_ok_iff ?_).mpr hbegins
      rw [hintended]
      exact stamped_fields ((version_headerAfter call header).trans hstamped)

/-! ## Calls that leave the credit line alone -/

theorem creditAfter_eq_id (hkeeps : movesCredit call = false) :
    creditAfter call = id := by
  cases call <;> first | rfl | cases hkeeps

/-- A call that keeps the credit line respects the encoding exactly if the part
of it that the current layout does not reach is where the new front leaves
it. -/
theorem prefix_iff_repeats
    (hoverlay : Overlay generation header tail found data rest)
    (hran : Ran runtime call vaultKey state header found data after next)
    (hkeeps : movesCredit call = false) :
    (vaultDiscriminator ++ vaultHeader.encode (headerAfter call header)) ++
        generation.tail.encode
          (generation.mapCredit (creditAfter call) tail) <+: after ↔
      Repeats generation (generation.fields (header, tail)) data
        ((vaultDiscriminator ++
            vaultHeader.encode (headerAfter call header)).length +
          (currentTail.encode found).length) := by
  have htail : tailAfter call found = found := by
    rw [tailAfter, creditAfter_eq_id hkeeps]
    rfl
  rw [hran.after_eq, htail, creditAfter_eq_id hkeeps, Generation.mapCredit_id]
  exact hoverlay.kept_iff _

/-- The front that a call writes is as long as the one it found, unless the
call stores or clears a pending withdrawal. -/
theorem length_front_eq (hpending :
      (headerAfter call header).pendingWithdrawal.isSome =
        header.pendingWithdrawal.isSome) :
    (vaultDiscriminator ++ vaultHeader.encode (headerAfter call header)).length =
      (vaultDiscriminator ++ vaultHeader.encode header).length := by
  rw [List.length_append, List.length_append, length_encode_header,
    length_encode_header, hpending]

theorem prefix_of_same_length
    (hoverlay : Overlay generation header tail found data rest)
    (hran : Ran runtime call vaultKey state header found data after next)
    (hkeeps : movesCredit call = false)
    (hpending : (headerAfter call header).pendingWithdrawal.isSome =
      header.pendingWithdrawal.isSome) :
    (vaultDiscriminator ++ vaultHeader.encode (headerAfter call header)) ++
      generation.tail.encode
        (generation.mapCredit (creditAfter call) tail) <+: after :=
  (prefix_iff_repeats hoverlay hran hkeeps).mpr
    (hoverlay.repeats_of_length (length_front_eq hpending))

/-- The rest of the header may change freely. -/
theorem respected_of_rewrite
    (hoverlay : Overlay generation header tail found data rest)
    (hstamped : header.version = generation.stamp)
    (hran : Ran runtime call vaultKey state header found data after next)
    (hkeeps : movesCredit call = false)
    (hpending : (headerAfter call header).pendingWithdrawal.isSome =
      header.pendingWithdrawal.isSome)
    (hgates : evaluated call (gatesSeen (vaultFields (header, found))) =
      evaluated call (gatesHeld generation
        (generation.fields (header, tail)))) :
    Respected generation call (generation.fields (header, tail)) data after :=
  (respected_iff_begins hstamped hran).mpr
    ⟨prefix_of_same_length hoverlay hran hkeeps hpending, hgates⟩

theorem request_respected_iff {context : Context} {key : Pubkey}
    {args : RequestWithdrawalArgs}
    (hoverlay : Overlay generation header tail found data rest)
    (hstamped : header.version = generation.stamp)
    (hran : Ran runtime (.requestWithdrawal context key args) vaultKey state
      header found data after next) :
    Respected generation (.requestWithdrawal context key args)
        (generation.fields (header, tail)) data after ↔
      Tolerates generation (.requestWithdrawal context key args)
        (generation.fields (header, tail)) data := by
  rw [Tolerates, Generation.header_fields]
  cases hpending : header.pendingWithdrawal with
  | some pending =>
      refine iff_of_true ?_ (.inl rfl)
      apply respected_of_rewrite hoverlay hstamped hran rfl _ rfl
      rw [hpending]
      rfl
  | none =>
      -- A request on a vault without one makes the header 48 bytes longer.
      have hfront : (vaultDiscriminator ++ vaultHeader.encode (headerAfter
          (.requestWithdrawal context key args) header)).length =
          (vaultDiscriminator ++ vaultHeader.encode header).length + 48 := by
        simp only [List.length_append, length_encode_header, hpending,
          headerAfter, Option.isSome_some, Option.isSome_none, if_true]
        rfl
      have hstart : (vaultDiscriminator ++ vaultHeader.encode (headerAfter
          (.requestWithdrawal context key args) header)).length +
          (currentTail.encode found).length = readEnd data + 48 := by
        rw [hoverlay.readEnd_eq, hfront]
        omega
      rw [respected_iff_begins hstamped hran, prefix_iff_repeats hoverlay hran rfl,
        hstart]
      simp [evaluated]

theorem finalize_respected_iff {context : Context}
    {accounts : FinalizeWithdrawal} {args : Webauthn.Assertion}
    (hoverlay : Overlay generation header tail found data rest)
    (hstamped : header.version = generation.stamp)
    (hran : Ran runtime (.finalizeWithdrawal context accounts args) vaultKey state
      header found data after next) :
    Respected generation (.finalizeWithdrawal context accounts args)
        (generation.fields (header, tail)) data after ↔
      Tolerates generation (.finalizeWithdrawal context accounts args)
        (generation.fields (header, tail)) data := by
  obtain rfl : accounts.vault = vaultKey := Option.some.inj hran.named
  obtain ⟨seen, pending, _, hfinalized, -⟩ := finalizeWithdrawal_ok hran.step
  obtain rfl : vaultFields (header, found) = seen :=
    Option.some.inj (State.view_write_self.symm.trans hfinalized.vaultAt)
  have hpending : header.pendingWithdrawal = some pending := hfinalized.requested
  -- The withdrawal it clears makes the header 48 bytes shorter.
  have hfront : (vaultDiscriminator ++ vaultHeader.encode (headerAfter
      (.finalizeWithdrawal context accounts args) header)).length + 48 =
      (vaultDiscriminator ++ vaultHeader.encode header).length := by
    simp only [List.length_append, length_encode_header, hpending, headerAfter,
      Option.isSome_some, Option.isSome_none, if_true]
    rfl
  have hstart : (vaultDiscriminator ++ vaultHeader.encode (headerAfter
      (.finalizeWithdrawal context accounts args) header)).length +
      (currentTail.encode found).length = readEnd data - 48 := by
    rw [hoverlay.readEnd_eq, ← hfront]
    omega
  rw [respected_iff_begins hstamped hran, prefix_iff_repeats hoverlay hran rfl,
    hstart, Tolerates, Generation.header_fields, Generation.tailOf_fields,
    hoverlay.word_outstandingLockedAmount, hoverlay.word_borrowed]
  simp only [evaluated, gatesSeen, gatesHeld, Generation.header_fields,
    Generation.tailOf_fields, List.cons.injEq, and_true]
  constructor
  · rintro ⟨hrepeats, -, houtstanding, hborrowed⟩
    exact ⟨houtstanding, hborrowed, hrepeats⟩
  · rintro ⟨houtstanding, hborrowed, hrepeats⟩
    exact ⟨hrepeats, rfl, houtstanding, hborrowed⟩

/-! ## Calls that move credit -/

theorem headerAfter_eq (hmoves : movesCredit call = true)
    (header : VaultHeader) : headerAfter call header = header := by
  cases call <;> first | rfl | cases hmoves

/-- The guard of these calls admits no generation before V5. -/
theorem eq_v5_of_movesCredit (hstamped : header.version = generation.stamp)
    (hran : Ran runtime call vaultKey state header found data after next)
    (hmoves : movesCredit call = true) : generation = .v5 := by
  apply Generation.eq_v5_of_stamp
  rw [← hstamped]
  exact version_of_movesCredit hran.named State.view_write_self hmoves hran.step

theorem evaluated_eq (hmoves : movesCredit call = true) (gates : Gates) :
    evaluated call gates = [gates.borrowed.val] := by
  cases call <;> first | rfl | cases hmoves

theorem tolerates_iff (hmoves : movesCredit call = true)
    {own : generation.Value} :
    Tolerates generation call own data ↔
      generation.hasSession (generation.tailOf own) = false ∨
        (word data (tailStart (generation.header own) + 25) =
            (generation.borrowed (generation.tailOf own)).val ∧
          Idle generation call own data) := by
  cases call <;> first | rfl | cases hmoves

section V5

variable {odometers : LockOdometers} {credit : CreditLine}
  {session : SessionRegistration}

/-- Without a session the two layouts have the same encodings, with a count of
zero. -/
theorem encode_without_session :
    Generation.v5.tail.encode (none, odometers, credit) =
      currentTail.encode (0, odometers, credit) := rfl

/-- The session is longer than everything the current layout reads. -/
theorem prefix_session
    (hbegins : currentTail.encode found <+:
      Generation.v5.tail.encode (some session, odometers, credit) ++ rest) :
    currentTail.encode found <+: 1 :: sessionRegistration.encode session := by
  have hsession : 1 :: sessionRegistration.encode session <+:
      Generation.v5.tail.encode (some session, odometers, credit) ++ rest :=
    ⟨lockOdometers.encode odometers ++ creditLine.encode credit ++ rest, by
      simp [Generation.tail]⟩
  apply List.prefix_of_prefix_length_le hbegins hsession
  have hshort := length_encode_currentTail_le found
  simp [sessionRegistration]
  omega

/-- A V5 vault without a session takes every call. -/
theorem respected_without_session
    (hoverlay : Overlay .v5 header (none, odometers, credit) found data rest)
    (hstamped : header.version = Generation.v5.stamp)
    (hran : Ran runtime call vaultKey state header found data after next) :
    Respected .v5 call
      (Generation.v5.fields (header, none, odometers, credit)) data after := by
  obtain rfl : found = (0, odometers, credit) :=
    currentTail.eq_of_prefix (List.prefix_append _ _)
      (encode_without_session ▸ hoverlay.own)
  refine (respected_iff_begins hstamped hran).mpr ⟨?_, ?_⟩
  · rw [hran.after_eq]
    exact List.prefix_append _ _
  · rfl

theorem idle_iff
    (hoverlay : Overlay .v5 header (some session, odometers, credit) found data
      rest) :
    Idle .v5 call
        (Generation.v5.fields (header, some session, odometers, credit)) data ↔
      creditAfter call credit = credit ∧
        creditAfter call found.2.2 = found.2.2 := by
  rw [Idle, Generation.header_fields, Generation.tailOf_fields,
    hoverlay.decode_credit]
  constructor
  · rintro ⟨hown, hfound⟩
    exact ⟨congrArg (fun tail => tail.2.2) hown, hfound _ rfl⟩
  · rintro ⟨hown, hfound⟩
    refine ⟨?_, fun _ hsome => Option.some.inj hsome ▸ hfound⟩
    rw [Generation.mapCredit, hown]

/-- With a session, nothing may change. -/
theorem prefix_iff_idle
    (hoverlay : Overlay .v5 header (some session, odometers, credit) found data
      rest)
    (hran : Ran runtime call vaultKey state header found data after next)
    (hmoves : movesCredit call = true) :
    (vaultDiscriminator ++ vaultHeader.encode (headerAfter call header)) ++
        Generation.v5.tail.encode (some session, odometers,
          creditAfter call credit) <+: after ↔
      creditAfter call credit = credit ∧
        creditAfter call found.2.2 = found.2.2 := by
  rw [hran.after_eq, headerAfter_eq hmoves]
  constructor
  · intro hbegins
    rw [overwrite_append, List.prefix_append_right_inj] at hbegins
    -- Both current tails fit into the session, so they are the same.
    have hfits : currentTail.encode found <+:
        1 :: sessionRegistration.encode session := by
      obtain ⟨slack, hown⟩ := hoverlay.own
      exact prefix_session ⟨rest, hown.symm⟩
    have hfitsAfter : currentTail.encode (tailAfter call found) <+:
        1 :: sessionRegistration.encode session := by
      obtain ⟨slack, hafter⟩ := hbegins
      exact prefix_session ⟨_, hafter.symm⟩
    have htail : tailAfter call found = found :=
      currentTail.eq_of_prefix hfitsAfter hfits
    have hfound : creditAfter call found.2.2 = found.2.2 :=
      congrArg (fun tail : CurrentTail => tail.2.2) htail
    have hrest : data.drop (vaultDiscriminator ++ vaultHeader.encode header ++
        currentTail.encode found).length = rest := by
      rw [List.length_append, ← hoverlay.readEnd_eq, hoverlay.drop_readEnd]
    rw [htail, hrest] at hbegins
    have hsame := Generation.v5.tail.eq_of_prefix hbegins hoverlay.own
    exact ⟨congrArg (fun tail => tail.2.2) hsame, hfound⟩
  · rintro ⟨hown, hfound⟩
    have htail : tailAfter call found = found := by
      rw [tailAfter, hfound]
    rw [hown, htail, hoverlay.data_eq, overwrite_append_of_length rfl,
      List.prefix_append_right_inj]
    exact hoverlay.own

end V5

theorem credit_respected_iff
    (hoverlay : Overlay generation header tail found data rest)
    (hstamped : header.version = generation.stamp)
    (hran : Ran runtime call vaultKey state header found data after next)
    (hmoves : movesCredit call = true) :
    Respected generation call (generation.fields (header, tail)) data after ↔
      Tolerates generation call (generation.fields (header, tail)) data := by
  obtain rfl := eq_v5_of_movesCredit hstamped hran hmoves
  rw [tolerates_iff hmoves]
  obtain ⟨activeSession, odometers, credit⟩ := tail
  cases activeSession with
  | none =>
      refine iff_of_true ?_ (.inl rfl)
      exact respected_without_session hoverlay hstamped hran
  | some session =>
      rw [respected_iff_begins hstamped hran, evaluated_eq hmoves,
        evaluated_eq hmoves, List.cons.injEq, Generation.header_fields,
        Generation.tailOf_fields, hoverlay.word_borrowed]
      refine (and_congr_left' (prefix_iff_idle hoverlay hran hmoves)).trans ?_
      constructor
      · rintro ⟨hidle, hborrowed, -⟩
        exact .inr ⟨hborrowed, (idle_iff hoverlay).mpr hidle⟩
      · rintro (hnone | ⟨hborrowed, hidle⟩)
        · cases hnone
        · exact ⟨(idle_iff hoverlay).mp hidle, hborrowed, rfl⟩

/-- An accepted call on a vault of an older generation respects its layout if
and only if it is one that the account tolerates. -/
theorem respected_iff {own : generation.Value}
    (hstored : Stored generation own data)
    (hvault : tolerantVault call = some vaultKey)
    (hrun : runOnImage runtime call vaultKey state data = .ok (next, after)) :
    Respected generation call own data after ↔
      Tolerates generation call own data := by
  obtain ⟨⟨header, tail⟩, rfl⟩ := generation.fields.surjective own
  have hstamped : header.version = generation.stamp := by
    rw [← hstored.stamped, Generation.header_fields]
  obtain ⟨found, rest, hoverlay, hran⟩ :=
    runOnImage_ok hstored.encoded hvault hrun
  cases hmoves : movesCredit call with
  | true => exact credit_respected_iff hoverlay hstamped hran hmoves
  | false =>
      have hrewrite := respected_of_rewrite hoverlay hstamped hran hmoves
      cases call with
      | requestWithdrawal => exact request_respected_iff hoverlay hstamped hran
      | finalizeWithdrawal => exact finalize_respected_iff hoverlay hstamped hran
      | forceRelease =>
          refine iff_of_true (hrewrite rfl ?_) trivial
          rw [evaluated, gatesHeld, Generation.header_fields]
          rfl
      | setSwig | setSwigAtomic | rotatePasskey | rotateDexterAuthority
      | provePasskey => exact iff_of_true (hrewrite rfl rfl) trivial
      | openStandby | drawCredit | repayCredit | seizeCollateral
      | closeStandby => cases hmoves
      | _ => cases hvault

end Runs

/-! ## A request on V5 vaults with and without a session -/

section Examples

open Deployment

/-- A session whose cap and expiry begin with a zero byte, so that the current
layout finds two empty options in it. -/
def heldSession : SessionRegistration where
  sessionPubkey := sessionPubkey
  maxAmount := 25600
  expiresAt := I64.saturate 0x6b000000
  allowedCounterparty := seller
  nonce := 1
  spent := 0
  currentOutstanding := 0
  maxRevolvingCapacity := 0
  crystallizedCumulative := 0
  lastLockedSequence := 0

def vaultWith (activeSession : Option SessionRegistration) : VaultV5Reader where
  version := vaultVersionV5
  bump := 255
  passkeyPubkey := passkey
  swigAddress := swig
  coolingOffSeconds := 0
  pendingVoucherCount := 0
  pendingWithdrawal := none
  identityClaim := identityClaim
  dexterAuthority := authority
  activeSession := activeSession
  outstandingLockedAmount := 0
  totalCrystallizedAmount := 0
  totalSettledAmount := 0
  borrowed := 0
  standbyBacker := none
  standbyCap := 0
  borrowRecoveryAt := none

/-- An account of the vault, with zeros behind the encoding. -/
def accountOf (own : VaultV5Reader) : Bytes :=
  resize (8 + vaultV5Reader.space) (vaultDiscriminator ++ vaultV5Reader.encode own)

def accountWith (activeSession : Option SessionRegistration) : Bytes :=
  accountOf (vaultWith activeSession)

theorem accountOf_stored {own : VaultV5Reader}
    (hversion : own.version = vaultVersionV5) :
    Stored .v5 own (accountOf own) where
  roomy := (length_resize _ _).ge
  encoded := by
    apply prefix_resize (List.prefix_refl _)
    rw [List.length_append]
    exact Nat.add_le_add_left (vaultV5Reader.length_encode_le _) 8
  stamped := hversion

/-- The vault with a session, and with a withdrawal that the request replaces. -/
def askedVault : VaultV5Reader :=
  { vaultWith (some heldSession) with
    pendingWithdrawal := some ⟨25, seller, I64.saturate 900⟩ }

theorem exists_ok_of_isOk {Value : Type} {result : Result Value}
    (hok : result.isOk = true) : ∃ value, result = .ok value := by
  cases result with
  | ok value => exact ⟨value, rfl⟩
  | error error => cases hok

theorem respected_iff_request : ∃ next after,
    runOnImage sampleRuntime (requestAt now) Deployment.vaultKey funded
        (accountOf askedVault) = .ok (next, after) ∧
      Respected .v5 (requestAt now) askedVault (accountOf askedVault) after := by
  have haccepted : (runOnImage sampleRuntime (requestAt now) Deployment.vaultKey
      funded (accountOf askedVault)).isOk = true := by decide +kernel
  obtain ⟨⟨next, after⟩, hrun⟩ := exists_ok_of_isOk haccepted
  have hstored : Stored .v5 askedVault (accountOf askedVault) :=
    accountOf_stored rfl
  refine ⟨next, after, hrun, ?_⟩
  apply (respected_iff hstored rfl hrun).mpr
  exact .inl rfl

/-- The bytes of the session behind the ones that move stay where they were, and
the account no longer decodes as the vault with the request. -/
theorem request_breaks_session : ∃ next after,
    Stored .v5 (vaultWith (some heldSession)) (accountWith (some heldSession)) ∧
      runOnImage sampleRuntime (requestAt now) Deployment.vaultKey funded
        (accountWith (some heldSession)) = .ok (next, after) ∧
      ¬ Respected .v5 (requestAt now) (vaultWith (some heldSession))
        (accountWith (some heldSession)) after := by
  have haccepted : (runOnImage sampleRuntime (requestAt now) Deployment.vaultKey
      funded (accountWith (some heldSession))).isOk = true := by decide +kernel
  obtain ⟨⟨next, after⟩, hrun⟩ := exists_ok_of_isOk haccepted
  refine ⟨next, after, accountOf_stored rfl, hrun, fun hrespected => ?_⟩
  obtain ⟨found, rest, hoverlay, hran⟩ := @runOnImage_ok _ _ _ _ _ .v5
    (Generation.v5.header (vaultWith (some heldSession)))
    (Generation.v5.tailOf (vaultWith (some heldSession))) _ _
    (accountOf_stored rfl).encoded rfl hrun
  rcases (request_respected_iff hoverlay rfl hran).mp hrespected with
    hpending | hrepeats
  · cases hpending
  · exact absurd hrepeats (by decide +kernel)

end Examples

end DexterVault.Tolerance
