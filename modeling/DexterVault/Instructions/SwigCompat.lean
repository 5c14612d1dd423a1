import DexterVault.Core.Records
import DexterVault.Instructions.Setup

/-!
# The bytes that reach the Swig program

`set_swig_atomic` assembles four instructions of the Swig program by hand: one
that creates the swig and three that add a role each.  The writers here are the
ones of `swig_compat.rs` and of the handler; the readers say what the layout is
for.  Whatever authorities and actions are written, the readers find them again.

Permission codes, authority codes and the bodies of the actions come from the
crate of the Swig state and are parameters.
-/

namespace DexterVault.SwigCompat

open DexterVault.Machine
open DexterVault.Framing
open DexterVault.Borsh
open DexterVault.Borsh.Codec
open DexterVault.Records
open DexterVault.Accounts
open DexterVault.Execution
open DexterVault.Webauthn

/-! ## The crate of the Swig state -/

inductive AuthorityType
  | ed25519
  | ed25519Session
  | programExec
  deriving DecidableEq

inductive Permission
  | manageAuthority
  | all
  | programAll
  | tokenLimit
  deriving DecidableEq

/-- The four actions that are emitted. -/
inductive ClientActionCompat
  | manageAuthority
  | all
  | programAll
  | tokenLimit (tokenMint : FixedBytes 32) (currentAmount : U64)
  deriving DecidableEq

def ClientActionCompat.permission : ClientActionCompat → Permission
  | .manageAuthority => .manageAuthority
  | .all => .all
  | .programAll => .programAll
  | .tokenLimit _ _ => .tokenLimit

/-- The codes of two enums with `#[repr(u16)]` and the memory images of the
actions.  Codes are distinct, an image determines its action, and the length of
an image fits the header. -/
structure SwigState where
  authorityCode : AuthorityType → U16
  authorityOf : U16 → Option AuthorityType
  authorityOf_code : ∀ authority, authorityOf (authorityCode authority) =
    some authority
  permissionCode : Permission → U16
  intoBytes : ClientActionCompat → Bytes
  actionOf : U16 → Bytes → Option ClientActionCompat
  actionOf_bytes : ∀ action,
    actionOf (permissionCode action.permission) (intoBytes action) = some action
  length_intoBytes : ∀ action, (intoBytes action).length < 2 ^ 10

/-! ## The args structs -/

def swigIxCreateV1 : U16 := 0
def swigIxAddAuthorityV1 : U16 := 1

/-- `#[repr(C, align(8))]`, without padding between the fields. -/
structure CreateV1ArgsCompat where
  discriminator : U16
  authorityType : U16
  authorityDataLen : U16
  bump : U8
  walletAddressBump : U8
  id : FixedBytes 32
  deriving DecidableEq

def createV1ArgsCompat : Codec CreateV1ArgsCompat :=
  (u16.prod (u16.prod (u16.prod (u8.prod (u8.prod (array 32)))))).equiv
    { toFun := fun (discriminator, authorityType, authorityDataLen, bump,
        walletAddressBump, id) =>
        ⟨discriminator, authorityType, authorityDataLen, bump,
          walletAddressBump, id⟩
      invFun := fun args =>
        (args.discriminator, args.authorityType, args.authorityDataLen,
          args.bump, args.walletAddressBump, args.id)
      left_inv := fun _ => rfl
      right_inv := fun _ => rfl }

structure AddAuthorityV1ArgsCompat where
  discriminator : U16
  newAuthorityDataLen : U16
  actionsDataLen : U16
  newAuthorityType : U16
  numActions : U8
  padding : FixedBytes 3
  actingRoleId : U32
  deriving DecidableEq

def addAuthorityV1ArgsCompat : Codec AddAuthorityV1ArgsCompat :=
  (u16.prod (u16.prod (u16.prod (u16.prod (u8.prod ((array 3).prod
    u32)))))).equiv
    { toFun := fun (discriminator, newAuthorityDataLen, actionsDataLen,
        newAuthorityType, numActions, padding, actingRoleId) =>
        ⟨discriminator, newAuthorityDataLen, actionsDataLen, newAuthorityType,
          numActions, padding, actingRoleId⟩
      invFun := fun args =>
        (args.discriminator, args.newAuthorityDataLen, args.actionsDataLen,
          args.newAuthorityType, args.numActions, args.padding,
          args.actingRoleId)
      left_inv := fun _ => rfl
      right_inv := fun _ => rfl }

/-! ## The writers -/

section Writers

variable (swig : SwigState)

def ClientActionCompat.record (action : ClientActionCompat) : Record :=
  ⟨swig.permissionCode action.permission, swig.intoBytes action⟩

/-- `ClientActionCompat::write` for one action after the other. -/
def writeActions (actions : List ClientActionCompat) : Result Bytes :=
  okOr (writeAll (actions.map (ClientActionCompat.record swig)))
    RuntimeError.arithmeticOverflow

/-- What a `CreateV1` instruction says. -/
structure CreateV1 where
  id : FixedBytes 32
  swigBump : U8
  walletAddressBump : U8
  authorityType : AuthorityType
  authority : Bytes
  actions : List ClientActionCompat
  deriving DecidableEq

/-- `CreateV1ArgsCompat::new`. -/
def CreateV1.args (create : CreateV1) : CreateV1ArgsCompat where
  discriminator := swigIxCreateV1
  authorityType := swig.authorityCode create.authorityType
  authorityDataLen := Fin.ofNat (2 ^ 16) create.authority.length
  bump := create.swigBump
  walletAddressBump := create.walletAddressBump
  id := create.id

def buildCreateV1Data (create : CreateV1) : Result Bytes := do
  let actionBytes ← writeActions swig create.actions
  return createV1ArgsCompat.encode (create.args swig) ++
    (create.authority ++ actionBytes)

/-- What an `AddAuthorityV1` instruction under an Ed25519 signer says. -/
structure AddAuthorityV1 where
  actingRoleId : U32
  newAuthorityType : AuthorityType
  newAuthority : Bytes
  actions : List ClientActionCompat
  authorityAccountIndex : U8
  deriving DecidableEq

/-- `AddAuthorityV1ArgsCompat::new`. -/
def AddAuthorityV1.args (add : AddAuthorityV1) (actionBytes : Bytes) :
    AddAuthorityV1ArgsCompat where
  discriminator := swigIxAddAuthorityV1
  newAuthorityDataLen := Fin.ofNat (2 ^ 16) add.newAuthority.length
  actionsDataLen := Fin.ofNat (2 ^ 16) actionBytes.length
  newAuthorityType := swig.authorityCode add.newAuthorityType
  numActions := Fin.ofNat 256 add.actions.length
  padding := FixedBytes.zero
  actingRoleId := add.actingRoleId

def buildAddAuthorityV1Ed25519ActingData (add : AddAuthorityV1) :
    Result Bytes := do
  let actionBytes ← writeActions swig add.actions
  return addAuthorityV1ArgsCompat.encode (add.args swig actionBytes) ++
    (add.newAuthority ++ (actionBytes ++ [add.authorityAccountIndex]))

end Writers

/-! ## The authorities -/

def programExecMaxPrefixLen : ℕ := 40

/-- The program id, the length of the marker, seven bytes of padding, and the
marker itself, cut or filled up to its field. -/
def buildProgramExecAuthorityBytes (programId : Pubkey) (marker : Bytes) :
    Bytes :=
  let markerLen := min marker.length programExecMaxPrefixLen
  programId.toList ++ (Fin.ofNat 256 markerLen :: (List.replicate 7 0 ++
    resize programExecMaxPrefixLen (marker.take markerLen)))

/-- Who may act under a role. -/
inductive Authority
  | ed25519 (publicKey : Pubkey)
  | ed25519Session (publicKey sessionKey : Pubkey) (maxSessionLength : U64)
  | programExec (programId : Pubkey) (marker : Bytes)
  deriving DecidableEq

namespace Authority

def authorityType : Authority → AuthorityType
  | .ed25519 _ => .ed25519
  | .ed25519Session _ _ _ => .ed25519Session
  | .programExec _ _ => .programExec

def bytes : Authority → Bytes
  | .ed25519 publicKey => publicKey.toList
  | .ed25519Session publicKey sessionKey maxSessionLength =>
      publicKey.toList ++ (sessionKey.toList ++ encodeU64 maxSessionLength)
  | .programExec programId marker =>
      buildProgramExecAuthorityBytes programId marker

/-- The marker is not cut. -/
def Fits : Authority → Prop
  | .programExec _ marker => marker.length ≤ programExecMaxPrefixLen
  | _ => True

end Authority

/-- An instruction of the Swig program. -/
inductive SwigMessage
  | createV1 (id : FixedBytes 32) (swigBump walletAddressBump : U8)
      (authority : Authority) (actions : List ClientActionCompat)
  | addAuthorityV1 (actingRoleId : U32) (newAuthority : Authority)
      (actions : List ClientActionCompat) (authorityAccountIndex : U8)
  deriving DecidableEq

def SwigMessage.build (swig : SwigState) : SwigMessage → Result Bytes
  | .createV1 id swigBump walletAddressBump authority actions =>
      buildCreateV1Data swig ⟨id, swigBump, walletAddressBump,
        authority.authorityType, authority.bytes, actions⟩
  | .addAuthorityV1 actingRoleId newAuthority actions authorityAccountIndex =>
      buildAddAuthorityV1Ed25519ActingData swig ⟨actingRoleId,
        newAuthority.authorityType, newAuthority.bytes, actions,
        authorityAccountIndex⟩

/-! ## The readers -/

section Readers

variable (swig : SwigState)

def readActions (data : Bytes) : Option (List ClientActionCompat) := do
  let records ← readAll data
  records.mapM fun record => swig.actionOf record.kind record.body

/-- The authority is as long as the args say, the actions are the rest. -/
def readCreateV1 (data : Bytes) : Option CreateV1 := do
  let (args, rest) ← createV1ArgsCompat.decode data
  let authorityType ← swig.authorityOf args.authorityType
  let actions ← readActions swig (rest.drop args.authorityDataLen.val)
  return {
    id := args.id
    swigBump := args.bump
    walletAddressBump := args.walletAddressBump
    authorityType := authorityType
    authority := rest.take args.authorityDataLen.val
    actions := actions }

/-- Behind the authority come actions of the stated length and number, and the
index of the signer. -/
def readAddAuthorityV1 (data : Bytes) : Option AddAuthorityV1 := do
  let (args, rest) ← addAuthorityV1ArgsCompat.decode data
  let authorityType ← swig.authorityOf args.newAuthorityType
  let behind := rest.drop args.newAuthorityDataLen.val
  let actions ← readActions swig (behind.take args.actionsDataLen.val)
  let index ← (behind.drop args.actionsDataLen.val).head?
  if actions.length ≠ args.numActions.val then none
  else
    return {
      actingRoleId := args.actingRoleId
      newAuthorityType := authorityType
      newAuthority := rest.take args.newAuthorityDataLen.val
      actions := actions
      authorityAccountIndex := index }

/-- `CreateEd25519SessionAuthority` and `ProgramExecAuthority` by their fields. -/
def ed25519SessionAuthority : Codec (Pubkey × Pubkey × U64) :=
  (array 32).prod ((array 32).prod u64)

def programExecAuthority :
    Codec (Pubkey × U8 × FixedBytes 7 × FixedBytes programExecMaxPrefixLen) :=
  (array 32).prod (u8.prod ((array 7).prod (array programExecMaxPrefixLen)))

/-- The authority of a type that takes up all the bytes. -/
def readAuthority (authorityType : AuthorityType) (data : Bytes) :
    Option Authority :=
  match authorityType with
  | .ed25519 =>
      match (array 32).decode data with
      | some (publicKey, []) => some (.ed25519 publicKey)
      | _ => none
  | .ed25519Session =>
      match ed25519SessionAuthority.decode data with
      | some ((publicKey, sessionKey, maxSessionLength), []) =>
          some (.ed25519Session publicKey sessionKey maxSessionLength)
      | _ => none
  | .programExec =>
      match programExecAuthority.decode data with
      | some ((programId, markerLen, _, marker), []) =>
          some (.programExec programId (marker.toList.take markerLen.val))
      | _ => none

/-- The discriminator says how the rest is laid out. -/
def SwigMessage.read (data : Bytes) : Option SwigMessage := do
  let (discriminator, _) ← u16.decode data
  if discriminator = swigIxCreateV1 then do
    let create ← readCreateV1 swig data
    let authority ← readAuthority create.authorityType create.authority
    return .createV1 create.id create.swigBump create.walletAddressBump authority
      create.actions
  else if discriminator = swigIxAddAuthorityV1 then do
    let add ← readAddAuthorityV1 swig data
    let authority ← readAuthority add.newAuthorityType add.newAuthority
    return .addAuthorityV1 add.actingRoleId authority add.actions
      add.authorityAccountIndex
  else none

end Readers

/-! ## What is written is read -/

section RoundTrips

variable {swig : SwigState} {actions : List ClientActionCompat}

/-- The bytes that actions take. -/
def actionsSize (swig : SwigState) (actions : List ClientActionCompat) : ℕ :=
  bytesOf (actions.map (ClientActionCompat.record swig))

theorem mapM_record :
    (actions.map (ClientActionCompat.record swig)).mapM
        (fun record => swig.actionOf record.kind record.body) =
      some actions := by
  induction actions with
  | nil => rfl
  | cons action actions ih =>
      rw [List.map_cons, List.mapM_cons, ih, ClientActionCompat.record,
        swig.actionOf_bytes]
      rfl

theorem writeActions_read (hsize : actionsSize swig actions < 2 ^ 16) :
    ∃ data, writeActions swig actions = .ok data ∧
      data.length = actionsSize swig actions ∧
      readActions swig data = some actions := by
  have hbodies : ∀ record ∈ actions.map (ClientActionCompat.record swig),
      record.body.length < 2 ^ 16 := by
    intro record hmem
    obtain ⟨action, -, rfl⟩ := List.mem_map.mp hmem
    have hbody := swig.length_intoBytes action
    show (swig.intoBytes action).length < 2 ^ 16
    omega
  have hfits : bytesOf (actions.map (ClientActionCompat.record swig)) < 2 ^ 32 :=
    Nat.lt_trans hsize (by decide)
  obtain ⟨data, hwritten, hlength, hread⟩ := readAll_writeAll hbodies hfits
  refine ⟨data, okOr_eq_ok_iff.mpr hwritten, hlength, ?_⟩
  rw [readActions, hread, Option.bind_eq_bind, Option.bind_some, mapM_record]

/-- A `CreateV1` instruction, whatever its authority and its actions. -/
theorem readCreateV1_build (create : CreateV1)
    (hauthority : create.authority.length < 2 ^ 16)
    (hactions : actionsSize swig create.actions < 2 ^ 16) :
    ∃ data, buildCreateV1Data swig create = .ok data ∧
      (∃ rest, u16.decode data = some (swigIxCreateV1, rest)) ∧
        readCreateV1 swig data = some create := by
  obtain ⟨actionBytes, hwritten, -, hread⟩ := writeActions_read hactions
  refine ⟨createV1ArgsCompat.encode (create.args swig) ++
    (create.authority ++ actionBytes), ?_, ?_, ?_⟩
  · rw [buildCreateV1Data, hwritten]
    rfl
  · exact ⟨_, u16.decode_eq_some_iff.mpr (List.append_assoc ..)⟩
  have hlength : create.authority.length % 2 ^ 16 = create.authority.length :=
    Nat.mod_eq_of_lt hauthority
  simp only [readCreateV1, CreateV1.args, decode_encode_append, Option.bind_eq_bind,
    Option.bind_some, swig.authorityOf_code, Fin.val_ofNat, hlength, List.drop_left,
    List.take_left, hread, Option.pure_def]

/-- An `AddAuthorityV1` instruction, whatever its authority and its actions. -/
theorem readAddAuthorityV1_build (add : AddAuthorityV1)
    (hauthority : add.newAuthority.length < 2 ^ 16)
    (hactions : actionsSize swig add.actions < 2 ^ 16)
    (hnumber : add.actions.length < 256) :
    ∃ data, buildAddAuthorityV1Ed25519ActingData swig add = .ok data ∧
      (∃ rest, u16.decode data = some (swigIxAddAuthorityV1, rest)) ∧
        readAddAuthorityV1 swig data = some add := by
  obtain ⟨actionBytes, hwritten, hsize, hread⟩ := writeActions_read hactions
  refine ⟨addAuthorityV1ArgsCompat.encode (add.args swig actionBytes) ++
    (add.newAuthority ++ (actionBytes ++ [add.authorityAccountIndex])), ?_,
      ?_, ?_⟩
  · rw [buildAddAuthorityV1Ed25519ActingData, hwritten]
    rfl
  · exact ⟨_, u16.decode_eq_some_iff.mpr (List.append_assoc ..)⟩
  have hlength : add.newAuthority.length % 2 ^ 16 = add.newAuthority.length :=
    Nat.mod_eq_of_lt hauthority
  have hbytes : actionBytes.length % 2 ^ 16 = actionBytes.length :=
    Nat.mod_eq_of_lt (hsize ▸ hactions)
  have hcount : add.actions.length % 256 = add.actions.length :=
    Nat.mod_eq_of_lt hnumber
  simp only [readAddAuthorityV1, AddAuthorityV1.args, decode_encode_append, Option.bind_eq_bind,
    Option.bind_some, ne_eq, not_true_eq_false, if_false, swig.authorityOf_code,
    Fin.val_ofNat, hlength, hbytes, hcount, List.drop_left, List.take_left, hread,
    List.head?_cons, Option.pure_def]

/-- Of the marker, the first forty bytes arrive. -/
theorem readAuthority_programExec (programId : Pubkey) (marker : Bytes) :
    readAuthority .programExec (buildProgramExecAuthorityBytes programId marker) =
      some (.programExec programId (marker.take programExecMaxPrefixLen)) := by
  let cut := marker.take programExecMaxPrefixLen
  have hmin : min marker.length programExecMaxPrefixLen = cut.length := by
    rw [List.length_take, Nat.min_comm]
  have htake : marker.take cut.length = cut := by
    rw [List.length_take, ← List.take_eq_take_min]
  have hbytes : buildProgramExecAuthorityBytes programId marker =
      programExecAuthority.encode (programId, Fin.ofNat 256 cut.length,
        FixedBytes.zero, ⟨resize programExecMaxPrefixLen cut,
          length_resize programExecMaxPrefixLen cut⟩) := by
    simp only [buildProgramExecAuthorityBytes, hmin, htake]
    rfl
  have hlength : cut.length ≤ programExecMaxPrefixLen :=
    List.length_take_le programExecMaxPrefixLen marker
  have hsmall : cut.length < 256 := Nat.lt_of_le_of_lt hlength (by decide)
  have hread : (resize programExecMaxPrefixLen cut).take (cut.length % 256) =
      cut := by
    rw [Nat.mod_eq_of_lt hsmall, resize, List.take_of_length_le hlength,
      List.take_left]
  rw [hbytes, readAuthority, decode_encode]
  show some (Authority.programExec programId
    ((resize programExecMaxPrefixLen cut).take (cut.length % 256))) = _
  rw [hread]

theorem Authority.length_bytes (authority : Authority) :
    authority.bytes.length ≤ 80 := by
  cases authority with
  | ed25519 publicKey =>
      show publicKey.toList.length ≤ 80
      rw [List.Vector.toList_length]
      decide
  | ed25519Session publicKey sessionKey maxSessionLength =>
      simp [bytes]
  | programExec programId marker =>
      simp [bytes, buildProgramExecAuthorityBytes, programExecMaxPrefixLen]

theorem readAuthority_bytes {authority : Authority} (hfits : authority.Fits) :
    readAuthority authority.authorityType authority.bytes = some authority := by
  cases authority with
  | ed25519 publicKey =>
      have hread : (array 32).decode publicKey.toList = some (publicKey, []) :=
        (array 32).decode_encode publicKey
      show readAuthority .ed25519 publicKey.toList = _
      rw [readAuthority, hread]
  | ed25519Session publicKey sessionKey maxSessionLength =>
      have hread : ed25519SessionAuthority.decode
          (publicKey.toList ++ (sessionKey.toList ++ encodeU64 maxSessionLength)) =
            some ((publicKey, sessionKey, maxSessionLength), []) :=
        ed25519SessionAuthority.decode_encode
          (publicKey, sessionKey, maxSessionLength)
      show readAuthority .ed25519Session _ = _
      rw [readAuthority, Authority.bytes, hread]
  | programExec programId marker =>
      show readAuthority .programExec _ = _
      rw [Authority.bytes, readAuthority_programExec, List.take_of_length_le hfits]

/-- The lengths of the parts fit the fields that state them. -/
def SwigMessage.Fits (swig : SwigState) : SwigMessage → Prop
  | .createV1 _ _ _ authority actions =>
      authority.Fits ∧ actionsSize swig actions < 2 ^ 16
  | .addAuthorityV1 _ newAuthority actions _ =>
      newAuthority.Fits ∧ actionsSize swig actions < 2 ^ 16 ∧
        actions.length < 256

theorem Authority.length_bytes_lt (authority : Authority) :
    authority.bytes.length < 2 ^ 16 :=
  Nat.lt_of_le_of_lt authority.length_bytes (by decide)

theorem createV1_reads {id : FixedBytes 32}
    {swigBump walletAddressBump : U8} {authority : Authority}
    {actions : List ClientActionCompat}
    (hfits : (SwigMessage.createV1 id swigBump walletAddressBump authority
      actions).Fits swig) :
    ∃ data, (SwigMessage.createV1 id swigBump walletAddressBump authority
        actions).build swig = .ok data ∧
      SwigMessage.read swig data = some (.createV1 id swigBump walletAddressBump
        authority actions) := by
  obtain ⟨hauthority, hactions⟩ := hfits
  obtain ⟨data, hbuild, ⟨_, hfront⟩, hread⟩ := readCreateV1_build
    ⟨id, swigBump, walletAddressBump, authority.authorityType,
      authority.bytes, actions⟩ authority.length_bytes_lt hactions
  refine ⟨data, hbuild, ?_⟩
  simp only [SwigMessage.read, hfront, hread, readAuthority_bytes hauthority,
    Option.bind_eq_bind, Option.bind_some, if_true, Option.pure_def]

theorem addAuthorityV1_reads {actingRoleId : U32} {newAuthority : Authority}
    {actions : List ClientActionCompat} {authorityAccountIndex : U8}
    (hfits : (SwigMessage.addAuthorityV1 actingRoleId newAuthority actions
      authorityAccountIndex).Fits swig) :
    ∃ data, (SwigMessage.addAuthorityV1 actingRoleId newAuthority actions
        authorityAccountIndex).build swig = .ok data ∧
      SwigMessage.read swig data = some (.addAuthorityV1 actingRoleId newAuthority
        actions authorityAccountIndex) := by
  obtain ⟨hauthority, hactions, hnumber⟩ := hfits
  obtain ⟨data, hbuild, ⟨_, hfront⟩, hread⟩ := readAddAuthorityV1_build
    ⟨actingRoleId, newAuthority.authorityType, newAuthority.bytes,
      actions, authorityAccountIndex⟩ newAuthority.length_bytes_lt hactions hnumber
  refine ⟨data, hbuild, ?_⟩
  have hother : swigIxAddAuthorityV1 ≠ swigIxCreateV1 := by decide
  simp only [SwigMessage.read, hfront, hread, readAuthority_bytes hauthority,
    Option.bind_eq_bind, Option.bind_some, if_neg hother, if_true,
    Option.pure_def]

/-- An instruction whose parts fit the fields that state their lengths reaches the
Swig program as it was meant. -/
theorem SwigMessage.read_build {message : SwigMessage}
    (hfits : message.Fits swig) :
    ∃ data, message.build swig = .ok data ∧
      SwigMessage.read swig data = some message := by
  cases message with
  | createV1 => exact createV1_reads hfits
  | addAuthorityV1 => exact addAuthorityV1_reads hfits

end RoundTrips

/-! The codes of the deployed program, and a message of each kind. -/

def sampleAction (permission : U16) (body : Bytes) : Option ClientActionCompat :=
  if permission = 7 then some .all
  else if permission = 8 then some .manageAuthority
  else if permission = 13 then some .programAll
  else if permission = 5 then
    (((array 32).prod u64).decode body).map fun ((tokenMint, currentAmount), _) =>
      .tokenLimit tokenMint currentAmount
  else none

def sampleSwig : SwigState where
  authorityCode
    | .ed25519 => 1
    | .ed25519Session => 2
    | .programExec => 7
  authorityOf code :=
    if code = 1 then some .ed25519
    else if code = 2 then some .ed25519Session
    else if code = 7 then some .programExec
    else none
  authorityOf_code authority := by cases authority <;> rfl
  permissionCode
    | .manageAuthority => 8
    | .all => 7
    | .programAll => 13
    | .tokenLimit => 5
  intoBytes
    | .tokenLimit tokenMint currentAmount =>
        ((array 32).prod u64).encode (tokenMint, currentAmount)
    | _ => []
  actionOf := sampleAction
  actionOf_bytes action := by
    cases action with
    | tokenLimit tokenMint currentAmount =>
        show (((array 32).prod u64).decode _).map _ = _
        rw [decode_encode]
        rfl
    | _ => rfl
  length_intoBytes action := by
    cases action <;> simp

def sampleMessage : SwigMessage :=
  .addAuthorityV1 0 (.programExec programId [178, 87, 206, 68])
    [.tokenLimit usdcMainnet 1000000000, .programAll] 3

theorem SwigMessage.read_build_sample :
    ∃ data, sampleMessage.build sampleSwig = .ok data ∧
      SwigMessage.read sampleSwig data = some sampleMessage :=
  SwigMessage.read_build (show sampleMessage.Fits sampleSwig from
    ⟨show 4 ≤ programExecMaxPrefixLen by decide, by decide, by decide⟩)

end DexterVault.SwigCompat
