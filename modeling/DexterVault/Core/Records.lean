import DexterVault.Core.Borsh

/-!
# Records chained by their ends

A buffer of records in which the header of each says what kind it is, how long
its body is and at which offset of the whole buffer it ends.  A writer appends
records and computes the ends as it goes, in four-byte arithmetic; a reader needs
no delimiter and goes from end to end.  What was written is read back, however
many records there are.
-/

namespace DexterVault.Records

open DexterVault.Machine
open DexterVault.Framing
open DexterVault.Borsh
open DexterVault.Borsh.Codec

abbrev U16 := Fin (2 ^ 16)

instance neZeroU16 : NeZero (2 ^ 16) := ⟨by decide⟩

def u16 : Codec U16 := integer 2 (by norm_num)

@[simp]
theorem length_encode_u16 (value : U16) : (u16.encode value).length = 2 :=
  length_littleEndian 2 value.val

structure Record where
  kind : U16
  body : Bytes
  deriving DecidableEq

structure Header where
  kind : U16
  length : U16
  boundary : U32
  deriving DecidableEq

def header : Codec Header :=
  (u16.prod (u16.prod u32)).equiv
    { toFun := fun (kind, length, boundary) => ⟨kind, length, boundary⟩
      invFun := fun header => (header.kind, header.length, header.boundary)
      left_inv := fun _ => rfl
      right_inv := fun _ => rfl }

@[simp]
theorem length_encode_header (value : Header) :
    (header.encode value).length = 8 := by
  simp [header]

/-! ## Writing -/

/-- The end of a body of some length behind the header that goes to `offset`.
Both conversions wrap around, the additions are checked. -/
def boundaryOf (offset length : ℕ) : Option U32 := do
  let start ← checkedAdd (Fin.ofNat (2 ^ 32) offset) 8
  checkedAdd start (Fin.ofNat (2 ^ 32) length)

/-- One record more. -/
def append (buffer : Bytes) (record : Record) : Option Bytes := do
  let boundary ← boundaryOf buffer.length record.body.length
  let head : Header :=
    ⟨record.kind, Fin.ofNat (2 ^ 16) record.body.length, boundary⟩
  return buffer ++ (header.encode head ++ record.body)

def writeAll (records : List Record) : Option Bytes :=
  records.foldlM append []

/-! ## Reading -/

/-- The records from a cursor on, as many as there is fuel for. -/
def readFrom (data : Bytes) : ℕ → ℕ → Option (List Record)
  | 0, cursor => if cursor = data.length then some [] else none
  | fuel + 1, cursor =>
      if cursor = data.length then some []
      else do
        let (head, rest) ← header.decode (data.drop cursor)
        let records ← readFrom data fuel head.boundary.val
        return ⟨head.kind, rest.take head.length.val⟩ :: records

def readAll (data : Bytes) : Option (List Record) :=
  readFrom data data.length 0

/-! ## What was written is read -/

/-- The bytes that records take. -/
def bytesOf (records : List Record) : ℕ :=
  (records.map fun record => 8 + record.body.length).sum

section Laws

variable {buffer data : Bytes} {record : Record} {records : List Record}

theorem boundaryOf_eq {offset length : ℕ} (hfits : offset + (8 + length) < 2 ^ 32) :
    boundaryOf offset length = some ⟨offset + (8 + length), hfits⟩ := by
  have hoffset : offset % 2 ^ 32 = offset := Nat.mod_eq_of_lt (by omega)
  have hlength : length % 2 ^ 32 = length := Nat.mod_eq_of_lt (by omega)
  have hstart : checkedAdd (Fin.ofNat (2 ^ 32) offset) (8 : U32) =
      some ⟨offset + 8, by omega⟩ := by
    rw [checkedAdd_eq_some_iff]
    show offset + 8 = offset % 2 ^ 32 + 8
    rw [hoffset]
  rw [boundaryOf, hstart, Option.bind_eq_bind, Option.bind_some,
    checkedAdd_eq_some_iff]
  show offset + (8 + length) = offset + 8 + length % 2 ^ 32
  rw [hlength, Nat.add_assoc]

/-- The writer succeeds where all ends fit. -/
theorem foldlM_append (hfits : buffer.length + bytesOf records < 2 ^ 32) :
    ∃ tail, records.foldlM append buffer = some (buffer ++ tail) ∧
      tail.length = bytesOf records := by
  induction records generalizing buffer with
  | nil => exact ⟨[], by simp, rfl⟩
  | cons record records ih =>
      have hsize : bytesOf (record :: records) =
          8 + record.body.length + bytesOf records := rfl
      rw [hsize] at hfits
      have hend : buffer.length + (8 + record.body.length) < 2 ^ 32 := by omega
      let head : Header := ⟨record.kind, Fin.ofNat (2 ^ 16) record.body.length,
        ⟨buffer.length + (8 + record.body.length), hend⟩⟩
      have happend : append buffer record =
          some (buffer ++ (header.encode head ++ record.body)) := by
        rw [append, boundaryOf_eq hend]
        rfl
      have hlength : (buffer ++ (header.encode head ++ record.body)).length =
          buffer.length + (8 + record.body.length) := by
        rw [List.length_append, List.length_append, length_encode_header]
      have hnext : (buffer ++ (header.encode head ++ record.body)).length +
          bytesOf records < 2 ^ 32 := by omega
      obtain ⟨tail, htail, hrest⟩ := ih hnext
      refine ⟨header.encode head ++ record.body ++ tail, ?_, ?_⟩
      · rw [List.foldlM_cons, happend, Option.bind_eq_bind, Option.bind_some, htail,
          List.append_assoc]
      · rw [List.length_append, List.length_append, length_encode_header, hrest,
          hsize]

theorem readFrom_end (fuel : ℕ) :
    readFrom data fuel data.length = some [] := by
  cases fuel <;> rw [readFrom, if_pos rfl]

/-- The reader goes over one record to its end. -/
theorem readFrom_record {fuel : ℕ} {rest : Bytes} {head : Header}
    (hkind : head.kind = record.kind)
    (hlength : head.length.val = record.body.length)
    (hdata : data = buffer ++ (header.encode head ++ (record.body ++ rest)))
    (hrest : readFrom data fuel head.boundary.val = some records) :
    readFrom data (fuel + 1) buffer.length = some (record :: records) := by
  have hnot : buffer.length ≠ data.length := by
    rw [hdata, List.length_append, List.length_append, length_encode_header]
    omega
  have hdrop : data.drop buffer.length =
      header.encode head ++ (record.body ++ rest) := by
    rw [hdata, List.drop_left]
  simp only [readFrom, if_neg hnot, hdrop, decode_encode_append, hrest, hlength,
    hkind, List.take_left, Option.bind_eq_bind, Option.bind_some, Option.pure_def]

/-- The run lemma: from the end of what is already there, the reader finds the
records that were appended. -/
theorem readFrom_appended {fuel : ℕ} (hfuel : records.length ≤ fuel)
    (hbodies : ∀ record ∈ records, record.body.length < 2 ^ 16)
    (hfits : buffer.length + bytesOf records < 2 ^ 32)
    (hwritten : records.foldlM append buffer = some data) :
    readFrom data fuel buffer.length = some records := by
  induction records generalizing buffer fuel with
  | nil =>
      rw [List.foldlM_nil, Option.pure_def, Option.some.injEq] at hwritten
      rw [← hwritten]
      exact readFrom_end fuel
  | cons record records ih =>
      obtain ⟨fuel, rfl⟩ : ∃ less, fuel = less + 1 :=
        Nat.exists_eq_add_one.mpr (Nat.lt_of_lt_of_le (Nat.succ_pos _) hfuel)
      have hsize : bytesOf (record :: records) =
          8 + record.body.length + bytesOf records := rfl
      rw [hsize] at hfits
      have hend : buffer.length + (8 + record.body.length) < 2 ^ 32 := by omega
      let head : Header := ⟨record.kind, Fin.ofNat (2 ^ 16) record.body.length,
        ⟨buffer.length + (8 + record.body.length), hend⟩⟩
      have happend : append buffer record =
          some (buffer ++ (header.encode head ++ record.body)) := by
        rw [append, boundaryOf_eq hend]
        rfl
      have hlength : (buffer ++ (header.encode head ++ record.body)).length =
          head.boundary.val := by
        rw [List.length_append, List.length_append, length_encode_header]
      rw [List.foldlM_cons, happend, Option.bind_eq_bind, Option.bind_some]
        at hwritten
      have hnext : (buffer ++ (header.encode head ++ record.body)).length +
          bytesOf records < 2 ^ 32 := by
        rw [hlength]
        show buffer.length + (8 + record.body.length) + bytesOf records < 2 ^ 32
        omega
      have hread := ih (Nat.le_of_succ_le_succ hfuel)
        (fun other hmem => hbodies other (List.mem_cons_of_mem _ hmem)) hnext
        hwritten
      obtain ⟨rest, hdata, -⟩ := foldlM_append hnext
      rw [hwritten, Option.some.injEq] at hdata
      have hshape : data =
          buffer ++ (header.encode head ++ (record.body ++ rest)) := by
        rw [hdata, List.append_assoc, List.append_assoc]
      have hbody : head.length.val = record.body.length :=
        Nat.mod_eq_of_lt (hbodies record List.mem_cons_self)
      exact readFrom_record rfl hbody hshape (hlength ▸ hread)

theorem length_le_bytesOf : records.length ≤ bytesOf records := by
  induction records with
  | nil => exact Nat.le_refl 0
  | cons record records ih =>
      have hsize : bytesOf (record :: records) =
          8 + record.body.length + bytesOf records := rfl
      rw [List.length_cons, hsize]
      omega

/-- The round trip. -/
theorem readAll_writeAll (hbodies : ∀ record ∈ records, record.body.length < 2 ^ 16)
    (hfits : bytesOf records < 2 ^ 32) :
    ∃ data, writeAll records = some data ∧ data.length = bytesOf records ∧
      readAll data = some records := by
  have hstart : ([] : Bytes).length + bytesOf records < 2 ^ 32 := by
    rwa [List.length_nil, Nat.zero_add]
  obtain ⟨data, hwritten, hlength⟩ := foldlM_append hstart
  rw [List.nil_append] at hwritten
  exact ⟨data, hwritten, hlength, readFrom_appended
    (hlength ▸ length_le_bytesOf) hbodies hstart hwritten⟩

end Laws

end DexterVault.Records
