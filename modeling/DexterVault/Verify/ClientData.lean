import DexterVault.Core.Occurrence
import DexterVault.Verify.Webauthn

/-!
# The challenge scanner

`clientDataJSON` is a flat JSON object, and the scanner looks for the first
occurrence of `"challenge":"` in it.  A quote inside a string value is escaped
and the quote that ends the value is followed by a comma or a brace, so that
occurrence is the member named `challenge`, whatever the other members contain.
-/

namespace DexterVault.ClientData

open DexterVault.Framing
open DexterVault.Accounts
open DexterVault.Execution
open DexterVault.Webauthn
open DexterVault.Occurrence

/-! ## Flat JSON objects -/

def backslash : Byte := 92
def comma : Byte := 44
def colon : Byte := 58
def openBrace : Byte := 123
def closeBrace : Byte := 125

/-- A character of a string value: one that stands for itself, or an escape. -/
inductive Character
  | plain (byte : Byte)
      (hplain : byte ≠ quote ∧ byte ≠ backslash ∧ 32 ≤ byte.val)
  | escape (code : Byte) (hcode : code ∈ ascii "\"\\/bfnrt")
  | unicode (digits : FixedBytes 4)
      (hdigits : ∀ digit ∈ digits.toList, digit ∈ ascii "0123456789abcdefABCDEF")

def Character.bytes : Character → Bytes
  | plain byte _ => [byte]
  | escape code _ => [backslash, code]
  | unicode digits _ => backslash :: 117 :: digits.toList

def textBytes (text : List Character) : Bytes := text.flatMap Character.bytes

/-- The value of a member.  A number is any text in the characters of JSON
numbers. -/
inductive Value
  | null
  | bool (value : Bool)
  | number (text : Bytes)
      (htext : ∀ byte ∈ text, byte ∈ ascii "0123456789+-.eE")
  | string (text : List Character)

def Value.bytes : Value → Bytes
  | null => ascii "null"
  | bool true => ascii "true"
  | bool false => ascii "false"
  | number text _ => text
  | string text => quote :: (textBytes text ++ [quote])

structure Member where
  name : Bytes
  value : Value
  plainName : quote ∉ name ∧ backslash ∉ name

def Member.bytes (member : Member) : Bytes :=
  quote :: (member.name ++ quote :: colon :: member.value.bytes)

def membersBytes : List Member → Bytes
  | [] => []
  | [member] => member.bytes
  | member :: next :: rest =>
      member.bytes ++ comma :: membersBytes (next :: rest)

/-- The serialisation of an object, without whitespace. -/
def serialise (members : List Member) : Bytes :=
  openBrace :: (membersBytes members ++ [closeBrace])

def challengeName : Bytes := ascii "challenge"

/-- Exactly one member is named `challenge`, and its value is the string
`challenge`, without quotes and backslashes. -/
structure HasChallenge (members : List Member) (challenge : Bytes) : Prop where
  only : ∃ member text,
    members.filter (fun member => member.name = challengeName) = [member] ∧
      member.value = .string text ∧ textBytes text = challenge
  noQuote : quote ∉ challenge
  noBackslash : backslash ∉ challenge

/-! ## The scanner -/

section Scanner

variable {key front rest : Bytes}

theorem afterKey_of_length_lt {input : Bytes} (hlength : input.length < key.length) :
    afterKey key input = none := by
  cases input with
  | nil => rfl
  | cons byte rest => rw [afterKey, if_pos hlength]

/-- A position without an occurrence is passed over. -/
theorem afterKey_cons {byte : Byte} (hclear : ¬ key <+: byte :: rest) :
    afterKey key (byte :: rest) = afterKey key rest := by
  by_cases hlength : (byte :: rest).length < key.length
  · have hrest : rest.length < key.length :=
      (Nat.lt_succ_self rest.length).trans hlength
    rw [afterKey, if_pos hlength, afterKey_of_length_lt hrest]
  · have hhere : ¬ (byte :: rest).take key.length = key :=
      fun heq => hclear (List.prefix_iff_eq_take.mpr heq.symm)
    rw [afterKey, if_neg hlength, if_neg hhere]

theorem afterKey_clear (hclear : Clear key front rest) :
    afterKey key (front ++ rest) = afterKey key rest := by
  induction front with
  | nil => rfl
  | cons byte front ih =>
      rw [List.cons_append, afterKey_cons hclear.1, ih hclear.2]

theorem afterKey_append (hkey : key ≠ []) : afterKey key (key ++ rest) = some rest := by
  cases key with
  | nil => exact absurd rfl hkey
  | cons head tail =>
      have hlength : ¬ (head :: (tail ++ rest)).length < (head :: tail).length := by
        rw [← List.cons_append, List.length_append]
        omega
      rw [List.cons_append, afterKey, if_neg hlength, ← List.cons_append,
        List.take_left, if_pos rfl, List.drop_left]

/-- Behind the key, the scanner reads up to the next quote. -/
theorem extractChallengeFromClientData_eq {json challenge : Bytes}
    (hkey : afterKey challengeKey json = some (challenge ++ quote :: rest))
    (hquote : quote ∉ challenge) :
    extractChallengeFromClientData json = base64urlDecode challenge := by
  have hclosed : quote ∈ challenge ++ quote :: rest :=
    List.mem_append_right _ List.mem_cons_self
  have hkept : ∀ byte ∈ challenge, decide (byte ≠ quote) = true := by
    intro byte hbyte
    rw [decide_eq_true_eq]
    rintro rfl
    exact hquote hbyte
  have hread : (challenge ++ quote :: rest).takeWhile (· ≠ quote) = challenge := by
    rw [List.takeWhile_append_of_pos hkept, List.takeWhile_cons]
    simp
  rw [extractChallengeFromClientData, hkey]
  simp only [okOr, require, if_pos hclosed, hread, Bind.bind, Except.bind]

end Scanner

/-! ## Where the key can occur

The key is a quote, the name `challenge`, a quote, a colon and a quote. -/

def keyEnd : Bytes := [quote, colon, quote]

theorem challengeKey_eq : challengeKey = quote :: (challengeName ++ keyEnd) := by
  decide

section Members

variable {rest : Bytes} {next : Byte}

/-- After a quote, the key goes on with a letter. -/
theorem not_key_of_next {byte : Byte} (hnext : next ≠ 99) :
    ¬ challengeKey <+: byte :: next :: rest := by
  intro hmatch
  have htail := (List.cons_prefix_cons.mp (challengeKey_eq ▸ hmatch)).2
  exact hnext (List.cons_prefix_cons.mp htail).1.symm

/-- Within a string value, a word without quotes and backslashes and a quote
after it reach the end of the value. -/
theorem eq_next_of_word {word tail : Bytes} {symbol : Byte}
    (hquote : quote ∉ word) (hbackslash : backslash ∉ word)
    {text : List Character}
    (hmatch : word ++ quote :: symbol :: tail <+:
      textBytes text ++ quote :: next :: rest) :
    next = symbol := by
  induction text generalizing word with
  | nil =>
      cases word with
      | nil =>
          have htail := (List.cons_prefix_cons.mp hmatch).2
          exact (List.cons_prefix_cons.mp htail).1.symm
      | cons byte word =>
          have hsame := (List.cons_prefix_cons.mp hmatch).1
          exact absurd (hsame ▸ List.mem_cons_self) hquote
  | cons character text ih =>
      rw [textBytes, List.flatMap_cons, List.append_assoc] at hmatch
      cases character with
      | plain byte hplain =>
          cases word with
          | nil =>
              have hsame := (List.cons_prefix_cons.mp hmatch).1
              exact absurd hsame.symm hplain.1
          | cons first word =>
              exact ih (List.not_mem_of_not_mem_cons hquote)
                (List.not_mem_of_not_mem_cons hbackslash)
                (List.cons_prefix_cons.mp hmatch).2
      | escape code hcode =>
          cases word with
          | nil => exact absurd (List.cons_prefix_cons.mp hmatch).1 (by decide)
          | cons first word =>
              have hsame := (List.cons_prefix_cons.mp hmatch).1
              exact absurd (hsame ▸ List.mem_cons_self) hbackslash
      | unicode digits hdigits =>
          cases word with
          | nil => exact absurd (List.cons_prefix_cons.mp hmatch).1 (by decide)
          | cons first word =>
              have hsame := (List.cons_prefix_cons.mp hmatch).1
              exact absurd (hsame ▸ List.mem_cons_self) hbackslash

/-- The key does not begin just before a part of a string value. -/
theorem not_key_of_text {byte : Byte} (hnext : next ≠ colon)
    (text : List Character) :
    ¬ challengeKey <+: byte :: (textBytes text ++ quote :: next :: rest) := by
  intro hmatch
  have htail := (List.cons_prefix_cons.mp (challengeKey_eq ▸ hmatch)).2
  exact hnext (eq_next_of_word (by decide) (by decide) htail)

theorem clear_of_quote_notMem {front : Bytes} (hquote : quote ∉ front) :
    Clear challengeKey front rest := by
  rw [challengeKey_eq]
  exact clear_of_head_notMem hquote

theorem quote_notMem_unicode {digits : Bytes}
    (hdigits : ∀ digit ∈ digits, digit ∈ ascii "0123456789abcdefABCDEF") :
    quote ∉ backslash :: 117 :: digits := by
  rw [List.mem_cons, List.mem_cons]
  rintro (hsame | hsame | hmem)
  · exact absurd hsame (by decide)
  · exact absurd hsame (by decide)
  · exact absurd (hdigits quote hmem) (by decide)

/-- The key does not begin in a string value. -/
theorem clear_text (hcolon : next ≠ colon) (hletter : next ≠ 99)
    (text : List Character) :
    Clear challengeKey (textBytes text ++ [quote]) (next :: rest) := by
  induction text with
  | nil => exact clear_cons (not_key_of_next hletter) trivial
  | cons character text ih =>
      have hcharacter : Clear challengeKey character.bytes
          (textBytes text ++ [quote] ++ next :: rest) := by
        cases character with
        | plain byte hplain =>
            exact clear_of_quote_notMem fun hmem =>
              hplain.1 (List.mem_singleton.mp hmem).symm
        | escape code hcode =>
            have hcode : ¬ challengeKey <+:
                code :: (textBytes text ++ [quote] ++ next :: rest) := by
              rw [List.append_assoc]
              exact not_key_of_text hcolon text
            have hbackslash : backslash ≠ quote := by decide
            rw [challengeKey_eq] at hcode ⊢
            exact clear_cons (not_prefix_of_head_ne hbackslash)
              (clear_cons hcode trivial)
        | unicode digits hdigits =>
            exact clear_of_quote_notMem (quote_notMem_unicode hdigits)
      rw [textBytes, List.flatMap_cons, List.append_assoc]
      exact hcharacter.append ih

theorem clear_value (hcolon : next ≠ colon) (hletter : next ≠ 99)
    (value : Value) : Clear challengeKey value.bytes (next :: rest) := by
  cases value with
  | null => exact clear_of_quote_notMem (by decide)
  | bool value => cases value <;> exact clear_of_quote_notMem (by decide)
  | number text htext =>
      exact clear_of_quote_notMem fun hmem => absurd (htext quote hmem) (by decide)
  | string text =>
      have hopen : ¬ challengeKey <+:
          quote :: (textBytes text ++ [quote] ++ next :: rest) := by
        rw [List.append_assoc]
        exact not_key_of_text hcolon text
      exact clear_cons hopen (clear_text hcolon hletter text)

/-- The key does not begin in a member of another name. -/
theorem clear_member (hcolon : next ≠ colon) (hletter : next ≠ 99)
    {member : Member} (hname : member.name ≠ challengeName) :
    Clear challengeKey member.bytes (next :: rest) := by
  have hopen : ¬ challengeKey <+:
      quote :: (member.name ++ quote :: colon :: member.value.bytes ++
        next :: rest) := by
    intro hmatch
    rw [challengeKey_eq, List.append_assoc] at hmatch
    have hsame : challengeName = member.name :=
      eq_of_delimited_prefix (by decide) member.plainName.1
        (List.cons_prefix_cons.mp hmatch).2
    exact hname hsame.symm
  have hclose : Clear challengeKey (quote :: colon :: member.value.bytes)
      (next :: rest) := by
    have hskip : ¬ challengeKey <+:
        colon :: (member.value.bytes ++ next :: rest) := by
      rw [challengeKey_eq]
      exact not_prefix_of_head_ne (by decide)
    exact clear_cons (not_key_of_next (by decide))
      (clear_cons hskip (clear_value hcolon hletter member.value))
  exact clear_cons hopen
    ((clear_of_quote_notMem member.plainName.1).append hclose)

/-- The members in front of another one, with the commas behind them. -/
def leadingBytes (members : List Member) : Bytes :=
  members.flatMap fun member => member.bytes ++ [comma]

theorem clear_leading {members : List Member}
    (hnames : ∀ member ∈ members, member.name ≠ challengeName) :
    Clear challengeKey (leadingBytes members) rest := by
  induction members with
  | nil => trivial
  | cons member members ih =>
      have hmember : Clear challengeKey member.bytes
          ([comma] ++ (leadingBytes members ++ rest)) :=
        clear_member (by decide) (by decide)
          (hnames member List.mem_cons_self)
      have hcomma : Clear challengeKey [comma] (leadingBytes members ++ rest) :=
        clear_of_quote_notMem (by decide)
      have hrest : Clear challengeKey (leadingBytes members) rest :=
        ih fun other hother => hnames other (List.mem_cons_of_mem _ hother)
      rw [leadingBytes, List.flatMap_cons]
      exact (hmember.append hcomma).append hrest

theorem membersBytes_append (leading : List Member) (member : Member)
    (trailing : List Member) :
    ∃ tail, membersBytes (leading ++ member :: trailing) =
      leadingBytes leading ++ (member.bytes ++ tail) := by
  induction leading with
  | nil =>
      cases trailing with
      | nil => exact ⟨[], (List.append_nil member.bytes).symm⟩
      | cons next rest => exact ⟨comma :: membersBytes (next :: rest), rfl⟩
  | cons first leading ih =>
      obtain ⟨tail, htail⟩ := ih
      refine ⟨tail, ?_⟩
      have hcons : membersBytes (first :: (leading ++ member :: trailing)) =
          first.bytes ++ comma :: membersBytes (leading ++ member :: trailing) := by
        cases leading <;> rfl
      rw [List.cons_append, hcons, htail]
      simp only [leadingBytes, List.flatMap_cons, List.append_assoc,
        List.cons_append, List.nil_append]

end Members

/-- On every flat object with one challenge the scanner decodes that challenge:
the other members, their order and their contents do not matter. -/
theorem challenge_not_steered {members : List Member} {challenge : Bytes}
    (hchallenge : HasChallenge members challenge) :
    extractChallengeFromClientData (serialise members) =
      base64urlDecode challenge := by
  obtain ⟨member, text, honly, hvalue, rfl⟩ := hchallenge.only
  obtain ⟨leading, trailing, rfl, hleading, hname, -⟩ :=
    List.filter_eq_cons_iff.mp honly
  have hnames : ∀ other ∈ leading, other.name ≠ challengeName :=
    fun other hother heq => hleading other hother (decide_eq_true heq)
  obtain ⟨tail, htail⟩ := membersBytes_append leading member trailing
  have hmember : member.bytes =
      challengeKey ++ (textBytes text ++ [quote]) := by
    rw [Member.bytes, of_decide_eq_true hname, hvalue, Value.bytes,
      challengeKey_eq]
    rfl
  have hjson : serialise (leading ++ member :: trailing) =
      openBrace :: leadingBytes leading ++
        (challengeKey ++ (textBytes text ++ quote :: (tail ++ [closeBrace]))) := by
    rw [serialise, htail, hmember]
    simp only [List.append_assoc, List.cons_append, List.nil_append]
  have hbrace : Clear challengeKey [openBrace] (leadingBytes leading ++
      (challengeKey ++ (textBytes text ++ quote :: (tail ++ [closeBrace])))) :=
    clear_of_quote_notMem (by decide)
  have hfront : Clear challengeKey (openBrace :: leadingBytes leading)
      (challengeKey ++ (textBytes text ++ quote :: (tail ++ [closeBrace]))) :=
    hbrace.append (clear_leading hnames)
  have hkey : afterKey challengeKey (serialise (leading ++ member :: trailing)) =
      some (textBytes text ++ quote :: (tail ++ [closeBrace])) := by
    rw [hjson, afterKey_clear hfront, afterKey_append (by decide)]
  exact extractChallengeFromClientData_eq hkey hchallenge.noQuote

/-! ## An origin that spells the key -/

def plainText (text : Bytes)
    (hplain : ∀ byte ∈ text, byte ≠ quote ∧ byte ≠ backslash ∧ 32 ≤ byte.val) :
    List Character :=
  text.pmap Character.plain hplain

def escapedQuote : Character := .escape quote (by decide)

/-- The members `origin`, with the value `"challenge":"AAAA`, and `challenge`. -/
def spoofedMembers : List Member :=
  [⟨ascii "origin", .string (escapedQuote ::
      (plainText challengeName (by decide) ++ escapedQuote ::
        (plainText [colon] (by decide) ++ escapedQuote ::
          plainText (ascii "AAAA") (by decide)))), by decide⟩,
    ⟨challengeName, .string (plainText (ascii "AQID") (by decide)), by decide⟩,
    ⟨ascii "crossOrigin", .bool false, by decide⟩]

theorem challenge_not_steered_spoofed :
    extractChallengeFromClientData (serialise spoofedMembers) = .ok [1, 2, 3] := by
  have hchallenge : HasChallenge spoofedMembers (ascii "AQID") :=
    ⟨⟨_, _, rfl, rfl, rfl⟩, by decide, by decide⟩
  rw [challenge_not_steered hchallenge]
  rfl

end DexterVault.ClientData
