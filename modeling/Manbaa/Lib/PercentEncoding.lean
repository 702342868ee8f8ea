import Manbaa.Lib.CodeUnits

/-!
# Percent-decoding

`decodeURIComponent` reads `%XX` as an octet, and runs of octets as UTF-8.  Every escape makes
the text shorter, so that the fixpoints of decoding are the texts without an escape.
-/

namespace Manbaa.Lib.PercentEncoding

/-- The code unit of `%`. -/
def percent : UInt16 := 0x25

/-- A code unit that stands for itself, or the octet of an escape. -/
inductive Token where
  | unit (unit : UInt16)
  | octet (octet : Nat)
  deriving DecidableEq

/-- The value of a hexadecimal digit. -/
def hexValue? (unit : UInt16) : Option Nat :=
  if 0x30 ≤ unit && unit ≤ 0x39 then some (unit.toNat - 0x30)
  else if 0x41 ≤ unit && unit ≤ 0x46 then some (unit.toNat - 0x41 + 10)
  else if 0x61 ≤ unit && unit ≤ 0x66 then some (unit.toNat - 0x61 + 10)
  else none

/-- The tokens of a text, unless an escape is malformed. -/
def tokens : CodeUnits → Option (List Token)
  | [] => some []
  | unit :: rest =>
      if unit = percent then
        match rest with
        | high :: low :: after => do
            let high ← hexValue? high
            let low ← hexValue? low
            (tokens after).map (.octet (16 * high + low) :: ·)
        | _ => none
      else (tokens rest).map (.unit unit :: ·)

/-- The octets of a character that are still to come. -/
structure Pending where
  owed : Nat
  code : Nat
  least : Nat
  deriving DecidableEq

/-- What the first octet of a character says about the others. -/
def lead (octet : Nat) : Option Pending :=
  if octet < 0xC0 then none
  else if octet < 0xE0 then some ⟨0, octet % 0x20, 0x80⟩
  else if octet < 0xF0 then some ⟨1, octet % 0x10, 0x800⟩
  else if octet < 0xF8 then some ⟨2, octet % 0x08, 0x10000⟩
  else none

/-- A code point that the octets may stand for: not written too long, and no surrogate. -/
def isCodePoint (least code : Nat) : Bool :=
  least ≤ code && code ≤ 0x10FFFF && !(0xD800 ≤ code && code < 0xE000)

/-- The text of the tokens, unless their octets are not UTF-8.  One more octet is to come than
are owed. -/
def text : Option Pending → List Token → Option CodeUnits
  | none, [] => some []
  | none, .unit unit :: rest => (text none rest).map (unit :: ·)
  | none, .octet octet :: rest =>
      if octet < 0x80 then (text none rest).map (UInt16.ofNat octet :: ·)
      else (lead octet).bind fun pending => text (some pending) rest
  | some pending, .octet octet :: rest =>
      if octet / 0x40 = 2 then
        let code := 0x40 * pending.code + octet % 0x40
        match pending.owed with
        | 0 =>
            if isCodePoint pending.least code then
              (text none rest).map (CodeUnits.ofCode code ++ ·)
            else none
        | owed + 1 => text (some ⟨owed, code, pending.least⟩) rest
      else none
  | some _, _ => none

/-- `decodeURIComponent`, which throws where it is `none` here. -/
def decodeURIComponent (encoded : CodeUnits) : Option CodeUnits :=
  (tokens encoded).bind (text none)

variable {encoded decoded : CodeUnits} {read : List Token} {pending : Option Pending}

theorem tokens_unit {unit : UInt16} {rest : CodeUnits} (plain : unit ≠ percent) :
    tokens (unit :: rest) = (tokens rest).map (.unit unit :: ·) := by
  rw [tokens.eq_def]
  exact if_neg plain

/-! ## Lengths -/

/-- The tokens are no more than the code units, and as many only without an escape. -/
theorem length_tokens (tokensEq : tokens encoded = some read) :
    read.length ≤ encoded.length ∧ (percent ∈ encoded → read.length < encoded.length) := by
  induction encoded using tokens.induct generalizing read with
  | case1 =>
      cases tokensEq
      exact ⟨Nat.le_refl _, nofun⟩
  | case2 high low after ih =>
      rw [tokens, if_pos rfl] at tokensEq
      obtain ⟨highValue, _, tokensEq⟩ := Option.bind_eq_some_iff.mp tokensEq
      obtain ⟨lowValue, _, tokensEq⟩ := Option.bind_eq_some_iff.mp tokensEq
      obtain ⟨later, laterEq, rfl⟩ := Option.map_eq_some_iff.mp tokensEq
      have bounds := ih laterEq
      simp only [List.length_cons]
      omega
  | case3 rest short =>
      rw [tokens, if_pos rfl] at tokensEq
      · cases tokensEq
      · exact short
  | case4 unit rest plain ih =>
      rw [tokens_unit plain] at tokensEq
      obtain ⟨later, laterEq, rfl⟩ := Option.map_eq_some_iff.mp tokensEq
      have bounds := ih laterEq
      constructor
      · exact Nat.succ_le_succ bounds.1
      · intro mem
        rcases List.mem_cons.mp mem with same | mem
        · exact absurd same.symm plain
        · exact Nat.succ_lt_succ (bounds.2 mem)

theorem length_ofCode (code : Nat) : (CodeUnits.ofCode code).length ≤ 2 := by
  unfold CodeUnits.ofCode
  split <;> simp

/-- The text is no longer than its tokens, the first octet of the pending character
included. -/
theorem length_text (textEq : text pending read = some decoded) :
    decoded.length ≤ read.length + pending.toList.length := by
  induction read generalizing pending decoded with
  | nil =>
      cases pending with
      | none =>
          cases textEq
          exact Nat.le_refl _
      | some => cases textEq
  | cons token rest ih =>
      cases pending with
      | none =>
          cases token with
          | unit unit =>
              obtain ⟨later, laterEq, rfl⟩ := Option.map_eq_some_iff.mp textEq
              exact Nat.succ_le_succ (ih laterEq)
          | octet octet =>
              rw [text] at textEq
              split at textEq
              · obtain ⟨later, laterEq, rfl⟩ := Option.map_eq_some_iff.mp textEq
                exact Nat.succ_le_succ (ih laterEq)
              · obtain ⟨first, _, laterEq⟩ := Option.bind_eq_some_iff.mp textEq
                exact ih laterEq
      | some first =>
          cases token with
          | unit unit => cases textEq
          | octet octet =>
              simp only [text] at textEq
              split at textEq
              · split at textEq
                · split at textEq
                  · obtain ⟨later, laterEq, rfl⟩ := Option.map_eq_some_iff.mp textEq
                    have short := ih laterEq
                    have units := length_ofCode (0x40 * first.code + octet % 0x40)
                    simp only [List.length_append, Option.toList_none, List.length_nil,
                      Option.toList_some, List.length_cons] at short ⊢
                    omega
                  · cases textEq
                · have short := ih textEq
                  simp only [Option.toList_some, List.length_cons, List.length_nil] at short ⊢
                  omega
              · cases textEq

/-! ## Fixpoints -/

/-- A text without an escape stands for itself. -/
theorem decode_of_plain (plain : percent ∉ encoded) : decodeURIComponent encoded = some encoded := by
  induction encoded with
  | nil => rfl
  | cons unit rest ih =>
      have ne : unit ≠ percent := fun same => plain (List.mem_cons.mpr (Or.inl same.symm))
      have later := ih fun mem => plain (List.mem_cons_of_mem _ mem)
      obtain ⟨read, readEq, textEq⟩ := Option.bind_eq_some_iff.mp later
      rw [decodeURIComponent, tokens_unit ne, readEq, Option.map_some, Option.bind_some, text,
        textEq, Option.map_some]

/-- The fixpoints of decoding are the texts without an escape. -/
theorem decode_eq_self_iff : decodeURIComponent encoded = some encoded ↔ percent ∉ encoded := by
  constructor
  · intro fixed mem
    obtain ⟨read, readEq, textEq⟩ := Option.bind_eq_some_iff.mp fixed
    have shorter := (length_tokens readEq).2 mem
    have short := length_text textEq
    rw [Option.toList_none, List.length_nil] at short
    omega
  · exact decode_of_plain

end Manbaa.Lib.PercentEncoding
