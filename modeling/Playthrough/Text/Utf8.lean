import Playthrough.Text.Digits

/-!
Contract: characters as octets, each in its one shortest form.

Owns: the reader of octets, with the place and the reason of a refusal, the wording of refusals, and
the reader that replaces what is refused.

A character is one octet below 0x80, or a leading octet that fixes how many octets follow and
between which bounds the first of them lies. The bounds leave out longer forms than needed,
surrogates, and everything beyond the last character.
-/

namespace Playthrough.Text.Utf8

/-- Why octets are not read. -/
inductive Complaint where
  | invalidStart
  | invalidContinuation
  | unexpectedEnd
deriving DecidableEq, Repr, Inhabited

/-- The words of a complaint. -/
def Complaint.message : Complaint → String
  | .invalidStart => "invalid start byte"
  | .invalidContinuation => "invalid continuation byte"
  | .unexpectedEnd => "unexpected end of data"

/-- Octets that are not read: where they begin, how many they are, and the first of them. -/
structure Refusal where
  complaint : Complaint
  offset : Nat
  length : Nat
  first : UInt8
deriving DecidableEq, Repr, Inhabited

/-- A refusal with its place. -/
def Refusal.message (refusal : Refusal) : String :=
  let place :=
    if refusal.length = 1 then
      "byte 0x" ++ String.ofList (hexadecimal 2 refusal.first.toNat) ++ " in position "
        ++ toString refusal.offset
    else
      "bytes in position " ++ toString refusal.offset ++ "-"
        ++ toString (refusal.offset + refusal.length - 1)
  "'utf-8' codec can't decode " ++ place ++ ": " ++ refusal.complaint.message

/-- A character that is read in part. -/
structure Pending where
  /-- The leading octet. -/
  first : UInt8
  /-- How many octets were read. -/
  taken : Nat
  /-- How many octets have to follow, beside the next one. -/
  further : Nat
  /-- The bits read so far. -/
  bits : Nat
  /-- The least value of the next octet. -/
  least : Nat
  /-- The greatest value of the next octet. -/
  greatest : Nat
deriving DecidableEq, Repr

/-- What a leading octet of several asks for, none for an octet that leads nothing. -/
def lead? (octet : UInt8) : Option Pending :=
  let value := octet.toNat
  if 0xc2 ≤ value ∧ value ≤ 0xdf then
    some { first := octet, taken := 1, further := 0, bits := value - 0xc0, least := 0x80
           greatest := 0xbf }
  else if 0xe0 ≤ value ∧ value ≤ 0xef then
    some { first := octet, taken := 1, further := 1, bits := value - 0xe0
           least := if value = 0xe0 then 0xa0 else 0x80
           greatest := if value = 0xed then 0x9f else 0xbf }
  else if 0xf0 ≤ value ∧ value ≤ 0xf4 then
    some { first := octet, taken := 1, further := 2, bits := value - 0xf0
           least := if value = 0xf0 then 0x90 else 0x80
           greatest := if value = 0xf4 then 0x8f else 0xbf }
  else none

/-- Whether an octet is in the bounds of the next one. -/
def Pending.takes (pending : Pending) (octet : UInt8) : Bool :=
  pending.least ≤ octet.toNat && octet.toNat ≤ pending.greatest

/-- The bits with those of one more octet. -/
def Pending.bitsWith (pending : Pending) (octet : UInt8) : Nat :=
  pending.bits * 64 + (octet.toNat - 0x80)

/-- What is pending after one more octet that is not the last one. -/
def Pending.advance (pending : Pending) (octet : UInt8) : Pending :=
  { pending with
    taken := pending.taken + 1
    further := pending.further - 1
    bits := pending.bitsWith octet
    least := 0x80
    greatest := 0xbf }

/-- Reads octets from an offset on, in the middle of a character or not. -/
def decodeFrom (offset : Nat) (pending : Option Pending) :
    List UInt8 → Except Refusal (List Char)
  | [] =>
      match pending with
      | none => .ok []
      | some character =>
          .error
            { complaint := .unexpectedEnd
              offset := offset - character.taken
              length := character.taken
              first := character.first }
  | octet :: rest =>
      match pending with
      | none =>
          if octet.toNat < 0x80 then
            (decodeFrom (offset + 1) none rest).map (Char.ofNat octet.toNat :: ·)
          else
            match lead? octet with
            | some character => decodeFrom (offset + 1) (some character) rest
            | none =>
                .error { complaint := .invalidStart, offset := offset, length := 1, first := octet }
      | some character =>
          if character.takes octet then
            if character.further = 0 then
              (decodeFrom (offset + 1) none rest).map
                (Char.ofNat (character.bitsWith octet) :: ·)
            else decodeFrom (offset + 1) (some (character.advance octet)) rest
          else
            .error
              { complaint := .invalidContinuation
                offset := offset - character.taken
                length := character.taken
                first := character.first }

/-- Reads octets. -/
def decode (octets : List UInt8) : Except Refusal (List Char) :=
  decodeFrom 0 none octets

/-- Reads octets, with the replacement character in place of each run that is refused. The fuel
bounds the runs; the count of octets is enough. -/
def decodeReplacingWithin : (fuel : Nat) → List UInt8 → List Char
  | 0, _ => []
  | fuel + 1, octets =>
      match decode octets with
      | .ok characters => characters
      | .error refusal =>
          let before :=
            match decode (octets.take refusal.offset) with
            | .ok characters => characters
            | .error _ => []
          before ++ '\ufffd'
            :: decodeReplacingWithin fuel (octets.drop (refusal.offset + refusal.length))

/-- Reads octets, with the replacement character in place of each run that is refused. -/
def decodeReplacing (octets : List UInt8) : List Char :=
  decodeReplacingWithin (octets.length + 1) octets

/-- Octets below 0x80 are read one by one. -/
theorem decodeFrom_ascii (offset : Nat) {octets : List UInt8}
    (small : ∀ octet ∈ octets, octet.toNat < 0x80) :
    decodeFrom offset none octets = .ok (octets.map fun octet => Char.ofNat octet.toNat) := by
  induction octets generalizing offset with
  | nil => rfl
  | cons octet rest inductionHypothesis =>
      have first := small octet List.mem_cons_self
      have others := inductionHypothesis (offset + 1) fun other inside =>
        small other (List.mem_cons_of_mem octet inside)
      simp [decodeFrom, first, others, Except.map]

end Playthrough.Text.Utf8
