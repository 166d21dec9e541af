/-! Strict UTF-8. Bytes that are no text are reported with their place and what is wrong with them. -/

namespace CurriedLisp.Text.Utf8

inductive Reason where
  | invalidStart
  | invalidContinuation
  | unexpectedEnd
  deriving DecidableEq

namespace Reason

def text : Reason → String
  | invalidStart => "invalid start byte"
  | invalidContinuation => "invalid continuation byte"
  | unexpectedEnd => "unexpected end of data"

end Reason

structure Problem where
  byte : UInt8
  first : Nat
  stop : Nat
  reason : Reason
  deriving DecidableEq

namespace Problem

def message (p : Problem) : String :=
  let place :=
    if p.stop = p.first + 1 then
      let digits := Nat.toDigits 16 p.byte.toNat
      "byte 0x" ++ String.ofList (List.replicate (2 - digits.length) '0' ++ digits) ++
        " in position " ++ p.first.repr
    else "bytes in position " ++ p.first.repr ++ "-" ++ (p.stop - 1).repr
  "'utf-8' codec can't decode " ++ place ++ ": " ++ p.reason.text

end Problem

structure Pending where
  lead : UInt8
  start : Nat
  code : Nat
  owed : Nat
  low : Nat
  high : Nat

def lead? (byte : UInt8) (start : Nat) : Option Pending :=
  let b := byte.toNat
  if b < 0xc2 then none
  else if b < 0xe0 then some ⟨byte, start, b - 0xc0, 1, 0x80, 0xbf⟩
  else if b = 0xe0 then some ⟨byte, start, 0, 2, 0xa0, 0xbf⟩
  else if b = 0xed then some ⟨byte, start, 0xd, 2, 0x80, 0x9f⟩
  else if b < 0xf0 then some ⟨byte, start, b - 0xe0, 2, 0x80, 0xbf⟩
  else if b = 0xf0 then some ⟨byte, start, 0, 3, 0x90, 0xbf⟩
  else if b < 0xf4 then some ⟨byte, start, b - 0xf0, 3, 0x80, 0xbf⟩
  else if b = 0xf4 then some ⟨byte, start, 4, 3, 0x80, 0x8f⟩
  else none

def decodeFrom (done : List Char) (pending : Option Pending) (position : Nat) :
    List UInt8 → Except Problem (List Char)
  | [] =>
    match pending with
    | none => .ok done.reverse
    | some p => .error ⟨p.lead, p.start, position, .unexpectedEnd⟩
  | byte :: rest =>
    let b := byte.toNat
    match pending with
    | none =>
      if b < 0x80 then decodeFrom (Char.ofNat b :: done) none (position + 1) rest
      else
        match lead? byte position with
        | none => .error ⟨byte, position, position + 1, .invalidStart⟩
        | some p => decodeFrom done (some p) (position + 1) rest
    | some p =>
      if b < p.low ∨ p.high < b then .error ⟨p.lead, p.start, position, .invalidContinuation⟩
      else
        let code := p.code * 64 + (b - 0x80)
        if p.owed ≤ 1 then decodeFrom (Char.ofNat code :: done) none (position + 1) rest
        else
          let pending : Pending := ⟨p.lead, p.start, code, p.owed - 1, 0x80, 0xbf⟩
          decodeFrom done (some pending) (position + 1) rest

def decode (bytes : List UInt8) : Except Problem String :=
  (decodeFrom [] none 0 bytes).map String.ofList

end CurriedLisp.Text.Utf8
