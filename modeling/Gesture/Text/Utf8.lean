import Gesture.Text.Quoted

namespace Gesture.Text.Utf8

inductive Fault where
  | start
  | continuation
  | truncated
  deriving DecidableEq, Repr

def Fault.reason : Fault → String
  | .start => "invalid start byte"
  | .continuation => "invalid continuation byte"
  | .truncated => "unexpected end of data"

inductive Piece where
  | char (c : Char)
  | malformed (bytes : List UInt8) (fault : Fault)
  deriving DecidableEq, Repr

/-- A sequence that has begun: its bytes so far, last first, the number they write, how many bytes
    are missing, and the bounds of the next. -/
structure Open where
  bytes : List UInt8
  value : Nat
  missing : Nat
  low : Nat
  high : Nat

def lead (b : UInt8) : Piece ⊕ Open :=
  let n := b.toNat
  if n < 0x80 then .inl (.char (Char.ofNat n))
  else if n < 0xC2 then .inl (.malformed [b] .start)
  else if n < 0xE0 then .inr ⟨[b], n - 0xC0, 1, 0x80, 0xBF⟩
  else if n < 0xF0 then
    .inr ⟨[b], n - 0xE0, 2, if n = 0xE0 then 0xA0 else 0x80, if n = 0xED then 0x9F else 0xBF⟩
  else if n < 0xF5 then
    .inr ⟨[b], n - 0xF0, 3, if n = 0xF0 then 0x90 else 0x80, if n = 0xF4 then 0x8F else 0xBF⟩
  else .inl (.malformed [b] .start)

def Open.extend (o : Open) (b : UInt8) : Piece ⊕ Open :=
  let value := o.value * 64 + (b.toNat - 0x80)
  if o.missing ≤ 1 then .inl (.char (Char.ofNat value))
  else .inr ⟨b :: o.bytes, value, o.missing - 1, 0x80, 0xBF⟩

def piecesAfter : Option Open → List UInt8 → List Piece
  | none, [] => []
  | some o, [] => [.malformed o.bytes.reverse .truncated]
  | none, b :: rest =>
    match lead b with
    | .inl piece => piece :: piecesAfter none rest
    | .inr o => piecesAfter (some o) rest
  | some o, b :: rest =>
    if o.low ≤ b.toNat ∧ b.toNat ≤ o.high then
      match o.extend b with
      | .inl piece => piece :: piecesAfter none rest
      | .inr more => piecesAfter (some more) rest
    else
      .malformed o.bytes.reverse .continuation ::
        match lead b with
        | .inl piece => piece :: piecesAfter none rest
        | .inr more => piecesAfter (some more) rest

def pieces (bytes : List UInt8) : List Piece :=
  piecesAfter none bytes

def decodeLossy (bytes : List UInt8) : List Char :=
  (pieces bytes).map fun
    | .char c => c
    | .malformed _ _ => '\uFFFD'

structure DecodeError where
  position : Nat
  bytes : List UInt8
  fault : Fault
  deriving DecidableEq, Repr

def DecodeError.message (e : DecodeError) : String :=
  let place :=
    match e.bytes with
    | [b] =>
      "byte 0x" ++ String.ofList (hexDigits 2 b.toNat) ++ " in position " ++ toString e.position
    | _ => "bytes in position " ++ toString e.position ++ "-" ++
        toString (e.position + e.bytes.length - 1)
  "'utf-8' codec can't decode " ++ place ++ ": " ++ e.fault.reason

def width (c : Char) : Nat :=
  if c.toNat < 0x80 then 1 else if c.toNat < 0x800 then 2 else if c.toNat < 0x10000 then 3 else 4

def charsFrom (position : Nat) : List Piece → Except DecodeError (List Char)
  | [] => .ok []
  | .char c :: rest => (charsFrom (position + width c) rest).map (c :: ·)
  | .malformed bytes fault :: _ => .error ⟨position, bytes, fault⟩

def decode (bytes : List UInt8) : Except DecodeError (List Char) :=
  charsFrom 0 (pieces bytes)

def encode (text : List Char) : List UInt8 :=
  (String.ofList text).toUTF8.toList

end Gesture.Text.Utf8
