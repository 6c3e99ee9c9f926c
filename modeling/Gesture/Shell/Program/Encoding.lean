import Gesture.Shell.Program.Size

namespace Gesture.Shell.Program

namespace Base64

def alphabet : List Char :=
  "ABCDEFGHIJKLMNOPQRSTUVWXYZabcdefghijklmnopqrstuvwxyz0123456789+/".toList

def sign (n : Nat) : Char :=
  alphabet.getD (n % 64) '='

def encode : Bytes → Bytes
  | a :: b :: c :: rest =>
    let n := a.toNat * 65536 + b.toNat * 256 + c.toNat
    sign (n / 262144) :: sign (n / 4096) :: sign (n / 64) :: sign n :: encode rest
  | [a, b] =>
    let n := a.toNat * 65536 + b.toNat * 256
    [sign (n / 262144), sign (n / 4096), sign (n / 64), '=']
  | [a] => [sign (a.toNat / 4), sign (a.toNat * 16), '=', '=']
  | [] => []

def value? (c : Char) : Option Nat :=
  alphabet.findIdx? (· == c)

def decode : Bytes → Bytes × Bool
  | a :: b :: c :: d :: rest =>
    match value? a, value? b, value? c, value? d with
    | some x, some y, some z, some w =>
      let n := x * 262144 + y * 4096 + z * 64 + w
      let (bytes, good) := decode rest
      (Char.ofNat (n / 65536) :: Char.ofNat (n / 256 % 256) :: Char.ofNat (n % 256) :: bytes, good)
    | some x, some y, some z, none =>
      let n := x * 1024 + y * 16 + z / 4
      let now := [Char.ofNat (n / 256 % 256), Char.ofNat (n % 256)]
      if d == '=' then
        let (bytes, good) := decode rest
        (now ++ bytes, good)
      else (now, false)
    | some x, some y, none, _ =>
      let now := [Char.ofNat (x * 4 + y / 16)]
      if c == '=' && d == '=' then
        let (bytes, good) := decode rest
        (now ++ bytes, good)
      else (now, false)
    | _, _, _, _ => ([], false)
  | [] => ([], true)
  | [a, b, c] =>
    match value? a, value? b, value? c with
    | some x, some y, some z =>
      let n := x * 1024 + y * 16 + z / 4
      ([Char.ofNat (n / 256 % 256), Char.ofNat (n % 256)], false)
    | some x, some y, none => ([Char.ofNat (x * 4 + y / 16)], false)
    | _, _, _ => ([], false)
  | [a, b] =>
    match value? a, value? b with
    | some x, some y => ([Char.ofNat (x * 4 + y / 16)], false)
    | _, _ => ([], false)
  | [_] => ([], false)

end Base64

namespace Base32

def alphabet : List Char :=
  "ABCDEFGHIJKLMNOPQRSTUVWXYZ234567".toList

def value? (c : Char) : Option Nat :=
  alphabet.findIdx? (· == c)

def signCount (bytes : Nat) : Nat :=
  (8 * bytes + 4) / 5

def encodeGroups : Nat → Bytes → Bytes
  | 0, _ => []
  | limit + 1, text =>
    let group := text.take 5
    if group.isEmpty then []
    else
      let n := (group ++ List.replicate (5 - group.length) '\x00').foldl
        (fun n c => 256 * n + c.toNat) 0
      let signs := (List.range 8).map fun i => alphabet.getD (n / Nat.pow 32 (7 - i) % 32) '='
      let count := signCount group.length
      signs.take count ++ List.replicate (8 - count) '=' ++ encodeGroups limit (text.drop 5)

def encode (text : Bytes) : Bytes :=
  encodeGroups (text.length + 1) text

/-- The bytes of a group of signs, and whether it is right: signs for whole bytes, and nothing but
    filling after them. -/
def decodeGroup (group : Bytes) : Bytes × Bool :=
  let signs := group.takeWhile fun c => (value? c).isSome
  let filling := group.drop signs.length
  let count := signs.length * 5 / 8
  let n := (signs ++ List.replicate (8 - signs.length) 'A').foldl
    (fun n c => 32 * n + (value? c).getD 0) 0
  let bytes := (List.range count).map fun i => Char.ofNat (n / Nat.pow 256 (4 - i) % 256)
  (bytes, group.length == 8 && signCount count == signs.length && 0 < count &&
    filling.all (· == '='))

def decodeGroups : Nat → Bytes → Bytes × Bool
  | 0, _ => ([], true)
  | limit + 1, signs =>
    if signs.isEmpty then ([], true)
    else
      let (bytes, right) := decodeGroup (signs.take 8)
      if !right then (bytes, false)
      else
        let (more, right) := decodeGroups limit (signs.drop 8)
        (bytes ++ more, right)

def decode (signs : Bytes) : Bytes × Bool :=
  decodeGroups (signs.length + 1) signs

end Base32

structure Coding where
  encode : Bytes → Bytes
  decode : Bytes → Bytes × Bool
  isSign : Char → Bool

def rowsOf (width : Nat) : Nat → Bytes → Bytes
  | 0, signs => signs
  | limit + 1, signs =>
    if width = 0 || signs.isEmpty then signs
    else signs.take width ++ '\n' :: rowsOf width limit (signs.drop width)

def Coding.run (coding : Coding) (o : Options) : Run Nat := do
  let widths : Except String (List Nat) := (o.letters.filter (·.1 == 'w')).mapM fun (_, text) =>
    match Size.ofText "" text with
    | .error .malformed => .error ("invalid wrap size: " ++ inRoundQuotes text)
    | .error _ => .ok 0
    | .ok n => .ok n
  match widths, o.rest with
  | .error message, _ => refuse 1 message
  | _, _ :: extra :: _ => misuse 1 ("extra operand " ++ inRoundQuotes extra)
  | .ok widths, rest =>
    let width := widths.getLastD 76
    let path := rest.headD ['-']
    match ← openInput path with
    | .error e => refuse 1 (named path ++ ": " ++ e.reason)
    | .ok d =>
      match ← Run.receiveKnown d with
      | .error e => refuse 1 ("read error: " ++ e.reason)
      | .ok (text, endless) =>
        if endless then Run.update fun p => { p with unfinished := true }
        if o.has 'd' then
          let signs := text.filter fun c =>
            if o.has 'i' then coding.isSign c || c == '=' else c != '\n'
          let (bytes, right) := coding.decode signs
          emit bytes
          if right then return 0 else refuse 1 "invalid input"
        else
          let signs := coding.encode text
          emit (rowsOf width signs.length signs)
          return 0

def codingLong : List (String × Char) :=
  [("decode", 'd'), ("ignore-garbage", 'i'), ("wrap", 'w')]

def base64 (arguments : List Bytes) : Run Nat :=
  withOptions "diw:" codingLong false 1 arguments
    (Coding.run ⟨Base64.encode, Base64.decode, fun c => (Base64.value? c).isSome⟩)

def base32 (arguments : List Bytes) : Run Nat :=
  withOptions "diw:" codingLong false 1 arguments
    (Coding.run ⟨Base32.encode, Base32.decode, fun c => (Base32.value? c).isSome⟩)

end Gesture.Shell.Program
