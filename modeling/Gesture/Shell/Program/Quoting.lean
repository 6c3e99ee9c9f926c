import Gesture.Shell.Regular

namespace Gesture.Shell.Program

namespace Quoting

def isPlain (c : Char) : Bool :=
  if c.toNat < 0x80 then decide (' ' ≤ c) && decide (c ≤ '~')
  else !Regular.isStray c && Wide.isIn "print" c

def letter? (c : Char) : Option Char :=
  match c with
  | '\x07' => some 'a'
  | '\x08' => some 'b'
  | '\x0c' => some 'f'
  | '\n' => some 'n'
  | '\r' => some 'r'
  | '\t' => some 't'
  | '\x0b' => some 'v'
  | _ => none

def octal (c : Char) : Bytes :=
  let n := c.toNat
  ['\\', Nat.digitChar (n / 64), Nat.digitChar (n / 8 % 8), Nat.digitChar (n % 8)]

def escape (c : Char) : Bytes :=
  match letter? c with
  | some letter => ['\\', letter]
  | none => (Regular.narrow [c]).flatMap octal

def isSpecial (place : Nat) (c : Char) : Bool :=
  !isPlain c || " !\"$&()*;<=>[^\x60|?'\\:".toList.contains c ||
    (place = 0 && (c == '#' || c == '~'))

def isUnsafe (name : Bytes) : Bool :=
  name.isEmpty || name == ['\x7b'] || name == ['\x7d'] ||
    (Regular.wide name).zipIdx.any fun p => isSpecial p.2 p.1

def isShared (place : Nat) (c : Char) : Bool :=
  c.isAlphanum || " '%+,-./:]_".toList.contains c || (place = 0 && (c == '#' || c == '~'))

def inSingle : Bool → List Char → Bytes
  | _, [] => []
  | escaping, c :: rest =>
    if !isPlain c then
      (if escaping then [] else "'$'".toList) ++ escape c ++ inSingle true rest
    else if c == '\'' then "'\\''".toList ++ inSingle false rest
    else (if escaping then "''".toList else []) ++ Regular.narrow [c] ++ inSingle false rest

def quoted (name : Bytes) : Bytes :=
  let wide := Regular.wide name
  if wide.contains '\'' && wide.zipIdx.all fun p => isShared p.2 p.1 then
    '"' :: name ++ ['"']
  else '\'' :: inSingle false wide ++ ['\'']

end Quoting

def shown (bytes : Bytes) : String :=
  String.ofList bytes

def named (bytes : Bytes) : String :=
  shown (if Quoting.isUnsafe bytes then Quoting.quoted bytes else bytes)

def inQuotes (bytes : Bytes) : String :=
  shown (Quoting.quoted bytes)

def inRoundQuotes (bytes : Bytes) : String :=
  let closing := "\xe2\x80\x99"
  let text := (Regular.wide bytes).flatMap fun c =>
    if !Quoting.isPlain c then Quoting.escape c
    else if c == '\\' || c == Char.ofNat 0x2019 then '\\' :: Regular.narrow [c]
    else Regular.narrow [c]
  "\xe2\x80\x98" ++ shown text ++ closing

end Gesture.Shell.Program
