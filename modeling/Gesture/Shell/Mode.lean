import Gesture.Shell.Syntax

namespace Gesture.Shell.Mode

def letters (bits : Nat) (special : Bool) (mark : Char) : List Char :=
  let last := match bits % 2 == 1, special with
    | false, false => '-'
    | true, false => 'x'
    | false, true => mark.toUpper
    | true, true => mark
  [if bits / 4 % 2 = 1 then 'r' else '-', if bits / 2 % 2 = 1 then 'w' else '-', last]

def shown (mode : Nat) : List Char :=
  letters (mode / 64 % 8) (mode / 0o4000 % 2 == 1) 's' ++
    letters (mode / 8 % 8) (mode / 0o2000 % 2 == 1) 's' ++
    letters (mode % 8) (mode / 0o1000 % 2 == 1) 't'

inductive Sign where
  | set
  | add
  | take
  deriving DecidableEq, Repr

inductive Bits where
  | plain (value : Nat) (runsIfAny : Bool)
  | copied (from' : Nat)
  deriving DecidableEq, Repr

structure Step where
  affected : Nat
  sign : Sign
  bits : Bits
  deriving DecidableEq, Repr

inductive Change where
  | octal (mode : Nat) (all : Bool)
  | steps (steps : List Step)
  deriving DecidableEq, Repr

def whoBits? : Char → Option Nat
  | 'u' => some 0o4700
  | 'g' => some 0o2070
  | 'o' => some 0o1007
  | 'a' => some 0o7777
  | _ => none

def sign? : Char → Option Sign
  | '=' => some .set
  | '+' => some .add
  | '-' => some .take
  | _ => none

def letterBits? : Char → Option (Nat × Bool)
  | 'r' => some (0o444, false)
  | 'w' => some (0o222, false)
  | 'x' => some (0o111, false)
  | 'X' => some (0, true)
  | 's' => some (0o6000, false)
  | 't' => some (0o1000, false)
  | _ => none

def steps? (affected : Nat) : Nat → List Char → Option (List Step)
  | _, [] => some []
  | 0, _ => none
  | limit + 1, c :: rest => do
    let sign ← sign? c
    match rest with
    | 'u' :: more => return ⟨affected, sign, .copied 0o700⟩ :: (← steps? affected limit more)
    | 'g' :: more => return ⟨affected, sign, .copied 0o070⟩ :: (← steps? affected limit more)
    | 'o' :: more => return ⟨affected, sign, .copied 0o007⟩ :: (← steps? affected limit more)
    | rest =>
      let named := rest.takeWhile fun c => (letterBits? c).isSome
      let found := named.filterMap letterBits?
      let value := found.foldl (fun bits b => bits ||| b.1) 0
      let more ← steps? affected limit (rest.drop named.length)
      return ⟨affected, sign, .plain value (found.any (·.2))⟩ :: more

def clause? (text : List Char) : Option (List Step) :=
  let who := text.takeWhile fun c => (whoBits? c).isSome
  let rest := text.drop who.length
  let affected := (who.filterMap whoBits?).foldl (· ||| ·) 0
  if rest.isEmpty then none else steps? affected rest.length rest

def change? (text : List Char) : Option Change :=
  if !text.isEmpty && text.all fun c => '0' ≤ c && c ≤ '7' then
    let mode := text.foldl (fun n c => 8 * n + (c.toNat - 0x30)) 0
    if mode ≤ 0o7777 then some (.octal mode (decide (4 < text.length))) else none
  else ((text.splitOn ',').mapM clause?).map fun parts => .steps parts.flatten

def without (mode bits : Nat) : Nat :=
  mode &&& (0o7777 ^^^ (bits &&& 0o7777))

def spread (bits : Nat) : Nat :=
  (if bits &&& 0o444 = 0 then 0 else 0o444) ||| (if bits &&& 0o222 = 0 then 0 else 0o222) |||
    (if bits &&& 0o111 = 0 then 0 else 0o111)

def Step.apply (s : Step) (isDirectory : Bool) (mask mode : Nat) : Nat :=
  let kept := if isDirectory then
      match s.bits with
      | .plain value _ => without 0o6000 value
      | .copied _ => 0o6000
    else 0
  let value := match s.bits with
    | .plain value runsIfAny =>
      if runsIfAny && (isDirectory || mode &&& 0o111 ≠ 0) then value ||| 0o111 else value
    | .copied from' => spread (mode &&& from')
  let value := if s.affected = 0 then without value mask else value &&& s.affected
  let value := without value kept
  match s.sign with
  | .add => mode ||| value
  | .take => without mode value
  | .set => (mode &&& ((if s.affected = 0 then 0 else without 0o7777 s.affected) ||| kept)) ||| value

def Change.apply (c : Change) (isDirectory : Bool) (mask mode : Nat) : Nat :=
  match c with
  | .octal n all => if isDirectory && !all then n ||| (mode &&& 0o6000) else n
  | .steps list => list.foldl (fun mode s => s.apply isDirectory mask mode) mode

end Gesture.Shell.Mode
