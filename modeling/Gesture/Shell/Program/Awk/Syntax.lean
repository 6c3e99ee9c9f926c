import Gesture.Binary64
import Gesture.Shell.Regular

namespace Gesture.Shell.Program.Awk

inductive Operator where
  | add
  | subtract
  | multiply
  | divide
  | modulo
  | power
  deriving DecidableEq, Repr

inductive Relation where
  | less
  | lessEqual
  | equal
  | notEqual
  | greater
  | greaterEqual
  deriving DecidableEq, Repr

inductive Function where
  | length
  | substr
  | index
  | split
  | sub
  | gsub
  | match
  | tolower
  | toupper
  | sprintf
  | int
  | sqrt
  | exp
  | log
  | sin
  | cos
  | atan2
  | rand
  | srand
  | system
  | close
  | fflush
  deriving DecidableEq, Repr

mutual

inductive Expr where
  | number (x : Binary64)
  | text (t : Bytes)
  | pattern (r : Regular.Compiled)
  | name (n : Bytes)
  | field (place : Expr)
  | element (array : Bytes) (subscripts : List Expr)
  | assign (operator : Option Operator) (target value : Expr)
  | choose (condition first second : Expr)
  | both (first second : Expr)
  | either (first second : Expr)
  | member (subscripts : List Expr) (array : Bytes)
  | matching (negated : Bool) (text pattern : Expr)
  | compare (relation : Relation) (first second : Expr)
  | concat (first second : Expr)
  | arithmetic (operator : Operator) (first second : Expr)
  | negative (e : Expr)
  | positive (e : Expr)
  | not (e : Expr)
  | count (after up : Bool) (target : Expr)
  | call (function : Bytes) (arguments : List Expr)
  | apply (function : Function) (arguments : List Expr)
  | getline (target : Option Expr) (source : Source)

inductive Source where
  | input
  | file (name : Expr)
  | command (text : Expr)

end

inductive Way where
  | write
  | append
  | pipe
  deriving DecidableEq, Repr

inductive Statement where
  | nothing
  | expression (e : Expr)
  | print (arguments : List Expr) (target : Option (Way × Expr))
  | printf (arguments : List Expr) (target : Option (Way × Expr))
  | block (statements : List Statement)
  | conditional (condition : Expr) (first : Statement) (second : Option Statement)
  | while (condition : Expr) (body : Statement)
  | doWhile (body : Statement) (condition : Expr)
  | loop (start : Statement) (condition : Option Expr) (next body : Statement)
  | forEach (name array : Bytes) (body : Statement)
  | next
  | nextFile
  | exit (status : Option Expr)
  | return (value : Option Expr)
  | break
  | continue
  | delete (array : Bytes) (subscripts : Option (List Expr))

inductive Condition where
  | always
  | when (e : Expr)
  | range (first last : Expr)

structure Rule where
  condition : Condition
  action : Option Statement

structure Definition where
  parameters : List Bytes
  body : Statement

structure Script where
  begins : List Statement
  rules : List Rule
  ends : List Statement
  functions : List (Bytes × Definition)

def complaintOf (e : Regular.Error) (text : Bytes) : String :=
  let reason := match e with
    | .parenthesis => "missing ')'"
    | .bracket | .className | .range | .collation => "bad class -- [], [^] or ["
    | .anchor => e.message
    | _ => Regular.Error.operand.message
  "regular expression compile failed (" ++ reason ++ ")\n" ++ String.ofList text

end Gesture.Shell.Program.Awk
