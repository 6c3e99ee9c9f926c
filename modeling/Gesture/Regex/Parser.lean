import Gesture.Regex.Reader
import Gesture.Text.Blank
import Gesture.Text.Digit
import Gesture.Text.Letter
import Gesture.Text.Name

namespace Gesture.Regex

def isOctalDigit (c : Char) : Bool :=
  decide ('0' ≤ c) && decide (c ≤ '7')

def isAsciiDigit (c : Char) : Bool :=
  decide ('0' ≤ c) && decide (c ≤ '9')

def isAsciiLetter (c : Char) : Bool :=
  (decide ('a' ≤ c) && decide (c ≤ 'z')) || (decide ('A' ≤ c) && decide (c ≤ 'Z'))

def numberIn (base : Nat) (digits : List Char) : Nat :=
  digits.foldl (fun value c => base * value + (Text.hexValue? c).getD 0) 0

def controlEscape? : Char → Option Nat
  | 'a' => some 7
  | 'b' => some 8
  | 'f' => some 12
  | 'n' => some 10
  | 'r' => some 13
  | 't' => some 9
  | 'v' => some 11
  | '\\' => some 0x5C
  | _ => none

def categoryEscape? : Char → Option (Category × Bool)
  | 'd' => some (.digit, false)
  | 'D' => some (.digit, true)
  | 's' => some (.space, false)
  | 'S' => some (.space, true)
  | 'w' => some (.word, false)
  | 'W' => some (.word, true)
  | _ => none

def anchorEscape? : Char → Option Anchor
  | 'A' => some .textStart
  | 'b' => some .boundary
  | 'B' => some .noBoundary
  | 'Z' => some .textEnd
  | _ => none

def hexEscape (c : Char) (count : Nat) : Scan Nat := do
  let digits ← Scan.take (fun d => (Text.hexValue? d).isSome) count
  let text := '\\' :: c :: digits
  if digits.length ≠ count then Scan.fail (.incompleteEscape text) text.length
  else
    let code := numberIn 16 digits
    if 0x10FFFF < code then Scan.fail (.badEscape text) text.length else return code

def namedEscape : Scan Nat := do
  if ← Scan.accept '{' then
    let name ← Scan.name '}' "character name"
    match Text.characterNamed? name with
    | some code => return code
    | none => Scan.fail (.undefinedCharacter name) (name.length + 4)
  else Scan.fail .missingBrace 0

/-- The escapes that sets and sequences have in common: by code, by name, and of characters that
    need none. -/
def commonEscape (c : Char) : Scan Nat :=
  match c with
  | 'x' => hexEscape 'x' 2
  | 'u' => hexEscape 'u' 4
  | 'U' => hexEscape 'U' 8
  | 'N' => namedEscape
  | c =>
    if isAsciiLetter c || isAsciiDigit c then Scan.fail (.badEscape ['\\', c]) 2
    else return c.toNat

def setEscape (c : Char) : Scan SetItem := do
  match controlEscape? c, categoryEscape? c with
  | some code, _ => return .char code
  | none, some (kind, negated) => return .category kind negated
  | none, none =>
    if isOctalDigit c then
      let digits := c :: (← Scan.take isOctalDigit 2)
      let code := numberIn 8 digits
      if 0o377 < code then Scan.fail (.octalRange ('\\' :: digits)) (digits.length + 1)
      else return .char code
    else return .char (← commonEscape c)

def checkLookbehind (index : Nat) : Scan Unit := do
  let g ← Scan.groups
  match g.lookbehind with
  | none => return ()
  | some bound =>
    if (g.width? index).isNone then Scan.fail .openGroup 0
    else if bound ≤ index then Scan.fail .lookbehindGroup 0
    else return ()

def groupReference (digits : List Char) : Scan Node := do
  let index := numberIn 10 digits
  let g ← Scan.groups
  if index < g.widths.length then
    match g.width? index with
    | none => Scan.fail .openGroup (digits.length + 1)
    | some width =>
      checkLookbehind index
      return .backref index width
  else Scan.fail (.invalidGroup index) digits.length

/-- A number after a backslash: three octal digits are a character, all else refers to a group. -/
def numberEscape (c : Char) : Scan Node := do
  match ← Scan.peek with
  | some (.char d) =>
    if isAsciiDigit d then
      let _ ← Scan.next
      match ← Scan.peek with
      | some (.char e) =>
        if isOctalDigit c && isOctalDigit d && isOctalDigit e then
          let _ ← Scan.next
          let code := numberIn 8 [c, d, e]
          if 0o377 < code then Scan.fail (.octalRange ['\\', c, d, e]) 4
          else return .char false code
        else groupReference [c, d]
      | _ => groupReference [c, d]
    else groupReference [c]
  | _ => groupReference [c]

def escapeNode (c : Char) : Scan Node := do
  match anchorEscape? c, categoryEscape? c, controlEscape? c with
  | some a, _, _ => return .anchor a
  | none, some (kind, negated), _ => return .set false [.category kind negated]
  | none, none, some code => return .char false code
  | none, none, none =>
    if c = '0' then
      let digits := c :: (← Scan.take isOctalDigit 2)
      return .char false (numberIn 8 digits)
    else if isAsciiDigit c then numberEscape c
    else return .char false (← commonEscape c)

def setMember (mark : Mark) : Scan SetItem :=
  match mark with
  | .char c => return .char c.toNat
  | .escape c => setEscape c
  | .dangling => Scan.fail .danglingEscape 1

def setRange (first last : Mark) (low high : SetItem) : Scan SetItem :=
  let fault := Scan.fail (.badRange first.text last.text) (first.text.length + 1 + last.text.length)
  match low, high with
  | .char low, .char high => if high < low then fault else return .range low high
  | _, _ => fault

/-- The members of the set that opened at `start`, after the members `done`, which are last first.
    Each round reads one mark at least, so `count` rounds are enough. A closing bracket that comes
    first is a member. -/
def setItems (start : Nat) (done : List SetItem) : Nat → Scan (List SetItem)
  | 0 => Scan.failAt .unterminatedSet start
  | count + 1 => do
    match ← Scan.next with
    | none => Scan.failAt .unterminatedSet start
    | some mark =>
      if mark = .char ']' && !done.isEmpty then return done.reverse
      else
        let low ← setMember mark
        if ← Scan.accept '-' then
          match ← Scan.next with
          | none => Scan.failAt .unterminatedSet start
          | some last =>
            if last = .char ']' then return (.char '-'.toNat :: low :: done).reverse
            else
              let high ← setMember last
              let range ← setRange mark last low high
              setItems start (range :: done) count
        else setItems start (low :: done) count

/-- The set after an opening bracket at `start`. With a single character it is that character. -/
def setNode (start : Nat) : Scan Node := fun r =>
  (do
    let negated ← Scan.accept '^'
    match (← setItems start [] (r.rest.length + 1)).eraseDups with
    | [.char code] => return .char negated code
    | items => return .set negated items : Scan Node) r

def readCount (digits : List Char) : Scan Nat :=
  if Text.digitLimit < digits.length then Scan.throw (.digitLimit digits.length)
  else
    let n := numberIn 10 digits
    if unbounded ≤ n then Scan.throw .countTooLarge else return n

def braces : Scan (Option (List Char × List Char)) := do
  let low ← Scan.takeAll isAsciiDigit
  let high ← if ← Scan.accept ',' then Scan.takeAll isAsciiDigit else pure low
  if ← Scan.accept '}' then return some (low, high) else return none

/-- The counts that a quantifier asks for, or nothing if its brace is an ordinary character. -/
def counts (quantifier : Char) : Scan (Option (Nat × Option Nat)) := do
  match quantifier with
  | '?' => return some (0, some 1)
  | '*' => return some (0, none)
  | '+' => return some (1, none)
  | _ =>
    if (← Scan.peek) = some (.char '}') then return none
    else
      let start ← Scan.position
      match ← Scan.orStay braces with
      | none => return none
      | some (low, high) =>
        let least ← if low.isEmpty then pure 0 else readCount low
        if high.isEmpty then return some (least, none)
        else
          let most ← readCount high
          if most < least then Scan.failAt .countOrder start else return some (least, some most)

def readGreed : Scan Greed := do
  if ← Scan.accept '?' then return .reluctant
  if ← Scan.accept '+' then return .possessive
  return .greedy

def quantify (quantifier : Char) (start : Nat) (done : List Node) : Scan (List Node) := do
  match ← counts quantifier with
  | none => return .char false quantifier.toNat :: done
  | some (least, most) =>
    match done with
    | [] => Scan.failAt .nothingToRepeat start
    | .anchor _ :: _ => Scan.failAt .nothingToRepeat start
    | .repeated .. :: _ => Scan.failAt .multipleRepeat start
    | node :: before =>
      let greed ← readGreed
      return .repeated greed least most node.unwrap :: before

inductive Opening where
  | capture (index : Nat)
  | scoped (on off : Flags)
  | atomic
  | look (ahead negated outermost : Bool)

/-- What the text from a parenthesis on turns out to be: nothing, flags for the whole expression, a
    whole node, a body to be read, or a condition whose branches are to be read. -/
inductive Head where
  | comment
  | flags
  | node (node : Node)
  | body (o : Opening)
  | condition (index : Nat)

def markText (mark : Option Mark) : List Char :=
  (mark.map Mark.text).getD []

def markFlag? : Option Mark → Option Flag
  | some (.char c) => Flag.ofChar? c
  | _ => none

def isLetterMark : Option Mark → Bool
  | some (.char c) => Text.isLetter c.toNat
  | _ => false

def flagScope (on off : Flags) : Scan Head :=
  if off.contains .template then Scan.fail .globalFlagOff 1
  else if on.any off.contains then Scan.fail .flagOnAndOff 1
  else return .body (.scoped on off)

def flagsOff (on off : Flags) (flag : Flag) : Nat → Scan Head
  | 0 => Scan.fail .missingColon 0
  | count + 1 => do
    if flag.isClass then Scan.fail .classFlagOff 0
    else
      let off := off ++ [flag]
      let mark ← Scan.next
      match mark, markFlag? mark with
      | none, _ => Scan.fail .missingColon 0
      | some (.char ':'), _ => flagScope on off
      | _, some flag => flagsOff on off flag count
      | mark, none =>
        Scan.fail (if isLetterMark mark then .unknownFlag else .missingColon) (markText mark).length

def afterHyphen (on : Flags) : Scan Head := do
  let mark ← Scan.next
  match mark, markFlag? mark with
  | none, _ => Scan.fail .missingFlag 0
  | _, some flag => fun r => flagsOff on [] flag (r.rest.length + 1) r
  | mark, none =>
    Scan.fail (if isLetterMark mark then .unknownFlag else .missingFlag) (markText mark).length

/-- Flags to turn on, after `on`; `flag` comes next. A closing parenthesis makes them hold for the
    whole expression. -/
def flagsOn (on : Flags) (flag : Flag) : Nat → Scan Head
  | 0 => Scan.fail .missingFlagEnd 0
  | count + 1 => do
    let on := on ++ [flag]
    if flag = .locale then Scan.fail .localeFlag 0
    else if flag.isClass && on.any (fun f => f.isClass && f != flag) then
      Scan.fail .incompatibleFlags 0
    else
      let mark ← Scan.next
      match mark, markFlag? mark with
      | none, _ => Scan.fail .missingFlagEnd 0
      | some (.char ')'), _ =>
        let g ← Scan.groups
        Scan.setGroups { g with flags := g.flags ++ on }
        return .flags
      | some (.char ':'), _ =>
        if on.contains .template then Scan.fail .globalFlagOn 1 else flagScope on []
      | some (.char '-'), _ =>
        if on.contains .template then Scan.fail .globalFlagOn 1 else afterHyphen on
      | _, some flag => flagsOn on flag count
      | mark, none =>
        Scan.fail (if isLetterMark mark then .unknownFlag else .missingFlagEnd)
          (markText mark).length

def openGroup (name : Option (List Char)) : Scan Head := do
  let g ← Scan.groups
  let index := g.widths.length
  let g := { g with widths := g.widths ++ [none] }
  match name with
  | none =>
    Scan.setGroups g
    return .body (.capture index)
  | some name =>
    match g.index? name with
    | some earlier => Scan.fail (.redefinedGroup name index earlier) (name.length + 1)
    | none =>
      Scan.setGroups { g with names := g.names ++ [(name, index)] }
      return .body (.capture index)

def checkName (name : List Char) : Scan Unit :=
  if Text.isIdentifier name then return ()
  else Scan.fail (.badGroupName name) (name.length + 1)

def namedReference : Scan Head := do
  let name ← Scan.name ')' "group name"
  checkName name
  let g ← Scan.groups
  match g.index? name with
  | none => Scan.fail (.unknownGroup name) (name.length + 1)
  | some index =>
    match g.width? index with
    | none => Scan.fail .openGroup (name.length + 1)
    | some width =>
      checkLookbehind index
      return .node (.backref index width)

def plainDigits? : List Char → Option (List Char)
  | [] => none
  | [c] => if Text.isDigit c then some [c] else none
  | c :: '_' :: rest => if Text.isDigit c then (plainDigits? rest).map (c :: ·) else none
  | c :: rest => if Text.isDigit c then (plainDigits? rest).map (c :: ·) else none

/-- The number that a text writes, between blanks and with a sign if need be. A minus sign is taken
    only before zeros. -/
def groupNumber? (text : List Char) : Option Nat := do
  let body := Text.strip text
  let unsigned := if body.head? = some '+' ∨ body.head? = some '-' then body.tail else body
  let digits ← plainDigits? unsigned
  if Text.digitLimit < digits.length then none
  else
    let value := Text.decimalValue digits
    if body.head? = some '-' ∧ value ≠ 0 then none else some value

def groupLimit : Nat := 1073741823

def condition : Scan Head := do
  let name ← Scan.name ')' "group name"
  let back := name.length + 1
  let g ← Scan.groups
  if Text.isIdentifier name then
    match g.index? name with
    | none => Scan.fail (.unknownGroup name) back
    | some index =>
      checkLookbehind index
      return .condition index
  else
    match groupNumber? name with
    | none => Scan.fail (.badGroupName name) back
    | some 0 => Scan.fail .badGroupNumber back
    | some index =>
      if groupLimit ≤ index then Scan.fail (.invalidGroup index) back
      else
        Scan.setGroups (g.mention index ((← Scan.position) - back))
        checkLookbehind index
        return .condition index

def commentGroup (start : Nat) : Nat → Scan Head
  | 0 => Scan.failAt .unterminatedComment start
  | count + 1 => do
    match ← Scan.next with
    | none => Scan.failAt .unterminatedComment start
    | some mark => if mark = .char ')' then return .comment else commentGroup start count

def lookbehind (negated : Bool) : Scan Head := do
  let g ← Scan.groups
  match g.lookbehind with
  | some _ => return .body (.look false negated false)
  | none =>
    Scan.setGroups { g with lookbehind := some g.widths.length }
    return .body (.look false negated true)

def optionHead (start : Nat) (c : Char) : Scan Head := do
  match c with
  | 'P' =>
    if ← Scan.accept '<' then
      let name ← Scan.name '>' "group name"
      checkName name
      openGroup (some name)
    else if ← Scan.accept '=' then namedReference
    else
      match ← Scan.next with
      | none => Scan.fail .endOfPattern 0
      | some mark => Scan.fail (.unknownExtension ('P' :: mark.text)) (mark.text.length + 2)
  | ':' => return .body (.scoped [] [])
  | '#' => fun r => commentGroup start (r.rest.length + 1) r
  | '=' => return .body (.look true false false)
  | '!' => return .body (.look true true false)
  | '<' =>
    match ← Scan.next with
    | none => Scan.fail .endOfPattern 0
    | some (.char '=') => lookbehind false
    | some (.char '!') => lookbehind true
    | some mark => Scan.fail (.unknownExtension ('<' :: mark.text)) (mark.text.length + 2)
  | '(' => condition
  | '>' => return .body .atomic
  | '-' => afterHyphen []
  | c =>
    match Flag.ofChar? c with
    | some flag => fun r => flagsOn [] flag (r.rest.length + 1) r
    | none => Scan.fail (.unknownExtension [c]) 2

/-- What opens at `start`, where the parenthesis has been read. `atStart` tells whether flags for
    the whole expression may stand here. -/
def groupHead (start : Nat) (atStart : Bool) : Scan Head := do
  if ← Scan.accept '?' then
    match ← Scan.next with
    | none => Scan.fail .endOfPattern 0
    | some (.char c) =>
      match ← optionHead start c with
      | .flags => if atStart then return .flags else Scan.failAt .lateFlags start
      | head => return head
    | some mark => Scan.fail (.unknownExtension mark.text) (mark.text.length + 1)
  else openGroup none

def Opening.verbose (o : Opening) (outside : Bool) : Bool :=
  match o with
  | .scoped on off => (outside || on.contains .verbose) && !off.contains .verbose
  | _ => outside

def closeGroup (start : Nat) (o : Opening) (body : List Node) : Scan Node := do
  if ← Scan.accept ')' then
    let g ← Scan.groups
    match o with
    | .capture index =>
      Scan.setGroups (g.close index (Node.sequenceWidth body))
      return .group index body
    | .scoped on off => return .scoped on off body
    | .atomic => return .atomic body
    | .look ahead negated outermost =>
      if outermost then Scan.setGroups { g with lookbehind := none }
      return .look ahead negated body
  else Scan.failAt .unterminatedGroup start

def closeCondition (start index : Nat) (yes no : List Node) : Scan Node := do
  if ← Scan.accept ')' then return .conditional index yes no
  else Scan.failAt .unterminatedGroup start

def isVerboseSpace (c : Char) : Bool :=
  c == ' ' || (decide ('\t' ≤ c) && decide (c ≤ '\r'))

def lineComment : Nat → Scan Unit
  | 0 => return ()
  | count + 1 => do
    match ← Scan.next with
    | none => return ()
    | some mark => if mark = .char '\n' then return () else lineComment count

/-- The nodes with one more, which starts with a mark other than a parenthesis at `start`. -/
def extendNodes (verbose : Bool) (start : Nat) (mark : Mark) (done : List Node) :
    Scan (List Node) :=
  match mark with
  | .dangling => Scan.fail .danglingEscape 1
  | .escape c => return (← escapeNode c) :: done
  | .char c =>
    if verbose && isVerboseSpace c then return done
    else if verbose && c = '#' then fun r =>
      (do lineComment r.rest.length; return done : Scan (List Node)) r
    else
      match c with
      | '[' => return (← setNode start) :: done
      | '?' | '*' | '+' | '{' => quantify c start done
      | '.' => return .any :: done
      | '^' => return .anchor .lineStart :: done
      | '$' => return .anchor .lineEnd :: done
      | c => return .char false c.toNat :: done

def Reader.atEnd (r : Reader) : Bool :=
  r.rest.isEmpty || r.rest.head? = some (.char '|') || r.rest.head? = some (.char ')')

mutual

/-- The rest of a sequence after the nodes `done`, which are last first, and how many groups deep the
    text is read. `first` tells whether the sequence starts the whole expression. -/
def sequence (verbose first : Bool) (done : List Node) (r : Reader) :
    Nat × Except Error (List Node × After r) :=
  if r.atEnd then (0, .ok (done.reverse.flatMap Node.unwrap, ⟨r, Nat.le_refl _⟩))
  else
    match r.advance? with
    | .error e => (0, .error e)
    | .ok none => (0, .ok (done.reverse.flatMap Node.unwrap, ⟨r, Nat.le_refl _⟩))
    | .ok (some (mark, ⟨r₁, h₁⟩)) =>
      if mark = .char '(' then
        match groupHead r.position (first && done.isEmpty) r₁ with
        | .error e => (0, .error e)
        | .ok (.comment, ⟨r₂, h₂⟩) =>
          match sequence verbose first done r₂ with
          | (depth, .error e) => (depth, .error e)
          | (depth, .ok (nodes, ⟨r₃, h₃⟩)) => (depth, .ok (nodes, ⟨r₃, by omega⟩))
        | .ok (.flags, ⟨r₂, h₂⟩) =>
          match sequence (r₂.groups.flags.contains .verbose) first done r₂ with
          | (depth, .error e) => (depth, .error e)
          | (depth, .ok (nodes, ⟨r₃, h₃⟩)) => (depth, .ok (nodes, ⟨r₃, by omega⟩))
        | .ok (.node node, ⟨r₂, h₂⟩) =>
          match sequence verbose first (node :: done) r₂ with
          | (depth, .error e) => (depth, .error e)
          | (depth, .ok (nodes, ⟨r₃, h₃⟩)) => (depth, .ok (nodes, ⟨r₃, by omega⟩))
        | .ok (.body o, ⟨r₂, h₂⟩) =>
          match alternatives (o.verbose verbose) false false [] r₂ with
          | (inner, .error e) => (inner + 1, .error e)
          | (inner, .ok (body, ⟨r₃, h₃⟩)) =>
            match closeGroup r.position o body r₃ with
            | .error e => (inner + 1, .error e)
            | .ok (node, ⟨r₄, h₄⟩) =>
              match sequence verbose first (node :: done) r₄ with
              | (depth, .error e) => (max (inner + 1) depth, .error e)
              | (depth, .ok (nodes, ⟨r₅, h₅⟩)) =>
                (max (inner + 1) depth, .ok (nodes, ⟨r₅, by omega⟩))
        | .ok (.condition index, ⟨r₂, h₂⟩) =>
          match branches verbose r₂ with
          | (inner, .error e) => (inner + 1, .error e)
          | (inner, .ok ((yes, no), ⟨r₃, h₃⟩)) =>
            match closeCondition r.position index yes no r₃ with
            | .error e => (inner + 1, .error e)
            | .ok (node, ⟨r₄, h₄⟩) =>
              match sequence verbose first (node :: done) r₄ with
              | (depth, .error e) => (max (inner + 1) depth, .error e)
              | (depth, .ok (nodes, ⟨r₅, h₅⟩)) =>
                (max (inner + 1) depth, .ok (nodes, ⟨r₅, by omega⟩))
      else
        match extendNodes verbose r.position mark done r₁ with
        | .error e => (0, .error e)
        | .ok (extended, ⟨r₂, h₂⟩) =>
          match sequence verbose first extended r₂ with
          | (depth, .error e) => (depth, .error e)
          | (depth, .ok (nodes, ⟨r₃, h₃⟩)) => (depth, .ok (nodes, ⟨r₃, by omega⟩))
termination_by 2 * r.rest.length

/-- Sequences between bars, after the sequences `done`, which are last first. At the top of the
    expression the flags for all of it decide anew after each bar whether it is verbose. -/
def alternatives (verbose top first : Bool) (done : List (List Node)) (r : Reader) :
    Nat × Except Error (List Node × After r) :=
  match sequence verbose first [] r with
  | (depth, .error e) => (depth, .error e)
  | (depth, .ok (branch, ⟨r₁, h₁⟩)) =>
    if r₁.rest.head? = some (.char '|') then
      match r₁.advance? with
      | .error e => (depth, .error e)
      | .ok none => (depth, .ok (Node.ofBranches (branch :: done).reverse, ⟨r₁, h₁⟩))
      | .ok (some (_, ⟨r₂, h₂⟩)) =>
        let verbose := if top then r₂.groups.flags.contains .verbose else verbose
        match alternatives verbose top false (branch :: done) r₂ with
        | (others, .error e) => (max depth others, .error e)
        | (others, .ok (nodes, ⟨r₃, h₃⟩)) => (max depth others, .ok (nodes, ⟨r₃, by omega⟩))
    else (depth, .ok (Node.ofBranches (branch :: done).reverse, ⟨r₁, h₁⟩))
termination_by 2 * r.rest.length + 1

def branches (verbose : Bool) (r : Reader) :
    Nat × Except Error ((List Node × List Node) × After r) :=
  match sequence verbose false [] r with
  | (depth, .error e) => (depth, .error e)
  | (depth, .ok (yes, ⟨r₁, h₁⟩)) =>
    if r₁.rest.head? = some (.char '|') then
      match r₁.advance? with
      | .error e => (depth, .error e)
      | .ok none => (depth, .ok ((yes, []), ⟨r₁, h₁⟩))
      | .ok (some (_, ⟨r₂, h₂⟩)) =>
        match sequence verbose false [] r₂ with
        | (other, .error e) => (max depth other, .error e)
        | (other, .ok (no, ⟨r₃, h₃⟩)) =>
          if r₃.rest.head? = some (.char '|') then
            (max depth other, .error (.invalid .manyBranches (some r₃.position)))
          else (max depth other, .ok ((yes, no), ⟨r₃, by omega⟩))
    else (depth, .ok ((yes, []), ⟨r₁, h₁⟩))
termination_by 2 * r.rest.length + 1

end

/-- A parsed expression, the flags that hold for all of it, and the number of its groups. -/
structure Expression where
  flags : Flags
  groups : Nat
  nodes : List Node

def wholeFlags (flags : Flags) : Except Error Flags :=
  if !flags.contains .ascii then .ok (flags ++ [.unicode])
  else if flags.contains .unicode then .error .conflictingFlags
  else .ok flags

/-- The nodes of a text and the reader behind them, and how many groups deep the text is read. -/
def read (text : List Char) : Nat × Except Error (List Node × Reader) :=
  let marks := Mark.ofText text
  if marks.head? = some .dangling then (0, .error (.invalid .danglingEscape (some 0)))
  else
    let (depth, nodes) := alternatives false true true [] ⟨marks, 0, {}⟩
    (depth, nodes.map fun p => (p.1, p.2.1))

def parse (text : List Char) : Except Error Expression := do
  let (nodes, r) ← (read text).2
  let flags ← wholeFlags r.groups.flags
  if !r.rest.isEmpty then throw (.invalid .unbalanced (some r.position))
  let count := r.groups.widths.length
  match r.groups.mentioned.find? (count ≤ ·.1) with
  | some (index, position) => throw (.invalid (.invalidGroup index) (some position))
  | none => return ⟨flags, count - 1, nodes⟩

end Gesture.Regex
