import Gesture.Regex.Program

namespace Gesture.Regex

/-- Where the marks were set last, as far as they count, and where the search stood last. -/
structure Record where
  marks : List (Option Nat)
  cursor : Nat
  deriving DecidableEq, Repr

namespace Record

def mark (r : Record) (index place : Nat) : Record :=
  let marks :=
    if index < r.marks.length then r.marks.set index (some place)
    else r.marks ++ List.replicate (index - r.marks.length) none ++ [some place]
  { r with marks }

def moveTo (r : Record) (place : Nat) : Record :=
  { r with cursor := place }

/-- The record after a choice that failed: what was marked before it counts, with the old values if
    they are kept, and with the latest ones if not. -/
def back (keep : Bool) (before after : Record) : Record :=
  { after with marks := if keep then before.marks else after.marks.take before.marks.length }

def bounds? (r : Record) (group : Nat) : Option (Nat × Nat) := do
  let first ← (r.marks[2 * group]?).join
  let last ← (r.marks[2 * group + 1]?).join
  return (first, last)

def group? (r : Record) (group : Nat) : Option (Nat × Nat) := do
  let (first, last) ← r.bounds? group
  if last < first then none else return (first, last)

end Record

structure Outcome where
  found : Bool
  record : Record
  deriving DecidableEq, Repr

namespace Outcome

def failure (r : Record) : Outcome := ⟨false, r⟩

def orBackTo (o : Outcome) (place : Nat) : Outcome :=
  if o.found then o else failure (o.record.moveTo place)

end Outcome

abbrev Follow := Nat → Record → Outcome

abbrev Step := Nat → Record → Follow → Outcome

def finish : Follow := fun p r => ⟨true, r.moveTo p⟩

def wordBefore (text : Array Char) (wide : Bool) (place : Nat) : Bool :=
  place != 0 && (text[place - 1]?.map fun c => isWord wide c.toNat).getD false

def wordAfter (text : Array Char) (wide : Bool) (place : Nat) : Bool :=
  (text[place]?.map fun c => isWord wide c.toNat).getD false

def Anchor.holds (text : Array Char) (flags : Flags) (place : Nat) : Anchor → Bool
  | .textStart => place == 0
  | .textEnd => place == text.size
  | .lineStart =>
    place == 0 || (flags.contains .multiline && text[place - 1]? == some '\n')
  | .lineEnd =>
    place == text.size ||
    (text[place]? == some '\n' && (flags.contains .multiline || place + 1 == text.size))
  | .boundary =>
    text.size != 0 && wordBefore text flags.isUnicode place != wordAfter text flags.isUnicode place
  | .noBoundary =>
    text.size != 0 && wordBefore text flags.isUnicode place == wordAfter text flags.isUnicode place

def passesAt (text : Array Char) (test : CharTest) (place : Nat) : Bool :=
  (text[place]?.map fun c => test.holds c).getD false

def countFrom (text : Array Char) (test : CharTest) (place : Nat) : Nat → Nat
  | 0 => 0
  | limit + 1 => if passesAt text test place then countFrom text test (place + 1) limit + 1 else 0

def measure (text : Array Char) (test : CharTest) (high : Option Nat) (p : Nat) (r : Record) :
    Nat × Record :=
  let rest := text.size - p
  let count := countFrom text test p (high.elim rest (min · rest))
  (count, r.moveTo (if test.isFoldedSet then p + count else p))

/-- Tries what follows after `count` characters of a run, then after fewer. Where the character that
    has to follow is known, other places are left out. -/
def runDown (text : Array Char) (next : Option Nat) (keep : Bool) (low p : Nat) (before : Record)
    (k : Follow) : Nat → Record → Outcome
  | count, r =>
    let place := p + count
    let fits := next.all fun code => (text[place]?.map fun c => c.toNat == code).getD false
    let o := if fits then k place (r.moveTo place) else .failure r
    if o.found then o
    else
      let r := if fits then Record.back keep before o.record else r
      match count with
      | 0 => .failure r
      | fewer + 1 => if fewer < low then .failure r
        else runDown text next keep low p before k fewer r

/-- Tries what follows after `count` characters of a run, then after more. `left` is the number of
    characters that the text still has. -/
def runUp (text : Array Char) (test : CharTest) (keep : Bool) (high : Option Nat) (p : Nat)
    (before : Record) (k : Follow) : Nat → Nat → Record → Outcome
  | left, count, r =>
    if high.any (· < count) then .failure r
    else
      let place := p + count
      let o := k place (r.moveTo place)
      if o.found then o
      else
        let r := (Record.back keep before o.record).moveTo place
        if passesAt text test place then
          match left with
          | 0 => .failure r
          | left + 1 =>
            let r := if test.isFoldedSet then r.moveTo (place + 1) else r
            runUp text test keep high p before k left (count + 1) r
        else .failure r

def runStep (text : Array Char) (greed : Greed) (low : Nat) (high : Option Nat) (test : CharTest)
    (next : Option Nat) (keep : Bool) : Step := fun p r k =>
  if text.size - p < low then .failure r
  else
    match greed with
    | .greedy =>
      let (count, r) := measure text test high p r
      if count < low then .failure r else runDown text next keep low p r k count r
    | .reluctant =>
      let (count, r) := if low = 0 then (0, r.moveTo p) else measure text test (some low) p r
      if count < low then .failure r
      else runUp text test keep high p r k (text.size - p) count r
    | .possessive =>
      let (count, r) := measure text test high p r
      if count < low then .failure r else k (p + count) r

/-- Whether one more round may be tried: the count allows it, and the last optional round, if any,
    began elsewhere. -/
def mayRepeat (high : Option Nat) (count : Nat) (last : Option Nat) (p : Nat) : Bool :=
  high.all (decide <| count < ·) && last != some p

/-- As many rounds of a body as possible, then fewer. The first argument bounds their number. -/
def greedily (body : Step) (low : Nat) (high : Option Nat) (k : Follow) :
    Nat → Nat → Option Nat → Follow
  | 0, _, _, _, r => .failure r
  | rounds + 1, count, last, p, r =>
    let r := r.moveTo p
    if count < low then
      (body p r fun q r => greedily body low high k rounds (count + 1) last q r).orBackTo p
    else
      let more :=
        if mayRepeat high count last p then
          body p r fun q r => greedily body low high k rounds (count + 1) (some p) q r
        else .failure r
      if more.found then more
      else (k p ((Record.back true r more.record).moveTo p)).orBackTo p

/-- As few rounds of a body as possible, then more. `keep` tells whether the repetition itself is
    repeated. -/
def reluctantly (keep : Bool) (body : Step) (low : Nat) (high : Option Nat) (k : Follow) :
    Nat → Nat → Option Nat → Follow
  | 0, _, _, _, r => .failure r
  | rounds + 1, count, last, p, r =>
    let r := r.moveTo p
    if count < low then
      (body p r fun q r => reluctantly keep body low high k rounds (count + 1) last q r).orBackTo p
    else
      let enough := k p r
      if enough.found then enough
      else
        let r := (Record.back keep r enough.record).moveTo p
        if mayRepeat high count last p then
          (body p r fun q r =>
            reluctantly keep body low high k rounds (count + 1) (some p) q r).orBackTo p
        else .failure r

def required (body : Step) : Nat → Record → Outcome
  | 0, r => ⟨true, r⟩
  | count + 1, r =>
    let o := body r.cursor r finish
    if o.found then required body count o.record else o

def possessively (body : Step) (high : Option Nat) : Nat → Nat → Option Nat → Record → Record
  | 0, _, _, r => r
  | rounds + 1, count, last, r =>
    if mayRepeat high count last r.cursor then
      let o := body r.cursor r finish
      if o.found then possessively body high rounds (count + 1) (some r.cursor) o.record
      else Record.back true r o.record
    else r

/-- More rounds than a repetition can take: the required ones, and an optional one for each
    character and two more. -/
def roundLimit (text : Array Char) (low : Nat) : Nat :=
  low + text.size + 3

def roundsStep (text : Array Char) (greed : Greed) (low : Nat) (high : Option Nat) (keep : Bool)
    (body : Step) : Step := fun p r k =>
  let limit := roundLimit text low
  match greed with
  | .greedy => greedily body low high k limit 0 none p r
  | .reluctant => reluctantly keep body low high k limit 0 none p r
  | .possessive =>
    let o := required body low (r.moveTo p)
    if o.found then
      let r := possessively body high limit low none o.record
      k r.cursor r
    else .failure (o.record.moveTo p)

def againStep (text : Array Char) (folding : Folding) (group : Nat) : Step := fun p r k =>
  match r.group? group with
  | none => .failure r
  | some (first, last) =>
    let equal (i : Nat) : Bool :=
      match text[first + i]?, text[p + i]? with
      | some a, some b => folding.lower a.toNat == folding.lower b.toNat
      | _, _ => false
    if (List.range (last - first)).all equal then k (p + (last - first)) r else .failure r

def lookStep (back : Nat) (negated keep : Bool) (body : Step) : Step := fun p r k =>
  if p < back then if negated then k p r else .failure r
  else
    let o := body (p - back) (r.moveTo (p - back)) finish
    if negated then if o.found then .failure o.record else k p (Record.back keep r o.record)
    else if o.found then k p o.record
    else .failure o.record

def cannotStart (text : Array Char) (p : Nat) : List Instruction → Bool
  | .one test :: _ =>
    match test with
    | .char .none false _ => !passesAt text test p
    | .set s => s.folding == .none && !passesAt text test p
    | _ => false
  | _ => false

mutual

/-- What an instruction does. `next` is the character that has to follow it, if that is known, and
    `keep` tells whether it is inside of a repetition. -/
def Instruction.step (text : Array Char) (keep : Bool) (next : Option Nat) : Instruction → Step
  | .one test => fun p r k => if passesAt text test p then k (p + 1) r else .failure r
  | .anchor a flags => fun p r k => if a.holds text flags p then k p r else .failure r
  | .mark index => fun p r k => k p (r.mark index p)
  | .choice branches => fun p r k => stepsOfAny text keep branches p r r k
  | .run greed low high test => runStep text greed low high test next keep
  | .rounds greed low high body =>
    let inner := stepsOfAll text (match greed with | .possessive => keep | _ => true) none body
    roundsStep text greed low high keep inner
  | .atomic body =>
    let inner := stepsOfAll text keep none body
    fun p r k =>
      let o := inner p (r.moveTo p) finish
      if o.found then k o.record.cursor o.record else .failure (o.record.moveTo p)
  | .look back negated body =>
    lookStep back negated keep (stepsOfAll text keep none body)
  | .again folding group => againStep text folding group
  | .conditional group yes no =>
    let first := stepsOfAll text keep (if no.isEmpty then next else none) yes
    let second := stepsOfAll text keep next no
    fun p r k => if (r.group? group).isSome then first p r k else second p r k

/-- What a sequence of instructions does, where `next` is the character that has to follow it. -/
def stepsOfAll (text : Array Char) (keep : Bool) (next : Option Nat) : List Instruction → Step
  | [] => fun p r k => k p r
  | instruction :: rest =>
    let code := if rest.isEmpty then next else Instruction.literal? rest
    let first := instruction.step text keep code
    let second := stepsOfAll text keep next rest
    fun p r k => first p r fun q r => second q r k

def stepsOfAny (text : Array Char) (keep : Bool) :
    List (List Instruction) → Nat → Record → Record → Follow → Outcome
  | [] => fun _ _ r _ => .failure r
  | branch :: rest =>
    let first := stepsOfAll text keep none branch
    let second := stepsOfAny text keep rest
    fun p before r k =>
      if cannotStart text p branch then second p before r k
      else
        let o := first p (r.moveTo p) k
        if o.found then o else second p before (Record.back keep before o.record) k

end

namespace Program

def mayStart (program : Program) (text : Array Char) (place : Nat) : Bool :=
  match program.first with
  | some set => (text[place]?.map fun c => set.holds c).getD false
  | none => program.startsLiteral || decide (place + program.low ≤ text.size + 1)

/-- The first match that starts at a place or after it: where it starts, and what the search has done
    when it succeeds. -/
def firstMatch? (program : Program) (text : Array Char) (start : Nat) : Option (Nat × Record) :=
  if text.size < program.low then none
  else
    let step := stepsOfAll text false none program.instructions
    let places := (List.range (text.size + 1)).filter fun place =>
      decide (start ≤ place) && program.mayStart text place
    places.findSome? fun place =>
      let o := step place ⟨[], place⟩ finish
      if o.found then some (place, o.record) else none

/-- Whether the program matches a part of the text. Groups whose bounds are crossed make it fail. -/
def search (program : Program) (text : List Char) : Except Error Bool :=
  match program.firstMatch? text.toArray 0 with
  | none => .ok false
  | some (_, record) =>
    if (List.range program.groups).any fun group =>
      (record.bounds? group).any fun (first, last) => last < first
    then .error .crossedGroup
    else .ok true

end Program

end Gesture.Regex
