
namespace Gesture

inductive Identifier where
  | code (n : Int)
  | name (s : String)
  deriving DecidableEq, Repr

inductive Button where
  | volumeUp
  | volumeDown
  | power
  | cameraHalf
  | cameraFull
  | assistant
  | headset
  | mediaPlayPause
  | mediaNext
  | mediaPrevious
  deriving DecidableEq, Repr

namespace Button

def all : List Button :=
  [.volumeUp, .volumeDown, .power, .cameraHalf, .cameraFull, .assistant, .headset,
    .mediaPlayPause, .mediaNext, .mediaPrevious]

def identifier : Button → Identifier
  | .volumeUp => .code 115
  | .volumeDown => .code 114
  | .power => .code 116
  | .cameraHalf => .code 0x210
  | .cameraFull => .code 212
  | .assistant => .code 0x247
  | .headset => .code 164
  | .mediaPlayPause => .name "media-play-pause"
  | .mediaNext => .name "media-next"
  | .mediaPrevious => .name "media-previous"

def displayName : Button → String
  | .volumeUp => "Volume Up"
  | .volumeDown => "Volume Down"
  | .power => "Power"
  | .cameraHalf => "Camera Half-Press"
  | .cameraFull => "Camera Full-Press"
  | .assistant => "Assistant"
  | .headset => "Headset Button"
  | .mediaPlayPause => "Media Play/Pause"
  | .mediaNext => "Media Next"
  | .mediaPrevious => "Media Previous"

def shortName : Button → String
  | .volumeUp => "vu"
  | .volumeDown => "vd"
  | .power => "pw"
  | .cameraHalf => "ch"
  | .cameraFull => "cf"
  | .assistant => "as"
  | .headset => "hs"
  | .mediaPlayPause => "mp"
  | .mediaNext => "mn"
  | .mediaPrevious => "mb"

def ofIdentifier? (i : Identifier) : Option Button :=
  all.find? (·.identifier = i)

def ofShortName? (name : String) : Option Button :=
  all.find? (·.shortName = name)

theorem mem_all (b : Button) : b ∈ all := by
  cases b <;> decide

theorem ofShortName?_shortName (b : Button) : ofShortName? b.shortName = some b := by
  cases b <;> decide

theorem shortName_of_ofShortName? {name : String} {b : Button} (found : ofShortName? name = some b) :
    b.shortName = name := by
  simpa using List.find?_some found

theorem shortName_inj {a b : Button} (same : a.shortName = b.shortName) : a = b := by
  have found := ofShortName?_shortName a
  rw [same, ofShortName?_shortName b] at found
  exact (Option.some.inj found).symm

end Button

inductive Edge where
  | press
  | release
  deriving DecidableEq, Repr

def Edge.word : Edge → String
  | .press => "press"
  | .release => "release"

def Edge.ofWord? (word : String) : Option Edge :=
  if word = "press" then some .press else if word = "release" then some .release else none

theorem Edge.ofWord?_word (e : Edge) : Edge.ofWord? e.word = some e := by
  cases e <;> rfl

/-- What is down after one more edge, in the order of the presses. A release takes away the earliest
    press of the same thing. -/
def Edge.apply {α : Type} [BEq α] (down : List α) (thing : α) : Edge → List α
  | .press => down ++ [thing]
  | .release => down.erase thing

end Gesture
