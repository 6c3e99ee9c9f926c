
namespace Gesture

def occursIn {α : Type} [BEq α] (pattern : List α) : List α → Bool
  | [] => pattern.isEmpty
  | a :: rest => pattern.isPrefixOf (a :: rest) || occursIn pattern rest

def matchesAnywhere {α : Type} [BEq α] (pattern sequence : List α) : Bool :=
  !pattern.isEmpty && occursIn pattern sequence

def matchesEnd {α : Type} [BEq α] (pattern sequence : List α) : Bool :=
  !pattern.isEmpty && pattern.isSuffixOf sequence

end Gesture
