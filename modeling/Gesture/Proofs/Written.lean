import Gesture.Settings.File
import Gesture.Proofs.Derivation
import Gesture.Proofs.JsonText

namespace Gesture

namespace Text

theorem toList_loop (bytes : ByteArray) (i : Nat) (before : List UInt8) :
    ByteArray.toList.loop bytes i before = before.reverse ++ bytes.data.toList.drop i := by
  fun_induction ByteArray.toList.loop bytes i before with
  | case1 i before less ih =>
    have inside : i < bytes.data.toList.length := less
    have byte : bytes.get! i = bytes.data.toList[i] := by
      obtain ⟨data⟩ := bytes
      exact getElem!_pos data i less
    rw [ih, List.drop_eq_getElem_cons inside, byte, List.reverse_cons, List.append_assoc]
    rfl
  | case2 i before large =>
    rw [List.drop_eq_nil_of_le (Nat.le_of_not_lt large), List.append_nil]

namespace Utf8

theorem encode_eq (text : List Char) : encode text = text.flatMap String.utf8EncodeChar := by
  unfold encode ByteArray.toList
  rw [toList_loop]
  exact List.toList_data_toByteArray

def Ascii (text : List Char) : Prop :=
  ∀ c ∈ text, c.toNat < 0x80

theorem encode_ascii {text : List Char} (ascii : Ascii text) :
    encode text = text.map fun c => UInt8.ofNat c.toNat := by
  rw [encode_eq]
  induction text with
  | nil => rfl
  | cons c text ih =>
    obtain ⟨first, rest⟩ := List.forall_mem_cons.mp ascii
    have one : String.utf8EncodeChar c = [UInt8.ofNat c.toNat] := if_pos (Nat.le_of_lt_succ first)
    rw [List.flatMap_cons, List.map_cons, one, ih rest]
    rfl

theorem lead_ascii {c : Char} (ascii : c.toNat < 0x80) : lead (UInt8.ofNat c.toNat) = .inl (.char c) := by
  have code : (UInt8.ofNat c.toNat).toNat = c.toNat := UInt8.toNat_ofNat_of_lt (Nat.lt_trans ascii (by decide))
  unfold lead
  rw [code, if_pos ascii, Char.ofNat_toNat]

theorem pieces_ascii {text : List Char} (ascii : Ascii text) :
    pieces (text.map fun c => UInt8.ofNat c.toNat) = text.map .char := by
  induction text with
  | nil => rfl
  | cons c text ih =>
    obtain ⟨first, rest⟩ := List.forall_mem_cons.mp ascii
    have others := ih rest
    unfold pieces at others ⊢
    rw [List.map_cons, piecesAfter, lead_ascii first]
    exact congrArg _ others

theorem charsFrom_chars (position : Nat) (text : List Char) : charsFrom position (text.map .char) = .ok text := by
  induction text generalizing position with
  | nil => rfl
  | cons c text ih =>
    rw [List.map_cons, charsFrom, ih]
    rfl

theorem decode_encode {text : List Char} (ascii : Ascii text) : decode (encode text) = .ok text := by
  rw [encode_ascii ascii, decode, pieces_ascii ascii, charsFrom_chars]

end Utf8

theorem unifyLineEnds_eq {text : List Char} (noReturn : '\r' ∉ text) : unifyLineEnds text = text := by
  induction text with
  | nil => rfl
  | cons c text ih =>
    rw [List.mem_cons, not_or] at noReturn
    rw [unifyLineEnds, if_neg (Ne.symm noReturn.1), ih noReturn.2]
    exact fun rest same => absurd same.symm noReturn.1

end Text

namespace Files

section

variable {files : Files} {place : List CodeText} {bytes : List UInt8}

theorem node?_written (other : files.node? place ≠ some .directory) {directory : List CodeText}
    (found : files.node? directory = some .directory) :
    node? { files with nodes := (place, .file bytes) :: files.nodes } directory = some .directory := by
  unfold node? at found other ⊢
  split
  · rfl
  · rename_i inner
    rw [if_neg inner] at found
    have different : directory ≠ place := by
      rintro rfl
      exact other (by rw [if_neg inner, found])
    rwa [List.lookup_cons, beq_false_of_ne different]

theorem enter_written (other : files.node? place ≠ some .directory) {directory entered : List CodeText} {part : CodeText}
    (enters : files.enter directory part = .ok entered) :
    enter { files with nodes := (place, .file bytes) :: files.nodes } directory part = .ok entered := by
  unfold enter at enters ⊢
  split at enters
  · rename_i found
    rw [node?_written other found]
    exact enters
  · cases enters
  · cases enters

theorem foldlM_enter_written (other : files.node? place ≠ some .directory) {parts start reached : List CodeText}
    (goes : parts.foldlM files.enter start = .ok reached) :
    parts.foldlM (enter { files with nodes := (place, .file bytes) :: files.nodes }) start = .ok reached := by
  induction parts generalizing start with
  | nil => exact goes
  | cons part parts ih =>
    rw [List.foldlM_cons] at goes ⊢
    cases enters : files.enter start part with
    | error e =>
      rw [enters] at goes
      cases goes
    | ok entered =>
      rw [enters] at goes
      rw [enter_written other enters]
      exact ih goes

end

theorem write_eq_ok {files written : Files} {path : Path} {bytes : List UInt8}
    (writes : files.write path bytes = .ok written) :
    ∃ place, files.find path = .ok place ∧ files.node? place ≠ some .directory ∧
      written = { files with nodes := (place, .file bytes) :: files.nodes } := by
  obtain ⟨place, found, writes⟩ := bind_eq_ok writes
  split at writes
  · cases writes
  · rename_i other
    cases writes
    exact ⟨place, found, other, rfl⟩
  · cases writes
  · cases writes

theorem read_write {files written : Files} {path : Path} {bytes : List UInt8}
    (writes : files.write path bytes = .ok written) : written.read path = .ok bytes := by
  obtain ⟨place, found, other, rfl⟩ := write_eq_ok writes
  have inner : place ≠ [] := by
    rintro rfl
    exact other rfl
  have again : find { files with nodes := (place, .file bytes) :: files.nodes } path = .ok place := by
    unfold find at found ⊢
    split at found
    · cases found
    · rename_i short
      rw [if_neg short]
      exact foldlM_enter_written other found
  have here : node? { files with nodes := (place, .file bytes) :: files.nodes } place = some (.file bytes) := by
    unfold node?
    rw [if_neg inner, List.lookup_cons_self]
  unfold read
  rw [again]
  simp only [bind, Except.bind, here]
  rfl

end Files

section

variable {files written : Files} {path : Path} {text : List Char}

theorem Path.fault?_eq_some {e : TextFileError} :
    path.fault? = some e ↔ (∃ s, path.text.stray? = some s ∧ e = .stray s) ∨
      path.text.stray? = none ∧ .char '\x00' ∈ path.text ∧ e = .nullCharacter := by
  unfold Path.fault?
  cases path.text.stray? with
  | some s => simp [eq_comm]
  | none => split_ifs with null <;> simp [null, eq_comm]

theorem Path.fault?_eq_none : path.fault? = none ↔ path.text.stray? = none ∧ .char '\x00' ∉ path.text := by
  unfold Path.fault?
  cases path.text.stray? with
  | some s => simp
  | none => split_ifs with null <;> simp [null]

theorem stray?_of_readTextFile {reader : FileReader} (read : readTextFile reader path = .ok text) :
    path.text.stray? = none := by
  unfold readTextFile at read
  split at read
  · cases read
  · rename_i noFault
    exact (Path.fault?_eq_none.mp noFault).1

theorem readTextFile_encode {reader : FileReader} (printed : Json.Printed text) (noFault : path.fault? = none)
    (found : reader path = .ok (Text.Utf8.encode text)) : readTextFile reader path = .ok text := by
  have ascii : Text.Utf8.Ascii text := by
    intro c member
    rcases printed c member with rfl | ⟨_, below⟩
    · decide
    · omega
  have noReturn : '\r' ∉ text := by
    intro member
    rcases printed _ member with same | ⟨above, _⟩
    · cases same
    · revert above
      decide
  rw [readTextFile, noFault]
  dsimp only
  rw [found]
  dsimp only
  rw [Text.Utf8.decode_encode ascii]
  exact congrArg Except.ok (Text.unifyLineEnds_eq noReturn)

theorem readTextFile_writeTextFile (printed : Json.Printed text)
    (writes : writeTextFile files path text = .ok written) : readTextFile written.read path = .ok text := by
  unfold writeTextFile at writes
  split at writes
  · cases writes
  · rename_i noFault
    cases done : files.write path (Text.Utf8.encode text) with
    | error e =>
      rw [done] at writes
      cases writes
    | ok other =>
      rw [done] at writes
      cases writes
      exact readTextFile_encode printed noFault (Files.read_write done)

end

end Gesture
