import SysTweak.Bytes.Hex
import SysTweak.Bytes.Reading
import SysTweak.Nacp.Service

/-!
# The paths of the overrides

The paths that `_ProcessControlData` prints are complete, and those of two titles
differ.
-/

namespace SysTweak.Nacp

open SysTweak.Bytes

/-- The path of a file in the directory of a title. -/
def contentsPath (tid : BitVec 64) (file : String) : List (BitVec 8) :=
  ascii "/atmosphere/contents/" ++ hex16 tid ++ ascii file

theorem contentsPath_length (tid : BitVec 64) (file : String) :
    (contentsPath tid file).length = 37 + file.length := by
  have directory : (ascii "/atmosphere/contents/").length = 21 := by decide
  have file : (ascii file).length = file.length := by
    rw [ascii, List.length_map, String.length_toList]
  rw [contentsPath, List.length_append, List.length_append, hex16_length, directory, file]

theorem nul_not_mem_contentsPath (tid : BitVec 64) {file : String}
    (noNul : 0 ∉ ascii file) : 0 ∉ contentsPath tid file := by
  rw [contentsPath, List.mem_append, List.mem_append]
  rintro ((directory | digits) | inFile)
  · revert directory
    decide
  · exact nul_not_mem_hex16 tid digits
  · exact noNul inFile

/-- Two titles have no path in common. -/
theorem contentsPath_injective (file : String) :
    Function.Injective fun tid => contentsPath tid file := by
  intro one other same
  apply hex16_injective
  have front := List.append_cancel_right same
  exact List.append_cancel_left front

/-- A path of at most 48 characters is printed in full, over whatever is in the
buffer. -/
theorem overridePath_holds (path : Buffer 50) (tid : BitVec 64) {file : String}
    (noNul : 0 ∉ ascii file) (short : file.length < 12) :
    (overridePath path tid file).Holds (wholeBuffer 50) (contentsPath tid file) := by
  apply snprintf_holds path _ (nul_not_mem_contentsPath tid noNul)
  rw [contentsPath_length]
  exact Nat.add_lt_add_left short 37

theorem configPath_holds (tid : BitVec 64) :
    (configPath tid).Holds (wholeBuffer 50) (contentsPath tid "/config.ini") :=
  overridePath_holds _ tid (by decide) (by decide)

theorem iconPath_holds (tid : BitVec 64) :
    (iconPath tid).Holds (wholeBuffer 50) (contentsPath tid "/icon.jpg") :=
  overridePath_holds _ tid (by decide) (by decide)

/-- The path that a buffer stands for is the text it holds. -/
theorem toCString_of_holds {path : Buffer 50} {text : List (BitVec 8)}
    (holds : path.Holds (wholeBuffer 50) text) : path.toCString.bytes = text :=
  holds.string

/-- A path determines its title. -/
theorem toCString_injective {path : BitVec 64 → Buffer 50} {file : String}
    (holds : ∀ tid, (path tid).Holds (wholeBuffer 50) (contentsPath tid file)) :
    Function.Injective fun tid => (path tid).toCString := by
  intro one other same
  apply contentsPath_injective file
  have bytes := congrArg CString.bytes same
  simp only [toCString_of_holds (holds one), toCString_of_holds (holds other)] at bytes
  exact bytes

/-- `_ProcessControlData` opens the files `config.ini` and `icon.jpg` of the directory
named by the sixteen hexadecimal digits of the title, and two titles share neither. -/
theorem override_paths_complete :
    (∀ tid, (configPath tid).Holds (wholeBuffer 50)
        (ascii "/atmosphere/contents/" ++ hex16 tid ++ ascii "/config.ini") ∧
      (iconPath tid).Holds (wholeBuffer 50)
        (ascii "/atmosphere/contents/" ++ hex16 tid ++ ascii "/icon.jpg")) ∧
      Function.Injective (fun tid => (configPath tid).toCString) ∧
      Function.Injective (fun tid => (iconPath tid).toCString) := by
  constructor
  · intro tid
    exact ⟨configPath_holds tid, iconPath_holds tid⟩
  · constructor
    · exact toCString_injective configPath_holds
    · exact toCString_injective iconPath_holds

end SysTweak.Nacp
