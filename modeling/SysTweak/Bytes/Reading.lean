import SysTweak.Bytes.CString

/-!
# Strings in memory

What a reader finds who follows a pointer into a buffer up to the next NUL.
-/

namespace SysTweak.Bytes

variable {size : Nat}

namespace Buffer

/-- The string that begins at an index of a buffer.  It ends at the first NUL, wherever
that is. -/
def stringAt (buf : Buffer size) (start : Nat) : CString :=
  .ofBytes ((List.ofFn buf).drop start)

/-- The string that begins at a place is the text, and its NUL is inside the place. -/
structure Holds (buf : Buffer size) (place : Place size) (text : List (BitVec 8)) :
    Prop where
  string : (buf.stringAt place.offset).bytes = text
  inside : text.length < place.length

theorem getElem?_drop_ofFn (buf : Buffer size) (place : Place size) {j : Nat}
    (within : j < place.length) :
    ((List.ofFn buf).drop place.offset)[j]? = some (buf (place.addr j within)) := by
  have inBuffer : place.offset + j < size := (place.addr j within).isLt
  rw [List.getElem?_drop, List.getElem?_ofFn, dif_pos inBuffer]
  rfl

end Buffer

namespace CString

theorem ofBytes_nul (bytes : List (BitVec 8)) : (ofBytes (0 :: bytes)).bytes = [] := by
  simp [ofBytes]

theorem ofBytes_cons {byte : BitVec 8} (nonzero : byte ≠ 0) (bytes : List (BitVec 8)) :
    (ofBytes (byte :: bytes)).bytes = byte :: (ofBytes bytes).bytes := by
  have kept : (byte != 0) = true := bne_iff_ne.mpr nonzero
  simp only [ofBytes, List.takeWhile_cons, kept, if_pos]

/-- A string ends where its first NUL is. -/
theorem ofBytes_append_nul {text rest : List (BitVec 8)} (noNul : 0 ∉ text) :
    (ofBytes (text ++ 0 :: rest)).bytes = text := by
  induction text with
  | nil => exact ofBytes_nul rest
  | cons byte text ih =>
      have nonzero : byte ≠ 0 := Ne.symm (List.ne_of_not_mem_cons noNul)
      rw [List.cons_append, ofBytes_cons nonzero, ih (List.not_mem_of_not_mem_cons noNul)]

/-- The byte after a string that does not fill the memory is NUL. -/
theorem getElem?_ofBytes_length {bytes : List (BitVec 8)} {byte : BitVec 8}
    (next : bytes[(ofBytes bytes).bytes.length]? = some byte) : byte = 0 := by
  induction bytes with
  | nil => contradiction
  | cons first bytes ih =>
      by_cases zero : first = 0
      · subst zero
        rw [ofBytes_nul] at next
        exact (Option.some.inj next).symm
      · rw [ofBytes_cons zero] at next
        exact ih next

theorem getElem?_bytes (value : CString) {j : Nat} (below : j < value.bytes.length) :
    value.bytes[j]? = some (value.byteAt j) := by
  rw [byteAt, List.getD_eq_getElem?_getD, List.getElem?_eq_getElem below]
  rfl

theorem byteAt_of_length_le (value : CString) {j : Nat} (past : value.bytes.length ≤ j) :
    value.byteAt j = 0 := by
  rw [byteAt, List.getD_eq_getElem?_getD, List.getElem?_eq_none past]
  rfl

end CString

namespace Buffer

/-- A place holds a text if its bytes are written there with a NUL after them. -/
theorem holds_of_bytes {buf : Buffer size} {place : Place size} {text : List (BitVec 8)}
    (noNul : 0 ∉ text) (inside : text.length < place.length)
    (written : ∀ j (within : j < place.length), j < text.length →
      text[j]? = some (buf (place.addr j within)))
    (nul : buf (place.addr text.length inside) = 0) : buf.Holds place text := by
  constructor
  · have start : ((List.ofFn buf).drop place.offset).take text.length = text := by
      apply List.ext_getElem?
      intro j
      by_cases below : j < text.length
      · have within : j < place.length := Nat.lt_trans below inside
        rw [List.getElem?_take_of_lt below, getElem?_drop_ofFn buf place within]
        exact (written j within below).symm
      · rw [List.getElem?_take_eq_none (Nat.not_lt.mp below)]
        exact (List.getElem?_eq_none (Nat.not_lt.mp below)).symm
    have next : ((List.ofFn buf).drop place.offset)[text.length]? = some 0 := by
      rw [getElem?_drop_ofFn buf place inside, nul]
    rcases List.getElem?_eq_some_iff.mp next with ⟨bound, here⟩
    have split : (List.ofFn buf).drop place.offset =
        text ++ 0 :: ((List.ofFn buf).drop place.offset).drop (text.length + 1) := by
      calc
        (List.ofFn buf).drop place.offset
        _ = ((List.ofFn buf).drop place.offset).take text.length ++
              ((List.ofFn buf).drop place.offset).drop text.length :=
            (List.take_append_drop _ _).symm
        _ = _ := by rw [start, List.drop_eq_getElem_cons bound, here]
    rw [stringAt, split]
    exact CString.ofBytes_append_nul noNul
  · exact inside

theorem Holds.nul {buf : Buffer size} {place : Place size} {text : List (BitVec 8)}
    (holds : buf.Holds place text) : buf (place.addr text.length holds.inside) = 0 := by
  have next : ((List.ofFn buf).drop place.offset)[
      (buf.stringAt place.offset).bytes.length]? =
      some (buf (place.addr text.length holds.inside)) := by
    rw [holds.string]
    exact getElem?_drop_ofFn buf place holds.inside
  exact CString.getElem?_ofBytes_length next

/-- What `strncpy` leaves in a place all but the last byte of which it fills: the
string cut off to fit, if it is short or the last byte is NUL. -/
theorem holds_truncated_iff {buf : Buffer size} (place : Place size) (value : CString)
    (room : place.length - 1 < place.length)
    (written : ∀ j (within : j < place.butLast.length),
      buf (place.butLast.addr j within) = value.byteAt j) :
    buf.Holds place (value.bytes.take (place.length - 1)) ↔
      value.bytes.length < place.length - 1 ∨
        buf (place.addr (place.length - 1) room) = 0 := by
  by_cases short : value.bytes.length < place.length - 1
  · have whole : value.bytes.take (place.length - 1) = value.bytes :=
      List.take_of_length_le (Nat.le_of_lt short)
    rw [whole]
    apply iff_of_true
    · apply holds_of_bytes value.noNul (Nat.lt_trans short room)
      · intro j within below
        rw [value.getElem?_bytes below, ← written j (Nat.lt_trans below short)]
        rfl
      · have here := written value.bytes.length short
        rw [value.byteAt_of_length_le (Nat.le_refl _)] at here
        exact here
    · exact Or.inl short
  · have length : (value.bytes.take (place.length - 1)).length = place.length - 1 :=
      List.length_take_of_le (Nat.not_lt.mp short)
    constructor
    · intro holds
      right
      have nul := holds.nul
      simp only [length] at nul
      exact nul
    · intro nul
      have last := nul.resolve_left short
      apply holds_of_bytes
      · exact fun member => value.noNul (List.mem_of_mem_take member)
      · intro j within below
        rw [length] at below
        have inValue : j < value.bytes.length :=
          Nat.lt_of_lt_of_le below (Nat.not_lt.mp short)
        rw [List.getElem?_take_of_lt below, value.getElem?_bytes inValue, ← written j below]
        rfl
      · simp only [length]
        exact last
      · rw [length]
        exact room

end Buffer

/-- All of a buffer. -/
def wholeBuffer (size : Nat) : Place size where
  offset := 0
  length := size
  fits := Nat.le_of_eq (Nat.zero_add size)

/-- A text below the limit is printed in full. -/
theorem snprintf_holds (buf : Buffer size) {limit : Nat} (fits : limit ≤ size)
    {text : List (BitVec 8)} (noNul : 0 ∉ text) (short : text.length < limit) :
    (snprintf buf limit fits text).Holds (wholeBuffer size) text := by
  have whole : text.take (limit - 1) = text := List.take_of_length_le (Nat.le_sub_one_of_lt short)
  have length : min text.length (limit - 1) = text.length :=
    Nat.min_eq_left (Nat.le_sub_one_of_lt short)
  have inside : text.length < size := Nat.lt_of_lt_of_le short fits
  have allowed : limit ≠ 0 := Nat.ne_zero_of_lt short
  have printed : ∀ j (within : j < size), j ≤ text.length →
      snprintf buf limit fits text ((wholeBuffer size).addr j within) = text.getD j 0 := by
    intro j within upTo
    rw [snprintf, dif_neg allowed, Buffer.fill, if_pos, whole]
    · simp [Place.addr, wholeBuffer]
    · simp [Place.Has, Place.addr, wholeBuffer, length]
      omega
  apply Buffer.holds_of_bytes noNul inside
  · intro j within below
    rw [printed j within (Nat.le_of_lt below), List.getD_eq_getElem?_getD,
      List.getElem?_eq_getElem below]
    rfl
  · rw [printed text.length inside (Nat.le_refl _), List.getD_eq_getElem?_getD,
      List.getElem?_eq_none (Nat.le_refl _)]
    rfl

end SysTweak.Bytes
