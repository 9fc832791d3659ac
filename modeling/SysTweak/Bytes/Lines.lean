import SysTweak.Bytes.CString

/-!
# Reading a file line by line

`fgets` reads up to a newline, but no more than its buffer holds: a line that does not
fit comes in pieces.
-/

namespace SysTweak.Bytes

/-- `'\n'`. -/
def newline : BitVec 8 :=
  0x0a

/-- The characters up to a newline, `room` of them at most, and the rest. -/
def takeLine : Nat → List (BitVec 8) → List (BitVec 8) × List (BitVec 8)
  | 0, stream => ([], stream)
  | _ + 1, [] => ([], [])
  | room + 1, c :: stream =>
      if c = newline then ([c], stream)
      else (c :: (takeLine room stream).1, (takeLine room stream).2)

/-- `fgets(line, size, stream)`: the line and what is left of the stream, none at its
end. -/
def fgets (size : Nat) (stream : List (BitVec 8)) :
    Option (List (BitVec 8) × List (BitVec 8)) :=
  match stream with
  | [] => none
  | c :: stream => some (takeLine (size - 1) (c :: stream))

/-- Up to `fuel` calls of `fgets`. -/
def readLinesWithin (size : Nat) : Nat → List (BitVec 8) → List (List (BitVec 8))
  | 0, _ => []
  | fuel + 1, stream =>
      match fgets size stream with
      | none => []
      | some (line, rest) => line :: readLinesWithin size fuel rest

/-- The lines `while (fgets(line, size, stream) != NULL)` reads.  Every call takes a
character, so there are no more lines than characters. -/
def readLines (size : Nat) (stream : List (BitVec 8)) : List (List (BitVec 8)) :=
  readLinesWithin size stream.length stream

theorem takeLine_append (room : Nat) (stream : List (BitVec 8)) :
    (takeLine room stream).1 ++ (takeLine room stream).2 = stream := by
  induction room generalizing stream with
  | zero => rfl
  | succ room ih =>
      cases stream with
      | nil => rfl
      | cons c stream =>
          rw [takeLine]
          split
          · rfl
          · exact congrArg (c :: ·) (ih stream)

theorem takeLine_length_le (room : Nat) (stream : List (BitVec 8)) :
    (takeLine room stream).1.length ≤ room := by
  induction room generalizing stream with
  | zero => exact Nat.le_refl 0
  | succ room ih =>
      cases stream with
      | nil => exact Nat.zero_le _
      | cons c stream =>
          rw [takeLine]
          split
          · exact Nat.succ_le_succ (Nat.zero_le room)
          · exact Nat.succ_le_succ (ih stream)

/-- A call takes a character. -/
theorem takeLine_rest_length_lt {room : Nat} (some : 0 < room) (c : BitVec 8)
    (stream : List (BitVec 8)) :
    (takeLine room (c :: stream)).2.length < (c :: stream).length := by
  cases room with
  | zero => contradiction
  | succ room =>
      rw [takeLine]
      split
      · exact Nat.lt_succ_self _
      · have whole := congrArg List.length (takeLine_append room stream)
        rw [List.length_append] at whole
        exact Nat.lt_succ_of_le (Nat.le_trans (Nat.le_add_left _ _) (Nat.le_of_eq whole))

/-- What stands behind a newline is not looked at. -/
theorem takeLine_append_of_mem {text : List (BitVec 8)} (ends : newline ∈ text) (room : Nat)
    (rest : List (BitVec 8)) :
    takeLine room (text ++ rest) =
      ((takeLine room text).1, (takeLine room text).2 ++ rest) := by
  induction text generalizing room with
  | nil => contradiction
  | cons c text ih =>
      cases room with
      | zero => rfl
      | succ room =>
          rw [List.cons_append, takeLine, takeLine]
          by_cases last : c = newline
          · rw [if_pos last, if_pos last]
          · have later := List.mem_of_ne_of_mem (Ne.symm last) ends
            rw [if_neg last, if_neg last, ih later]

/-- A line that fits is read with its newline. -/
theorem takeLine_of_short {text : List (BitVec 8)} (oneLine : newline ∉ text) {room : Nat}
    (fits : text.length < room) (rest : List (BitVec 8)) :
    takeLine room (text ++ newline :: rest) = (text ++ [newline], rest) := by
  induction text generalizing room with
  | nil =>
      cases room with
      | zero => contradiction
      | succ room => exact if_pos rfl
  | cons c text ih =>
      cases room with
      | zero => contradiction
      | succ room =>
          have within := ih (List.not_mem_of_not_mem_cons oneLine) (Nat.lt_of_succ_lt_succ fits)
          rw [List.cons_append, takeLine,
            if_neg (Ne.symm (List.ne_of_not_mem_cons oneLine)), within]
          rfl

/-- Of a line that does not fit a buffer full is read. -/
theorem takeLine_of_long {text : List (BitVec 8)} (oneLine : newline ∉ text) {room : Nat}
    (long : room ≤ text.length) (rest : List (BitVec 8)) :
    takeLine room (text ++ rest) = (text.take room, text.drop room ++ rest) := by
  induction text generalizing room with
  | nil =>
      rw [Nat.le_zero.mp long]
      rfl
  | cons c text ih =>
      cases room with
      | zero => rfl
      | succ room =>
          have within := ih (List.not_mem_of_not_mem_cons oneLine) (Nat.le_of_succ_le_succ long)
          rw [List.cons_append, takeLine,
            if_neg (Ne.symm (List.ne_of_not_mem_cons oneLine)), within]
          rfl

section

variable {size : Nat}

/-- Calls beyond the end of the stream read nothing. -/
theorem readLinesWithin_eq (several : 1 < size) {fuel fuel' : Nat} {stream : List (BitVec 8)}
    (enough : stream.length ≤ fuel) (enough' : stream.length ≤ fuel') :
    readLinesWithin size fuel stream = readLinesWithin size fuel' stream := by
  have nothing : ∀ fuel, readLinesWithin size fuel [] = [] := by
    intro fuel
    cases fuel <;> rfl
  induction fuel generalizing fuel' stream with
  | zero =>
      rw [List.length_eq_zero_iff.mp (Nat.le_zero.mp enough), nothing, nothing]
  | succ fuel ih =>
      cases stream with
      | nil => rw [nothing, nothing]
      | cons c stream =>
          cases fuel' with
          | zero => contradiction
          | succ fuel' =>
              have shorter := takeLine_rest_length_lt (Nat.sub_pos_of_lt several) c stream
              exact congrArg ((takeLine (size - 1) (c :: stream)).1 :: ·)
                (ih (Nat.le_of_lt_succ (Nat.lt_of_lt_of_le shorter enough))
                  (Nat.le_of_lt_succ (Nat.lt_of_lt_of_le shorter enough')))

@[simp]
theorem readLines_nil : readLines size [] = [] :=
  rfl

/-- The first line, and then the lines of the rest. -/
theorem readLines_cons (several : 1 < size) (c : BitVec 8) (stream : List (BitVec 8)) :
    readLines size (c :: stream) =
      (takeLine (size - 1) (c :: stream)).1 ::
        readLines size (takeLine (size - 1) (c :: stream)).2 := by
  have shorter := takeLine_rest_length_lt (Nat.sub_pos_of_lt several) c stream
  exact congrArg ((takeLine (size - 1) (c :: stream)).1 :: ·)
    (readLinesWithin_eq several (Nat.le_of_lt_succ shorter) (Nat.le_refl _))

/-- A line that fits is read in one call. -/
theorem readLines_of_short {text : List (BitVec 8)} (oneLine : newline ∉ text)
    (short : text.length + 1 < size) :
    readLines size (text ++ [newline]) = [text ++ [newline]] := by
  have several : 1 < size := Nat.lt_of_le_of_lt (Nat.le_add_left 1 _) short
  have taken : takeLine (size - 1) (text ++ [newline]) = (text ++ [newline], []) :=
    takeLine_of_short oneLine (Nat.lt_sub_of_add_lt short) []
  cases text with
  | nil =>
      rw [List.nil_append] at taken ⊢
      rw [readLines_cons several, taken, readLines_nil]
  | cons c text =>
      rw [List.cons_append] at taken ⊢
      rw [readLines_cons several, taken, readLines_nil]

/-- An induction over the calls of `fgets`. -/
theorem readLines_induction {motive : List (BitVec 8) → Prop} (several : 1 < size)
    (nil : motive [])
    (cons : ∀ c stream, motive (takeLine (size - 1) (c :: stream)).2 → motive (c :: stream))
    (stream : List (BitVec 8)) : motive stream := by
  induction length : stream.length using Nat.strong_induction_on generalizing stream with
  | _ n ih =>
      cases stream with
      | nil => exact nil
      | cons c stream =>
          apply cons
          have shorter := takeLine_rest_length_lt (Nat.sub_pos_of_lt several) c stream
          exact ih _ (length ▸ shorter) _ rfl

/-- No character is lost. -/
theorem flatten_readLines (several : 1 < size) (stream : List (BitVec 8)) :
    (readLines size stream).flatten = stream := by
  induction stream using readLines_induction several with
  | nil => rfl
  | cons c stream ih =>
      rw [readLines_cons several, List.flatten_cons, ih, takeLine_append]

/-- Every line fits the buffer. -/
theorem length_lt_of_mem_readLines (several : 1 < size) {stream line : List (BitVec 8)}
    (member : line ∈ readLines size stream) : line.length < size := by
  induction stream using readLines_induction several with
  | nil => contradiction
  | cons c stream ih =>
      rw [readLines_cons several] at member
      rcases List.mem_cons.mp member with rfl | later
      · have bound := takeLine_length_le (size - 1) (c :: stream)
        exact Nat.lt_of_le_of_lt bound (Nat.sub_one_lt_of_lt several)
      · exact ih later

/-- No line is longer than the stream. -/
theorem length_le_of_mem_readLines (several : 1 < size) {stream line : List (BitVec 8)}
    (member : line ∈ readLines size stream) : line.length ≤ stream.length := by
  have part := List.Sublist.length_le (List.sublist_flatten_of_mem member)
  rw [flatten_readLines several] at part
  exact part

/-- A text that ends with a newline is read as if nothing followed. -/
theorem readLines_append (several : 1 < size) {text : List (BitVec 8)}
    (ends : text = [] ∨ text.getLast? = some newline) (rest : List (BitVec 8)) :
    readLines size (text ++ rest) = readLines size text ++ readLines size rest := by
  induction text using readLines_induction several with
  | nil => rfl
  | cons c text ih =>
      have last := ends.resolve_left (List.cons_ne_nil c text)
      have member : newline ∈ c :: text := List.mem_of_getLast? last
      have whole := takeLine_append (size - 1) (c :: text)
      have endsToo : (takeLine (size - 1) (c :: text)).2 = [] ∨
          (takeLine (size - 1) (c :: text)).2.getLast? = some newline := by
        by_cases empty : (takeLine (size - 1) (c :: text)).2 = []
        · exact Or.inl empty
        · right
          rw [← whole, List.getLast?_append_of_ne_nil _ empty] at last
          exact last
      rw [List.cons_append, readLines_cons several, readLines_cons several,
        ← List.cons_append, takeLine_append_of_mem member, ih endsToo]
      rfl

end

end SysTweak.Bytes
