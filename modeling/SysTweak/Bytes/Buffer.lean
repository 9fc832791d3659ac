import Mathlib.Data.BitVec

/-!
# Buffers

A buffer is a fixed number of bytes of memory; a place is a range of bytes inside
it.  Filling a place changes the bytes it has and no others.
-/

namespace SysTweak.Bytes

/-- `size` bytes of memory. -/
abbrev Buffer (size : Nat) := Fin size → BitVec 8

/-- A range of bytes of a buffer of `size` bytes. -/
structure Place (size : Nat) where
  offset : Nat
  length : Nat
  fits : offset + length ≤ size
  deriving DecidableEq

variable {size : Nat}

namespace Place

/-- The byte at index `i` of the buffer belongs to the place. -/
def Has (place : Place size) (i : Nat) : Prop :=
  place.offset ≤ i ∧ i < place.offset + place.length

instance (place : Place size) (i : Nat) : Decidable (place.Has i) :=
  inferInstanceAs (Decidable (_ ∧ _))

/-- The byte with index `j` of the place. -/
def addr (place : Place size) (j : Nat) (within : j < place.length) : Fin size :=
  ⟨place.offset + j, Nat.lt_of_lt_of_le (Nat.add_lt_add_left within _) place.fits⟩

/-- A place of a structure that is itself at `outer`. -/
def inside (outer : Place size) (inner : Place outer.length) : Place size where
  offset := outer.offset + inner.offset
  length := inner.length
  fits := by
    rw [Nat.add_assoc]
    exact Nat.le_trans (Nat.add_le_add_left inner.fits _) outer.fits

/-- The first `length - 1` bytes of the place. -/
def butLast (place : Place size) : Place size where
  offset := place.offset
  length := place.length - 1
  fits := Nat.le_trans (Nat.add_le_add_left (Nat.sub_le _ _) _) place.fits

/-- One place ends before the other begins. -/
def Apart (one other : Place size) : Prop :=
  one.offset + one.length ≤ other.offset ∨ other.offset + other.length ≤ one.offset

instance (one other : Place size) : Decidable (one.Apart other) :=
  inferInstanceAs (Decidable (_ ∨ _))

theorem has_addr (place : Place size) {j : Nat} (within : j < place.length) :
    place.Has (place.addr j within) :=
  ⟨Nat.le_add_right _ _, Nat.add_lt_add_left within _⟩

theorem Apart.symm {one other : Place size} (apart : one.Apart other) : other.Apart one :=
  Or.symm apart

theorem Apart.not_has {one other : Place size} (apart : one.Apart other) {i : Nat}
    (has : one.Has i) : ¬other.Has i := by
  rintro ⟨above, below⟩
  rcases apart with before | after
  · exact Nat.not_le_of_lt has.2 (Nat.le_trans before above)
  · exact Nat.not_le_of_lt below (Nat.le_trans after has.1)

@[simp]
theorem inside_offset (outer : Place size) (inner : Place outer.length) :
    (outer.inside inner).offset = outer.offset + inner.offset :=
  rfl

@[simp]
theorem inside_length (outer : Place size) (inner : Place outer.length) :
    (outer.inside inner).length = inner.length :=
  rfl

/-- Structures that are apart have their members apart. -/
theorem Apart.inside_left {outer other : Place size} (apart : outer.Apart other)
    (inner : Place outer.length) : (outer.inside inner).Apart other := by
  have fits := inner.fits
  simp only [Apart, inside_offset, inside_length] at apart ⊢
  omega

theorem Apart.inside {outer : Place size} {one other : Place outer.length}
    (apart : one.Apart other) : (outer.inside one).Apart (outer.inside other) := by
  simp only [Apart, inside_offset, inside_length] at apart ⊢
  omega

theorem Apart.butLast_left {one other : Place size} (apart : one.Apart other) :
    one.butLast.Apart other := by
  simp only [Apart, butLast] at apart ⊢
  omega

theorem Apart.butLast {one other : Place size} (apart : one.Apart other) :
    one.butLast.Apart other.butLast :=
  apart.butLast_left.symm.butLast_left.symm

end Place

namespace Buffer

/-- Write `text 0`, `text 1`, … to the bytes of a place. -/
def fill (buf : Buffer size) (place : Place size) (text : Nat → BitVec 8) : Buffer size :=
  fun i => if place.Has i then text (i - place.offset) else buf i

theorem fill_addr (buf : Buffer size) (place : Place size) (text : Nat → BitVec 8) {j : Nat}
    (within : j < place.length) : buf.fill place text (place.addr j within) = text j := by
  rw [fill, if_pos (place.has_addr within)]
  exact congrArg text (Nat.add_sub_cancel_left _ _)

theorem fill_of_not_has (buf : Buffer size) {place : Place size} (text : Nat → BitVec 8)
    {i : Fin size} (outside : ¬place.Has i) : buf.fill place text i = buf i :=
  if_neg outside

/-- Write the same text to every place of a list. -/
def fillAll (buf : Buffer size) (places : List (Place size)) (text : Nat → BitVec 8) :
    Buffer size :=
  places.foldl (fun buf place => buf.fill place text) buf

theorem fillAll_of_not_has (buf : Buffer size) {places : List (Place size)}
    (text : Nat → BitVec 8) {i : Fin size} (outside : ∀ place ∈ places, ¬place.Has i) :
    buf.fillAll places text i = buf i := by
  induction places generalizing buf with
  | nil => rfl
  | cons place places ih =>
      rw [List.forall_mem_cons] at outside
      calc
        buf.fillAll (place :: places) text i
        _ = (buf.fill place text).fillAll places text i := rfl
        _ = buf.fill place text i := ih _ outside.2
        _ = buf i := buf.fill_of_not_has text outside.1

/-- In places that do not overlap every copy of the text is complete. -/
theorem fillAll_addr (buf : Buffer size) {places : List (Place size)}
    (separate : places.Pairwise Place.Apart) (text : Nat → BitVec 8) {place : Place size}
    (member : place ∈ places) {j : Nat} (within : j < place.length) :
    buf.fillAll places text (place.addr j within) = text j := by
  induction places generalizing buf with
  | nil => contradiction
  | cons first places ih =>
      rcases List.pairwise_cons.mp separate with ⟨apart, separateTail⟩
      rcases List.mem_cons.mp member with rfl | later
      · have untouched : ∀ other ∈ places, ¬other.Has (place.addr j within) :=
          fun other later => (apart other later).not_has (place.has_addr within)
        calc
          buf.fillAll (place :: places) text (place.addr j within)
          _ = (buf.fill place text).fillAll places text (place.addr j within) := rfl
          _ = buf.fill place text (place.addr j within) :=
              fillAll_of_not_has _ text untouched
          _ = text j := buf.fill_addr place text within
      · exact ih (buf.fill first text) separateTail later

end Buffer

/-!
## Keyed overlays

Each entry of a list writes its text to the places of its key, if it has one.
The places of a key end up with the text of the last entry for the key.
-/

variable {κ : Type*} {ε : Type*}

/-- Write one entry. -/
def overlayEntry (keyOf : ε → Option κ) (places : κ → List (Place size))
    (text : κ → ε → Nat → BitVec 8) (buf : Buffer size) (entry : ε) : Buffer size :=
  match keyOf entry with
  | some key => buf.fillAll (places key) (text key entry)
  | none => buf

/-- Write a list of entries. -/
def overlay (keyOf : ε → Option κ) (places : κ → List (Place size))
    (text : κ → ε → Nat → BitVec 8) (entries : List ε) (buf : Buffer size) :
    Buffer size :=
  entries.foldl (overlayEntry keyOf places text) buf

/-- No place of one list overlaps one of the other. -/
def AllApart (ones others : List (Place size)) : Prop :=
  ∀ one ∈ ones, ∀ other ∈ others, one.Apart other

theorem AllApart.symm {ones others : List (Place size)} (apart : AllApart ones others) :
    AllApart others ones :=
  fun other otherMember one oneMember => (apart one oneMember other otherMember).symm

/-- The places of one key do not overlap, nor do those of two keys. -/
structure Separate (places : κ → List (Place size)) : Prop where
  within : ∀ key, (places key).Pairwise Place.Apart
  between : ∀ key other, key ≠ other → AllApart (places key) (places other)

/-- Moving all places by a map that keeps them apart keeps the keys separate. -/
theorem Separate.map {size' : Nat} {places : κ → List (Place size)}
    (separate : Separate places) (move : Place size → Place size')
    (keeps : ∀ {one other}, one.Apart other → (move one).Apart (move other)) :
    Separate fun key => (places key).map move where
  within key := List.Pairwise.map move (fun _ _ apart => keeps apart) (separate.within key)
  between key other different place member place' member' := by
    rcases List.mem_map.mp member with ⟨source, sourceMember, rfl⟩
    rcases List.mem_map.mp member' with ⟨source', sourceMember', rfl⟩
    exact keeps (separate.between key other different source sourceMember source' sourceMember')

/-- The last entry with the given key. -/
def lastFor [DecidableEq κ] (keyOf : ε → Option κ) (key : κ) (entries : List ε) :
    Option ε :=
  (entries.filter fun entry => keyOf entry = some key).getLast?

variable {keyOf : ε → Option κ} {places : κ → List (Place size)}
  {text : κ → ε → Nat → BitVec 8}

theorem overlay_append_singleton (entries : List ε) (entry : ε) (buf : Buffer size) :
    overlay keyOf places text (entries ++ [entry]) buf =
      overlayEntry keyOf places text (overlay keyOf places text entries buf) entry := by
  simp [overlay, List.foldl_append]

variable [DecidableEq κ]

theorem lastFor_append_singleton (key : κ) (entries : List ε) (entry : ε) :
    lastFor keyOf key (entries ++ [entry]) =
      if keyOf entry = some key then some entry else lastFor keyOf key entries := by
  by_cases matching : keyOf entry = some key <;>
    simp [lastFor, List.filter_append, matching]

/-- The places of a key hold the text of the last entry for it. -/
theorem overlay_addr (separate : Separate places) (entries : List ε) (buf : Buffer size)
    {key : κ} {place : Place size} (member : place ∈ places key) {j : Nat}
    (within : j < place.length) :
    overlay keyOf places text entries buf (place.addr j within) =
      (lastFor keyOf key entries).elim (buf (place.addr j within)) fun entry =>
        text key entry j := by
  induction entries using List.reverseRecOn with
  | nil => rfl
  | append_singleton entries entry ih =>
      rw [overlay_append_singleton, lastFor_append_singleton, overlayEntry]
      cases written : keyOf entry with
      | none => simpa using ih
      | some other =>
          by_cases same : other = key
          · subst same
            simpa using
              Buffer.fillAll_addr _ (separate.within other) (text other entry) member within
          · have untouched : ∀ place' ∈ places other,
                ¬place'.Has (place.addr j within) := fun place' member' =>
              (separate.between key other (Ne.symm same) place member place' member').not_has
                (place.has_addr within)
            simpa [same] using
              (Buffer.fillAll_of_not_has _ (text other entry) untouched).trans ih

/-- No byte outside the places of the keys that occur is written. -/
theorem overlay_of_not_has (entries : List ε) (buf : Buffer size) {i : Fin size}
    (outside : ∀ key, (lastFor keyOf key entries).isSome →
      ∀ place ∈ places key, ¬place.Has i) :
    overlay keyOf places text entries buf i = buf i := by
  induction entries using List.reverseRecOn with
  | nil => rfl
  | append_singleton entries entry ih =>
      have before : overlay keyOf places text entries buf i = buf i := by
        apply ih
        intro key occurs
        apply outside key
        rw [lastFor_append_singleton]
        split
        · rfl
        · exact occurs
      rw [overlay_append_singleton, overlayEntry]
      cases written : keyOf entry with
      | none => exact before
      | some key =>
          have untouched : ∀ place ∈ places key, ¬place.Has i := by
            apply outside key
            rw [lastFor_append_singleton, if_pos written]
            rfl
          exact (Buffer.fillAll_of_not_has _ (text key entry) untouched).trans before

end SysTweak.Bytes
