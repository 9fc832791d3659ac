import Mathlib.Data.List.Induction
import Mathlib.Order.Lattice

/-!
# Records of a stream

A record of a stream of stamped messages is a message whose stamp is at least that
of every earlier one.  A device that ignores stale messages acts on the records and
on nothing else.
-/

namespace SysTweak.Register

universe u v w

variable {α : Type u} {κ : Type v} [LinearOrder κ]

section

variable (stamp : α → κ)

/-- The stamp of the message is at least that of each of the others. -/
def Tops (message : α) (others : List α) : Prop :=
  ∀ other ∈ others, stamp other ≤ stamp message

instance (message : α) (others : List α) : Decidable (Tops stamp message others) :=
  inferInstanceAs (Decidable (∀ other ∈ others, stamp other ≤ stamp message))

/-- The records among the messages that arrive after `seen`. -/
def recordsAfter (seen : List α) : List α → List α
  | [] => []
  | message :: rest =>
      if Tops stamp message seen then
        message :: recordsAfter (seen ++ [message]) rest
      else recordsAfter (seen ++ [message]) rest

/-- The messages whose stamp is at least that of every earlier one. -/
def records (messages : List α) : List α :=
  recordsAfter stamp [] messages

/-- The last of the messages with the greatest stamp. -/
def newestOf (messages : List α) : Option α :=
  (messages.filter fun message => Tops stamp message messages).getLast?

end

variable {stamp : α → κ}

theorem recordsAfter_append_singleton (seen messages : List α) (message : α) :
    recordsAfter stamp seen (messages ++ [message]) =
      recordsAfter stamp seen messages ++
        if Tops stamp message (seen ++ messages) then [message] else [] := by
  induction messages generalizing seen with
  | nil => simp [recordsAfter]
  | cons first messages ih =>
      rw [List.cons_append, recordsAfter, recordsAfter, ih, List.append_assoc,
        List.singleton_append]
      split <;> rfl

theorem records_append_singleton (messages : List α) (message : α) :
    records stamp (messages ++ [message]) =
      records stamp messages ++
        if Tops stamp message messages then [message] else [] :=
  recordsAfter_append_singleton [] messages message

theorem tops_append_singleton {message last : α} {others : List α} :
    Tops stamp message (others ++ [last]) ↔
      Tops stamp message others ∧ stamp last ≤ stamp message := by
  simp [Tops, or_imp, forall_and]

theorem exists_lt_of_not_tops {message : α} {others : List α}
    (exceeded : ¬Tops stamp message others) :
    ∃ other ∈ others, stamp message < stamp other := by
  simpa [Tops] using exceeded

theorem newestOf_append_singleton (messages : List α) (message : α) :
    newestOf stamp (messages ++ [message]) =
      if Tops stamp message messages then some message else newestOf stamp messages := by
  rw [newestOf, List.filter_append]
  by_cases newer : Tops stamp message messages
  · have top : Tops stamp message (messages ++ [message]) :=
      tops_append_singleton.mpr ⟨newer, le_refl _⟩
    have kept : [message].filter (fun last => Tops stamp last (messages ++ [message])) =
        [message] := by
      simp [top]
    rw [if_pos newer, kept, List.getLast?_append]
    rfl
  · rcases exists_lt_of_not_tops newer with ⟨above, member, larger⟩
    have same : ∀ other ∈ messages,
        (Tops stamp other (messages ++ [message]) ↔ Tops stamp other messages) := by
      intro other _
      rw [tops_append_singleton]
      apply and_iff_left_of_imp
      intro top
      exact le_trans (le_of_lt larger) (top above member)
    have notTop : ¬Tops stamp message (messages ++ [message]) :=
      fun top => newer (tops_append_singleton.mp top).1
    have dropped : [message].filter (fun last => Tops stamp last (messages ++ [message])) =
        [] := by
      simp [notTop]
    rw [if_neg newer, dropped, List.append_nil, newestOf]
    congr 1
    apply List.filter_congr
    intro other earlier
    exact decide_eq_decide.mpr (same other earlier)

/-- The newest message is the last record. -/
theorem newestOf_eq_getLast?_records (messages : List α) :
    newestOf stamp messages = (records stamp messages).getLast? := by
  induction messages using List.reverseRecOn with
  | nil => rfl
  | append_singleton messages message ih =>
      rw [newestOf_append_singleton, records_append_singleton]
      split
      · rw [List.getLast?_append]
        rfl
      · rw [List.append_nil]
        exact ih

theorem newestOf_spec {messages : List α} {newest : α}
    (found : newestOf stamp messages = some newest) :
    newest ∈ messages ∧ Tops stamp newest messages := by
  have member := List.mem_of_getLast? found
  simpa using member

theorem newestOf_eq_none_iff {messages : List α} :
    newestOf stamp messages = none ↔ messages = [] := by
  constructor
  · intro missing
    induction messages using List.reverseRecOn with
    | nil => rfl
    | append_singleton messages message ih =>
        rw [newestOf_append_singleton] at missing
        split at missing
        · contradiction
        · rename_i older
          rcases exists_lt_of_not_tops older with ⟨above, member, _⟩
          rw [ih missing] at member
          contradiction
  · rintro rfl
    rfl

/-- A value that some messages overwrite is the one the last of them wrote. -/
theorem foldl_overwrite {β : Type w} (writes : α → Prop) [DecidablePred writes]
    (value : α → β) (messages : List α) (old : β) :
    messages.foldl (fun held message => if writes message then value message else held)
        old =
      (messages.filter writes).getLast?.elim old value := by
  induction messages using List.reverseRecOn with
  | nil => rfl
  | append_singleton messages message ih =>
      rw [List.foldl_append, List.filter_append]
      by_cases written : writes message
      · simp [written]
      · simp [written, ih]

/-- A device whose level is the stamp of what it accepted last. -/
theorem level_foldl {σ : Type w} {ρ : Type v} {stamp : α → ρ} {level : σ → ρ}
    {accept : σ → α → σ} (raises : ∀ state message, level (accept state message) = stamp message)
    (start : σ) (messages : List α) :
    level (messages.foldl accept start) = messages.getLast?.elim (level start) stamp := by
  induction messages using List.reverseRecOn with
  | nil => rfl
  | append_singleton messages message _ =>
      rw [List.foldl_append, List.getLast?_append]
      exact raises _ message

/-- A device that keeps the stamp of the message it accepted last, and ignores smaller
ones, accepts the records. -/
theorem foldl_gated {σ : Type w} (level : σ → κ) {accept : σ → α → σ} {start : σ}
    (raises : ∀ state message, level (accept state message) = stamp message)
    (lowest : ∀ message, level start ≤ stamp message) (messages : List α) :
    messages.foldl
        (fun state message =>
          if stamp message < level state then state else accept state message) start =
      (records stamp messages).foldl accept start := by
  induction messages using List.reverseRecOn with
  | nil => rfl
  | append_singleton messages message ih =>
      have stale : stamp message < level ((records stamp messages).foldl accept start) ↔
          ¬Tops stamp message messages := by
        rw [level_foldl raises, ← newestOf_eq_getLast?_records]
        cases found : newestOf stamp messages with
        | none =>
            rw [newestOf_eq_none_iff.mp found]
            simpa [Tops] using lowest message
        | some newest =>
            rcases newestOf_spec found with ⟨member, top⟩
            constructor
            · intro smaller newer
              exact not_lt_of_ge (newer newest member) smaller
            · intro older
              rcases exists_lt_of_not_tops older with ⟨above, earlier, larger⟩
              exact lt_of_lt_of_le larger (top above earlier)
      rw [List.foldl_append, ih, records_append_singleton, List.foldl_append]
      simp only [List.foldl_cons, List.foldl_nil, stale]
      by_cases newer : Tops stamp message messages
      · rw [if_neg (not_not.mpr newer), if_pos newer]
        rfl
      · rw [if_pos newer, if_neg newer]
        rfl

end SysTweak.Register
