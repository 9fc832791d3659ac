import Mathlib.Data.List.Perm.Basic
import Mathlib.Data.List.Induction
import Mathlib.Data.List.Pairwise
import Mathlib.Order.Lattice

/-!
# Latest-message registers with resets

A register keeps the message with the greatest stamp it has received; a message
with a smaller stamp is ignored.  Some messages are resets: they empty the
register whatever their stamp, and with it the memory of the stamps seen.
Without resets the order of arrival does not matter; with them it does, and
this file says exactly when it happens not to.
-/

namespace SysTweak.Register

universe u v

variable {α : Type u} {κ : Type v} [LinearOrder κ]

section

variable (stamp : α → κ) (reset : α → Bool)

/-- Receive one message. -/
def receive (held : Option α) (message : α) : Option α :=
  if reset message then none
  else
    match held with
    | none => some message
    | some old => if stamp message < stamp old then some old else some message

/-- Receive a list of messages. -/
def replay (held : Option α) (messages : List α) : Option α :=
  messages.foldl (receive stamp reset) held

/-- No reset arrives after the message. -/
def StaysAfter (message : α) (messages : List α) : Prop :=
  messages.Pairwise fun first second => first = message → reset second = false

/-- The message has the greatest stamp. -/
def IsNewest (newest : α) (messages : List α) : Prop :=
  newest ∈ messages ∧ ∀ message ∈ messages, stamp message ≤ stamp newest

/-- The order of arrival agrees with the stamps as far as the register can
tell: a newest message that is a reset is followed by resets at the end, and a
newest message that is not is not followed by any. -/
def Arranged (messages : List α) : Prop :=
  ∀ newest, IsNewest stamp newest messages →
    if reset newest then ∃ last ∈ messages.getLast?, reset last = true
    else StaysAfter reset newest messages

end

variable {stamp : α → κ} {reset : α → Bool}

theorem receive_of_reset {message : α} (resets : reset message = true)
    (held : Option α) : receive stamp reset held message = none :=
  if_pos resets

theorem receive_none {message : α} (stays : reset message = false) :
    receive stamp reset none message = some message := by
  simp [receive, stays]

theorem receive_some_of_lt {message old : α} (stays : reset message = false)
    (older : stamp message < stamp old) :
    receive stamp reset (some old) message = some old := by
  simp [receive, stays, older]

theorem receive_some_of_not_lt {message old : α} (stays : reset message = false)
    (newer : ¬stamp message < stamp old) :
    receive stamp reset (some old) message = some message := by
  simp [receive, stays, newer]

@[simp]
theorem replay_nil (held : Option α) : replay stamp reset held [] = held :=
  rfl

theorem replay_snoc (held : Option α) (messages : List α) (message : α) :
    replay stamp reset held (messages ++ [message]) =
      receive stamp reset (replay stamp reset held messages) message := by
  rw [replay, List.foldl_append]
  rfl

/-- What a register holds it has received, and it is not a reset. -/
theorem mem_of_replay {messages : List α} {message : α}
    (held : replay stamp reset none messages = some message) :
    message ∈ messages ∧ reset message = false := by
  induction messages using List.reverseRecOn with
  | nil => contradiction
  | append_singleton messages last ih =>
      rw [replay_snoc] at held
      cases resets : reset last with
      | true =>
          rw [receive_of_reset resets] at held
          contradiction
      | false =>
          cases before : replay stamp reset none messages with
          | none =>
              rw [before, receive_none resets] at held
              cases held
              exact ⟨by simp, resets⟩
          | some old =>
              rw [before] at held
              by_cases older : stamp last < stamp old
              · rw [receive_some_of_lt resets older] at held
                cases held
                rcases ih before with ⟨member, stays⟩
                exact ⟨List.mem_append_left _ member, stays⟩
              · rw [receive_some_of_not_lt resets older] at held
                cases held
                exact ⟨by simp, resets⟩

/-- A register is empty exactly if it received nothing, or a reset last. -/
theorem replay_eq_none_iff (messages : List α) :
    replay stamp reset none messages = none ↔
      messages = [] ∨ ∃ last ∈ messages.getLast?, reset last = true := by
  induction messages using List.reverseRecOn with
  | nil => simp
  | append_singleton messages last ih =>
      rw [replay_snoc]
      cases resets : reset last with
      | true => simp [receive_of_reset resets, resets]
      | false =>
          cases before : replay stamp reset none messages with
          | none => simp [receive_none resets, resets]
          | some old =>
              by_cases older : stamp last < stamp old
              · simp [receive_some_of_lt resets older, resets]
              · simp [receive_some_of_not_lt resets older, resets]

theorem staysAfter_snoc (newest : α) (messages : List α) (last : α) :
    StaysAfter reset newest (messages ++ [last]) ↔
      StaysAfter reset newest messages ∧ (newest ∈ messages → reset last = false) := by
  rw [StaysAfter, List.pairwise_append]
  simp only [List.pairwise_cons, List.not_mem_nil, false_implies, implies_true,
    List.Pairwise.nil, and_self, List.mem_cons, or_false, true_and, forall_eq]
  constructor
  · rintro ⟨before, atLast⟩
    exact ⟨before, fun member => atLast newest member rfl⟩
  · rintro ⟨before, atLast⟩
    constructor
    · exact before
    · intro message member same
      subst same
      exact atLast member

/-- A message at least as new as all before it is held when it arrives. -/
theorem receive_newest {messages : List α} {newest : α} (stays : reset newest = false)
    (above : ∀ message ∈ messages, stamp message ≤ stamp newest) :
    receive stamp reset (replay stamp reset none messages) newest = some newest := by
  cases before : replay stamp reset none messages with
  | none => exact receive_none stays
  | some old =>
      apply receive_some_of_not_lt stays
      rw [not_lt]
      exact above old (mem_of_replay before).1

/-- With distinct stamps, the newest message is held exactly if no reset came
after it. -/
theorem replay_eq_some_newest_iff {messages : List α} {newest : α}
    (distinct : messages.Pairwise fun first second => stamp first ≠ stamp second)
    (isNewest : IsNewest stamp newest messages) (stays : reset newest = false) :
    replay stamp reset none messages = some newest ↔
      StaysAfter reset newest messages := by
  induction messages using List.reverseRecOn with
  | nil => exact absurd isNewest.1 List.not_mem_nil
  | append_singleton messages last ih =>
      rcases List.pairwise_append.mp distinct with ⟨distinctBefore, _, across⟩
      have apart : ∀ message ∈ messages, stamp message ≠ stamp last :=
        fun message member => across message member last List.mem_cons_self
      rw [replay_snoc, staysAfter_snoc]
      by_cases here : newest = last
      · subst last
        have absent : newest ∉ messages := fun member => apart newest member rfl
        have vacuous : StaysAfter reset newest messages := by
          apply List.Pairwise.imp_of_mem _ distinctBefore
          intro first second firstMem _ _ same
          subst same
          exact absurd firstMem absent
        have accepted := receive_newest stays fun message member =>
          isNewest.2 message (List.mem_append_left _ member)
        exact iff_of_true accepted ⟨vacuous, fun member => absurd member absent⟩
      · have earlier : newest ∈ messages := by
          rcases List.mem_append.mp isNewest.1 with early | late
          · exact early
          · exact absurd (List.mem_singleton.mp late) here
        have newestBefore : IsNewest stamp newest messages :=
          ⟨earlier, fun message member =>
            isNewest.2 message (List.mem_append_left _ member)⟩
        have older : stamp last < stamp newest :=
          lt_of_le_of_ne (isNewest.2 last (by simp)) (apart newest earlier).symm
        rw [← ih distinctBefore newestBefore]
        cases resets : reset last with
        | true =>
            rw [receive_of_reset resets]
            simp [earlier]
        | false =>
            simp only [implies_true, and_true]
            constructor
            · intro held
              cases before : replay stamp reset none messages with
              | none =>
                  rw [before, receive_none resets] at held
                  exact absurd (Option.some.inj held).symm here
              | some old =>
                  rw [before] at held
                  by_cases stale : stamp last < stamp old
                  · rwa [receive_some_of_lt resets stale] at held
                  · rw [receive_some_of_not_lt resets stale] at held
                    exact absurd (Option.some.inj held).symm here
            · intro held
              rw [held]
              exact receive_some_of_lt resets older

/-! ## Arrival in the order of the stamps -/

/-- Received in the order of their stamps, the newest message decides. -/
theorem replay_increasing {messages : List α} {newest : α}
    (increasing : messages.Pairwise fun first second => stamp first < stamp second)
    (isNewest : IsNewest stamp newest messages) :
    replay stamp reset none messages = if reset newest then none else some newest := by
  have last : messages.getLast? = some newest := by
    cases messages using List.reverseRecOn with
    | nil => exact absurd isNewest.1 List.not_mem_nil
    | append_singleton messages last =>
        rw [List.getLast?_concat]
        rcases List.mem_append.mp isNewest.1 with early | late
        · have below := (List.pairwise_append.mp increasing).2.2 newest early last
            List.mem_cons_self
          exact absurd (isNewest.2 last (by simp)) (not_le.mpr below)
        · exact congrArg some (List.mem_singleton.mp late).symm
  cases stays : reset newest with
  | true =>
      rw [if_pos rfl, replay_eq_none_iff]
      exact Or.inr ⟨newest, last, stays⟩
  | false =>
      have distinct : messages.Pairwise fun first second => stamp first ≠ stamp second :=
        increasing.imp fun below => ne_of_lt below
      rw [if_neg Bool.false_ne_true, replay_eq_some_newest_iff distinct isNewest stays]
      apply increasing.imp_of_mem
      intro first second _ secondMem below same
      subst same
      exact absurd (isNewest.2 second secondMem) (not_le.mpr below)

variable (stamp) in
theorem exists_isNewest {messages : List α} (nonempty : messages ≠ []) :
    ∃ newest, IsNewest stamp newest messages := by
  induction messages with
  | nil => contradiction
  | cons message messages ih =>
      cases messages with
      | nil => exact ⟨message, by simp [IsNewest]⟩
      | cons next rest =>
          rcases ih (List.cons_ne_nil _ _) with ⟨newest, member, above⟩
          by_cases older : stamp message ≤ stamp newest
          · refine ⟨newest, List.mem_cons_of_mem _ member, ?_⟩
            intro other otherMem
            rcases List.mem_cons.mp otherMem with rfl | later
            · exact older
            · exact above other later
          · refine ⟨message, List.mem_cons_self, ?_⟩
            intro other otherMem
            rcases List.mem_cons.mp otherMem with rfl | later
            · exact le_refl _
            · exact le_trans (above other later) (le_of_lt (not_le.mp older))

/-- An order of arrival ends like the order of the stamps exactly if it is
arranged. -/
theorem replay_eq_replay_increasing_iff {arrival increasing : List α}
    (perm : increasing.Perm arrival)
    (ordered : increasing.Pairwise fun first second => stamp first < stamp second) :
    replay stamp reset none arrival = replay stamp reset none increasing ↔
      Arranged stamp reset arrival := by
  by_cases empty : arrival = []
  · subst arrival
    rw [List.perm_nil.mp perm]
    apply iff_of_true rfl
    intro newest isNewest
    exact absurd isNewest.1 List.not_mem_nil
  · rcases exists_isNewest stamp empty with ⟨newest, isNewest⟩
    have inOrder : IsNewest stamp newest increasing :=
      ⟨perm.mem_iff.mpr isNewest.1, fun message member =>
        isNewest.2 message (perm.mem_iff.mp member)⟩
    have distinct : arrival.Pairwise fun first second => stamp first ≠ stamp second := by
      apply (perm.pairwise_iff fun different => different.symm).mp
      exact ordered.imp fun below => ne_of_lt below
    -- with distinct stamps there is only one newest message
    have unique : ∀ other, IsNewest stamp other arrival → other = newest := by
      intro other otherNewest
      by_contra different
      have symmetric : Std.Symm fun first second : α => stamp first ≠ stamp second :=
        ⟨fun _ _ apart => apart.symm⟩
      exact distinct.forall otherNewest.1 isNewest.1 different
        (le_antisymm (isNewest.2 other otherNewest.1)
          (otherNewest.2 newest isNewest.1))
    have arranged_iff : Arranged stamp reset arrival ↔
        if reset newest then ∃ last ∈ arrival.getLast?, reset last = true
        else StaysAfter reset newest arrival := by
      constructor
      · intro arranged
        exact arranged newest isNewest
      · intro here other otherNewest
        rw [unique other otherNewest]
        exact here
    rw [arranged_iff, replay_increasing ordered inOrder]
    cases stays : reset newest with
    | true =>
        rw [if_pos rfl, if_pos rfl, replay_eq_none_iff, or_iff_right empty]
    | false =>
        rw [if_neg Bool.false_ne_true, if_neg Bool.false_ne_true]
        exact replay_eq_some_newest_iff distinct isNewest stays

variable (stamp) in
/-- Every order of arrival is arranged exactly if the messages are all resets or
none of them is. -/
theorem forall_arranged_iff [DecidableEq α] {messages : List α} :
    (∀ arrival : List α, messages.Perm arrival → Arranged stamp reset arrival) ↔
      (∀ message ∈ messages, reset message = false) ∨
        ∀ message ∈ messages, reset message = true := by
  constructor
  · intro arranged
    by_contra mixed
    simp only [not_or, not_forall] at mixed
    rcases mixed with ⟨⟨ending, endingMem, ends⟩, ⟨data, dataMem, stays⟩⟩
    rw [Bool.not_eq_false] at ends
    rw [Bool.not_eq_true] at stays
    rcases exists_isNewest stamp (List.ne_nil_of_mem endingMem) with
      ⟨newest, isNewest⟩
    -- let the message that disagrees with the newest one arrive last
    have moved : ∀ last ∈ messages, messages.Perm (messages.erase last ++ [last]) :=
      fun last member =>
        (List.perm_cons_erase member).trans (List.perm_append_singleton _ _).symm
    have still : ∀ last ∈ messages,
        IsNewest stamp newest (messages.erase last ++ [last]) := fun last member =>
      ⟨(moved last member).mem_iff.mp isNewest.1, fun message inside =>
        isNewest.2 message ((moved last member).mem_iff.mpr inside)⟩
    cases resets : reset newest with
    | true =>
        have after := arranged _ (moved data dataMem) newest (still data dataMem)
        rw [if_pos resets, List.getLast?_concat] at after
        rcases after with ⟨last, same, ends'⟩
        cases same
        rw [stays] at ends'
        contradiction
    | false =>
        have after := arranged _ (moved ending endingMem) newest (still ending endingMem)
        rw [if_neg (by simp [resets])] at after
        have different : newest ≠ ending := by
          rintro rfl
          rw [ends] at resets
          contradiction
        have kept : newest ∈ messages.erase ending :=
          (List.mem_erase_of_ne different).mpr isNewest.1
        have impossible := (List.pairwise_append.mp after).2.2 newest kept ending
          List.mem_cons_self rfl
        rw [ends] at impossible
        contradiction
  · rintro (stays | ends) arrival perm newest isNewest
    · have here := stays newest (perm.mem_iff.mpr isNewest.1)
      rw [if_neg (by simp [here])]
      exact List.pairwise_of_forall_mem_list fun _ _ second member _ =>
        stays second (perm.mem_iff.mpr member)
    · have here := ends newest (perm.mem_iff.mpr isNewest.1)
      rw [if_pos here]
      cases last : arrival.getLast? with
      | none =>
          rw [List.getLast?_eq_none_iff.mp last] at isNewest
          exact absurd isNewest.1 List.not_mem_nil
      | some final =>
          exact ⟨final, rfl, ends final (perm.mem_iff.mpr (List.mem_of_getLast? last))⟩

end SysTweak.Register
