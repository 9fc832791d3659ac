import SysTweak.Transition.Run

/-!
# Monitors

A monitor is a shared state with operations that any number of clients call, one at a
time under one lock, while other parties act on the state without the lock.  A client
that finds the lock taken waits; until it has the lock nothing depends on it.

An outline gives what holds of the shared state while the lock is free and at each
point of an operation, in terms of the operations served so far.  What its steps keep,
every run keeps.
-/

namespace SysTweak.Transition.Monitor

universe u v w x y z

variable {κ : Type u} {σ : Type v} {ο : Type w} {π : Type x} {β : Type y} {ε : Type z}

/-- What a statement of an operation does: it waits, it goes on to another point, or it
gives the lock back. -/
inductive Turn (σ : Type v) (π : Type x)
  | blocked
  | next (shared : σ) (point : π)
  | leave (shared : σ)

/-- The operations, the statements at their points, and what the other parties do. -/
structure Program (σ : Type v) (ο : Type w) (π : Type x) (β : Type y) (ε : Type z) where
  /-- Where an operation begins when it has the lock, if it may still be called. -/
  enter : σ → ο → Option (σ × π)
  turn : σ → π → Except ε (Turn σ π)
  background : σ → β → Except ε σ

/-- The shared state, and the client that has the lock with the point it is at. -/
structure State (κ : Type u) (σ : Type v) (π : Type x) where
  shared : σ
  holder : Option (κ × π)

/-- Who moves: a client that calls an operation, the client that has the lock, or
another party. -/
inductive Move (κ : Type u) (ο : Type w) (β : Type y)
  | enter (client : κ) (op : ο)
  | turn
  | background (party : β)

/-- One move; a move that cannot be made changes nothing.  The outputs are the operations
in the order in which they get the lock. -/
def step (program : Program σ ο π β ε) : Step (State κ σ π) (Move κ ο β) ο ε
  | state, .enter client op =>
      match state.holder with
      | some _ => .ok (state, [])
      | none =>
          match program.enter state.shared op with
          | none => .ok (state, [])
          | some (shared, point) => .ok (⟨shared, some (client, point)⟩, [op])
  | state, .turn =>
      match state.holder with
      | none => .ok (state, [])
      | some (client, point) =>
          match program.turn state.shared point with
          | .error fault => .error fault
          | .ok .blocked => .ok (state, [])
          | .ok (.next shared point) => .ok (⟨shared, some (client, point)⟩, [])
          | .ok (.leave shared) => .ok (⟨shared, none⟩, [])
  | state, .background party =>
      match program.background state.shared party with
      | .error fault => .error fault
      | .ok shared => .ok (⟨shared, state.holder⟩, [])

/-- The ways a move can go. -/
inductive Moved (program : Program σ ο π β ε) :
    State κ σ π → Move κ ο β → State κ σ π → List ο → Prop
  | stays (state : State κ σ π) (move : Move κ ο β) : Moved program state move state []
  | enters {shared shared' : σ} {client : κ} {op : ο} {point : π}
      (entered : program.enter shared op = some (shared', point)) :
      Moved program ⟨shared, none⟩ (.enter client op) ⟨shared', some (client, point)⟩ [op]
  | goesOn {shared shared' : σ} {client : κ} {point point' : π}
      (turned : program.turn shared point = .ok (.next shared' point')) :
      Moved program ⟨shared, some (client, point)⟩ .turn ⟨shared', some (client, point')⟩ []
  | leaves {shared shared' : σ} {client : κ} {point : π}
      (turned : program.turn shared point = .ok (.leave shared')) :
      Moved program ⟨shared, some (client, point)⟩ .turn ⟨shared', none⟩ []
  | acts {shared shared' : σ} {party : β} (holder : Option (κ × π))
      (acted : program.background shared party = .ok shared') :
      Moved program ⟨shared, holder⟩ (.background party) ⟨shared', holder⟩ []

theorem moved_of_step {program : Program σ ο π β ε} {state next : State κ σ π}
    {move : Move κ ο β} {out : List ο} (stepped : step program state move = .ok (next, out)) :
    Moved program state move next out := by
  rcases state with ⟨shared, holder⟩
  cases move with
  | enter client op =>
      cases holder with
      | some taken =>
          cases stepped
          exact .stays _ _
      | none =>
          cases entered : program.enter shared op with
          | none =>
              simp only [step, entered] at stepped
              cases stepped
              exact .stays _ _
          | some begun =>
              simp only [step, entered] at stepped
              cases stepped
              exact .enters entered
  | turn =>
      cases holder with
      | none =>
          cases stepped
          exact .stays _ _
      | some taken =>
          rcases taken with ⟨client, point⟩
          cases turned : program.turn shared point with
          | error fault =>
              simp only [step, turned] at stepped
              contradiction
          | ok turn =>
              simp only [step, turned] at stepped
              cases turn with
              | blocked =>
                  cases stepped
                  exact .stays _ _
              | next shared' point' =>
                  cases stepped
                  exact .goesOn turned
              | leave shared' =>
                  cases stepped
                  exact .leaves turned
  | background party =>
      cases acted : program.background shared party with
      | error fault =>
          simp only [step, acted] at stepped
          contradiction
      | ok shared' =>
          simp only [step, acted] at stepped
          cases stepped
          exact .acts holder acted

/-- Assertions for the free lock and for the points, kept by every move. -/
structure Outline (program : Program σ ο π β ε) where
  Free : List ο → σ → Prop
  Inside : List ο → π → σ → Prop
  enter : ∀ {ops op shared shared' point}, Free ops shared →
    program.enter shared op = some (shared', point) → Inside (ops ++ [op]) point shared'
  next : ∀ {ops point shared shared' point'}, Inside ops point shared →
    program.turn shared point = .ok (.next shared' point') → Inside ops point' shared'
  leave : ∀ {ops point shared shared'}, Inside ops point shared →
    program.turn shared point = .ok (.leave shared') → Free ops shared'
  backgroundFree : ∀ {ops party shared shared'}, Free ops shared →
    program.background shared party = .ok shared' → Free ops shared'
  backgroundInside : ∀ {ops point party shared shared'}, Inside ops point shared →
    program.background shared party = .ok shared' → Inside ops point shared'

namespace Outline

variable {program : Program σ ο π β ε} (outline : Outline program)

/-- What the outline says of a state. -/
def Holds (ops : List ο) (state : State κ σ π) : Prop :=
  match state.holder with
  | none => outline.Free ops state.shared
  | some (_, point) => outline.Inside ops point state.shared

theorem holds_step {ops out : List ο} {state next : State κ σ π} {move : Move κ ο β}
    (holds : outline.Holds ops state) (stepped : step program state move = .ok (next, out)) :
    outline.Holds (ops ++ out) next := by
  cases moved_of_step stepped with
  | stays =>
      rw [List.append_nil]
      exact holds
  | enters entered => exact outline.enter holds entered
  | goesOn turned =>
      rw [List.append_nil]
      exact outline.next holds turned
  | leaves turned =>
      rw [List.append_nil]
      exact outline.leave holds turned
  | acts holder acted =>
      rw [List.append_nil]
      cases holder with
      | none => exact outline.backgroundFree holds acted
      | some taken => exact outline.backgroundInside holds acted

/-- An outline that holds at the start holds along every run. -/
theorem holds_runs {source target : State κ σ π} (start : outline.Holds [] source)
    {moves : List (Move κ ο β)} {ops : List ο}
    (ran : Runs (step program) source moves target ops) : outline.Holds ops target := by
  apply ran.history fun _ ops state => outline.Holds ops state
  · exact start
  · intro _ ops state move next out _ holds stepped
    exact outline.holds_step holds stepped

/-- If the outline rules out every fault as long as the operations served are allowed, a
run whose operations stay allowed goes through. -/
theorem exists_runs {source : State κ σ π} (start : outline.Holds [] source)
    {Allowed : List ο → Prop}
    (turns : ∀ ops point shared, outline.Inside ops point shared → Allowed ops →
      ∃ turn, program.turn shared point = .ok turn)
    (acts : ∀ (ops : List ο) (state : State κ σ π) (party : β), outline.Holds ops state →
      ∃ shared, program.background state.shared party = .ok shared)
    {moves : List (Move κ ο β)}
    (allowed : ∀ earlier target ops, earlier <+: moves →
      Runs (step program) source earlier target ops → Allowed ops) :
    ∃ target ops, Runs (step program) source moves target ops := by
  apply exists_runs_of_meets
  rintro before move ⟨earlier, later, ops, split, ran⟩
  have holds := outline.holds_runs start ran
  have fine : Allowed ops := allowed earlier before ops ⟨move :: later, split.symm⟩ ran
  rcases before with ⟨shared, holder⟩
  cases move with
  | enter client op =>
      cases holder with
      | some taken => exact ⟨_, rfl⟩
      | none =>
          cases entered : program.enter shared op with
          | none => exact ⟨(⟨shared, none⟩, []), by simp only [step, entered]⟩
          | some begun =>
              exact ⟨(⟨begun.1, some (client, begun.2)⟩, [op]), by simp only [step, entered]⟩
  | turn =>
      cases holder with
      | none => exact ⟨_, rfl⟩
      | some taken =>
          rcases taken with ⟨client, point⟩
          rcases turns ops point shared holds fine with ⟨turn, turned⟩
          simp only [step, turned]
          cases turn with
          | blocked => exact ⟨_, rfl⟩
          | next shared' point' => exact ⟨_, rfl⟩
          | leave shared' => exact ⟨_, rfl⟩
  | background party =>
      rcases acts ops ⟨shared, holder⟩ party holds with ⟨shared', acted⟩
      exact ⟨(⟨shared', holder⟩, []), by simp only [step, acted]⟩

end Outline

/-- The operation a move calls. -/
def Move.called : Move κ ο β → Option ο
  | .enter _ op => some op
  | .turn => none
  | .background _ => none

/-- Only what is called is served, in the order of the calls. -/
theorem served_sublist {program : Program σ ο π β ε} {source target : State κ σ π}
    {moves : List (Move κ ο β)} {ops : List ο}
    (ran : Runs (step program) source moves target ops) :
    ops.Sublist (moves.filterMap Move.called) := by
  apply ran.history fun moves ops _ => ops.Sublist (moves.filterMap Move.called)
  · exact List.Sublist.refl []
  · intro moves ops state move next out _ earlier stepped
    rw [List.filterMap_append]
    apply earlier.append
    cases moved_of_step stepped with
    | enters => exact List.Sublist.refl _
    | stays => exact List.nil_sublist _
    | goesOn => exact List.nil_sublist _
    | leaves => exact List.nil_sublist _
    | acts => exact List.nil_sublist _

end SysTweak.Transition.Monitor
