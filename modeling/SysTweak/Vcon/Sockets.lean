import Mathlib.Data.Finset.Option
import SysTweak.Ledger.Core
import SysTweak.Vcon.Worker

/-!
# Socket discipline

The thread opens a socket in `BindServer` and closes it in `CloseServer`.
Along every run at most one descriptor is open, only the open one is used, and
each is closed once.  The last one however is closed after `socketExit`, so a
run keeps to the socket subsystem exactly until its loop is left.
-/

namespace SysTweak.Vcon

open SysTweak.Ledger
open SysTweak.Platform
open SysTweak.Transition

/-- The call takes a descriptor or returns one. -/
def Call.onSocket : Call → Bool
  | .socket _ => true
  | .bind _ => true
  | .recvfrom _ => true
  | .close _ => true
  | _ => false

/-- The call is about a controller or its device. -/
def Call.onController : Call → Bool
  | .newController _ => true
  | .deleteController _ => true
  | .hdls _ => true
  | _ => false

/-- What a call does to the set of open descriptors. -/
def fdEntry : Call → Option (Entry Int)
  | .socket fd => some (.acquire fd)
  | .close fd => some (.release fd)
  | _ => none

def fdLedger : List Call → List (Entry Int) :=
  List.filterMap fdEntry

/-- The calls use at most one descriptor at a time: `opened` is open before
them, and `target` after. -/
inductive Uses : Option Int → List Call → Option Int → Prop
  | nil {opened : Option Int} : Uses opened [] opened
  | other {opened target : Option Int} {call : Call} {calls : List Call} :
      call.onSocket = false → Uses opened calls target → Uses opened (call :: calls) target
  | socket {target : Option Int} {fd : Int} {calls : List Call} :
      Uses (some fd) calls target → Uses none (.socket fd :: calls) target
  | bind {target : Option Int} {fd : Int} {calls : List Call} :
      Uses (some fd) calls target → Uses (some fd) (.bind fd :: calls) target
  | recvfrom {target : Option Int} {fd : Int} {calls : List Call} :
      Uses (some fd) calls target → Uses (some fd) (.recvfrom fd :: calls) target
  | close {target : Option Int} {fd : Int} {calls : List Call} :
      Uses none calls target → Uses (some fd) (.close fd :: calls) target

namespace Uses

variable {opened middle target : Option Int} {before after calls : List Call}

theorem append (earlier : Uses opened before middle) (later : Uses middle after target) :
    Uses opened (before ++ after) target := by
  induction earlier with
  | nil => exact later
  | other silent _ ih => exact .other silent (ih later)
  | socket _ ih => exact .socket (ih later)
  | bind _ ih => exact .bind (ih later)
  | recvfrom _ ih => exact .recvfrom (ih later)
  | close _ ih => exact .close (ih later)

theorem exists_of_append (uses : Uses opened (before ++ after) target) :
    ∃ middle, Uses opened before middle ∧ Uses middle after target := by
  induction before generalizing opened with
  | nil => exact ⟨opened, .nil, uses⟩
  | cons call before ih =>
      rw [List.cons_append] at uses
      cases uses with
      | other silent rest =>
          rcases ih rest with ⟨middle, first, second⟩
          exact ⟨middle, .other silent first, second⟩
      | socket rest =>
          rcases ih rest with ⟨middle, first, second⟩
          exact ⟨middle, .socket first, second⟩
      | bind rest =>
          rcases ih rest with ⟨middle, first, second⟩
          exact ⟨middle, .bind first, second⟩
      | recvfrom rest =>
          rcases ih rest with ⟨middle, first, second⟩
          exact ⟨middle, .recvfrom first, second⟩
      | close rest =>
          rcases ih rest with ⟨middle, first, second⟩
          exact ⟨middle, .close first, second⟩

theorem of_other (silent : ∀ call ∈ calls, call.onSocket = false) :
    Uses opened calls opened := by
  induction calls with
  | nil => exact .nil
  | cons call calls ih =>
      apply Uses.other
      · exact silent call List.mem_cons_self
      · exact ih fun later member => silent later (List.mem_cons_of_mem _ member)

/-- The descriptors open after the calls, as the ledger has them. -/
theorem settle_fdLedger (uses : Uses opened calls target) :
    settle opened.toFinset (fdLedger calls) = some target.toFinset := by
  induction uses with
  | nil => rfl
  | @other opened target call calls silent _ ih =>
      have same : fdLedger (call :: calls) = fdLedger calls := by
        cases call with
        | socket => contradiction
        | close => contradiction
        | _ => rfl
      rwa [same]
  | socket _ ih =>
      apply settle_acquire_cons_eq_some_iff.mpr
      constructor
      · exact Finset.notMem_empty _
      · exact ih
  | bind _ ih => exact ih
  | recvfrom _ ih => exact ih
  | @close target fd calls _ ih =>
      apply settle_release_cons_eq_some_iff.mpr
      constructor
      · exact Finset.mem_singleton_self fd
      · have nothing : (some fd).toFinset.erase fd = (none : Option Int).toFinset := by
          simp
        rwa [nothing]

end Uses

/-! ## The discipline -/

/-- At most one descriptor is open at any time, no descriptor is closed unless
it is open, and only the open one is bound or received from. -/
structure OneOpen (calls : List Call) : Prop where
  settles : ∀ before after, calls = before ++ after →
    ∃ opened, settle ∅ (fdLedger before) = some opened ∧ opened.card ≤ 1
  bind : ∀ before after fd, calls = before ++ .bind fd :: after →
    settle ∅ (fdLedger before) = some {fd}
  recvfrom : ∀ before after fd, calls = before ++ .recvfrom fd :: after →
    settle ∅ (fdLedger before) = some {fd}

/-- Sockets are used only between `socketInitialize` and `socketExit`, and none
is open at `socketExit`. -/
structure InsideSubsystem (calls : List Call) : Prop where
  inside : ∀ before call after, calls = before ++ call :: after → call.onSocket = true →
    .socketInitialize ∈ before ∧ .socketExit ∉ before
  none_open : ∀ before after, calls = before ++ .socketExit :: after →
    settle ∅ (fdLedger before) = some ∅

/-- What is asked of the calls of the thread: also that every descriptor is
closed once the thread has ended. -/
structure SocketDiscipline (calls : List Call) (stopped : Bool) : Prop where
  one_open : OneOpen calls
  all_closed : stopped = true → settle ∅ (fdLedger calls) = some ∅
  inside : InsideSubsystem calls

theorem Uses.oneOpen {calls : List Call} {target : Option Int}
    (uses : Uses none calls target) : OneOpen calls := by
  constructor
  · rintro before after rfl
    rcases uses.exists_of_append with ⟨middle, first, _⟩
    refine ⟨middle.toFinset, first.settle_fdLedger, ?_⟩
    cases middle <;> simp
  · rintro before after fd rfl
    rcases uses.exists_of_append with ⟨middle, first, second⟩
    cases second with
    | other silent => contradiction
    | bind => exact first.settle_fdLedger
  · rintro before after fd rfl
    rcases uses.exists_of_append with ⟨middle, first, second⟩
    cases second with
    | other silent => contradiction
    | recvfrom => exact first.settle_fdLedger

/-! ## What the service does with its socket -/

/-- The calls use the socket of the service, and neither start nor end the
socket subsystem. -/
structure Transmits (source : VirtualControllerService) (calls : List Call)
    (target : VirtualControllerService) : Prop where
  uses : Uses (some source.sock) calls (some target.sock)
  running : ∀ call ∈ calls, call ≠ .socketInitialize ∧ call ≠ .socketExit

namespace Transmits

variable {source middle target : VirtualControllerService}

theorem append {first second : List Call} (earlier : Transmits source first middle)
    (later : Transmits middle second target) :
    Transmits source (first ++ second) target where
  uses := earlier.uses.append later.uses
  running call member := by
    rcases List.mem_append.mp member with here | there
    · exact earlier.running call here
    · exact later.running call there

theorem of_onController {calls : List Call} (sock : target.sock = source.sock)
    (local_calls : ∀ call ∈ calls, call.onController = true) :
    Transmits source calls target where
  uses := by
    rw [sock]
    apply Uses.of_other
    intro call member
    have onController := local_calls call member
    cases call <;> first | rfl | contradiction
  running call member := by
    have onController := local_calls call member
    constructor
    · rintro rfl
      contradiction
    · rintro rfl
      contradiction

end Transmits

theorem onController_of_mem_map_hdls {calls : List HdlsCall} {call : Call}
    (member : call ∈ calls.map Call.hdls) : call.onController = true := by
  rcases List.mem_map.mp member with ⟨inner, _, rfl⟩
  rfl

theorem onController_of_mem_delete {calls : List HdlsCall} {ptr : Nat} {call : Call}
    (member : call ∈ calls.map Call.hdls ++ [.deleteController ptr]) :
    call.onController = true := by
  rcases List.mem_append.mp member with early | last
  · exact onController_of_mem_map_hdls early
  · rw [List.mem_singleton.mp last]
    rfl

namespace VirtualControllerService

variable {nx : Libnx} {service : VirtualControllerService}

theorem Found.transmits {addr : Addr} {replies : ReceiveReplies}
    {found : VirtualControllerService} {ptr : Nat} {controller : VirtualController}
    {calls : List Call}
    (lookup : Found nx service addr replies found ptr controller calls) :
    Transmits service calls found := by
  apply Transmits.of_onController lookup.sock
  intro call member
  cases lookup with
  | present => contradiction
  | created =>
      simp only [List.mem_cons, List.not_mem_nil, or_false] at member
      rcases member with rfl | rfl
      · rfl
      · rfl

theorem Serves.transmits {received : Received} {replies : ReceiveReplies}
    {outcome : ReceiveOutcome} (serves : Serves nx service received replies outcome) :
    Transmits service outcome.calls outcome.service := by
  have heard : Transmits service [.recvfrom service.sock] service := by
    constructor
    · exact .recvfrom .nil
    · intro call member
      rw [List.mem_singleton.mp member]
      simp
  cases serves with
  | ignored => exact heard
  | exited _ _ lookup =>
      rw [List.cons_append]
      apply heard.append
      apply lookup.transmits.append
      exact Transmits.of_onController rfl fun call member =>
        onController_of_mem_delete member
  | updated _ _ lookup =>
      rw [List.cons_append]
      apply heard.append
      apply lookup.transmits.append
      exact Transmits.of_onController rfl fun call member =>
        onController_of_mem_map_hdls member

theorem Sweep.transmits {target : VirtualControllerService} {calls : List Call}
    (sweep : service.Sweep calls target) : Transmits service calls target := by
  apply Transmits.of_onController sweep.sock
  induction sweep with
  | done => simp
  | drop _ _ _ ih =>
      intro call member
      rcases List.mem_append.mp member with early | late
      · exact onController_of_mem_delete early
      · exact ih call late

end VirtualControllerService

section

variable {nx : Libnx}

open VirtualControllerService

theorem serviceStep_transmits {service target : VirtualControllerService} {event : Event}
    {calls : List Call} (owned : service.Owned)
    (stepped : serviceStep nx service event = .ok (target, calls)) :
    Transmits service calls target := by
  cases stepped_of_serviceStep owned stepped with
  | receive ran => exact (owned.serves ran).transmits
  | restart fd =>
      constructor
      · exact .close (.socket (.bind .nil))
      · intro call member
        simp only [List.mem_append, bindServer, closeServer, List.mem_cons, List.not_mem_nil,
          or_false] at member
        rcases member with rfl | rfl | rfl <;> simp
  | cleanup sweep _ => exact sweep.transmits

theorem runs_transmit {source target : VirtualControllerService} {events : List Event}
    {calls : List Call} (owned : source.Owned)
    (ran : Runs (serviceStep nx) source events target calls) :
    Transmits source calls target := by
  induction events generalizing source calls with
  | nil =>
      rcases runs_nil_iff.mp ran with ⟨rfl, rfl⟩
      exact ⟨.nil, by simp⟩
  | cons event events ih =>
      rcases runs_cons_iff.mp ran with ⟨next, first, rest, stepped, continued, rfl⟩
      exact (serviceStep_transmits owned stepped).append
        (ih (serviceStep_owned owned stepped) continued)

/-- The trace of the thread: start-up, a stretch that uses the socket of the
service, and at the end the teardown, which closes that socket last. -/
theorem ThreadRun.trace {startup : Startup} {iterations : List Iteration}
    {stopped : Bool} {service : VirtualControllerService} {calls : List Call}
    (ran : ThreadRun nx startup iterations stopped service calls) :
    ∃ served sock,
      Uses none served (some sock) ∧
      (∀ call ∈ served, call ≠ .socketInitialize ∧ call ≠ .socketExit) ∧
      calls = .socketInitialize :: served ++
        (if stopped then [.socketExit, .close sock] else []) := by
  have begins : Uses none [.controllersInitialize, .socket startup.fd, .bind startup.fd]
      (some startup.fd) := .other rfl (.socket (.bind .nil))
  have beginning : ∀ call ∈
      [Call.controllersInitialize, .socket startup.fd, .bind startup.fd],
      call ≠ .socketInitialize ∧ call ≠ .socketExit := by
    intro call member
    simp only [List.mem_cons, List.not_mem_nil, or_false] at member
    rcases member with rfl | rfl | rfl <;> simp
  cases ran with
  | looping loop =>
      rcases Worker.runs_of_loop loop with ⟨events, inner⟩
      have transmits := runs_transmit (owned_listening _) inner
      refine ⟨_, _, begins.append transmits.uses, ?_, (List.append_nil _).symm⟩
      intro call member
      rcases List.mem_append.mp member with early | late
      · exact beginning call early
      · exact transmits.running call late
  | @stopped looped cleaned loopCalls cleanupCalls loop sweep =>
      rcases Worker.runs_of_loop loop with ⟨events, inner⟩
      have transmits := (runs_transmit (owned_listening _) inner).append sweep.transmits
      have exits : Uses (some cleaned.sock) [.controllersExit] (some cleaned.sock) :=
        .other rfl .nil
      refine ⟨_, _, (begins.append transmits.uses).append exits, ?_, by
        simp [startCalls]⟩
      intro call member
      rcases List.mem_append.mp member with early | last
      · rcases List.mem_append.mp early with first | later
        · exact beginning call first
        · exact transmits.running call later
      · rw [List.mem_singleton.mp last]
        simp

/-! ## The thread -/

/-- Until the loop is left the thread keeps to the socket subsystem. -/
theorem insideSubsystem_of_served {served : List Call}
    (running : ∀ call ∈ served, call ≠ .socketInitialize ∧ call ≠ .socketExit) :
    InsideSubsystem (.socketInitialize :: served) := by
  have notExit : .socketExit ∉ Call.socketInitialize :: served := by
    intro member
    rcases List.mem_cons.mp member with same | later
    · contradiction
    · exact (running _ later).2 rfl
  constructor
  · intro before call after same onSocket
    constructor
    · cases before with
      | nil =>
          cases same
          contradiction
      | cons head before =>
          cases (List.cons.inj same).1
          exact List.mem_cons_self
    · intro member
      rw [same] at notExit
      exact notExit (List.mem_append_left _ member)
  · intro before after same
    rw [same] at notExit
    exact absurd (List.mem_append_right _ List.mem_cons_self) notExit

/-- Closing a socket after `socketExit` is outside the subsystem. -/
theorem not_insideSubsystem_of_late_close (served : List Call) (sock : Int) :
    ¬InsideSubsystem (.socketInitialize :: served ++ [.socketExit, .close sock]) := by
  intro discipline
  have split : .socketInitialize :: served ++ [.socketExit, .close sock] =
      (.socketInitialize :: served ++ [.socketExit]) ++ .close sock :: [] := by
    simp
  have late := (discipline.inside _ _ _ split rfl).2
  exact late (List.mem_append_right _ List.mem_cons_self)

/-- The thread keeps the socket discipline exactly while its loop has not been
left.  What it always keeps is that only one descriptor is open and used, and
that each is closed once. -/
theorem socketDiscipline_iff_not_stopped {startup : Startup}
    {iterations : List Iteration} {stopped : Bool} {service : VirtualControllerService}
    {calls : List Call}
    (ran : processThreadFunc nx startup iterations stopped = .ok (service, calls)) :
    (SocketDiscipline calls stopped ↔ stopped = false) ∧
      OneOpen calls ∧
      (stopped = true → settle ∅ (fdLedger calls) = some ∅) := by
  rcases (threadRun_of_processThreadFunc ran).trace with ⟨served, sock, uses, running, rfl⟩
  have started : Uses none (.socketInitialize :: served) (some sock) := .other rfl uses
  cases stopped with
  | false =>
      rw [if_neg Bool.false_ne_true, List.append_nil]
      have oneOpen := started.oneOpen
      have inside := insideSubsystem_of_served running
      exact ⟨iff_of_true ⟨oneOpen, fun stop => by contradiction, inside⟩ rfl, oneOpen,
        fun stop => by contradiction⟩
  | true =>
      rw [if_pos rfl]
      have ended : Uses none (.socketInitialize :: served ++ [.socketExit, .close sock])
          none := started.append (.other rfl (.close .nil))
      have undisciplined : ¬SocketDiscipline
          (.socketInitialize :: served ++ [.socketExit, .close sock]) true :=
        fun discipline => not_insideSubsystem_of_late_close served sock discipline.inside
      exact ⟨iff_of_false undisciplined (by simp), ended.oneOpen,
        fun _ => ended.settle_fdLedger⟩

/-- A thread that is stopped before its first datagram closes its socket after
`socketExit`. -/
theorem socket_closed_after_exit :
    ∃ service calls,
      processThreadFunc Libnx.console ⟨0, 0, 3, 0⟩ [] true = .ok (service, calls) ∧
      calls = [.socketInitialize, .controllersInitialize, .socket 3, .bind 3,
        .controllersExit, .socketExit, .close 3] ∧
      ¬SocketDiscipline calls true :=
  ⟨_, _, rfl, rfl, fun discipline =>
    not_insideSubsystem_of_late_close
      [.controllersInitialize, .socket 3, .bind 3, .controllersExit] 3 discipline.inside⟩

/-- While it runs, also through a receive error, the thread keeps the
discipline. -/
theorem socketDiscipline_while_running :
    ∃ service calls,
      processThreadFunc Libnx.console ⟨0, 0, 3, 0⟩
        [{ received := ⟨-1, .neutral 0 0, 0⟩
           replies := ⟨0, ⟨0, 7⟩, 0, .fine⟩
           fd := 4
           checkTick := 0
           inactiveTick := fun _ => 0
           cleanupTick := 0 }] false = .ok (service, calls) ∧
      SocketDiscipline calls false := by
  have runs : ∃ service calls,
      processThreadFunc Libnx.console ⟨0, 0, 3, 0⟩
        [{ received := ⟨-1, .neutral 0 0, 0⟩
           replies := ⟨0, ⟨0, 7⟩, 0, .fine⟩
           fd := 4
           checkTick := 0
           inactiveTick := fun _ => 0
           cleanupTick := 0 }] false = .ok (service, calls) := ⟨_, _, rfl⟩
  rcases runs with ⟨service, calls, ran⟩
  exact ⟨service, calls, ran, (socketDiscipline_iff_not_stopped ran).1.mpr rfl⟩

end

end SysTweak.Vcon
