import Mathlib.Data.List.Forall2
import SysTweak.Sf.Dispatch

/-!
# Forwarding

A session whose object stands in front of another service answers some requests itself and
forwards the others.  Where the commands of its object ask no other service, that service
gets exactly the requests that are forwarded, and each client gets the answer to its own.
-/

namespace SysTweak.Sf

open SysTweak.Platform

section

variable {m : Type → Type} [Monad m] {ω : Type}

/-- An entry whose command asks no other service, and the entry by itself. -/
structure Alone (entry : ServiceCommandMeta m ω) (alone : ServiceCommandMeta Id ω) : Prop where
  hosverLow : entry.hosverLow = alone.hosverLow
  hosverHigh : entry.hosverHigh = alone.hosverHigh
  cmdId : entry.cmdId = alone.cmdId
  handler : ∀ message, entry.handler message = pure (alone.handler message).run

theorem Alone.matches_eq {entry : ServiceCommandMeta m ω} {alone : ServiceCommandMeta Id ω}
    (same : Alone entry alone) (cmdId hosver : Nat) :
    entry.matches cmdId hosver = alone.matches cmdId hosver := by
  simp only [ServiceCommandMeta.matches, same.hosverLow, same.hosverHigh, same.cmdId]

/-- A command that always performs the same asks no other service. -/
theorem invokeServiceCommand_pure [LawfulMonad m] (info : CommandMetaInfo)
    (performed : Performed ω) (message : Message) :
    invokeServiceCommand (m := m) info (fun _ => pure performed) message =
      pure (invokeServiceCommand (m := Id) info (fun _ => pure performed) message).run := by
  unfold invokeServiceCommand
  split
  · rfl
  · split
    · rfl
    · simp

/-- Its result is that of the command, unless the request is not valid. -/
theorem invokeServiceCommand_result (info : CommandMetaInfo) (performed : Performed ω)
    (message : Message) :
    (invokeServiceCommand (m := Id) info (fun _ => pure performed) message).run.result =
        resultInvalidCmifRequest ∨
      (invokeServiceCommand (m := Id) info (fun _ => pure performed) message).run.result =
        performed.rc := by
  have valid : info.prepareForProcess message = 0 ∨
      info.prepareForProcess message = resultInvalidCmifRequest :=
    ite_eq_or_eq _ _ _
  have mapped : processBuffers message = 0 ∨ processBuffers message = resultInvalidCmifRequest :=
    ite_eq_or_eq _ _ _
  unfold invokeServiceCommand
  split
  · rename_i prepared
    exact Or.inl (valid.resolve_left fun success => absurd prepared (by rw [success]; decide))
  · split
    · rename_i processed
      exact Or.inl (mapped.resolve_left fun success =>
        absurd processed (by rw [success]; decide))
    · exact Or.inr rfl

variable {entries : List (ServiceCommandMeta m ω)} {alone : List (ServiceCommandMeta Id ω)}

theorem findHandler_alone (all : List.Forall₂ Alone entries alone) (cmdId hosver : Nat) :
    findHandler entries cmdId hosver =
      (findHandler alone cmdId hosver).map fun handler message =>
        pure (handler message).run := by
  induction all with
  | nil => rfl
  | @cons entry single entries alone same rest ih =>
      simp only [findHandler, List.find?_cons, same.matches_eq] at ih ⊢
      cases single.matches cmdId hosver with
      | true =>
          simp only [Option.map_some, Option.some.injEq]
          exact funext same.handler
      | false => exact ih

/-- A message that the object passes on to the service behind it. -/
def passedOn (hosVersion : Nat) (entries : List (ServiceCommandMeta Id ω))
    (message : Message) : Bool :=
  match parseInHeader hosVersion message with
  | .error _ => false
  | .ok cmdId =>
      match findHandler entries cmdId hosVersion with
      | none => true
      | some handler => shouldForwardToSession.includes (handler message).run.result

variable [LawfulMonad m]

theorem processMessageImpl_alone (all : List.Forall₂ Alone entries alone) (hosVersion : Nat)
    (message : Message) :
    processMessageImpl hosVersion entries message =
      pure (processMessageImpl hosVersion alone message).run := by
  unfold processMessageImpl
  cases parseInHeader hosVersion message with
  | error rc => rfl
  | ok cmdId =>
      simp only [findHandler_alone all]
      cases findHandler alone cmdId hosVersion with
      | none => rfl
      | some handler => simp

/-- A message is passed on, or answered without any service. -/
theorem processMessageForMitmImpl_alone (all : List.Forall₂ Alone entries alone)
    (upstream : Upstream m) (forwardService : Option Service) (hosVersion : Nat)
    (message : Message) :
    processMessageForMitmImpl upstream forwardService hosVersion entries message =
      if passedOn hosVersion alone message then forwardRequest upstream forwardService message
      else pure (processMessageImpl hosVersion alone message).run := by
  unfold processMessageForMitmImpl passedOn processMessageImpl
  cases parseInHeader hosVersion message with
  | error rc => rfl
  | ok cmdId =>
      simp only [findHandler_alone all]
      cases findHandler alone cmdId hosVersion with
      | none => rfl
      | some handler => simp

/-- What becomes of the answer to a request that was forwarded. -/
def answerOf (sent : Result × Forwarded) : Processed ω :=
  if sent.1.failed then .returned sent.1 else .replied (.forwarded sent.2)

theorem forwardRequest_some (upstream : Upstream m) (service : Service) (message : Message) :
    forwardRequest (ω := ω) upstream (some service) message =
      answerOf <$> upstream.sendSyncRequest service.session
        (preProcessCommandBufferForMitm service.pointerBufferSize message) := by
  rw [forwardRequest, map_eq_pure_bind]
  congr 1
  funext sent
  rw [answerOf]
  split <;> rfl

end

/-! ## Many requests -/

section

variable {m : Type → Type} [Monad m] [LawfulMonad m] {α β : Type}

/-- The answers to requests: those that are passed on take the next answer from behind,
the others are answered by the object itself. -/
def answersTo (passes : α → Bool) (own : α → β) : List α → List β → List β
  | [], _ => []
  | request :: requests, answers =>
      if passes request then answers.take 1 ++ answersTo passes own requests answers.tail
      else own request :: answersTo passes own requests answers

/-- Only the requests that are passed on are asked for, each once and in order. -/
theorem mapM_ite_eq (passes : α → Bool) (own : α → β) (ask : α → m β) (requests : List α) :
    (requests.mapM fun request => if passes request then ask request else pure (own request)) =
      answersTo passes own requests <$> (requests.filter passes).mapM ask := by
  induction requests with
  | nil => simp [answersTo]
  | cons request requests ih =>
      rw [List.mapM_cons, ih]
      cases passed : passes request with
      | true =>
          simp only [passed, if_true, List.filter_cons_of_pos, List.mapM_cons, bind_map_left,
            map_bind, map_pure, answersTo, List.take_succ_cons, List.take_zero, List.tail_cons,
            List.cons_append, List.nil_append]
      | false =>
          simp only [passed, Bool.false_eq_true, if_false, pure_bind, not_false_eq_true,
            List.filter_cons_of_neg, answersTo, bind_pure_comp, Functor.map_map]

end

end SysTweak.Sf
