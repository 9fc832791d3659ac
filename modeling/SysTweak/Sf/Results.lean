import SysTweak.Platform.Libnx

/-!
# Results of the service framework

The result codes of `results_common.hpp`, `sf_results.hpp`, `hipc_results.hpp` and
`sm_results.hpp` that the server side of the framework returns or looks for.
-/

namespace SysTweak.Sf

open SysTweak.Platform

/-- `ResultTraits::MakeValue`. -/
def makeValue (moduleId description : BitVec 32) : Result :=
  moduleId ||| (description <<< 9)

/-- `GetModule`. -/
def getModule (rc : Result) : BitVec 32 :=
  rc &&& 0x1ff

/-- `GetDescription`. -/
def getDescription (rc : Result) : BitVec 32 :=
  (rc >>> 9) &&& 0x1fff

/-- `ResultErrorRangeBase`: the results of a module with a description in a range. -/
structure ResultRange where
  moduleId : BitVec 32
  descriptionStart : BitVec 32
  descriptionEnd : BitVec 32

/-- `Includes`. -/
def ResultRange.includes (range : ResultRange) (rc : Result) : Bool :=
  getModule rc == range.moduleId &&
    (decide (range.descriptionStart ≤ getDescription rc) &&
      decide (getDescription rc ≤ range.descriptionEnd))

/-! ## `ams::sf` -/

def resultNotSupported : Result :=
  makeValue 10 1

def resultInvalidHeaderSize : Result :=
  makeValue 10 202

def resultInvalidInHeader : Result :=
  makeValue 10 211

def resultUnknownCommandId : Result :=
  makeValue 10 221

/-- `sf::impl::ResultRequestContextChanged`. -/
def requestContextChanged : ResultRange :=
  ⟨10, 800, 899⟩

/-- `sf::impl::ResultRequestInvalidated`. -/
def requestInvalidated : ResultRange :=
  ⟨10, 801, 809⟩

/-! ## `ams::sf::hipc` -/

def resultOutOfSessionMemory : Result :=
  makeValue 11 102

def resultOutOfDomains : Result :=
  makeValue 11 200

def resultInvalidRequestSize : Result :=
  makeValue 11 402

def resultUnknownCommandType : Result :=
  makeValue 11 403

def resultInvalidCmifRequest : Result :=
  makeValue 11 420

def resultTargetNotDomain : Result :=
  makeValue 11 491

/-! ## `ams::sm::mitm` -/

/-- `sm::mitm::ResultShouldForwardToSession`. -/
def shouldForwardToSession : ResultRange :=
  ⟨21, 1000, 1000⟩

/-- What is invalidated has had its context changed. -/
theorem includes_of_requestInvalidated {rc : Result}
    (invalidated : requestInvalidated.includes rc = true) :
    requestContextChanged.includes rc = true := by
  simp only [ResultRange.includes, requestInvalidated, Bool.and_eq_true, beq_iff_eq]
    at invalidated
  rcases invalidated with ⟨sameModule, above, below⟩
  have wider : (800 : BitVec 32) ≤ getDescription rc :=
    BitVec.le_trans (by decide : (800 : BitVec 32) ≤ 801) (of_decide_eq_true above)
  have higher : getDescription rc ≤ 899 :=
    BitVec.le_trans (of_decide_eq_true below) (by decide : (809 : BitVec 32) ≤ 899)
  simp only [ResultRange.includes, requestContextChanged, Bool.and_eq_true, beq_iff_eq]
  exact ⟨sameModule, decide_eq_true wider, decide_eq_true higher⟩

end SysTweak.Sf
