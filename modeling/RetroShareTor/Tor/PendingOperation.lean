import RetroShareTor.Util.ByteArray

/-!
# Pending operations

`PendingOperation` of `PendingOperation.cpp`: a future that is finished by
`finishWithSuccess` or `finishWithError`. Its three callbacks are its owner's code; a call
returns the callbacks it ran, in order, and a sequence of calls returns all of them.

`finishWithError` stores its argument over the `"Unknown Error"` default it has just set,
and stores it also when the operation is already finished. So the operation's outcome is
decided by the last `finishWithError` call, and an empty message leaves it successful
(`isError_run_iff`).
-/

namespace RetroShareTor

/-- The state of a `PendingOperation`. -/
structure PendingOperation where
  m_finished : Bool
  m_errorMessage : Bytes
  deriving DecidableEq, Repr

/-- A callback of a `PendingOperation`, run by one of its `finishWith...` calls. -/
inductive Callback
  | finished
  | success
  | error (message : Bytes)
  deriving DecidableEq, Repr

/-- A call on a `PendingOperation`. -/
inductive OperationCall
  | finishWithSuccess
  | finishWithError (message : Bytes)
  deriving DecidableEq, Repr

namespace PendingOperation

/-- A new operation: not finished, no error message. -/
def init : PendingOperation := ⟨false, []⟩

/-- `isFinished()`. -/
def isFinished (op : PendingOperation) : Bool := op.m_finished

/-- `isSuccess()`. -/
def isSuccess (op : PendingOperation) : Bool := op.m_finished && op.m_errorMessage.isEmpty

/-- `isError()`. -/
def isError (op : PendingOperation) : Bool := op.m_finished && !op.m_errorMessage.isEmpty

/-- `finishWithError(message)`. -/
def finishWithError (op : PendingOperation) (message : Bytes) :
    PendingOperation × List Callback :=
  let op := if message.isEmpty then { op with m_errorMessage := ascii "Unknown Error" } else op
  let op := { op with m_errorMessage := message }
  if op.m_finished then (op, [])
  else ({ op with m_finished := true }, [.error op.m_errorMessage, .finished])

/-- `finishWithSuccess()`; its assertion that no error message is stored is the caller's
precondition `OperationCall.Allowed`. -/
def finishWithSuccess (op : PendingOperation) : PendingOperation × List Callback :=
  if op.m_finished then (op, [])
  else
    let op := { op with m_finished := true }
    (op, (if op.isSuccess then [.success] else []) ++ [.finished])

/-- One call. -/
def call (op : PendingOperation) : OperationCall → PendingOperation × List Callback
  | .finishWithSuccess => op.finishWithSuccess
  | .finishWithError message => op.finishWithError message

/-- A sequence of calls: the final state and every callback run, in order. -/
def run (op : PendingOperation) : List OperationCall → PendingOperation × List Callback
  | [] => (op, [])
  | c :: cs =>
    let r := op.call c
    let r' := r.1.run cs
    (r'.1, r.2 ++ r'.2)

end PendingOperation

/-- The assertion of `finishWithSuccess`: it is not called once an error message is
stored. -/
def OperationCall.Allowed (op : PendingOperation) : OperationCall → Prop
  | .finishWithSuccess => op.m_errorMessage = []
  | .finishWithError _ => True

/-- Every call of a sequence is made within its assertion. -/
def OperationCall.AllAllowed : PendingOperation → List OperationCall → Prop
  | _, [] => True
  | op, c :: cs => c.Allowed op ∧ OperationCall.AllAllowed (op.call c).1 cs

instance OperationCall.decAllowed (op : PendingOperation) :
    (c : OperationCall) → Decidable (c.Allowed op)
  | .finishWithSuccess => inferInstanceAs (Decidable (op.m_errorMessage = []))
  | .finishWithError _ => inferInstanceAs (Decidable True)

instance OperationCall.decAllAllowed :
    (op : PendingOperation) → (cs : List OperationCall) → Decidable (OperationCall.AllAllowed op cs)
  | _, [] => inferInstanceAs (Decidable True)
  | op, c :: cs =>
    haveI := OperationCall.decAllAllowed (op.call c).1 cs
    inferInstanceAs (Decidable (c.Allowed op ∧ OperationCall.AllAllowed (op.call c).1 cs))

namespace PendingOperation

/-! ### One call -/

/-- What `finishWithError` does: the message is always stored; the callbacks run only on
an operation not yet finished. -/
lemma finishWithError_eq (op : PendingOperation) (message : Bytes) :
    op.finishWithError message =
      if op.m_finished then ({ op with m_errorMessage := message }, [])
      else (⟨true, message⟩, [.error message, .finished]) := by
  by_cases hm : message.isEmpty <;> simp [finishWithError, hm]

lemma finishWithSuccess_eq (op : PendingOperation) :
    op.finishWithSuccess =
      if op.m_finished then (op, [])
      else (⟨true, op.m_errorMessage⟩,
        (if op.m_errorMessage.isEmpty then [.success] else []) ++ [.finished]) := by
  simp [finishWithSuccess, isSuccess]

@[simp] lemma call_m_finished (op : PendingOperation) (c : OperationCall) :
    (op.call c).1.m_finished = true := by
  cases c <;> cases h : op.m_finished <;> simp [call, finishWithError_eq, finishWithSuccess_eq, h]

lemma call_callbacks_of_finished {op : PendingOperation} (h : op.m_finished = true)
    (c : OperationCall) : (op.call c).2 = [] := by
  cases c <;> simp [call, finishWithError_eq, finishWithSuccess_eq, h]

/-- The first call runs the finished callback once, as its last callback. -/
lemma call_callbacks_of_not_finished {op : PendingOperation} (h : op.m_finished = false)
    (c : OperationCall) : ∃ cbs, (op.call c).2 = cbs ++ [.finished] ∧ .finished ∉ cbs := by
  cases c with
  | finishWithSuccess =>
    by_cases hm : op.m_errorMessage.isEmpty
    · exact ⟨[.success], by simp [call, finishWithSuccess_eq, h, hm], by simp⟩
    · exact ⟨[], by simp [call, finishWithSuccess_eq, h, hm], by simp⟩
  | finishWithError message =>
    exact ⟨[.error message], by simp [call, finishWithError_eq, h], by simp⟩

/-- Only `finishWithError` changes the stored message, to its argument. -/
lemma call_m_errorMessage (op : PendingOperation) (c : OperationCall) :
    (op.call c).1.m_errorMessage =
      match c with
      | .finishWithSuccess => op.m_errorMessage
      | .finishWithError message => message := by
  cases c <;> cases h : op.m_finished <;> simp [call, finishWithError_eq, finishWithSuccess_eq, h]

/-! ### Sequences of calls -/

@[simp] lemma run_nil (op : PendingOperation) : op.run [] = (op, []) := rfl

@[simp] lemma run_cons (op : PendingOperation) (c : OperationCall) (cs : List OperationCall) :
    op.run (c :: cs) = ((op.call c).1.run cs |>.1, (op.call c).2 ++ ((op.call c).1.run cs).2) :=
  rfl

/-- Calls on a finished operation run no callback. -/
lemma run_callbacks_of_finished {op : PendingOperation} (h : op.m_finished = true)
    (cs : List OperationCall) : (op.run cs).2 = [] := by
  induction cs generalizing op with
  | nil => rfl
  | cons c cs ih => simp [call_callbacks_of_finished h, ih (call_m_finished op c)]

lemma run_m_finished (op : PendingOperation) {cs : List OperationCall} (hcs : cs ≠ []) :
    (op.run cs).1.m_finished = true := by
  induction cs generalizing op with
  | nil => exact absurd rfl hcs
  | cons c cs ih =>
    cases cs with
    | nil => simp
    | cons c' cs' => simpa using ih (op.call c).1 (List.cons_ne_nil c' cs')

/-- Over any sequence of calls on a new operation, the finished callback runs exactly once,
among the callbacks of the first call. -/
theorem run_finished_once (c : OperationCall) (cs : List OperationCall) :
    ∃ cbs, (init.run (c :: cs)).2 = cbs ++ [.finished] ∧ .finished ∉ cbs := by
  obtain ⟨cbs, hcbs, hnot⟩ :=
    call_callbacks_of_not_finished (show init.m_finished = false from rfl) c
  refine ⟨cbs, ?_, hnot⟩
  simp [hcbs, run_callbacks_of_finished (call_m_finished init c)]

/-- The message of the last `finishWithError` call of a sequence, if any. -/
def lastErrorMessage : List OperationCall → Option Bytes
  | [] => none
  | .finishWithSuccess :: cs => lastErrorMessage cs
  | .finishWithError m :: cs => (lastErrorMessage cs).or (some m)

/-- The stored message is the argument of the last `finishWithError` call, whether or not
the operation was finished when it came. -/
lemma run_m_errorMessage (op : PendingOperation) (cs : List OperationCall) :
    (op.run cs).1.m_errorMessage = (lastErrorMessage cs).getD op.m_errorMessage := by
  induction cs generalizing op with
  | nil => rfl
  | cons c cs ih =>
    cases c <;> cases h : lastErrorMessage cs <;>
      simp [lastErrorMessage, ih, call_m_errorMessage, h]

/-- What `isError` says after a nonempty sequence of calls on a new operation: the last
`finishWithError` call had a nonempty message. -/
theorem isError_run_iff (c : OperationCall) (cs : List OperationCall) :
    (init.run (c :: cs)).1.isError = true ↔
      ∃ m, lastErrorMessage (c :: cs) = some m ∧ m ≠ [] := by
  rw [isError, run_m_finished init (List.cons_ne_nil c cs), run_m_errorMessage]
  cases lastErrorMessage (c :: cs) <;> simp [init]

/- A `finishWithError` after `finishWithSuccess` turns the finished operation from a
success into an error. -/
example :
    OperationCall.AllAllowed init [.finishWithSuccess, .finishWithError (ascii "x")] ∧
      (init.run [.finishWithSuccess]).1.isSuccess = true ∧
      (init.run [.finishWithSuccess, .finishWithError (ascii "x")]).1.isError = true := by
  decide

/-- `finishWithError("")` as the first call leaves the operation successful: `isError()` is
false although the first call was `finishWithError`. -/
theorem finishWithError_empty_isSuccess :
    OperationCall.AllAllowed init [.finishWithError []] ∧
      (init.run [.finishWithError []]).1.isSuccess = true ∧
      (init.run [.finishWithError []]).1.isError = false := by
  decide

end PendingOperation

end RetroShareTor
