/-!
# Outcomes — what running a parser comes to

A parser succeeds with a value and the cursor behind what it matched, or fails with a fault and the cursor it was given.
The fault says why and where, which may lie further on than the cursor given back.

A third outcome, `aborted`, belongs to no input position: a mapping was found defective, or a run would never end.  No
combinator turns it into a success or a failure.
-/
namespace Parsing

/-- A cause at a position. -/
structure Fault (κ ι : Type) where
  cause : κ
  position : ι
deriving BEq, DecidableEq

/-- Why a run has neither success nor failure. -/
inductive Abort where
  /-- A mapping cannot deal with the value it was given, and says so. -/
  | defect (message : String)
  /-- The run comes back to where it was and never ends. -/
  | endless
deriving BEq, DecidableEq

/-- What a parser comes to at a cursor. -/
inductive Outcome (κ ι α : Type) where
  | success (value : α) (rest : ι)
  | failure (fault : Fault κ ι) (input : ι)
  | aborted (why : Abort)
deriving BEq, DecidableEq

/-- What a mapping makes of a value: it accepts it with a result, rejects it with a seed, or finds it defective. -/
inductive Verdict (ζ α : Type) where
  | accept (value : α)
  | reject (seed : ζ)
  | defect (message : String)
deriving DecidableEq

/-- Maps the result of an acceptance. -/
def Verdict.map {ζ α β : Type} (f : α → β) : Verdict ζ α → Verdict ζ β
  | accept value => accept (f value)
  | reject seed => reject seed
  | defect message => defect message

namespace Outcome

variable {κ ι α β γ : Type}

/-- Goes on after a success; a failure or an abort stays. -/
def andThen (o : Outcome κ ι α) (next : α → ι → Outcome κ ι β) : Outcome κ ι β :=
  match o with
  | success value rest => next value rest
  | failure fault input => failure fault input
  | aborted why => aborted why

/-- Maps the value of a success. -/
def map (f : α → β) (o : Outcome κ ι α) : Outcome κ ι β := o.andThen fun value rest => success (f value) rest

/-- Gives a failure the cursor to go back to. -/
def restoring (input : ι) : Outcome κ ι α → Outcome κ ι α
  | success value rest => success value rest
  | failure fault _ => failure fault input
  | aborted why => aborted why

/-- Goes on after a failure, from the cursor it gave back; a success or an abort stays. -/
def recover (o : Outcome κ ι α) (next : ι → Outcome κ ι α) : Outcome κ ι α :=
  match o with
  | success value rest => success value rest
  | failure _ input => next input
  | aborted why => aborted why

/-- The cursor to go on from: behind the match, or where the failed parser began. -/
def remaining? : Outcome κ ι α → Option ι
  | success _ rest => some rest
  | failure _ input => some input
  | aborted _ => none

@[simp] theorem andThen_success (value : α) (rest : ι) (next : α → ι → Outcome κ ι β) :
    (success value rest).andThen next = next value rest := rfl

@[simp] theorem andThen_failure (fault : Fault κ ι) (input : ι) (next : α → ι → Outcome κ ι β) :
    (failure fault input).andThen next = failure fault input := rfl

@[simp] theorem andThen_aborted (why : Abort) (next : α → ι → Outcome κ ι β) :
    (aborted why).andThen next = aborted why := rfl

@[simp] theorem map_success (f : α → β) (value : α) (rest : ι) :
    (success value rest : Outcome κ ι α).map f = success (f value) rest := rfl

@[simp] theorem map_failure (f : α → β) (fault : Fault κ ι) (input : ι) :
    (failure fault input).map f = failure fault input := rfl

@[simp] theorem map_aborted (f : α → β) (why : Abort) : (aborted why : Outcome κ ι α).map f = aborted why := rfl

@[simp] theorem restoring_success (input rest : ι) (value : α) :
    (success value rest : Outcome κ ι α).restoring input = success value rest := rfl

@[simp] theorem restoring_failure (input given : ι) (fault : Fault κ ι) :
    (failure fault given : Outcome κ ι α).restoring input = failure fault input := rfl

@[simp] theorem restoring_aborted (input : ι) (why : Abort) :
    (aborted why : Outcome κ ι α).restoring input = aborted why := rfl

/-- **Going on is associative.** -/
theorem andThen_andThen (o : Outcome κ ι α) (f : α → ι → Outcome κ ι β) (g : β → ι → Outcome κ ι γ) :
    (o.andThen f).andThen g = o.andThen fun value rest => (f value rest).andThen g := by
  cases o <;> rfl

theorem map_map (o : Outcome κ ι α) (f : α → β) (g : β → γ) : (o.map f).map g = o.map fun value => g (f value) := by
  cases o <;> rfl

theorem map_id (o : Outcome κ ι α) : (o.map fun value => value) = o := by
  cases o <;> rfl

theorem map_andThen (o : Outcome κ ι α) (next : α → ι → Outcome κ ι β) (f : β → γ) :
    (o.andThen next).map f = o.andThen fun value rest => (next value rest).map f :=
  o.andThen_andThen next _

theorem andThen_map (o : Outcome κ ι α) (f : α → β) (next : β → ι → Outcome κ ι γ) :
    (o.map f).andThen next = o.andThen fun value => next (f value) :=
  o.andThen_andThen _ next

theorem restoring_restoring (o : Outcome κ ι α) (x y : ι) : (o.restoring x).restoring y = o.restoring y := by
  cases o <;> rfl

theorem restoring_andThen (o : Outcome κ ι α) (next : α → ι → Outcome κ ι β) (x : ι) :
    (o.andThen next).restoring x = (o.restoring x).andThen fun value rest => (next value rest).restoring x := by
  cases o <;> rfl

theorem restoring_map (o : Outcome κ ι α) (f : α → β) (x : ι) : (o.map f).restoring x = (o.restoring x).map f := by
  cases o <;> rfl

end Outcome
end Parsing
