/-
# Phases and cursors

A piece of code can be run, written out, or both.  The phase says which, and a cursor adds how
deep the code is nested, which decides its indentation.
-/
namespace RobotScribe

/-- What happens to a piece of code. -/
inductive Phase where
  /-- It runs and is not written: a called body, or a loop after its first round. -/
  | silent
  /-- It runs and is written. -/
  | live
  /-- It is written and does not run: a branch that is not taken, or the body of a function
  that is prepared. -/
  | dry
deriving DecidableEq, Repr, Inhabited

/-- Whether code is written out in a phase. -/
def Phase.emits : Phase → Bool
  | silent => false
  | live => true
  | dry => true

/-- Whether code runs in a phase. -/
def Phase.executes : Phase → Bool
  | silent => true
  | live => true
  | dry => false

/-- The nesting depth of a piece of code, and what happens to it. -/
structure Cursor where
  /-- How many levels deep it is nested. -/
  depth : Nat
  /-- What happens to it. -/
  phase : Phase
deriving DecidableEq, Repr, Inhabited

namespace Cursor

/-- The cursor at the top of a function body; the statements are one level deeper. -/
def top (phase : Phase) : Cursor := ⟨0, phase⟩

/-- The cursor one level deeper. -/
def deeper (here : Cursor) : Cursor := { here with depth := here.depth + 1 }

/-- The cursor at the same depth in another phase. -/
def inPhase (here : Cursor) (phase : Phase) : Cursor := { here with phase }

/-- The cursor of the body of a function that is called here.  Its statements stand at the
depth of the call, and they are not written. -/
def calledBody (here : Cursor) : Cursor := ⟨here.depth - 1, .silent⟩

@[simp] theorem phase_deeper (here : Cursor) : here.deeper.phase = here.phase := rfl

@[simp] theorem depth_deeper (here : Cursor) : here.deeper.depth = here.depth + 1 := rfl

@[simp] theorem phase_inPhase (here : Cursor) (phase : Phase) :
    (here.inPhase phase).phase = phase := rfl

@[simp] theorem depth_inPhase (here : Cursor) (phase : Phase) :
    (here.inPhase phase).depth = here.depth := rfl

@[simp] theorem phase_calledBody (here : Cursor) : here.calledBody.phase = .silent := rfl

end Cursor

end RobotScribe
