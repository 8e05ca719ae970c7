/-
# Code that is written out

Code that does not run is written by running it dry and taking back what that does.  It
assigns to variables on the way, lets arrays grow and makes slots, and a fault may stop it
anywhere.  In the end it has written lines and nothing else: what it can write to is in the
snapshot of the top frame or is new, whichever names share a slot.
-/
import RobotScribe.Proofs.Footprint

namespace RobotScribe

namespace Eval

open Machine

/-- **Code that is written out has no lasting effect**, whether it comes to its end or is
stopped: the frames with their names and slots, the values of all slots, the input and the
trace are as they were, and what was written before is still there.  If it comes to its end,
the line is the same, too. -/
theorem writeOut_keeps_state (functions : String → Option Function) {fuel : Nat}
    {here : Cursor} {statements : List Stmt} {m n : Machine} {outcome : Except Fault Unit}
    (ran : writeOut functions fuel here statements m = some (outcome, n)) :
    n.memory.frames = m.memory.frames ∧
      (∀ slot, m.memory.store.Has slot →
        n.memory.store.read slot = m.memory.store.read slot) ∧
      n.input = m.input ∧
      n.trace = m.trace ∧
      m.transcript.entries.toList <+: n.transcript.entries.toList ∧
      (outcome = .ok () → n.line = m.line) := by
  obtain ⟨writes, line⟩ := Footprint.onlyWrites_of_writeOut functions ran
  refine ⟨by rw [writes.memory], fun slot _ => by rw [writes.memory], writes.input, writes.trace,
    writes.written, line⟩

/-! ## A frame with shared slots -/

/-- A function in whose frame two names share a slot, also with a name of the caller. -/
def sharing : Machine where
  memory :=
    ⟨[⟨"f", 3, [("x", ⟨0⟩), ("y", ⟨0⟩), ("a", ⟨1⟩)]⟩, ⟨"main", 0, [("z", ⟨0⟩)]⟩],
      ⟨#[.integer 7, .integers #[1]]⟩⟩
  transcript := .empty
  input := ⟨["4"], []⟩
  trace := none
  line := 3

/-- Code that writes to both names of the shared slot, lets the array grow, makes a variable,
and then tests a number. -/
def scribbling : List Stmt :=
  [.assign (.var ⟨"y", .unknown⟩) (.integer 1 .unknown) .unknown,
   .assign (.element ⟨"a", .unknown⟩ (.integer 2 .unknown)) (.var "y" .unknown) .unknown,
   .read ⟨"x", .unknown⟩ .unknown,
   .assign (.var ⟨"w", .unknown⟩) (.integer 5 .unknown) .unknown,
   .ifThen (.var "w" (.ofLine 9)) ⟨[], .unknown⟩ none .unknown]

theorem writeOut_keeps_state_scribbling : ∃ outcome n,
    writeOut (fun _ => none) 9 ⟨1, .live⟩ scribbling sharing = some (outcome, n) ∧
    outcome.isOk = false ∧
    n.transcript.entries.toList =
      [.instruction 1 "y = 1", .instruction 1 "a[2] = y", .instruction 1 "w = 5"] ∧
    n.memory.frames = sharing.memory.frames ∧
    (∀ slot, sharing.memory.store.Has slot →
      n.memory.store.read slot = sharing.memory.store.read slot) ∧
    n.input = sharing.input ∧ n.trace = sharing.trace := by
  have walked : (writeOut (fun _ => none) 9 ⟨1, .live⟩ scribbling sharing).map
      (fun stop => (stop.1.isOk, stop.2.transcript.entries.toList)) =
      some (false,
        [.instruction 1 "y = 1", .instruction 1 "a[2] = y", .instruction 1 "w = 5"]) := by
    decide +kernel
  obtain ⟨⟨outcome, n⟩, ran, seen⟩ := Option.map_eq_some_iff.mp walked
  obtain ⟨fails, lines⟩ := Prod.mk.inj seen
  obtain ⟨frames, values, input, trace, -, -⟩ := writeOut_keeps_state _ ran
  exact ⟨outcome, n, ran, fails, lines, frames, values, input, trace⟩

end Eval

end RobotScribe
