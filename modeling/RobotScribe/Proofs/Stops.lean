/-
# How an evaluation stops

An evaluation that comes to no result has stopped: at a fault and a line, or because no fuel is left
(`StopsWith`).  If a part of it stops, the whole stops in the same way (`Point.StopsWith.of_into`):
no part of the evaluator catches a fault, or goes on at another line after one.  So a run stops as
the points stop that it passes through.
-/
import RobotScribe.Proofs.Points

namespace RobotScribe

namespace Eval

variable {α β : Type} {m l : Machine} {stop : Option LocatedFault}

/-- A computation comes to no result: it stops at a fault and a line, or for want of fuel. -/
def StopsWith (x : Eval α) (m : Machine) : Option LocatedFault → Prop
  | none => x m = none
  | some located => ∃ n, x m = some (.error located.fault, n) ∧ n.line = located.line

lemma bind_of_none {x : Eval α} {f : α → Eval β} (stuck : x m = none) : (x >>= f) m = none := by
  rw [bind_apply, stuck]

namespace StopsWith

/-- A bind stops with its first part. -/
lemma bind {x : Eval α} {f : α → Eval β} (stops : StopsWith x m stop) :
    StopsWith (x >>= f) m stop := by
  cases stop with
  | none => exact bind_of_none stops
  | some located =>
    obtain ⟨n, stopped, line⟩ := stops
    exact ⟨n, bind_of_error stopped, line⟩

/-- A bind stops with its second part. -/
lemma after {x : Eval α} {f : α → Eval β} {a : α} (done : x m = some (.ok a, l))
    (stops : StopsWith (f a) l stop) : StopsWith (x >>= f) m stop := by
  cases stop with
  | none => exact (bind_of_ok done).trans stops
  | some located =>
    obtain ⟨n, stopped, line⟩ := stops
    exact ⟨n, (bind_of_ok done).trans stopped, line⟩

/-- What is taken back after a fault is the memory; the line stays. -/
lemma takingBack {body : Eval Unit} (stops : StopsWith body m stop) :
    StopsWith (takingBack body) m stop := by
  cases stop with
  | none =>
    have stuck : body m = none := stops
    change Eval.takingBack body m = none
    rw [Eval.takingBack, stuck]
  | some located =>
    obtain ⟨n, stopped, line⟩ := stops
    exact ⟨_, takingBack_eq_some.mpr ⟨n, stopped, rfl⟩, line⟩

lemma leaveOut {functions : String → Option Function} {fuel : Nat} {here : Cursor}
    {statements : List Stmt} {flow : Flow} (live : here.phase = .live)
    (stops : StopsWith (writeOut functions fuel here statements) m stop) :
    StopsWith (leaveOut functions fuel here statements flow) m stop := by
  unfold Eval.leaveOut
  rw [live]
  exact stops.bind

end StopsWith

end Eval

open Eval

variable {functions : String → Option Function} {stop : Option LocatedFault}

/-- The evaluation of a point comes to no result. -/
def Point.StopsWith (functions : String → Option Function) (p : Point)
    (stop : Option LocatedFault) : Prop :=
  Eval.StopsWith (p.task.evaluate functions p.fuel) p.machine stop

/-- **What stops in a part stops as a whole**, in the same way. -/
theorem Point.StopsWith.of_into {p q : Point} (stops : q.StopsWith functions stop)
    (into : Into functions p q) : p.StopsWith functions stop := by
  cases into
  all_goals simp only [Point.StopsWith, Task.evaluate] at stops ⊢
  case form enters =>
    rw [expr]
    exact .after rfl (.after enters stops.bind)
  case index | call | operand | inner =>
    rw [form]
    exact stops.bind
  case sense =>
    rw [form]
    exact stops
  case left fuel here left op right span m =>
    cases op with
    | _ =>
      rw [form]
      exact stops.bind
  case right fuel here left op right span lhs m n done undecided =>
    cases op with
    | logical op =>
      obtain ⟨l, holds, decided⟩ := undecided op rfl
      rw [form]
      refine .after done ?_
      rw [holds]
      refine .after (ofExcept_apply _ _) ?_
      rw [decided, if_neg Bool.false_ne_true]
      exact stops.bind
    | _ =>
      rw [form]
      exact .after done stops.bind
  case direction =>
    rw [sense]
    exact stops.bind
  case arguments declared fits =>
    rw [call_eq_gather declared fits, gather]
    exact stops.bind.bind
  case runFunction declared fits runs gathered =>
    rw [call_eq_gather declared fits]
    refine .after gathered ?_
    rw [runs, if_pos rfl]
    exact stops.bind
  case argument =>
    rw [arguments]
    exact stops.bind
  case nextArguments done =>
    rw [arguments]
    exact .after done stops.bind
  case byValue copied =>
    rw [argument, copied, if_neg Bool.false_ne_true]
    exact stops.bind
  case body entered =>
    rw [runFunction_succ]
    exact .after rfl (.after entered stops.bind)
  case stmt =>
    rw [stmts]
    exact stops.bind
  case nextStmts fuel here s rest flow m n done stays =>
    rw [stmts]
    refine .after done ?_
    rcases stays with rfl | dry
    · exact stops
    · cases flow with
      | none => exact stops
      | some value => simpa only [dry] using stops
  case restOut done live =>
    rw [stmts]
    refine .after done ?_
    simp only [live]
    exact stops.bind
  case assigned fuel here target value span m n enters =>
    cases target with
    | _ =>
      rw [stmt]
      exact .after enters stops.bind
  case position done =>
    obtain ⟨⟨⟩, l, enters, done⟩ := bind_eq_ok.mp done
    rw [stmt]
    exact .after enters (.after done stops.bind)
  case condition enters =>
    rw [stmt_ifThen]
    exact .after enters stops.bind
  case thenBranch tested =>
    rw [stmt_ifThen_eq_test]
    exact .after tested stops.bind
  case elseBranch done =>
    obtain ⟨taken', l, tested, done⟩ := bind_eq_ok.mp done
    obtain ⟨first, l', ran, done⟩ := bind_eq_ok.mp done
    obtain ⟨⟨⟩, l'', written, done⟩ := bind_eq_ok.mp done
    cases done
    rw [stmt_ifThen_eq_test]
    exact .after tested (.after ran (.bind (.after written stops.bind)))
  case firstRound tested =>
    rw [stmt_whileDo_eq_test]
    exact .after tested stops.bind
  case loopCondition enters | given enters | printed enters | numbers enters | painted enters |
      reading enters | performed enters =>
    rw [stmt]
    exact .after enters stops.bind
  case number =>
    rw [numbers]
    exact stops.bind
  case nextNumbers done =>
    obtain ⟨value, l, evaluated, done⟩ := bind_eq_ok.mp done
    rw [numbers]
    exact .after evaluated (.after done stops.bind)
  case branch fuel here block taken m chosen =>
    cases runs : here.phase.executes with
    | true =>
      obtain rfl := chosen.resolve_right (Phase.ne_dry_of_executes runs)
      rw [branch_of_executes functions runs, if_pos rfl]
      exact stops
    | false =>
      rw [branch_of_dry functions (Phase.eq_dry_of_executes runs)]
      exact stops.bind
  case branchOut fuel here block m live =>
    have runs : here.phase.executes = true := by
      rw [live]
      rfl
    rw [branch_of_executes functions runs]
    exact .leaveOut live stops
  case rounds runs =>
    rw [firstRound_of_executes functions runs, if_pos rfl]
    exact stops
  case dryRound dry =>
    rw [firstRound_of_dry functions dry]
    exact stops.bind
  case loopOut fuel here condition body m live =>
    have runs : here.phase.executes = true := by
      rw [live]
      rfl
    rw [firstRound_of_executes functions runs]
    exact .leaveOut live stops
  case round =>
    rw [rounds]
    exact stops.bind
  case retest done =>
    rw [rounds]
    exact .after done stops.bind
  case again done holds =>
    obtain ⟨value, l', tested, holds⟩ := bind_eq_ok.mp holds
    rw [rounds]
    exact .after done (.after tested (.after holds stops))
  case dry =>
    rw [writeOut]
    exact stops.bind.takingBack

lemma Point.StopsWith.of_comesTo {p q : Point} (stops : q.StopsWith functions stop)
    (comes : ComesTo functions p q) : p.StopsWith functions stop := by
  induction comes using Relation.ReflTransGen.head_induction_on with
  | refl => exact stops
  | head into comes stops => exact stops.of_into into

/-- A run that passes through a point that stops at a fault fails with this fault, and at the line
where the point has stopped. -/
theorem Session.run_of_stops {s : Session} {fuel : Nat} {p : Point} {located : LocatedFault}
    (passes : s.Passes fuel p) (stops : p.StopsWith s.declarations.find? (some located)) :
    ∃ t, s.run fuel = some (.error located, t) := by
  obtain ⟨main, declared, comes⟩ := passes
  obtain ⟨n, stopped, line⟩ := stops.of_comesTo comes
  have labelled : Eval.label "MainProgram:" s.machine = some (.ok (), s.started) := rfl
  have ran : runMain s.declarations.find? fuel s.machine = some (.error located.fault, n) := by
    rw [runMain, bind_of_ok labelled, declared]
    exact bind_of_error stopped
  refine ⟨{ s with machine := n }, perform_eq_some.mpr ⟨_, n, ran, ?_, rfl⟩⟩
  rw [line]
  rfl

end RobotScribe
