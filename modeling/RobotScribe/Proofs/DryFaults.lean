/-
# Faults of dry code

What dry code computes with may be a stand-in, so a fault that comes from data says nothing about
the program, and it is answered by another stand-in.  What is left are faults that the shape of the
code is to blame for: a value of a wrong kind, or a call that does not fit the declarations.
-/
import RobotScribe.Proofs.Blocks

namespace RobotScribe

namespace Fault

/-- Whether the shape of the code is to blame for a fault, and neither the range of its data, nor
what is stored, nor what is read. -/
def ofShape : Fault → Bool
  | typeMismatch .. | undeclaredFunction _ | arityMismatch .. | invalidArgument ..
  | voidResultUsed _ => true
  | divisionByZero | indexOutOfBounds .. | undefinedVariable _ | formatError _ | io _ | config _
  | duplicateDefinition _ => false

lemma WrongKind.ofShape {fault : Fault} (wrong : fault.WrongKind) : fault.ofShape = true := by
  obtain ⟨expected, found, rfl⟩ := wrong
  rfl

end Fault

lemma Misfits.ofShape {functions : String → Option Function} {makes : Call → Bool → Prop}
    {fault : Fault} (misfits : Misfits functions makes fault) : fault.ofShape = true := by
  obtain ⟨site, used, -, misfit⟩ := misfits
  cases misfit <;> rfl

/-- A computation that only calls that do not fit can stop, apart from wrong kinds. -/
lemma Settles.ofShape {functions : String → Option Function} {makes : Call → Bool → Prop}
    {enough : Prop} {α : Type} {P : List Entry → α → Prop} {x : Eval α} {m n : Machine}
    {fault : Fault} (settles : Settles (Misfits functions makes) enough P x)
    (ran : x m = some (.error fault, n)) : fault.ofShape = true := by
  rcases settles.stopped ran with wrong | misfits
  · exact wrong.ofShape
  · exact misfits.ofShape

open Eval in
/-- **Dry code fails by its shape alone**, in every program and from every machine, and so does
every preparation of functions. -/
theorem dry_code_fails_by_shape :
    (∀ functions fuel (here : Cursor) e m fault n, here.phase = .dry →
      expr functions fuel here e m = some (.error fault, n) → fault.ofShape = true) ∧
    (∀ functions fuel (here : Cursor) statements m fault n, here.phase = .dry →
      stmts functions fuel here statements m = some (.error fault, n) → fault.ofShape = true) ∧
    (∀ (s : Session) fuel fault t, s.prepare fuel = some (.error fault, t) →
      fault.fault.ofShape = true) := by
  refine ⟨fun functions fuel here e m fault n dry ran => ?_,
    fun functions fuel here statements m fault n dry ran => ?_, fun s fuel fault t ran => ?_⟩
  · exact ((settled functions fuel).expr dry e).ofShape ran
  · exact ((settled functions fuel).stmts dry statements).ofShape ran
  · rw [Session.prepare] at ran
    split at ran
    · cases ran
    · obtain ⟨_ | _, m, stopped, located, rfl⟩ := Session.perform_eq_some.mp ran
      · cases located
        exact (Session.settles_prepareAll _ fuel _).ofShape stopped
      · cases located

/-- A function that divides by zero, reads what is not there, stores below the start of an array,
and in the end calls itself without its argument. -/
def stumbling : Program where
  functions :=
    [⟨⟨"main", .unknown⟩, [], none, ⟨[], .unknown⟩, .ofLine 1⟩,
     ⟨⟨"stumble", .unknown⟩, [.byValue ⟨"n", .unknown⟩], none,
      ⟨[.write (.binary (.integer 1 .unknown) (.arithmetic .div) (.var "n" .unknown) .unknown)
          .unknown,
        .read ⟨"x", .unknown⟩ .unknown,
        .write (.element ⟨"a", .unknown⟩ (.var "y" .unknown) .unknown) .unknown,
        .assign (.element ⟨"a", .unknown⟩
          (.unary .neg (.integer 1 .unknown) .unknown)) (.var "x" .unknown) .unknown,
        .call ⟨⟨"stumble", .unknown⟩, [], .unknown⟩], .unknown⟩, .ofLine 3⟩]
  span := .unknown

/-- The session of that program, without input. -/
def stumbled : Session :=
  ⟨⟨stumbling.functions⟩, .standard, false, Session.initialMachine ⟨[], []⟩ none⟩

open Eval in
/-- All faults but the last are answered by stand-ins.  A wrong kind stops dry code, too. -/
theorem dry_code_fails_by_shape_stumbling :
    (∃ fault t, stumbled.prepare 20 = some (.error fault, t) ∧
      fault.fault = .arityMismatch "stumble" 1 0 ∧
      t.lines = ["stumble:", "  print 1 / n", "  print a[y]", "  a[-1] = x"] ∧
      fault.fault.ofShape = true) ∧
    (∃ fault n, expr (fun _ => none) 9 ⟨1, .dry⟩
      (.binary (.var "x" .unknown) (.arithmetic .add) (.boolean true .unknown) .unknown)
      stumbled.machine = some (.error fault, n) ∧ fault.ofShape = true) ∧
    (∃ fault n, stmts (fun _ => none) 9 ⟨1, .dry⟩
      [.paint (.integer 1 .unknown) .unknown] stumbled.machine = some (.error fault, n) ∧
      fault.ofShape = true) := by
  obtain ⟨exprs, lists, preparations⟩ := dry_code_fails_by_shape
  refine ⟨?_, ?_, ?_⟩
  · have stops : (stumbled.prepare 20).map (fun stop =>
          ((match stop.1 with
            | .ok _ => none
            | .error fault => some fault.fault), stop.2.lines)) =
        some (some (.arityMismatch "stumble" 1 0),
          ["stumble:", "  print 1 / n", "  print a[y]", "  a[-1] = x"]) := by
      decide +kernel
    obtain ⟨⟨outcome, t⟩, ran, seen⟩ := Option.map_eq_some_iff.mp stops
    obtain ⟨reason, lines⟩ := Prod.mk.inj seen
    cases outcome with
    | ok => cases reason
    | error fault =>
      exact ⟨fault, t, ran, Option.some.inj reason, lines, preparations _ _ _ _ ran⟩
  · have mixes : expr (fun _ => none) 9 ⟨1, .dry⟩
        (.binary (.var "x" .unknown) (.arithmetic .add) (.boolean true .unknown) .unknown)
        stumbled.machine =
          some (.error (.typeMismatch "numerical" .boolean), stumbled.machine) := rfl
    exact ⟨_, _, mixes, exprs _ _ _ _ _ _ _ rfl mixes⟩
  · have paints : stmts (fun _ => none) 9 ⟨1, .dry⟩ [.paint (.integer 1 .unknown) .unknown]
        stumbled.machine = some (.error (.typeMismatch "color" .integer), stumbled.machine) := rfl
    exact ⟨_, _, paints, lists _ _ _ _ _ _ _ rfl paints⟩

end RobotScribe
