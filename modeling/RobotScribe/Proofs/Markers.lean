/-
# The calls that are written

Expressions write nothing but the calls of blocks, in whatever phase, and so does silent code
altogether.  Each of these lines calls a function that is declared, and it stands at the depth
of the code that writes it or deeper, however far down the call is made.
-/
import RobotScribe.Proofs.Footprint

namespace RobotScribe

open Eval Machine

variable (functions : String → Option Function)

/-- A line that calls the block of a declared function, at a depth or deeper. -/
def CallsBlock (depth : Nat) (entry : Entry) : Prop :=
  ∃ level name, entry = .marker level (Text.callForm name) ∧ depth ≤ level ∧
    (functions name).isSome = true

variable {functions} in
/-- What stands at a depth stands there for any lesser depth, too. -/
lemma CallsBlock.shallower {depth deep : Nat} {entry : Entry} (le : depth ≤ deep)
    (h : CallsBlock functions deep entry) : CallsBlock functions depth entry := by
  obtain ⟨level, name, rfl, below, declared⟩ := h
  exact ⟨level, name, rfl, Nat.le_trans le below, declared⟩

/-- Lines are added, and all of them call blocks. -/
def MarksOnly (depth : Nat) (m n : Machine) : Prop :=
  ∃ added, n.written = m.written ++ added ∧ ∀ entry ∈ added, CallsBlock functions depth entry

namespace MarksOnly

variable {functions} {depth : Nat} {l m n : Machine}

lemma of_written_eq (h : n.written = m.written) : MarksOnly functions depth m n :=
  ⟨[], by rw [h, List.append_nil], by simp⟩

lemma refl (m : Machine) : MarksOnly functions depth m m := of_written_eq rfl

lemma trans (first : MarksOnly functions depth l m) (second : MarksOnly functions depth m n) :
    MarksOnly functions depth l n := by
  obtain ⟨added, written, marks⟩ := first
  obtain ⟨added', written', marks'⟩ := second
  refine ⟨added ++ added', by rw [written', written, List.append_assoc], fun entry mem => ?_⟩
  rcases List.mem_append.mp mem with mem | mem
  · exact marks entry mem
  · exact marks' entry mem

lemma shallower {deep : Nat} (le : depth ≤ deep) (h : MarksOnly functions deep m n) :
    MarksOnly functions depth m n := by
  obtain ⟨added, written, marks⟩ := h
  exact ⟨added, written, fun entry mem => (marks entry mem).shallower le⟩

end MarksOnly

/-- The effect of code that writes only calls. -/
def marking (depth : Nat) : Effect where
  done := MarksOnly functions depth
  stopped := MarksOnly functions depth
  done_refl := MarksOnly.refl
  done_trans := MarksOnly.trans
  stopped_of_done h := h
  stopped_trans := MarksOnly.trans

namespace Marking

variable {functions} {α : Type} {depth : Nat} {x : Eval α}

/-! ## The operations -/

lemma of_written_eq (h : ∀ ⦃m outcome n⦄, x m = some (outcome, n) → n.written = m.written) :
    (marking functions depth).Allows x :=
  .of_done fun _ _ _ ran => .of_written_eq (h ran)

lemma shallower {deep : Nat} (le : depth ≤ deep) (h : (marking functions deep).Allows x) :
    (marking functions depth).Allows x :=
  .of_done fun _ _ _ ran => MarksOnly.shallower le (h.done id ran)

lemma of_quiet (quiet : Quiet x) : (marking functions depth).Allows x :=
  of_written_eq fun m outcome n ran => by rw [Machine.written, (quiet ran).1, Machine.written]

lemma define (name : String) (value : Value) :
    (marking functions depth).Allows (define name value) :=
  of_quiet (.define name value)

lemma storeElement (name : String) (index : Int64) (element : Value) :
    (marking functions depth).Allows (storeElement name index element) :=
  of_quiet (.storeElement name index element)

lemma nextInteger : (marking functions depth).Allows nextInteger :=
  of_quiet .nextInteger

lemma tracing (record : CallTrace → Except Fault Unit × CallTrace) :
    (marking functions depth).Allows (tracing record) := by
  refine of_written_eq fun m outcome n ran => ?_
  obtain ⟨trace, rfl⟩ := Footprint.tracing_eq ran
  rfl

lemma readSlots (slots : List Slot) : (marking functions depth).Allows (readSlots slots) := by
  refine of_written_eq fun m outcome n ran => ?_
  cases ran
  rfl

lemma enter (function : Function) (slots : List Slot) (callLine : UInt32) :
    (marking functions depth).Allows (enter function slots callLine) := by
  refine .bind (.bind (readSlots slots) fun _ => tracing _) fun _ => ?_
  refine of_written_eq fun m outcome n ran => ?_
  simp only [bind_apply, pushFrame_apply, setLine_apply, bindSlots, Option.some.injEq,
    Prod.mk.injEq] at ran
  rw [← ran.2]
  rfl

lemma leave (function : Function) (slots : List Slot) (callLine : UInt32) (result : Value) :
    (marking functions depth).Allows (leave function slots callLine result) := by
  refine .bind .currentLine fun _ => .bind (.bind (readSlots slots) fun _ => tracing _) fun _ => ?_
  refine of_written_eq fun m outcome n ran => ?_
  simp only [bind_apply, popFrame_apply, setLine_apply, pure_apply, Option.some.injEq,
    Prod.mk.injEq] at ran
  rw [← ran.2]
  rfl

/-- Silent code writes no instruction. -/
lemma emit {here : Cursor} (silent : here.phase = .silent) (text : String) :
    (marking functions depth).Allows (emit here text) := by
  refine of_written_eq fun m outcome n ran => ?_
  cases ran
  simp [Machine.written, Transcript.emit, silent, Phase.emits]

lemma mark (here : Cursor) {name : String} (declared : (functions name).isSome = true) :
    (marking functions here.depth).Allows (mark here (Text.callForm name)) := by
  refine .of_done fun m outcome n ran => ?_
  cases ran
  refine ⟨[.marker here.depth (Text.callForm name)], ?_, fun entry mem => ?_⟩
  · simp [Machine.written, Transcript.mark]
  · rw [List.mem_singleton.mp mem]
    exact ⟨here.depth, name, rfl, Nat.le_refl _, declared⟩

/-! ## The walk -/

variable (functions)

/-- The cursors of silent code. -/
def Silent (here : Cursor) : Prop := here.phase = .silent

/-- Expressions and silent statements write only calls. -/
lemma walkable : Walkable (fun here => marking functions here.depth) Silent :=
  .of_quiet (fun _ _ _ quiet => of_quiet quiet) (fun _ silent text => emit silent text)
    (fun _ silent => silent) (fun _ _ _ => rfl)
    (fun here _ _ h => shallower (Nat.le_succ here.depth) h) fun _ _ _ _ h => h

/-- Expressions and silent statements write only calls, with so much fuel. -/
abbrev Marked (fuel : Nat) : Prop :=
  Walked functions (fun here => marking functions here.depth) Silent fuel

variable {functions} {fuel : Nat}

/-- A called function writes only calls, one level deeper than its cursor. -/
lemma runFunction_of (ih : ∀ less < fuel, Marked functions less) {body : Cursor}
    (silent : Silent body) (function : Function) (slots : List Slot) :
    (marking functions (body.depth + 1)).Allows
      (runFunction functions fuel body function slots) := by
  cases fuel with
  | zero => exact .outOfFuel
  | succ fuel =>
    rw [runFunction_succ]
    have marked := ih fuel (Nat.lt_succ_self fuel)
    refine .bind .currentLine fun callLine => .bind (enter function slots callLine) fun _ => ?_
    refine .bind (marked.stmts body.deeper silent _) fun flow => ?_
    exact leave function slots callLine _

lemma call_of (ih : ∀ less < fuel, Marked functions less) (here : Cursor) (site : Call) :
    (marking functions here.depth).Allows (call functions fuel here site) := by
  cases fuel with
  | zero => exact .outOfFuel
  | succ fuel =>
    have marked := ih fuel (Nat.lt_succ_self fuel)
    have marks : ∀ function, functions site.name.name = some function →
        (marking functions here.depth).Allows (Eval.mark here (Text.callForm site.name.name)) :=
      fun function declared => mark here (by simp [declared])
    -- at the top level a called body stands one level deeper than its call
    have level : here.depth ≤ here.calledBody.depth + 1 := by
      simp only [Cursor.calledBody]
      omega
    refine .call (fun function => marked.arguments here function _ _) ?_ fun function declared _ =>
      marks function declared
    intro function declared _ slots
    have body := runFunction_of (fun less lt => ih less (Nat.lt_succ_of_lt lt))
      (Cursor.phase_calledBody here) function slots
    exact .bind (marks function declared) fun _ => shallower level body

variable (functions)

/-- **Expressions and silent code write only calls of declared functions.** -/
theorem marked (fuel : Nat) : Marked functions fuel := by
  refine walked (walkable functions) (fun fuel ih => call_of ih) ?_ fuel
  intro fuel ih here silent runs statements flow
  refine .leaveOut (fun live => ?_) flow
  cases live.symm.trans silent

end Marking

end RobotScribe
