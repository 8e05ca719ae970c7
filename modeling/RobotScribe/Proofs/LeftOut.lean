/-
# Writing what does not run

Live code does what silent code does, and writes on the way the parts that are left out: the
branch that is not taken, the body of a loop that is not entered, what follows a return.  So
when statements come to their end in silence, the same statements come to an end live.  Either
they come to the same end, or a fault stops them while they write such a part.

The fault can only be one of dry code: a call in that part does not fit what it calls, or a value
is of a wrong kind.  No quotient, element or variable that is missing where nothing runs makes a
good run fail, and nothing that has to do with the input or the trace.
-/
import RobotScribe.Proofs.DryOutcome
import RobotScribe.Proofs.Fuel
import RobotScribe.Session

namespace RobotScribe

open Eval

/-! ## Parts that are left out -/

mutual

/-- The parts that a statement may leave out when it runs. -/
inductive SkipsIn : Stmt → List Stmt → Prop where
  | thenBlock (condition : Expr) (block : Block) (elseBlock : Option Block) (span : Span) :
      SkipsIn (.ifThen condition block elseBlock span) block.stmts
  | elseBlock (condition : Expr) (thenBlock block : Block) (span : Span) :
      SkipsIn (.ifThen condition thenBlock (some block) span) block.stmts
  | body (condition : Expr) (block : Block) (span : Span) :
      SkipsIn (.whileDo condition block span) block.stmts
  | inThen (condition : Expr) {block : Block} (elseBlock : Option Block) (span : Span)
      {part : List Stmt} (inner : Skips block.stmts part) :
      SkipsIn (.ifThen condition block elseBlock span) part
  | inElse (condition : Expr) (thenBlock : Block) {block : Block} (span : Span)
      {part : List Stmt} (inner : Skips block.stmts part) :
      SkipsIn (.ifThen condition thenBlock (some block) span) part
  | inBody (condition : Expr) {block : Block} (span : Span) {part : List Stmt}
      (inner : Skips block.stmts part) : SkipsIn (.whileDo condition block span) part

/-- The parts that statements may leave out when they run. -/
inductive Skips : List Stmt → List Stmt → Prop where
  /-- What follows a statement that returns. -/
  | after (s : Stmt) (rest : List Stmt) : Skips (s :: rest) rest
  | here {s : Stmt} (rest : List Stmt) {part : List Stmt} (inner : SkipsIn s part) :
      Skips (s :: rest) part
  | later (s : Stmt) {rest part : List Stmt} (others : Skips rest part) : Skips (s :: rest) part

end

/-- The parts that are left out if a block does not run, or may be left out if it does. -/
def SkipsBlock (block : Block) (part : List Stmt) : Prop :=
  part = block.stmts ∨ Skips block.stmts part

namespace Eval

/-! ## Live code beside silent code -/

/-- The lines of one transcript are among those of another one, in order. -/
def FewerLines (s t : Transcript) : Prop := s.entries.toList.Sublist t.entries.toList

lemma appends_fewerLines : Transcript.Appends FewerLines := by
  intro s t fewer entry
  unfold FewerLines
  rw [Transcript.toList_add, Transcript.toList_add]
  exact fewer.append_right [entry]

variable (functions : String → Option Function)

/-- A fault has stopped live code while it was writing one of some parts. -/
def StoppedIn (parts : List Stmt → Prop) (fault : Fault) (n : Machine) : Prop :=
  ∃ part fuel depth l, parts part ∧
    writeOut functions fuel ⟨depth, .live⟩ part l = some (.error fault, n)

/-- Whenever a computation comes to a result, a second one comes to that result, from a machine
with more lines, unless it is stopped while it is writing one of some parts. -/
def KeepsUp (parts : List Stmt → Prop) {α : Type} (quiet loud : Eval α) : Prop :=
  ∀ ⦃m t⦄, FewerLines m.transcript t → ∀ ⦃a m'⦄, quiet m = some (.ok a, m') →
    (∃ t', loud { m with transcript := t } = some (.ok a, { m' with transcript := t' }) ∧
      FewerLines m'.transcript t') ∨
    ∃ fault n, loud { m with transcript := t } = some (.error fault, n) ∧
      StoppedIn functions parts fault n

namespace KeepsUp

variable {functions} {parts parts' : List Stmt → Prop} {α β : Type} {fuel extra depth : Nat}

lemma of_repeats {quiet loud : Eval α} (h : Repeats FewerLines quiet loud) :
    KeepsUp functions parts quiet loud := by
  intro m t fewer a m' ran
  exact Or.inl (h fewer ran)

lemma mono {quiet loud : Eval α} (h : KeepsUp functions parts quiet loud)
    (le : ∀ part, parts part → parts' part) : KeepsUp functions parts' quiet loud := by
  intro m t fewer a m' ran
  refine (h fewer ran).imp_right ?_
  rintro ⟨fault, n, ran', part, fuel, depth, l, mem, stopped⟩
  exact ⟨fault, n, ran', part, fuel, depth, l, le part mem, stopped⟩

lemma pure (a : α) : KeepsUp functions parts (pure a) (pure a) := of_repeats (.pure a)

lemma bind {x y : Eval α} {f g : α → Eval β} (first : KeepsUp functions parts x y)
    (second : ∀ a, KeepsUp functions parts (f a) (g a)) :
    KeepsUp functions parts (x >>= f) (y >>= g) := by
  intro m t fewer b m' ran
  obtain ⟨a, l, ran, ran'⟩ := bind_eq_ok.mp ran
  -- a fault that stops live code in the first part keeps it from the second one
  rcases first fewer ran with ⟨t', done, fewer'⟩ | ⟨fault, n, stopped, within⟩
  · rcases second a fewer' ran' with ⟨t'', done', fewer''⟩ | ⟨fault, n, stopped, within⟩
    · exact Or.inl ⟨t'', (bind_of_ok done).trans done', fewer''⟩
    · exact Or.inr ⟨fault, n, (bind_of_ok done).trans stopped, within⟩
  · exact Or.inr ⟨fault, n, bind_of_error stopped, within⟩

/-- A first step that is the same in both phases. -/
lemma after {x y : Eval α} {f g : α → Eval β} (same : Repeats FewerLines x y)
    (second : ∀ a, KeepsUp functions parts (f a) (g a)) :
    KeepsUp functions parts (x >>= f) (y >>= g) :=
  bind (of_repeats same) second

lemma after_enterSpan {span : Span} {f g : Unit → Eval β}
    (second : KeepsUp functions parts (f ()) (g ())) :
    KeepsUp functions parts (enterSpan span >>= f) (enterSpan span >>= g) := by
  unfold enterSpan
  split
  · exact after (.setLine _) fun _ => second
  · exact after (.pure ()) fun _ => second

/-- An instruction that only live code writes. -/
lemma emit (text text' : String) :
    KeepsUp functions parts (emit ⟨depth, .silent⟩ text) (emit ⟨depth, .live⟩ text') := by
  intro m t fewer a m' ran
  cases ran
  refine Or.inl ⟨t.add (.instruction depth text'), rfl, ?_⟩
  have longer : FewerLines t (t.add (.instruction depth text')) := by
    unfold FewerLines
    rw [Transcript.toList_add]
    exact List.sublist_append_left _ _
  exact List.Sublist.trans fewer longer

/-- Code that is left out is written by live code, which either comes to the end of it or is
stopped in it. -/
lemma leaveOut {part : List Stmt} (mem : parts part) (fits : sizeOf part + 1 ≤ fuel + extra)
    (flow : Flow) :
    KeepsUp functions parts (leaveOut functions fuel ⟨depth, .silent⟩ part flow)
      (leaveOut functions (fuel + extra) ⟨depth, .live⟩ part flow) := by
  intro m t fewer a m' ran
  cases ran
  have settles := settles_writeOut functions (fuel + extra) ⟨depth, .live⟩ part
  obtain ⟨⟨fault | ⟨⟨⟩⟩, n⟩, written⟩ := settles.ends fits { m with transcript := t }
  · exact Or.inr ⟨fault, n, bind_of_error written, part, _, depth, _, mem, written⟩
  · obtain ⟨writes, line⟩ := Footprint.onlyWrites_of_writeOut functions written
    -- silent code has done nothing, and what live code wrote has changed nothing but the lines
    have same : n = { m with transcript := n.transcript } := by
      have memory : n.memory = m.memory := writes.memory
      have input : n.input = m.input := writes.input
      have trace : n.trace = m.trace := writes.trace
      have line : n.line = m.line := line rfl
      cases n
      simp only at memory input trace line
      rw [memory, input, trace, line]
    refine Or.inl ⟨n.transcript, ?_, List.Sublist.trans fewer writes.written.sublist⟩
    rw [← same]
    exact bind_of_ok written

end KeepsUp

/-! ## The induction -/

/-- Live code keeps up with silent code, with so much fuel for either, if the syntax is not
larger than allowed. -/
structure KeepingUp (fuel fuel' extra : Nat) : Prop where
  stmts : ∀ depth statements, sizeOf statements ≤ extra →
    KeepsUp functions (Skips statements) (stmts functions fuel ⟨depth, .silent⟩ statements)
      (stmts functions fuel' ⟨depth, .live⟩ statements)
  stmt : ∀ depth s, sizeOf s ≤ extra →
    KeepsUp functions (SkipsIn s) (stmt functions fuel ⟨depth, .silent⟩ s)
      (stmt functions fuel' ⟨depth, .live⟩ s)
  branch : ∀ depth block taken, sizeOf block ≤ extra →
    KeepsUp functions (SkipsBlock block) (branch functions fuel ⟨depth, .silent⟩ block taken)
      (branch functions fuel' ⟨depth, .live⟩ block taken)
  firstRound : ∀ depth condition body entered, sizeOf body ≤ extra →
    KeepsUp functions (SkipsBlock body)
      (firstRound functions fuel ⟨depth, .silent⟩ condition body entered)
      (firstRound functions fuel' ⟨depth, .live⟩ condition body entered)
  rounds : ∀ depth condition body, sizeOf body ≤ extra →
    KeepsUp functions (Skips body.stmts) (rounds functions fuel ⟨depth, .silent⟩ condition body)
      (rounds functions fuel' ⟨depth, .live⟩ condition body)

namespace KeepingUp

variable {functions} {fuel extra : Nat} (ih : KeepingUp functions fuel (fuel + extra) extra)
  (depth : Nat)
include ih

lemma stmts_succ (statements : List Stmt) (fits : sizeOf statements ≤ extra) :
    KeepsUp functions (Skips statements)
      (Eval.stmts functions (fuel + 1) ⟨depth, .silent⟩ statements)
      (Eval.stmts functions (fuel + extra + 1) ⟨depth, .live⟩ statements) := by
  cases statements with
  | nil => exact .pure none
  | cons s rest =>
    have size : sizeOf s + sizeOf rest + 1 ≤ extra := by
      simp only [List.cons.sizeOf_spec] at fits
      omega
    -- if the first statement returns, silent code is done, and live code writes the others
    rw [stmts_cons_of_executes functions rfl, stmts_cons_of_executes functions rfl]
    refine .bind ((ih.stmt depth s (by omega)).mono fun part inner => .here rest inner) ?_
    rintro (_ | value)
    · exact (ih.stmts depth rest (by omega)).mono fun part others => .later s others
    · exact .leaveOut (.after s rest) (by omega) (some value)

lemma branch_succ (block : Block) (taken : Bool) (fits : sizeOf block ≤ extra) :
    KeepsUp functions (SkipsBlock block)
      (Eval.branch functions (fuel + 1) ⟨depth, .silent⟩ block taken)
      (Eval.branch functions (fuel + extra + 1) ⟨depth, .live⟩ block taken) := by
  have size : sizeOf block.stmts < extra := Nat.lt_of_lt_of_le block.sizeOf_stmts_lt fits
  rw [branch_of_executes functions rfl, branch_of_executes functions rfl]
  cases taken with
  | true => exact (ih.stmts (depth + 1) block.stmts (by omega)).mono fun part => .inr
  | false => exact .leaveOut (.inl rfl) (by omega) none

lemma firstRound_succ (condition : Expr) (body : Block) (entered : Bool)
    (fits : sizeOf body ≤ extra) :
    KeepsUp functions (SkipsBlock body)
      (Eval.firstRound functions (fuel + 1) ⟨depth, .silent⟩ condition body entered)
      (Eval.firstRound functions (fuel + extra + 1) ⟨depth, .live⟩ condition body entered) := by
  have size : sizeOf body.stmts < extra := Nat.lt_of_lt_of_le body.sizeOf_stmts_lt fits
  rw [firstRound_of_executes functions rfl, firstRound_of_executes functions rfl]
  cases entered with
  | true => exact (ih.rounds depth condition body fits).mono fun part => .inr
  | false => exact .leaveOut (.inl rfl) (by omega) none

/-- The rounds after the first one are silent in both runs. -/
lemma rounds_succ (condition : Expr) (body : Block) (fits : sizeOf body ≤ extra) :
    KeepsUp functions (Skips body.stmts)
      (Eval.rounds functions (fuel + 1) ⟨depth, .silent⟩ condition body)
      (Eval.rounds functions (fuel + extra + 1) ⟨depth, .live⟩ condition body) := by
  have size : sizeOf body.stmts < extra := Nat.lt_of_lt_of_le body.sizeOf_stmts_lt fits
  -- from the second round on nothing is written in either run, so nothing is left out
  have later := Repeats.everywhere appends_fewerLines functions extra fuel
  rw [Eval.rounds, Eval.rounds]
  refine .bind (ih.stmts (depth + 1) body.stmts (by omega)) ?_
  rintro (_ | value)
  · refine .after (later.expr ⟨rfl, rfl⟩ condition) fun value => ?_
    refine .after (.ofExcept _) fun again => ?_
    split
    · exact .of_repeats (later.rounds ⟨rfl, rfl⟩ rfl condition body)
    · exact .pure none
  · exact .pure (some value)

/-- What a conditional may leave out in its second branch. -/
def SkipsElse (elseBlock : Option Block) (part : List Stmt) : Prop :=
  ∃ block ∈ elseBlock, SkipsBlock block part

lemma secondBranch_of (elseBlock : Option Block) (taken : Bool) (first : Flow)
    (fits : sizeOf elseBlock ≤ extra) :
    KeepsUp functions (SkipsElse elseBlock)
      (secondBranch functions fuel ⟨depth, .silent⟩ elseBlock taken first)
      (secondBranch functions (fuel + extra) ⟨depth, .live⟩ elseBlock taken first) := by
  cases elseBlock with
  | none => exact .pure first
  | some block =>
    have size : sizeOf block ≤ extra := by
      simp only [Option.some.sizeOf_spec] at fits
      omega
    refine .bind (.emit _ _) fun _ => .bind ((ih.branch depth block (!taken) size).mono ?_) ?_
    · exact fun part skips => ⟨block, rfl, skips⟩
    · exact fun second => .pure (first.or second)

lemma stmt_succ (s : Stmt) (fits : sizeOf s ≤ extra) :
    KeepsUp functions (SkipsIn s) (Eval.stmt functions (fuel + 1) ⟨depth, .silent⟩ s)
      (Eval.stmt functions (fuel + extra + 1) ⟨depth, .live⟩ s) := by
  have same := Repeats.everywhere appends_fewerLines functions extra fuel
  have aligned : (Repeats.walk appends_fewerLines).Aligned ⟨depth, .silent⟩ ⟨depth, .live⟩ :=
    ⟨rfl, rfl⟩
  have evaluated : ∀ e, Repeats FewerLines (Eval.expr functions fuel ⟨depth, .silent⟩ e)
      (Eval.expr functions (fuel + extra) ⟨depth, .live⟩ e) := same.expr aligned
  cases s with
  | assign target value span =>
    cases target with
    | var target =>
      rw [Eval.stmt, Eval.stmt]
      refine .after_enterSpan (.after (evaluated value) fun value => .bind (.emit _ _) fun _ => ?_)
      exact .after (.define _ _) fun _ => .pure none
    | element array index =>
      rw [Eval.stmt, Eval.stmt]
      refine .after_enterSpan (.after (evaluated value) fun value => ?_)
      refine .after (evaluated index) fun index => .after (.ofExcept _) fun i => ?_
      refine .bind (.emit _ _) fun _ => .after (.storeElement _ _ _) fun stored => ?_
      rw [orStandIn_of_executes rfl, orStandIn_of_executes rfl]
      exact .after (.ofExcept stored) fun _ => .pure none
  | ifThen condition thenBlock elseBlock span =>
    have size : sizeOf thenBlock ≤ extra ∧ sizeOf elseBlock ≤ extra := by
      simp only [Stmt.ifThen.sizeOf_spec] at fits
      omega
    rw [Eval.stmt_ifThen, Eval.stmt_ifThen]
    refine .after_enterSpan (.after (evaluated condition) fun value => ?_)
    refine .after (.ofExcept _) fun taken => .bind (.emit _ _) fun _ => ?_
    refine .bind ((ih.branch depth thenBlock taken size.1).mono ?_) fun first => ?_
    · rintro part (rfl | inner)
      · exact .thenBlock condition thenBlock elseBlock span
      · exact .inThen condition elseBlock span inner
    refine .bind ((ih.secondBranch_of depth elseBlock taken first size.2).mono ?_) fun flow => ?_
    · rintro part ⟨block, rfl, rfl | inner⟩
      · exact .elseBlock condition thenBlock block span
      · exact .inElse condition thenBlock span inner
    exact .bind (.emit _ _) fun _ => .pure flow
  | whileDo condition body span =>
    have size : sizeOf body ≤ extra := by
      simp only [Stmt.whileDo.sizeOf_spec] at fits
      omega
    rw [Eval.stmt, Eval.stmt]
    refine .after_enterSpan (.after (evaluated condition) fun value => ?_)
    refine .after (.ofExcept _) fun entered => .bind (.emit _ _) fun _ => ?_
    refine .bind ((ih.firstRound depth condition body entered size).mono ?_) fun flow => ?_
    · rintro part (rfl | inner)
      · exact .body condition body span
      · exact .inBody condition span inner
    exact .bind (.emit _ _) fun _ => .pure flow
  | giveBack value span =>
    cases value with
    | none =>
      rw [Eval.stmt, Eval.stmt]
      exact .after_enterSpan (.bind (.emit _ _) fun _ => .pure _)
    | some value =>
      rw [Eval.stmt, Eval.stmt]
      refine .after_enterSpan (.after (evaluated value) fun value => ?_)
      exact .bind (.emit _ _) fun _ => .pure _
  | read target span =>
    rw [Eval.stmt, Eval.stmt]
    refine .after_enterSpan (.after .nextInteger fun n => ?_)
    exact .after (.define _ _) fun _ => .pure none
  | write value span =>
    rw [Eval.stmt, Eval.stmt]
    refine .after_enterSpan (.after (evaluated value) fun value => ?_)
    exact .bind (.emit _ _) fun _ => .pure none
  | actuate actuator args span =>
    rw [Eval.stmt, Eval.stmt]
    refine .after_enterSpan (.after (same.numbers aligned args) fun texts => ?_)
    exact .bind (.emit _ _) fun _ => .pure none
  | paint color span =>
    rw [Eval.stmt, Eval.stmt]
    refine .after_enterSpan (.after (evaluated color) fun value => ?_)
    exact .after (.ofExcept _) fun _ => .bind (.emit _ _) fun _ => .pure none
  | pen down span =>
    rw [Eval.stmt, Eval.stmt]
    exact .after_enterSpan (.bind (.emit _ _) fun _ => .pure none)
  | sense sensor span =>
    rw [Eval.stmt, Eval.stmt]
    refine .after_enterSpan (.after (same.sense aligned sensor) fun reading => ?_)
    exact .bind (.emit _ _) fun _ => .pure none
  | call site =>
    rw [Eval.stmt, Eval.stmt]
    exact .after_enterSpan (.after (same.call aligned site) fun _ => .pure none)

end KeepingUp

/-- Live code keeps up with silent code, whatever fuel that has. -/
theorem keepingUp (fuel extra : Nat) : KeepingUp functions fuel (fuel + extra) extra := by
  induction fuel with
  | zero =>
    exact {
      stmts := fun _ _ _ => .of_repeats (.outOfFuel _)
      stmt := fun _ _ _ => .of_repeats (.outOfFuel _)
      branch := fun _ _ _ _ => .of_repeats (.outOfFuel _)
      firstRound := fun _ _ _ _ _ => .of_repeats (.outOfFuel _)
      rounds := fun _ _ _ _ => .of_repeats (.outOfFuel _) }
  | succ fuel ih =>
    rw [Nat.add_right_comm]
    exact {
      stmts := ih.stmts_succ
      stmt := ih.stmt_succ
      branch := ih.branch_succ
      firstRound := ih.firstRound_succ
      rounds := ih.rounds_succ }

/-! ## Live code after silent code -/

variable {functions}

/-- **Writing what does not run fails for the shape of code only.**  If statements come to an
end in silence, they come to an end live, from the same machine.  Either that is the same end:
the flow, the memory, the rest of the input, the trace and the line are the same, and what silent
code has written is written among the rest.  Or a fault stops live code while it is writing a
part that does not run, because a call in that part does not fit what it calls, or a value is of
a wrong kind. -/
theorem live_of_silent {fuel depth : Nat} {statements : List Stmt} {m n : Machine} {flow : Flow}
    (ran : stmts functions fuel ⟨depth, .silent⟩ statements m = some (.ok flow, n)) :
    ∃ outcome n',
      stmts functions (fuel + sizeOf statements) ⟨depth, .live⟩ statements m =
        some (outcome, n') ∧
      ((outcome = .ok flow ∧ n'.memory = n.memory ∧ n'.input = n.input ∧ n'.trace = n.trace ∧
          n'.line = n.line ∧ FewerLines n.transcript n'.transcript) ∨
        ∃ fault part, outcome = .error fault ∧ Skips statements part ∧
          (fault.WrongKind ∨ Misfits functions (MakesIn part) fault) ∧
          ∃ fuel' depth' l,
            writeOut functions fuel' ⟨depth', .live⟩ part l = some (.error fault, n')) := by
  have keeps := (keepingUp functions fuel (sizeOf statements)).stmts depth statements
    (Nat.le_refl _)
  have same : FewerLines m.transcript m.transcript := List.Sublist.refl _
  rcases keeps same ran with ⟨t, done, longer⟩ | ⟨fault, n', stopped, within⟩
  · exact ⟨.ok flow, _, done, Or.inl ⟨rfl, rfl, rfl, rfl, rfl, longer⟩⟩
  · obtain ⟨part, fuel', depth', l, skips, halted⟩ := within
    -- the part was written as dry code, and only its shape stops that
    have shape := (settles_writeOut functions fuel' ⟨depth', .live⟩ part).stopped halted
    exact ⟨.error fault, n', stopped,
      Or.inr ⟨fault, part, rfl, skips, shape, fuel', depth', l, halted⟩⟩

/-! ## What does not run, and does not stop the code around it -/

/-- A branch that is not taken, in which a number is divided by zero and a variable is missing. -/
def faulty : List Stmt :=
  [.ifThen (.boolean true .unknown)
    ⟨[.write (.integer 1 .unknown) .unknown], .unknown⟩
    (some ⟨[
      .assign (.var ⟨"z", .unknown⟩)
        (.binary (.integer 1 .unknown) (.arithmetic .div) (.integer 0 .unknown) .unknown) .unknown,
      .write (.var "missing" .unknown) .unknown], .unknown⟩) .unknown]

/-- The machine of a main function that has just been entered. -/
def entered : Machine :=
  ⟨⟨[⟨"main", 0, []⟩], .empty⟩, ⟨#[.label "MainProgram:"]⟩, ⟨[], []⟩, none, 1⟩

theorem live_of_silent_faulty : ∃ n n',
    stmts (fun _ => none) 12 ⟨1, .silent⟩ faulty entered = some (.ok none, n) ∧
    stmts (fun _ => none) (12 + sizeOf faulty) ⟨1, .live⟩ faulty entered = some (.ok none, n') ∧
    n'.memory = n.memory ∧
    n'.transcript.lines 2 =
      ["MainProgram:", "  if true", "    print 1", "  else", "    z = 1 / 0", "    print missing",
        "  endif"] := by
  have quiet : (stmts (fun _ => none) 12 ⟨1, .silent⟩ faulty entered).map (·.1.toOption) =
      some (some none) := by
    decide +kernel
  have loud : (stmts (fun _ => none) 12 ⟨1, .live⟩ faulty entered).map
      (fun stop => (stop.1.toOption, stop.2.transcript.lines 2)) =
      some (some none, ["MainProgram:", "  if true", "    print 1", "  else", "    z = 1 / 0",
        "    print missing", "  endif"]) := by
    decide +kernel
  obtain ⟨⟨outcome, n⟩, ran, seen⟩ := Option.map_eq_some_iff.mp quiet
  obtain ⟨⟨outcome', n'⟩, ran', seen'⟩ := Option.map_eq_some_iff.mp loud
  obtain ⟨ends, lines⟩ := Prod.mk.inj seen'
  cases outcome with
  | error fault => cases seen
  | ok flow =>
    cases seen
    obtain ⟨outcome'', n'', done, comes⟩ := live_of_silent ran
    -- both live runs come to the same, whatever their fuel
    have more := stmts_of_le _ (Nat.le_add_right 12 (sizeOf faulty)) ran'
    cases done.symm.trans more
    rcases comes with ⟨rfl, memory, -⟩ | ⟨fault, part, rfl, -⟩
    · exact ⟨n, n', ran, done, memory, lines⟩
    · cases ends

/-! ## What does not run, and stops the code around it -/

/-- A main function that calls a function that is not declared, in a branch that is not taken. -/
def omitting : Function where
  name := ⟨"main", .unknown⟩
  params := []
  returns := none
  body := ⟨[.ifThen (.boolean true .unknown) ⟨[], .unknown⟩
    (some ⟨[.call ⟨⟨"g", .unknown⟩, [], .unknown⟩], .unknown⟩) .unknown], .unknown⟩
  span := .ofLine 1

/-- The session of that program. -/
def omittingSession : Session :=
  ⟨⟨[omitting]⟩, .standard, false, Session.initialMachine ⟨[], []⟩ none⟩

/-- A run may stop where it would come to its end in silence: the call of a function that is not
declared is a fault where nothing runs, too. -/
theorem omitted_call_stops :
    Session.load ⟨[omitting], .unknown⟩ .standard ⟨[], []⟩ (fun path => .error (.io path)) =
      .ok omittingSession ∧
    (label "MainProgram:" >>= fun _ => enter omitting [] 0) omittingSession.machine =
      some (.ok (), entered) ∧
    (∃ n, stmts omittingSession.declarations.find? 9 ⟨1, .silent⟩ omitting.body.stmts entered =
      some (.ok none, n)) ∧
    (∃ n, stmts omittingSession.declarations.find? 9 ⟨1, .live⟩ omitting.body.stmts entered =
      some (.error (.undeclaredFunction "g"), n)) ∧
    ∀ fuel flow n, stmts omittingSession.declarations.find? fuel ⟨1, .live⟩ omitting.body.stmts
      entered ≠ some (.ok flow, n) := by
  obtain ⟨n, stops⟩ : ∃ n, stmts omittingSession.declarations.find? 9 ⟨1, .live⟩
      omitting.body.stmts entered = some (.error (.undeclaredFunction "g"), n) := ⟨_, rfl⟩
  refine ⟨rfl, rfl, ⟨_, rfl⟩, ⟨n, stops⟩, fun fuel flow n' ran => ?_⟩
  have long : stmts omittingSession.declarations.find? (max fuel 9) ⟨1, .live⟩
      omitting.body.stmts entered = some (.ok flow, n') := stmts_of_le _ (Nat.le_max_left _ _) ran
  cases long.symm.trans (stmts_of_le _ (Nat.le_max_right _ _) stops)

end Eval

end RobotScribe
