/-
# Programs and machines without their places

Every node of a program carries the place where it is written, and an evaluation keeps track of
the line that it has reached.  Lines end up in three places: in the frames of the functions that
have been called, in the current line of the machine, and in the lines of the call trace.

This file says what is left when all that is forgotten.  Programs and memories have a form without
places (`unplaced`), and the bytes of a trace are compared up to the numbers of program lines in
them (`Renumbered`).  Two machines that are the same in this sense are the same but for lines
(`Machine.SameButLines`).
-/
import RobotScribe.Proofs.TraceLines
import RobotScribe.Proofs.Computation
import RobotScribe.Declarations

namespace RobotScribe

/-! ## Forgetting places -/

/-- An identifier without its place. -/
def Ident.unplaced (ident : Ident) : Ident := { ident with span := .unknown }

/-- A parameter without its places. -/
def Param.unplaced (param : Param) : Param :=
  { param with name := param.name.unplaced, span := .unknown }

mutual

/-- An expression without its places. -/
def Expr.unplaced : Expr → Expr
  | .integer n _ => .integer n .unknown
  | .boolean b _ => .boolean b .unknown
  | .string s _ => .string s .unknown
  | .color c _ => .color c .unknown
  | .var name _ => .var name .unknown
  | .element array index _ => .element array.unplaced index.unplaced .unknown
  | .call site _ => .call site.unplaced .unknown
  | .sense sensor _ => .sense sensor.unplaced .unknown
  | .binary left op right _ => .binary left.unplaced op right.unplaced .unknown
  | .unary op operand _ => .unary op operand.unplaced .unknown
  | .paren inner _ => .paren inner.unplaced .unknown

/-- A call without its places. -/
def Call.unplaced : Call → Call
  | ⟨name, args, _⟩ => ⟨name.unplaced, exprsUnplaced args, .unknown⟩

/-- A sensor without its places. -/
def Sensor.unplaced : Sensor → Sensor
  | .feel => .feel
  | .infrared => .infrared
  | .bumper => .bumper
  | .compass => .compass
  | .beacon color => .beacon color
  | .look direction => .look direction.unplaced

/-- Expressions without their places. -/
def exprsUnplaced : List Expr → List Expr
  | [] => []
  | e :: rest => e.unplaced :: exprsUnplaced rest

end

/-- The left-hand side of an assignment without its places. -/
def Target.unplaced : Target → Target
  | .var name => .var name.unplaced
  | .element array index => .element array.unplaced index.unplaced

mutual

/-- A statement without its places. -/
def Stmt.unplaced : Stmt → Stmt
  | .assign target value _ => .assign target.unplaced value.unplaced .unknown
  | .ifThen condition thenBlock none _ =>
    .ifThen condition.unplaced thenBlock.unplaced none .unknown
  | .ifThen condition thenBlock (some elseBlock) _ =>
    .ifThen condition.unplaced thenBlock.unplaced (some elseBlock.unplaced) .unknown
  | .whileDo condition body _ => .whileDo condition.unplaced body.unplaced .unknown
  | .giveBack value _ => .giveBack (value.map Expr.unplaced) .unknown
  | .read target _ => .read target.unplaced .unknown
  | .write value _ => .write value.unplaced .unknown
  | .actuate actuator args _ => .actuate actuator (exprsUnplaced args) .unknown
  | .paint color _ => .paint color.unplaced .unknown
  | .pen down _ => .pen down .unknown
  | .sense sensor _ => .sense sensor.unplaced .unknown
  | .call site => .call site.unplaced

/-- A block without its places. -/
def Block.unplaced : Block → Block
  | ⟨stmts, _⟩ => ⟨stmtsUnplaced stmts, .unknown⟩

/-- Statements without their places. -/
def stmtsUnplaced : List Stmt → List Stmt
  | [] => []
  | s :: rest => s.unplaced :: stmtsUnplaced rest

end

/-- A function without its places. -/
def Function.unplaced (function : Function) : Function where
  name := function.name.unplaced
  params := function.params.map Param.unplaced
  returns := function.returns
  body := function.body.unplaced
  span := .unknown

/-- A program without its places. -/
def Program.unplaced (program : Program) : Program :=
  ⟨program.functions.map Function.unplaced, .unknown⟩

/-! ### What stays -/

@[simp] lemma Param.isReference_unplaced (param : Param) :
    param.unplaced.isReference = param.isReference := rfl

@[simp] lemma Function.name_unplaced (function : Function) :
    function.unplaced.name.name = function.name.name := rfl

@[simp] lemma Function.params_unplaced (function : Function) :
    function.unplaced.params = function.params.map Param.unplaced := rfl

@[simp] lemma Function.body_unplaced (function : Function) :
    function.unplaced.body = function.body.unplaced := rfl

@[simp] lemma Block.stmts_unplaced (block : Block) :
    block.unplaced.stmts = stmtsUnplaced block.stmts := by
  cases block
  rw [Block.unplaced]

@[simp] lemma Call.name_unplaced (site : Call) : site.unplaced.name.name = site.name.name := by
  cases site
  rw [Call.unplaced]
  rfl

@[simp] lemma Call.args_unplaced (site : Call) : site.unplaced.args = exprsUnplaced site.args := by
  cases site
  rw [Call.unplaced]

@[simp] lemma length_exprsUnplaced (es : List Expr) : (exprsUnplaced es).length = es.length := by
  induction es with
  | nil => rfl
  | cons e rest ih => rw [exprsUnplaced, List.length_cons, List.length_cons, ih]

@[simp] lemma Expr.variableName?_unplaced (e : Expr) :
    e.unplaced.variableName? = e.variableName? := by
  cases e with
  | var name span => rfl
  | _ => simp [Expr.unplaced, variableName?]

/-- Declarations without their places. -/
def Declarations.unplaced (declarations : Declarations) : Declarations :=
  ⟨declarations.functions.map Function.unplaced⟩

namespace Declarations

/-- Functions are found by their names. -/
lemma find?_unplaced (declarations : Declarations) (name : String) :
    declarations.unplaced.find? name = (declarations.find? name).map Function.unplaced := by
  simp only [find?, unplaced, List.find?_map]
  rfl

lemma firstRepeated?_unplaced (seen : List String) (functions : List Function) :
    firstRepeated? seen (functions.map Function.unplaced) =
      (firstRepeated? seen functions).map Function.unplaced := by
  induction functions generalizing seen with
  | nil => rfl
  | cons f rest ih =>
    simp only [List.map_cons, firstRepeated?, Function.name_unplaced, ih]
    split <;> rfl

end Declarations

/-! ## Memories -/

/-- A frame without the line of the call that started it. -/
def Frame.unplaced (frame : Frame) : Frame := { frame with callLine := 0 }

namespace Memory

/-- A memory without the lines in its frames. -/
def unplaced (m : Memory) : Memory := { m with frames := m.frames.map Frame.unplaced }

variable (m : Memory)

@[simp] lemma store_unplaced : m.unplaced.store = m.store := rfl

@[simp] lemma unplaced_push (function : String) (callLine : UInt32) :
    (m.push function callLine).unplaced = m.unplaced.push function 0 := rfl

@[simp] lemma unplaced_alloc (value : Value) :
    (m.alloc value).unplaced = m.unplaced.alloc value := rfl

@[simp] lemma unplaced_shrink (count : Nat) :
    (m.shrink count).unplaced = m.unplaced.shrink count := rfl

@[simp] lemma unplaced_pop : m.pop.unplaced = m.unplaced.pop := by
  simp [unplaced, pop, List.map_tail]

@[simp] lemma slot?_unplaced (name : String) : m.unplaced.slot? name = m.slot? name := by
  obtain ⟨_ | ⟨frame, below⟩, store⟩ := m <;> rfl

@[simp] lemma get?_unplaced (name : String) : m.unplaced.get? name = m.get? name := by
  simp [get?]

@[simp] lemma get_unplaced (name : String) : m.unplaced.get name = m.get name := by
  simp [get]

@[simp] lemma snapshot_unplaced : m.unplaced.snapshot = m.snapshot := by
  obtain ⟨_ | ⟨frame, below⟩, store⟩ := m <;> rfl

@[simp] lemma unplaced_restore (saved : Snapshot) :
    (m.restore saved).unplaced = m.unplaced.restore saved := by
  obtain ⟨_ | ⟨frame, below⟩, store⟩ := m <;> rfl

@[simp] lemma unplaced_bind (name : String) (slot : Slot) :
    (m.bind name slot).unplaced = m.unplaced.bind name slot := by
  obtain ⟨_ | ⟨frame, below⟩, store⟩ := m <;> rfl

@[simp] lemma unplaced_define (name : String) (value : Value) :
    (m.define name value).unplaced = m.unplaced.define name value := by
  obtain ⟨_ | ⟨frame, below⟩, store⟩ := m
  · rfl
  · have slot : frame.unplaced.slot? name = frame.slot? name := rfl
    simp only [define, unplaced, List.map_cons, slot]
    cases frame.slot? name <;> rfl

lemma unplaced_bindAll (bindings : List (String × Slot)) :
    (bindings.foldl (fun memory entry => memory.bind entry.1 entry.2) m).unplaced =
      bindings.foldl (fun memory entry => memory.bind entry.1 entry.2) m.unplaced := by
  induction bindings generalizing m with
  | nil => rfl
  | cons entry rest ih => rw [List.foldl_cons, List.foldl_cons, ih, unplaced_bind]

lemma storeElement_unplaced (name : String) (index : Int64) (element : Value) :
    m.unplaced.storeElement name index element =
      (m.storeElement name index element).map Memory.unplaced := by
  unfold storeElement
  rw [slot?_unplaced]
  cases m.slot? name with
  | some slot =>
    simp only [store_unplaced]
    cases (m.store.read slot).storeElement index element <;> rfl
  | none =>
    cases Value.emptyArrayFor element with
    | error fault => rfl
    | ok array =>
      change (do
          let array ← array.storeElement index element
          return m.unplaced.define name array) = Except.map unplaced (do
          let array ← array.storeElement index element
          return m.define name array)
      cases array.storeElement index element with
      | error fault => rfl
      | ok array => exact congrArg Except.ok (unplaced_define m name array).symm

end Memory

/-! ## Traces -/

/-- Bytes that are the same up to the numbers of program lines in them: this is an equivalence, it
is kept when bytes are joined, and the texts `<line N>` are the same for all numbers. -/
inductive Renumbered : ByteArray → ByteArray → Prop where
  | refl (bytes : ByteArray) : Renumbered bytes bytes
  | line (n n' : UInt32) : Renumbered (CallTrace.lineText n).toUTF8 (CallTrace.lineText n').toUTF8
  | append {a a' b b' : ByteArray} (first : Renumbered a a') (second : Renumbered b b') :
      Renumbered (a ++ b) (a' ++ b')
  | trans {a b c : ByteArray} (first : Renumbered a b) (second : Renumbered b c) : Renumbered a c

namespace Renumbered

lemma symm {a b : ByteArray} (h : Renumbered a b) : Renumbered b a := by
  induction h with
  | refl bytes => exact .refl bytes
  | line n n' => exact .line n' n
  | append first second ih ih' => exact .append ih ih'
  | trans first second ih ih' => exact .trans ih' ih

lemma joined {a a' b b' : String} (first : Renumbered a.toUTF8 a'.toUTF8)
    (second : Renumbered b.toUTF8 b'.toUTF8) :
    Renumbered (a ++ b).toUTF8 (a' ++ b').toUTF8 := by
  simp only [String.toUTF8_eq_toByteArray, String.toByteArray_append] at first second ⊢
  exact .append first second

end Renumbered

/-- The bindings in a line of the trace name the parameters, not the places where they stand. -/
lemma bindings_unplaced (params : List Param) (args : List Value) :
    ((params.map Param.unplaced).zip args).map TraceLine.binding =
      (params.zip args).map TraceLine.binding := by
  rw [List.zip_map_left, List.map_map]
  rfl

lemma references_unplaced (params : List Param) (args : List Value) :
    (((params.map Param.unplaced).zip args).filter (·.1.isReference)).map
        (", " ++ TraceLine.binding ·) =
      ((params.zip args).filter (·.1.isReference)).map (", " ++ TraceLine.binding ·) := by
  rw [List.zip_map_left, List.filter_map, List.map_map]
  rfl

/-- The line of a call is the same but for the number of the program line. -/
lemma renumbered_call (depth : Int) (function : Function) (args : List Value)
    (line line' : UInt32) :
    Renumbered (TraceLine.call depth function args line).text.toUTF8
      (TraceLine.call depth function.unplaced args line').text.toUTF8 := by
  have site :
      Renumbered (TraceLine.site depth line).toUTF8 (TraceLine.site depth line').toUTF8 := by
    unfold TraceLine.site
    split
    · exact .refl _
    · exact .line line line'
  simp only [TraceLine.text, Function.name_unplaced, Function.params_unplaced, bindings_unplaced]
  exact .joined (.joined (.refl _) site) (.refl _)

/-- The line of a return is the same but for the number of the program line. -/
lemma renumbered_giveBack (depth : Int) (function : Function) (result : Value)
    (args : List Value) (line line' : UInt32) :
    Renumbered (TraceLine.giveBack depth function result args line).text.toUTF8
      (TraceLine.giveBack depth function.unplaced result args line').text.toUTF8 := by
  have ends : ∀ number : UInt32, (TraceLine.giveBack depth function result args number).text =
      String.join (List.replicate depth.toNat TraceLine.mark) ++ "return"
        ++ (if result.isVoid then "" else " " ++ result.display)
        ++ String.join (((function.params.zip args).filter (·.1.isReference)).map
            (", " ++ TraceLine.binding ·))
        ++ " " ++ CallTrace.lineText number ++ "\n" := by
    intro number
    simp only [TraceLine.text, CallTrace.lineText, String.append_assoc]
    rfl
  have unplaced : (TraceLine.giveBack depth function.unplaced result args line').text =
      (TraceLine.giveBack depth function result args line').text := by
    simp only [TraceLine.text, Function.params_unplaced, references_unplaced]
  rw [unplaced, ends, ends]
  exact .joined (.joined (.refl _) (.line line line')) (.refl _)

/-- Two traces that are the same but for the numbers of program lines, and whose sinks never
fail. -/
structure CallTrace.SameButLines (trace trace' : CallTrace) : Prop where
  nesting : trace.nesting = trace'.nesting
  closed : trace.closed = trace'.closed
  stored : Renumbered trace.sink.stored trace'.sink.stored
  never : trace.sink.NeverFails
  never' : trace'.sink.NeverFails

namespace CallTrace.SameButLines

variable {trace trace' later : CallTrace}

lemma symm (h : SameButLines trace trace') : SameButLines trace' trace :=
  ⟨h.nesting.symm, h.closed.symm, h.stored.symm, h.never', h.never⟩

lemma trans (h : SameButLines trace trace') (h' : SameButLines trace' later) :
    SameButLines trace later :=
  ⟨h.nesting.trans h'.nesting, h.closed.trans h'.closed, h.stored.trans h'.stored, h.never,
    h'.never'⟩

/-- A line that is noted in both traces. -/
lemma noted (h : SameButLines trace trace') {entry entry' : TraceLine}
    (looks : Renumbered entry.text.toUTF8 entry'.text.toUTF8) :
    Renumbered (trace.sink.stored ++ (TraceLine.textOf (trace.noted entry)).toUTF8)
      (trace'.sink.stored ++ (TraceLine.textOf (trace'.noted entry')).toUTF8) := by
  refine .append h.stored ?_
  unfold CallTrace.noted
  rw [h.closed]
  split
  · exact .refl _
  · simpa [TraceLine.textOf] using looks

/-- A call is recorded in both traces. -/
lemma call (h : SameButLines trace trace') (function : Function) (args : List Value)
    (line line' : UInt32) :
    (trace.call function args line).1 = .ok () ∧
      (trace'.call function.unplaced args line').1 = .ok () ∧
      SameButLines (trace.call function args line).2
        (trace'.call function.unplaced args line').2 := by
  rw [call_eq h.never, call_eq h.never', h.nesting]
  exact ⟨rfl, rfl, rfl, h.closed, h.noted (renumbered_call _ _ _ _ _), ⟨h.never.1, h.never.2⟩,
    ⟨h.never'.1, h.never'.2⟩⟩

/-- A return is recorded in both traces. -/
lemma giveBack (h : SameButLines trace trace') (function : Function) (result : Value)
    (args : List Value) (line line' : UInt32) :
    (trace.giveBack function result args line).1 = .ok () ∧
      (trace'.giveBack function.unplaced result args line').1 = .ok () ∧
      SameButLines (trace.giveBack function result args line).2
        (trace'.giveBack function.unplaced result args line').2 := by
  rw [giveBack_eq h.never, giveBack_eq h.never', h.nesting]
  refine ⟨rfl, rfl, rfl, ?_, h.noted (renumbered_giveBack _ _ _ _ _ _), ⟨h.never.1, h.never.2⟩,
    ⟨h.never'.1, h.never'.2⟩⟩
  rw [h.closed]

end CallTrace.SameButLines

/-! ## Machines -/

/-- Two machines that are the same but for lines, with traces whose sinks never fail, if they have
any. -/
structure Machine.SameButLines (m n : Machine) : Prop where
  memory : m.memory.unplaced = n.memory.unplaced
  transcript : m.transcript = n.transcript
  input : m.input = n.input
  trace : Option.Rel CallTrace.SameButLines m.trace n.trace

namespace Machine.SameButLines

variable {l m n : Machine}

lemma symm (h : SameButLines m n) : SameButLines n m := by
  refine ⟨h.memory.symm, h.transcript.symm, h.input.symm, ?_⟩
  have traces := h.trace
  generalize m.trace = left at traces ⊢
  generalize n.trace = right at traces ⊢
  cases traces with
  | none => exact .none
  | some same => exact .some same.symm

lemma trans (h : SameButLines l m) (h' : SameButLines m n) : SameButLines l n := by
  refine ⟨h.memory.trans h'.memory, h.transcript.trans h'.transcript, h.input.trans h'.input, ?_⟩
  have first := h.trace
  have second := h'.trace
  generalize l.trace = left at first ⊢
  generalize m.trace = mid at first second
  generalize n.trace = right at second ⊢
  cases first with
  | none => exact second
  | some same =>
    cases second with
    | some same' => exact .some (same.trans same')

/-- What is read from the memories is the same. -/
lemma store (h : SameButLines m n) : m.memory.store = n.memory.store := by
  rw [← Memory.store_unplaced, h.memory, Memory.store_unplaced]

lemma slot? (h : SameButLines m n) (name : String) :
    m.memory.slot? name = n.memory.slot? name := by
  rw [← Memory.slot?_unplaced, h.memory, Memory.slot?_unplaced]

lemma get (h : SameButLines m n) (name : String) : m.memory.get name = n.memory.get name := by
  rw [← Memory.get_unplaced, h.memory, Memory.get_unplaced]

lemma snapshot (h : SameButLines m n) : m.memory.snapshot = n.memory.snapshot := by
  rw [← Memory.snapshot_unplaced, h.memory, Memory.snapshot_unplaced]

/-- What is done to both memories in the same way. -/
lemma withMemory (h : SameButLines m n) {memory memory' : Memory}
    (same : memory.unplaced = memory'.unplaced) :
    SameButLines { m with memory } { n with memory := memory' } :=
  ⟨same, h.transcript, h.input, h.trace⟩

end Machine.SameButLines

end RobotScribe
