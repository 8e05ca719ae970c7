/-
# The table of declarations

A program has declarations exactly if no name is declared twice.  They are its functions in source
order, and a name finds the one function that is declared under it.  If a name is declared twice,
the first declaration whose name has been declared before is the fault.

Programs with the same functions in another order declare them in that order.  A name finds the same
function in both, so a run of one is a run of the other, step by step.
-/
import RobotScribe.Proofs.TracedSessions
import Mathlib.Data.List.Nodup

namespace RobotScribe

namespace Declarations

variable {seen : List String} {functions : List Function} {f : Function}

/-! ## The first repeated name -/

/-- The names of some functions, in order. -/
def names (functions : List Function) : List String := functions.map (·.name.name)

/-- A function repeats a name before which no name is repeated. -/
def RepeatsFirst (functions : List Function) (f : Function) : Prop :=
  ∃ before after, functions = before ++ f :: after ∧ (names before).Nodup ∧
    f.name.name ∈ names before

lemma firstRepeated?_append (before after : List Function) :
    firstRepeated? seen (before ++ after) =
      (firstRepeated? seen before).or (firstRepeated? ((names before).reverse ++ seen) after) := by
  induction before generalizing seen with
  | nil => rfl
  | cons g rest ih =>
    rw [List.cons_append, firstRepeated?, firstRepeated?]
    split
    · rfl
    · rw [ih]
      simp [names]

lemma exists_of_firstRepeated? (found : firstRepeated? seen functions = some f) :
    ∃ before after, functions = before ++ f :: after ∧ firstRepeated? seen before = none ∧
      f.name.name ∈ (names before).reverse ++ seen := by
  induction functions generalizing seen with
  | nil => cases found
  | cons g rest ih =>
    rw [firstRepeated?] at found
    split at found
    · next old =>
      cases found
      exact ⟨[], rest, rfl, rfl, old⟩
    · next new =>
      obtain ⟨before, after, rfl, distinct, repeats⟩ := ih found
      refine ⟨g :: before, after, rfl, ?_, ?_⟩
      · rw [firstRepeated?, if_neg new, distinct]
      · simpa [names] using repeats

lemma firstRepeated?_nil_eq_none :
    firstRepeated? [] functions = none ↔ (names functions).Nodup := by
  rw [firstRepeated?_eq_none, names]
  simp

lemma firstRepeated?_nil_eq_some :
    firstRepeated? [] functions = some f ↔ RepeatsFirst functions f := by
  constructor
  · intro found
    obtain ⟨before, after, rfl, distinct, repeats⟩ := exists_of_firstRepeated? found
    exact ⟨before, after, rfl, firstRepeated?_nil_eq_none.mp distinct, by simpa using repeats⟩
  · rintro ⟨before, after, rfl, distinct, repeats⟩
    have first : f.name.name ∈ (names before).reverse ++ [] := by simpa using repeats
    rw [firstRepeated?_append, firstRepeated?_nil_eq_none.mpr distinct, Option.none_or,
      firstRepeated?, if_pos first]

lemma ofProgram_eq_error {program : Program} {fault : LocatedFault} :
    ofProgram program = .error fault ↔ ∃ f, RepeatsFirst program.functions f ∧
      fault = ⟨.duplicateDefinition f.name.name, f.span.startLine⟩ := by
  unfold ofProgram
  constructor
  · intro refused
    split at refused
    · next f found =>
      cases refused
      exact ⟨f, firstRepeated?_nil_eq_some.mp found, rfl⟩
    · cases refused
  · rintro ⟨f, repeats, rfl⟩
    rw [firstRepeated?_nil_eq_some.mpr repeats]

/-! ## Looking up names -/

/-- If the names are different, a name finds exactly the function that is declared under it. -/
lemma find?_eq_some {declarations : Declarations} (distinct : (names declarations.functions).Nodup)
    {name : String} :
    declarations.find? name = some f ↔ f ∈ declarations.functions ∧ f.name.name = name := by
  constructor
  · intro found
    exact ⟨List.mem_of_find?_eq_some found, by simpa using List.find?_some found⟩
  · rintro ⟨mem, rfl⟩
    cases found : declarations.find? f.name.name with
    | none =>
      have away := List.find?_eq_none.mp found f mem
      simp at away
    | some g =>
      have named : g.name.name = f.name.name := by simpa using List.find?_some found
      have same := List.inj_on_of_nodup_map distinct (List.mem_of_find?_eq_some found) mem named
      rw [same]

/-- In which order functions are declared makes no difference to what a name finds. -/
lemma find?_congr {declarations others : Declarations}
    (distinct : (names declarations.functions).Nodup)
    (reordered : others.functions.Perm declarations.functions) :
    others.find? = declarations.find? := by
  have distinct' : (names others.functions).Nodup := (reordered.map _).nodup_iff.mpr distinct
  funext name
  refine Option.ext fun f => ?_
  rw [find?_eq_some distinct', find?_eq_some distinct, reordered.mem_iff]

end Declarations

/-! ## Sessions with other declarations -/

namespace Session

variable {s : Session} {declarations others : Declarations} {program other : Program}

/-- The session with other declarations. -/
def withDeclarations (declarations : Declarations) (s : Session) : Session :=
  { s with declarations }

/-- What has been loaded differs in nothing but the declarations. -/
lemma load_eq_map (declared : Declarations.ofProgram program = .ok declarations)
    (declared' : Declarations.ofProgram other = .ok others) (settings : Settings) (input : Input)
    (openTrace : String → Except Fault Sink) :
    load other settings input openTrace =
      (load program settings input openTrace).map (withDeclarations others) := by
  unfold load
  rw [declared, declared']
  cases settings.trace with
  | none => rfl
  | some path =>
    simp only [bind, Except.bind]
    cases openTrace path <;> rfl

/-- A run looks at the declarations only to find functions by their names. -/
lemma run_withDeclarations (same : declarations.find? = s.declarations.find?) (fuel : Nat) :
    (s.withDeclarations declarations).run fuel =
      (s.run fuel).map fun stop => (stop.1, stop.2.withDeclarations declarations) := by
  have steps : (s.withDeclarations declarations).declarations.find? = s.declarations.find? := same
  unfold run perform
  rw [steps]
  have machine : (s.withDeclarations declarations).machine = s.machine := rfl
  rw [machine]
  rcases runMain s.declarations.find? fuel s.machine with _ | ⟨fault | ⟨⟨⟩⟩, m⟩
  · rfl
  · rfl
  · rfl

end Session

open Session

/-- **The declarations of a program are exact.**  A program has declarations exactly if the names of
its functions are different; otherwise the fault is the first function whose name has been declared
before, at its line.  The declarations are the functions in source order; a name finds the function
that is declared under it, and any other name finds nothing.  A program with the same functions in
another order has declarations, too; a name finds the same function in them.  Loaded with the same
settings and input, and whatever its trace goes to, the other program gives a session that differs
in its declarations alone, and so does what a run of it comes to: the outcome and all else (the
transcript, the trace, the memory, the input that is left) is the same. -/
theorem declarations_are_exact (program : Program) :
    ((∃ declarations, Declarations.ofProgram program = .ok declarations) ↔
      (Declarations.names program.functions).Nodup) ∧
    (∀ fault, Declarations.ofProgram program = .error fault ↔
      ∃ f, Declarations.RepeatsFirst program.functions f ∧
        fault = ⟨.duplicateDefinition f.name.name, f.span.startLine⟩) ∧
    ∀ declarations, Declarations.ofProgram program = .ok declarations →
      declarations.functions = program.functions ∧
      (∀ name f, declarations.find? name = some f ↔
        f ∈ program.functions ∧ f.name.name = name) ∧
      (∀ name, declarations.find? name = none ↔
        name ∉ Declarations.names program.functions) ∧
      ∀ other : Program, other.functions.Perm program.functions →
        ∃ others, Declarations.ofProgram other = .ok others ∧
          others.find? = declarations.find? ∧
          ∀ (settings : Settings) (input : Input) (openTrace : String → Except Fault Sink),
            load other settings input openTrace =
              (load program settings input openTrace).map (withDeclarations others) ∧
            ∀ s, load program settings input openTrace = .ok s → ∀ fuel,
              (s.withDeclarations others).run fuel =
                (s.run fuel).map (fun stop => (stop.1, stop.2.withDeclarations others)) ∧
              ∀ sink, ((s.withDeclarations others).withTraceSink sink).run fuel =
                ((s.withTraceSink sink).run fuel).map
                  fun stop => (stop.1, stop.2.withDeclarations others) := by
  refine ⟨?_, fun fault => Declarations.ofProgram_eq_error, fun declarations declared => ?_⟩
  · constructor
    · rintro ⟨declarations, declared⟩
      exact (Declarations.ofProgram_eq_ok.mp declared).1
    · exact fun distinct => ⟨_, Declarations.ofProgram_eq_ok.mpr ⟨distinct, rfl⟩⟩
  obtain ⟨named, rfl⟩ := Declarations.ofProgram_eq_ok.mp declared
  have distinct : (Declarations.names program.functions).Nodup := named
  refine ⟨rfl, fun _ _ => Declarations.find?_eq_some distinct, fun name => ?_,
    fun other reordered => ?_⟩
  · rw [Declarations.find?, List.find?_eq_none]
    simp [Declarations.names]
  have named' := (reordered.map (·.name.name)).nodup_iff.mpr named
  have declared' := Declarations.ofProgram_eq_ok.mpr ⟨named', rfl⟩
  have same : (⟨other.functions⟩ : Declarations).find? = Declarations.find? ⟨program.functions⟩ :=
    Declarations.find?_congr distinct reordered
  refine ⟨_, declared', same, fun settings input openTrace => ?_⟩
  refine ⟨load_eq_map declared declared' settings input openTrace, fun s loaded fuel => ?_⟩
  obtain ⟨declarations, trace, again, rfl, -⟩ := eq_of_load loaded
  cases declared.symm.trans again
  exact ⟨run_withDeclarations same fuel,
    fun sink => run_withDeclarations (s := withTraceSink ⟨_, settings, false, _⟩ sink) same fuel⟩

/-- A main function that calls the function declared after it. -/
def callingForward : Program := .ofFunctions
  [⟨⟨"main", .ofLine 1⟩, [], none,
      .ofStmts [.write (.call ⟨⟨"seven", .ofLine 2⟩, [], .ofLine 2⟩ (.ofLine 2)) (.ofLine 2)],
      .ofLine 1⟩,
   ⟨⟨"seven", .ofLine 4⟩, [], some .integer,
      .ofStmts [.giveBack (some (.integer 7 (.ofLine 5))) (.ofLine 5)], .ofLine 4⟩]

/-- The same functions, the main one last. -/
def callingBack : Program := .ofFunctions callingForward.functions.reverse

/-- Both orders run alike, with a trace and without one.  Of all four functions in one program, the
third one is the first that is declared again. -/
theorem declarations_are_exact_reversed : ∃ others s,
    Declarations.ofProgram callingBack = .ok others ∧
    load callingForward .standard ⟨[], []⟩ (fun path => .error (.io path)) = .ok s ∧
    load callingBack .standard ⟨[], []⟩ (fun path => .error (.io path)) =
      .ok (s.withDeclarations others) ∧
    ((s.withDeclarations others).withTraceSink .unbounded).run 12 =
      ((s.withTraceSink .unbounded).run 12).map
        (fun stop => (stop.1, stop.2.withDeclarations others)) ∧
    (s.run 12).map (fun stop => (stop.1.isOk, stop.2.lines)) =
      some (true, ["MainProgram:", "  seven()", "  print 7", "End"]) ∧
    Declarations.ofProgram (.ofFunctions (callingForward.functions ++ callingBack.functions)) =
      .error ⟨.duplicateDefinition "seven", 4⟩ := by
  have declared : Declarations.ofProgram callingForward = .ok ⟨callingForward.functions⟩ := rfl
  obtain ⟨-, -, -, reordered⟩ := (declarations_are_exact callingForward).2.2 _ declared
  obtain ⟨others, declared', -, runs⟩ := reordered callingBack (List.reverse_perm _)
  obtain ⟨loads, runs⟩ := runs .standard ⟨[], []⟩ fun path => .error (.io path)
  have loaded : load callingForward .standard ⟨[], []⟩ (fun path => .error (.io path)) =
    .ok ⟨⟨callingForward.functions⟩, .standard, false, initialMachine ⟨[], []⟩ none⟩ := rfl
  refine ⟨others, _, declared', loaded, ?_, (runs _ loaded 12).2 .unbounded, ?_, ?_⟩
  · rw [loads, loaded]
    rfl
  · decide +kernel
  · refine ((declarations_are_exact _).2.1 _).mpr
      ⟨_, ⟨callingForward.functions, _, rfl, ?_, ?_⟩, rfl⟩
    · decide
    · decide

end RobotScribe
