/-
# The declarations of a program

The functions of a program under different names, in source order.  A program has such a list
of declarations exactly if no name is declared twice.
-/
import RobotScribe.Fault

namespace RobotScribe

/-- Functions under different names, in source order. -/
structure Declarations where
  /-- The functions. -/
  functions : List Function
deriving Inhabited

namespace Declarations

/-- The first function of a list whose name has been seen before. -/
def firstRepeated? : List String → List Function → Option Function
  | _, [] => none
  | seen, f :: rest =>
    if f.name.name ∈ seen then some f else firstRepeated? (f.name.name :: seen) rest

/-- The declarations of a program.  The second declaration of a name is a fault at its own
line. -/
def ofProgram (program : Program) : Except LocatedFault Declarations :=
  match firstRepeated? [] program.functions with
  | some f => .error ⟨.duplicateDefinition f.name.name, f.span.startLine⟩
  | none => .ok ⟨program.functions⟩

/-- The function that is declared under a name. -/
def find? (declarations : Declarations) (name : String) : Option Function :=
  declarations.functions.find? (·.name.name == name)

/-- The number of functions. -/
def length (declarations : Declarations) : Nat := declarations.functions.length

/-- A list of functions has no repeated name exactly if the names are different from each other
and from those seen before. -/
theorem firstRepeated?_eq_none {seen : List String} {functions : List Function} :
    firstRepeated? seen functions = none ↔
      (functions.map (·.name.name)).Nodup ∧ ∀ f ∈ functions, f.name.name ∉ seen := by
  induction functions generalizing seen with
  | nil => simp [firstRepeated?]
  | cons f rest ih =>
    unfold firstRepeated?
    split
    · next h => simp [h]
    · next h =>
      rw [ih]
      simp only [List.map_cons, List.nodup_cons, List.mem_cons, List.mem_map, not_or]
      constructor
      · rintro ⟨distinct, fresh⟩
        refine ⟨⟨?_, distinct⟩, ?_⟩
        · rintro ⟨g, hg, same⟩
          exact (fresh g hg).1 same
        · rintro g (rfl | hg)
          · exact h
          · exact (fresh g hg).2
      · rintro ⟨⟨unlike, distinct⟩, fresh⟩
        exact ⟨distinct, fun g hg => ⟨fun same => unlike ⟨g, hg, same⟩, fresh g (Or.inr hg)⟩⟩

/-- A program has declarations exactly if no name is declared twice. -/
theorem ofProgram_eq_ok {program : Program} {declarations : Declarations} :
    ofProgram program = .ok declarations ↔
      (program.functions.map (·.name.name)).Nodup ∧ declarations = ⟨program.functions⟩ := by
  unfold ofProgram
  cases h : firstRepeated? [] program.functions with
  | none =>
    have distinct := (firstRepeated?_eq_none.mp h).1
    simp [distinct, eq_comm]
  | some f =>
    have repeated : ¬ (program.functions.map (·.name.name)).Nodup := by
      intro distinct
      have fresh : firstRepeated? [] program.functions = none :=
        firstRepeated?_eq_none.mpr ⟨distinct, by simp⟩
      rw [h] at fresh
      cases fresh
    simp [repeated]

end Declarations

end RobotScribe
