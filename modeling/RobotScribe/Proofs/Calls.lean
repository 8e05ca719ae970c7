/-
# What a call can change

A function works in a frame of its own, in which its parameters are bound to the slots of the
arguments.  The slot of an argument for a reference parameter is that of a variable of the
caller; the slot of any other argument is made for the call, and no frame that is there binds
it.  So a call can change the variables that it is given by reference and nothing else, and
what it leaves in them is what its parameters had in the end.
-/
import RobotScribe.Proofs.Footprint

namespace RobotScribe

namespace Eval

open Machine

variable {functions : String → Option Function} {fuel : Nat} {here : Cursor}
  {function : Function} {param : Param} {params : List Param} {arg : Expr} {args : List Expr}
  {slot : Slot} {slots : List Slot} {m n : Machine}

/-! ## Arguments -/

/-- There is a slot for each parameter that has an argument. -/
lemma length_arguments
    (ran : arguments functions fuel here function params args m = some (.ok slots, n)) :
    slots.length = min params.length args.length := by
  induction params generalizing fuel args m slots with
  | nil =>
    cases fuel with
    | zero => cases ran
    | succ fuel =>
      unfold arguments at ran
      cases ran
      simp
  | cons param params ih =>
    cases fuel with
    | zero => cases ran
    | succ fuel =>
      unfold arguments at ran
      cases args with
      | nil =>
        cases ran
        simp
      | cons arg args =>
        obtain ⟨first, l, -, ran⟩ := bind_eq_ok.mp ran
        obtain ⟨rest, l', evaluated, ran⟩ := bind_eq_ok.mp ran
        cases ran
        simp only [List.length_cons, ih evaluated]
        omega

/-- Each slot is that of its argument, with whatever is done for the other arguments before and
after it. -/
lemma argument_of_arguments
    (ran : arguments functions fuel here function params args m = some (.ok slots, n)) {i : Nat}
    (hparam : params[i]? = some param) (harg : args[i]? = some arg)
    (hslot : slots[i]? = some slot) :
    ∃ fuel' l l', m.memory.Evolves l.memory ∧
      argument functions fuel' here function param arg l = some (.ok slot, l') ∧
      l'.memory.Evolves n.memory := by
  induction params generalizing fuel args m slots i with
  | nil => simp at hparam
  | cons first params ih =>
    cases fuel with
    | zero => cases ran
    | succ fuel =>
      unfold arguments at ran
      cases args with
      | nil => simp at harg
      | cons arg' args =>
        obtain ⟨slot', l, evaluated, ran⟩ := bind_eq_ok.mp ran
        obtain ⟨slots', l', rest, ran⟩ := bind_eq_ok.mp ran
        cases ran
        have contained := Footprint.contained functions fuel
        cases i with
        | zero =>
          simp only [List.getElem?_cons_zero, Option.some.injEq] at hparam harg hslot
          subst hparam harg hslot
          have after : Proceeds here.phase l n := contained.arguments _ _ _ _ rest
          exact ⟨fuel, m, l, .refl _, evaluated, after.memory⟩
        | succ i =>
          simp only [List.getElem?_cons_succ] at hparam harg hslot
          have before : Proceeds here.phase m l := contained.argument _ _ _ _ evaluated
          obtain ⟨fuel', k, k', first, own, last⟩ := ih rest hparam harg hslot
          exact ⟨fuel', k, k', before.memory.trans first, own, last⟩

/-- In code that runs, the argument for a reference parameter is a variable that has a slot,
and this is the slot that is handed over. -/
lemma argument_reference (runs : here.phase.executes = true) (reference : param.isReference = true)
    (ran : argument functions fuel here function param arg m = some (.ok slot, n)) :
    n = m ∧ ∃ name, arg.variableName? = some name ∧ m.memory.slot? name = some slot := by
  have wet : here.phase ≠ .dry := Phase.ne_dry_of_executes runs
  cases fuel with
  | zero => cases ran
  | succ fuel =>
    rw [argument, if_pos reference] at ran
    cases named : arg.variableName? with
    | none =>
      rw [named] at ran
      cases ran
    | some name =>
      rw [named] at ran
      obtain ⟨found, l, looked, ran⟩ := bind_eq_ok.mp ran
      cases looked
      cases bound : m.memory.slot? name with
      | none =>
        simp only [bound, if_neg wet] at ran
        cases ran
      | some found =>
        rw [bound] at ran
        cases ran
        exact ⟨rfl, name, rfl, bound⟩

/-- The slot of any other argument is new, and no frame binds it. -/
lemma argument_value (sound : m.memory.Sound) (value : param.isReference = false)
    (ran : argument functions fuel here function param arg m = some (.ok slot, n)) :
    ¬ m.memory.store.Has slot ∧ n.memory.store.Has slot ∧ n.memory.Unbound slot := by
  cases fuel with
  | zero => cases ran
  | succ fuel =>
    rw [argument, value, if_neg Bool.false_ne_true] at ran
    obtain ⟨result, l, evaluated, ran⟩ := bind_eq_ok.mp ran
    cases ran
    have before : Proceeds here.phase m l := (Footprint.contained functions fuel).expr _ _ evaluated
    have grown : m.memory.store.size ≤ l.memory.store.size := before.memory.store.size_le
    refine ⟨Nat.not_lt.mpr grown, ?_, (before.memory.sound sound).unbound_next⟩
    simp [Memory.alloc, Store.Has, Store.next, Store.alloc]

/-- The slot of an argument that is handed over by value was not there before the arguments,
and no frame binds it after them. -/
lemma own_of_arguments {start before : Machine} (sound : start.memory.Sound)
    (gathered : arguments functions fuel here function params args start =
      some (.ok slots, before)) {i : Nat}
    (hparam : params[i]? = some param) (hslot : slots[i]? = some slot)
    (value : param.isReference = false) :
    ¬ start.memory.store.Has slot ∧ before.memory.Unbound slot := by
  have length : slots.length = min params.length args.length := length_arguments gathered
  have bound : i < slots.length := (List.getElem?_eq_some_iff.mp hslot).1
  have harg : args[i]? = some args[i] := List.getElem?_eq_getElem (by omega)
  obtain ⟨_, l, l', first, own, last⟩ := argument_of_arguments gathered hparam harg hslot
  obtain ⟨new, has, unbound⟩ := argument_value (first.sound sound) value own
  refine ⟨fun had => new ?_, last.unbound has unbound⟩
  exact Nat.lt_of_lt_of_le had first.store.size_le

/-- The slot of an argument for a reference parameter is that of a variable of the caller, also
after the other arguments. -/
lemma reference_of_arguments {start before : Machine} (runs : here.phase.executes = true)
    (gathered : arguments functions fuel here function params args start =
      some (.ok slots, before)) {i : Nat}
    (hparam : params[i]? = some param) (harg : args[i]? = some arg)
    (reference : param.isReference = true) :
    ∃ slot name, slots[i]? = some slot ∧ arg.variableName? = some name ∧
      before.memory.slot? name = some slot := by
  have length : slots.length = min params.length args.length := length_arguments gathered
  have hi : i < params.length := (List.getElem?_eq_some_iff.mp hparam).1
  have hj : i < args.length := (List.getElem?_eq_some_iff.mp harg).1
  have hslot : slots[i]? = some slots[i] := List.getElem?_eq_getElem (by omega)
  obtain ⟨_, l, l', -, own, last⟩ := argument_of_arguments gathered hparam harg hslot
  obtain ⟨rfl, name, named, bound⟩ := argument_reference runs reference own
  exact ⟨slots[i], name, hslot, named, last.slot?_eq bound⟩

/-! ## Bodies -/

/-- A function that comes to its end has run its body in a frame of its own, which is gone
afterwards. -/
lemma runFunction_eq_ok {body : Cursor} {result : Value}
    (ran : runFunction functions fuel body function slots m = some (.ok result, n)) :
    ∃ fuel' entered flow ended, enter function slots m.line m = some (.ok (), entered) ∧
      stmts functions fuel' body.deeper function.body.stmts entered = some (.ok flow, ended) ∧
      entered.memory.Evolves ended.memory ∧
      n.memory = ⟨m.memory.frames, ended.memory.store⟩ := by
  cases fuel with
  | zero => cases ran
  | succ fuel =>
    rw [runFunction_succ] at ran
    obtain ⟨callLine, _, line, ran⟩ := bind_eq_ok.mp ran
    cases line
    obtain ⟨_, entered, enters, ran⟩ := bind_eq_ok.mp ran
    obtain ⟨flow, ended, ran, left⟩ := bind_eq_ok.mp ran
    have proceeds : Proceeds body.deeper.phase entered ended :=
      (Footprint.contained functions fuel).stmts _ trivial _ ran
    refine ⟨fuel, entered, flow, ended, enters, ran, proceeds.memory, ?_⟩
    obtain ⟨-, trace, rfl⟩ := Footprint.leave_eq_ok left
    obtain ⟨trace', rfl⟩ := Footprint.enter_eq_ok enters
    have handed : ∀ slot ∈ ((function.params.map (·.name.name)).zip slots).map Prod.snd,
        slot ∈ ((function.params.map (·.name.name)).zip slots).map Prod.snd := fun _ mem => mem
    obtain ⟨frame, called⟩ := Memory.Called.of_evolves proceeds.memory handed
    simp [Memory.pop, called.frames]

/-- A parameter whose name no other parameter has is bound to the slot of its argument when the
body starts. -/
lemma slot?_of_enter {callLine : UInt32} {entered : Machine}
    (enters : enter function slots callLine m = some (.ok (), entered)) {i : Nat}
    (hparam : function.params[i]? = some param) (hslot : slots[i]? = some slot)
    (unique : ∀ j other, function.params[j]? = some other →
      other.name.name = param.name.name → j = i) :
    entered.memory.slot? param.name.name = some slot := by
  obtain ⟨trace, rfl⟩ := Footprint.enter_eq_ok enters
  refine Frame.slot?_bindAll ?_ (Or.inr ⟨(param.name.name, slot), ?_, rfl⟩)
  · rintro ⟨name, other⟩ mem same
    obtain ⟨j, at_⟩ := List.mem_iff_getElem?.mp mem
    rw [List.getElem?_zip_eq_some, List.getElem?_map, Option.map_eq_some_iff] at at_
    obtain ⟨⟨param', hparam', rfl⟩, hother⟩ := at_
    have here : j = i := unique j param' hparam' same
    rw [here, hslot] at hother
    exact (Option.some.inj hother).symm
  · refine List.mem_iff_getElem?.mpr ⟨i, ?_⟩
    rw [List.getElem?_zip_eq_some, List.getElem?_map, hparam]
    exact ⟨rfl, hslot⟩

/-! ## The call -/

/-- What a call of a function leaves alone, and what it gives back.  The machine is `start`
before the arguments, `before` after them, and `after` when the function has come to its end or
has been stopped. -/
structure ChangesOnlyReferences (functions : String → Option Function) (body : Cursor)
    (function : Function) (args : List Expr) (slots : List Slot) (start before after : Machine)
    (outcome : Except Fault Value) : Prop where
  /-- A slot that is not the slot of an argument keeps its value. -/
  values : ∀ slot, before.memory.store.Has slot → slot ∉ slots →
    after.memory.store.read slot = before.memory.store.read slot
  /-- So does a slot that was there before the arguments, unless it is that of an argument by
  reference. -/
  earlier : ∀ slot, start.memory.store.Has slot →
    (∀ (i : Nat) (param : Param), function.params[i]? = some param → slots[i]? = some slot →
      param.isReference = false) →
    after.memory.store.read slot = before.memory.store.read slot
  /-- The frames that were there are there with the same names, each with the same slot. -/
  frames : ∃ above, after.memory.frames = above ++ before.memory.frames
  /-- The slot of an argument that is handed over by value is new, and no frame binds it. -/
  own : ∀ (i : Nat) (param : Param) slot, function.params[i]? = some param → slots[i]? = some slot →
    param.isReference = false → ¬ start.memory.store.Has slot ∧ before.memory.Unbound slot
  /-- If the function comes to its end no frame is left over. -/
  depth : ∀ result, outcome = .ok result → after.memory.frames = before.memory.frames
  /-- If the function comes to its end, then the variable of the caller that was handed over
  for a reference parameter, whose name no other parameter has, holds what this name had in
  the frame of the function at the end of its body. -/
  references : ∀ result, outcome = .ok result → ∃ fuel entered flow ended,
    enter function slots before.line before = some (.ok (), entered) ∧
    stmts functions fuel body.deeper function.body.stmts entered = some (.ok flow, ended) ∧
    ∀ (i : Nat) (param : Param) arg, function.params[i]? = some param → args[i]? = some arg →
      param.isReference = true →
      (∀ (j : Nat) (other : Param), function.params[j]? = some other →
        other.name.name = param.name.name → j = i) →
      ∃ name value, arg.variableName? = some name ∧
        ended.memory.get? param.name.name = some value ∧
        after.memory.get? name = some value

/-- **A call can change only what it was given by reference**, and the slots that were made for
its other arguments.  This holds of every function that runs on slots that were gathered for
its parameters, whether it comes to its end or is stopped, and however the names in the frames
share slots. -/
theorem call_changes_only_references (functions : String → Option Function) {fuel fuel' : Nat}
    {here body : Cursor} {function : Function} {args : List Expr} {slots : List Slot}
    {start before after : Machine} {outcome : Except Fault Value}
    (sound : start.memory.Sound) (runs : here.phase.executes = true)
    (gathered : arguments functions fuel here function function.params args start =
      some (.ok slots, before))
    (ran : runFunction functions fuel' body function slots before = some (outcome, after)) :
    ChangesOnlyReferences functions body function args slots start before after outcome := by
  obtain ⟨above, called, -⟩ := (Footprint.callDoes functions ran).memory
  have own : ∀ (i : Nat) (param : Param) slot, function.params[i]? = some param →
      slots[i]? = some slot → param.isReference = false →
      ¬ start.memory.store.Has slot ∧ before.memory.Unbound slot :=
    fun i param slot hparam hslot value => own_of_arguments sound gathered hparam hslot value
  refine ⟨called.store.read_eq, ?_, ⟨above, called.frames⟩, own, ?_, ?_⟩
  · intro slot had byValue
    have evolves : Proceeds here.phase start before :=
      (Footprint.contained functions fuel).arguments _ _ _ _ gathered
    have has : before.memory.store.Has slot :=
      Nat.lt_of_lt_of_le had evolves.memory.store.size_le
    refine called.store.read_eq slot has fun mem => ?_
    obtain ⟨i, hslot⟩ := List.mem_iff_getElem?.mp mem
    have length : slots.length = min function.params.length args.length :=
      length_arguments gathered
    have bound : i < slots.length := (List.getElem?_eq_some_iff.mp hslot).1
    have hparam : function.params[i]? = some function.params[i] :=
      List.getElem?_eq_getElem (by omega)
    exact (own i _ slot hparam hslot (byValue i _ hparam hslot)).1 had
  · rintro result rfl
    obtain ⟨_, _, _, ended, -, -, -, memory⟩ := runFunction_eq_ok ran
    rw [memory]
  · rintro result rfl
    obtain ⟨k, entered, flow, ended, enters, body, evolves, memory⟩ := runFunction_eq_ok ran
    refine ⟨k, entered, flow, ended, enters, body, ?_⟩
    intro i param arg hparam harg reference unique
    obtain ⟨slot, name, hslot, named, outer⟩ :=
      reference_of_arguments runs gathered hparam harg reference
    -- the name of the caller and the name of the function share a slot, from start to end
    have inner : ended.memory.slot? param.name.name = some slot :=
      evolves.slot?_eq (slot?_of_enter enters hparam hslot unique)
    have still : after.memory.slot? name = some slot := by
      rw [memory]
      exact outer
    refine ⟨name, ended.memory.store.read slot, named, ?_, ?_⟩
    · rw [Memory.get?, inner]
      rfl
    · rw [Memory.get?, still, memory]
      rfl

/-! ## One variable for two parameters -/

/-- A function of two reference parameters and a value. -/
def raising : Function where
  name := ⟨"raise", .unknown⟩
  params := [.byReference ⟨"a", .unknown⟩, .byReference ⟨"b", .unknown⟩, .byValue ⟨"c", .unknown⟩]
  returns := none
  body := ⟨[.assign (.var ⟨"a", .unknown⟩) (.integer 4 .unknown) .unknown,
    .assign (.var ⟨"c", .unknown⟩) (.var "b" .unknown) .unknown,
    .assign (.var ⟨"b", .unknown⟩)
      (.binary (.var "c" .unknown) (.arithmetic .add) (.var "b" .unknown) .unknown) .unknown],
    .unknown⟩
  span := .unknown

/-- A main function with one variable. -/
def counting : Machine where
  memory := ⟨[⟨"main", 0, [("x", ⟨0⟩)]⟩], ⟨#[.integer 3]⟩⟩
  transcript := .empty
  input := ⟨[], []⟩
  trace := none
  line := 1

lemma sound_counting : counting.memory.Sound := by
  intro frame mem slot bound
  simp only [counting, List.mem_singleton] at mem
  subst mem
  simp only [Frame.slots, List.map_cons, List.map_nil, List.mem_singleton] at bound
  subst bound
  exact Nat.zero_lt_one

/-- The main function once its variable has been handed over twice, and its value once. -/
def handing : Machine :=
  { counting with memory := counting.memory.alloc ((Value.integer 3).withText "x") }

theorem call_changes_only_references_raising : ∃ outcome after,
    arguments (fun _ => none) 9 ⟨1, .live⟩ raising raising.params
      [.var "x" .unknown, .var "x" .unknown, .var "x" .unknown] counting =
      some (.ok [⟨0⟩, ⟨0⟩, ⟨1⟩], handing) ∧
    runFunction (fun _ => none) 9 ⟨0, .silent⟩ raising [⟨0⟩, ⟨0⟩, ⟨1⟩] handing =
      some (outcome, after) ∧
    outcome.isOk = true ∧
    (after.memory.get? "x").map Value.payload = some (.integer 8) ∧
    ChangesOnlyReferences (fun _ => none) ⟨0, .silent⟩ raising
      [.var "x" .unknown, .var "x" .unknown, .var "x" .unknown] [⟨0⟩, ⟨0⟩, ⟨1⟩] counting handing
      after outcome := by
  have gathered : arguments (fun _ => none) 9 ⟨1, .live⟩ raising raising.params
      [.var "x" .unknown, .var "x" .unknown, .var "x" .unknown] counting =
      some (.ok [⟨0⟩, ⟨0⟩, ⟨1⟩], handing) := rfl
  have returns :
      (runFunction (fun _ => none) 9 ⟨0, .silent⟩ raising [⟨0⟩, ⟨0⟩, ⟨1⟩] handing).map
        (fun stop => (stop.1.isOk, (stop.2.memory.get? "x").map Value.payload)) =
      some (true, some (.integer 8)) := by
    decide +kernel
  obtain ⟨⟨outcome, after⟩, ran, seen⟩ := Option.map_eq_some_iff.mp returns
  obtain ⟨ends, raised⟩ := Prod.mk.inj seen
  exact ⟨outcome, after, gathered, ran, ends, raised,
    call_changes_only_references _ sound_counting rfl gathered ran⟩

/-! ## The slot of a value -/

/-- A function that assigns to its parameter and then stops. -/
def overwriting : Function where
  name := ⟨"f", .unknown⟩
  params := [.byValue ⟨"p", .unknown⟩]
  returns := none
  body := ⟨[.assign (.var ⟨"p", .unknown⟩) (.integer 5 .unknown) .unknown,
    .write (.var "q" .unknown) .unknown], .unknown⟩
  span := .unknown

/-- The main function once the number one has been handed over. -/
def handingOne : Machine := { counting with memory := counting.memory.alloc (.integer 1) }

/-- The slot of an argument by value is there before the function runs, it is not the slot of
an argument by reference, and still its value changes: it is what the function's own parameter
is bound to. -/
theorem value_argument_overwritten : ∃ outcome after slot,
    counting.memory.Sound ∧
    arguments (fun _ => none) 9 ⟨1, .live⟩ overwriting overwriting.params
      [.integer 1 .unknown] counting = some (.ok [slot], handingOne) ∧
    runFunction (fun _ => none) 9 ⟨0, .silent⟩ overwriting [slot] handingOne =
      some (outcome, after) ∧
    handingOne.memory.store.Has slot ∧
    (∀ param ∈ overwriting.params, param.isReference = false) ∧
    handingOne.memory.store.read slot = .integer 1 ∧
    after.memory.store.read slot = .integer 5 ∧
    after.memory.get? "p" = some (.integer 5) := by
  have stops :
      (runFunction (fun _ => none) 9 ⟨0, .silent⟩ overwriting [⟨1⟩] handingOne).map
        (fun stop => (stop.2.memory.store.read ⟨1⟩, stop.2.memory.get? "p")) =
      some (.integer 5, some (.integer 5)) := by
    decide +kernel
  obtain ⟨⟨outcome, after⟩, ran, seen⟩ := Option.map_eq_some_iff.mp stops
  obtain ⟨written, shown⟩ := Prod.mk.inj seen
  exact ⟨outcome, after, ⟨1⟩, sound_counting, rfl, ran, Nat.one_lt_two, by decide, rfl, written,
    shown⟩

end Eval

end RobotScribe
