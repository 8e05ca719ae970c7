/-
# Texts of programs

A program that is written as a JSON text is read back from it, and so is every part of it that has
a JSON form of its own.  Each part is read back from its JSON form, and the form is plain, so a
library that does what is documented reads it back from its text.  Nothing else is assumed of the
library.  Whether it has a limit to nesting is left open.

Reading a form descends as far as the form is high.  An expression takes two steps for each level,
because its form and its content are levels of their own.
-/
import RobotScribe.Proofs.JsonText
import RobotScribe.Syntax.Decode
import RobotScribe.Syntax.Encode
import Mathlib.Data.List.Nodup

namespace RobotScribe

/-! ## Records -/

namespace Json

/-- The members of an object with fields of given names; an absent field has no member. -/
def present : List String → List (Option Json) → List (String × Json)
  | name :: names, some value :: values => (name, value) :: present names values
  | _ :: names, none :: values => present names values
  | _, _ => []

lemma keys_present : ∀ names values,
    ((present names values).map (·.1)).Sublist names
  | [], _ => by simp [present]
  | _ :: _, [] => by simp [present]
  | _ :: names, some _ :: values => (keys_present names values).cons_cons _
  | _ :: names, none :: values => (keys_present names values).cons _

lemma lookup_present_of_notMem {name : String} {names : List String} (other : name ∉ names)
    (values : List (Option Json)) : (present names values).lookup name = none := by
  rw [List.lookup_eq_none_iff]
  intro member mem
  have key : member.1 ∈ names := (keys_present names values).subset (List.mem_map_of_mem mem)
  simpa using fun same : name = member.1 => other (same ▸ key)

lemma map_lookup_present : ∀ {names : List String} {values : List (Option Json)}, names.Nodup →
    names.length = values.length →
      names.map (fun name => (present names values).lookup name) = values
  | [], [], _, _ => rfl
  | name :: names, some value :: values, distinct, same => by
    obtain ⟨other, distinct⟩ := List.nodup_cons.mp distinct
    have others : names.map (fun n => ((name, value) :: present names values).lookup n) =
        names.map (fun n => (present names values).lookup n) := by
      refine List.map_congr_left fun n mem => ?_
      have ne : (n == name) = false := by
        rw [beq_eq_false_iff_ne]
        rintro rfl
        exact other mem
      rw [List.lookup_cons, ne]
    rw [List.map_cons, present, others, map_lookup_present distinct (Nat.succ.inj same),
      List.lookup_cons_self]
  | name :: names, none :: values, distinct, same => by
    obtain ⟨other, distinct⟩ := List.nodup_cons.mp distinct
    rw [List.map_cons, present, map_lookup_present distinct (Nat.succ.inj same),
      lookup_present_of_notMem other]

/-- A record whose names are distinct is read as its fields. -/
lemma record?_eq {value : Json} {names : List String} {values : List (Option Json)}
    (form : value = object (present names values)) (distinct : names.Nodup)
    (same : names.length = values.length) : value.record? names = some values := by
  have once : names.any (repeats (present names values)) = false := by
    rw [List.any_eq_false]
    intro name _
    have count := (List.nodup_iff_count_le_one.mp ((keys_present names values).nodup distinct)) name
    rw [List.count, List.countP_map, List.countP_eq_length_filter] at count
    simpa [repeats, Function.comp_def] using count
  rw [form, record?, once, if_neg Bool.false_ne_true, map_lookup_present distinct same]

/-- An alternative with content is read as its tag and its content. -/
@[simp] lemma alternative?_tagged (tag : String) (content : Json) :
    (tagged tag content).alternative? = some (tag, some content) := rfl

/-- An alternative without content is read by its key. -/
@[simp] lemma keyed?_string {α : Type} (ofKey? : String → Option α) (key : String) :
    (string key).keyed? ofKey? = ofKey? key := rfl

/-- A part that is present and an object is read as it is. -/
lemma optional?_object {α : Type} (read : Json → Option α) {value : Json}
    (object : ∃ members, value = .object members) :
    optional? read (some value) = (read value).map some := by
  obtain ⟨members, rfl⟩ := object
  rfl

lemma height_pos (value : Json) : 0 < value.height := by
  cases value <;> simp [height]

/-- Fuel for the height of a value is fuel for a step. -/
lemma exists_step {value : Json} {fuel : Nat} (deep : value.height ≤ fuel) :
    ∃ below, fuel = below + 1 := by
  have positive := value.height_pos
  exact ⟨fuel - 1, by omega⟩

/-- The value of a member is less high than its object. -/
lemma height_member (key : String) {value : Json} {members : List (String × Json)}
    (mem : (key, value) ∈ members) : value.height < (object members).height := by
  have within : value.height ≤ heightOfMembers members := by
    induction members with
    | nil => cases mem
    | cons member members ih =>
      obtain ⟨key', other⟩ := member
      rw [heightOfMembers]
      rcases List.mem_cons.mp mem with same | later
      · obtain ⟨rfl, rfl⟩ := Prod.mk.inj same
        exact Nat.le_max_left _ _
      · exact Nat.le_trans (ih later) (Nat.le_max_right _ _)
  exact Nat.lt_succ_of_le within

end Json

/-! ## Positions, names and parameters -/

@[simp] lemma decodePosition_int (n : UInt32) : decodePosition (.int n.toNat) = some n := by
  rw [decodePosition, Json.int?, Option.bind_some, Text.exactUInt32?_toNat]

@[simp] lemma Span.decode_encode (s : Span) : Span.decode s.encode = some s := by
  have fields : s.encode.record? ["start_line", "start_col", "end_line", "end_col"] =
      some [some (.int s.startLine.toNat), some (.int s.startCol.toNat),
        some (.int s.endLine.toNat), some (.int s.endCol.toNat)] :=
    Json.record?_eq rfl (by decide) rfl
  simp [Span.decode, fields]

@[simp] lemma Ident.decode_encode (i : Ident) : Ident.decode i.encode = some i := by
  have fields : i.encode.record? ["name", "span"] =
      some [some (.string i.name), some i.span.encode] :=
    Json.record?_eq rfl (by decide) rfl
  simp [Ident.decode, fields, Json.string?]

@[simp] lemma PassMode.decode_key (mode : PassMode) :
    PassMode.decode (.string mode.key) = some mode := ofKey?_key mode

@[simp] lemma TypeKind.decode_key (kind : TypeKind) :
    TypeKind.decode (.string kind.key) = some kind := ofKey?_key kind

@[simp] lemma Color.decode_key (color : Color) :
    Color.decode (.string color.key) = some color := ofKey?_key color

@[simp] lemma Actuator.decode_key (actuator : Actuator) :
    Actuator.decode (.string actuator.key) = some actuator := ofKey?_key actuator

@[simp] lemma BinOp.decode_key (op : BinOp) : BinOp.decode (.string op.key) = some op :=
  ofKey?_key op

@[simp] lemma UnaryOp.decode_key (op : UnaryOp) : UnaryOp.decode (.string op.key) = some op :=
  ofKey?_key op

@[simp] lemma Param.decode_encode (p : Param) : Param.decode p.encode = some p := by
  have fields : p.encode.record? ["name", "mode", "kind", "span"] =
      some [some p.name.encode, some (.string p.mode.key), some (.string p.kind.key),
        some p.span.encode] :=
    Json.record?_eq rfl (by decide) rfl
  simp [Param.decode, fields, decodeParamKind]

/-! ## Expressions -/

/-- Two levels below the form of an expression stands its content. -/
lemma Expr.height_content (tag : String) (content : Json) (s : Span) :
    content.height + 2 ≤ (Expr.encode.node (.tagged tag content) s).height := by
  have kind : (Json.tagged tag content).height <
      (Expr.encode.node (.tagged tag content) s).height :=
    Json.height_member _ List.mem_cons_self
  have inner : content.height < (Json.tagged tag content).height :=
    Json.height_member _ List.mem_cons_self
  omega

/-- The form of an expression is an object, so it is not taken for a missing part. -/
lemma Expr.encode_eq_object (e : Expr) : ∃ members, e.encode = .object members := by
  cases e <;> exact ⟨_, rfl⟩

/-- An expression is read from its tag and its content. -/
lemma decodeExpr_node {fuel : Nat} (tag : String) (content : Json) (s : Span) :
    decodeExpr (fuel + 1) (Expr.encode.node (.tagged tag content) s) =
      decodeForm fuel tag content s := by
  have fields : (Expr.encode.node (.tagged tag content) s).record? ["kind", "span"] =
      some [some (.tagged tag content), some s.encode] :=
    Json.record?_eq rfl (by decide) rfl
  simp [decodeExpr, fields]

mutual

/-- An expression is read back from its JSON form. -/
theorem decodeExpr_encode (fuel : Nat) (e : Expr) (deep : 2 * e.encode.height ≤ fuel) :
    decodeExpr fuel e.encode = some e := by
  -- one step for the form, and one for the content
  obtain ⟨fuel, rfl⟩ : ∃ below, fuel = below + 2 := by
    have positive := e.encode.height_pos
    exact ⟨fuel - 2, by omega⟩
  cases e with
  | integer n s =>
    rw [Expr.encode, decodeExpr_node]
    simp [decodeForm, Json.int?, Text.exactInt64?_toInt]
  | boolean b s =>
    rw [Expr.encode, decodeExpr_node]
    simp [decodeForm, Json.bool?]
  | string text s =>
    rw [Expr.encode, decodeExpr_node]
    simp [decodeForm, Json.string?]
  | color c s =>
    rw [Expr.encode, decodeExpr_node]
    simp [decodeForm]
  | var name s =>
    rw [Expr.encode, decodeExpr_node]
    simp [decodeForm, Json.string?]
  | element array index s =>
    rw [Expr.encode] at deep ⊢
    -- of the content only its members matter, so that its height stays a variable
    generalize form : Json.object _ = content at deep ⊢
    have inner := Expr.height_content "Index" content s
    have below : index.encode.height < content.height := by
      rw [← form]
      exact Json.height_member "index" (by simp)
    have fields : content.record? ["array", "index"] =
        some [some array.encode, some index.encode] :=
      Json.record?_eq form.symm (by decide) rfl
    rw [decodeExpr_node]
    simp [decodeForm, fields, decodeExpr_encode fuel index (by omega)]
  | call site s =>
    rw [Expr.encode] at deep ⊢
    have inner := Expr.height_content "Call" site.encode s
    rw [decodeExpr_node]
    simp [decodeForm, decodeCall_encode fuel site (by omega)]
  | sense sensor s =>
    rw [Expr.encode] at deep ⊢
    have inner := Expr.height_content "Sense" sensor.encode s
    rw [decodeExpr_node]
    simp [decodeForm, decodeSensor_encode fuel sensor (by omega)]
  | binary left op right s =>
    rw [Expr.encode] at deep ⊢
    generalize form : Json.object _ = content at deep ⊢
    have inner := Expr.height_content "Binary" content s
    have leftBelow : left.encode.height < content.height := by
      rw [← form]
      exact Json.height_member "left" (by simp)
    have rightBelow : right.encode.height < content.height := by
      rw [← form]
      exact Json.height_member "right" (by simp)
    have fields : content.record? ["left", "op", "right"] =
        some [some left.encode, some (.string op.key), some right.encode] :=
      Json.record?_eq form.symm (by decide) rfl
    rw [decodeExpr_node]
    simp [decodeForm, fields, decodeExpr_encode fuel left (by omega),
      decodeExpr_encode fuel right (by omega)]
  | unary op operand s =>
    rw [Expr.encode] at deep ⊢
    generalize form : Json.object _ = content at deep ⊢
    have inner := Expr.height_content "Unary" content s
    have below : operand.encode.height < content.height := by
      rw [← form]
      exact Json.height_member "operand" (by simp)
    have fields : content.record? ["op", "operand"] =
        some [some (.string op.key), some operand.encode] :=
      Json.record?_eq form.symm (by decide) rfl
    rw [decodeExpr_node]
    simp [decodeForm, fields, decodeExpr_encode fuel operand (by omega)]
  | paren inner s =>
    rw [Expr.encode] at deep ⊢
    have below := Expr.height_content "Paren" inner.encode s
    rw [decodeExpr_node]
    simp [decodeForm, decodeExpr_encode fuel inner (by omega)]

/-- A call is read back from its JSON form. -/
theorem decodeCall_encode (fuel : Nat) : ∀ site : Call, 2 * site.encode.height ≤ fuel →
    decodeCall fuel site.encode = some site
  | ⟨name, args, span⟩, deep => by
    have step : (Call.mk name args span).encode.height ≤ fuel := by omega
    obtain ⟨fuel, rfl⟩ := Json.exists_step step
    have fields : (Call.mk name args span).encode.record? ["name", "args", "span"] =
        some [some name.encode, some (.array (encodeExprs args)), some span.encode] :=
      Json.record?_eq rfl (by decide) rfl
    have below : (Json.array (encodeExprs args)).height < (Call.mk name args span).encode.height :=
      Json.height_member "args" (by simp)
    rw [Json.height] at below
    have items := mapM_decodeExpr_encode fuel args (by omega)
    simp [decodeCall, fields, Json.arrayOf?, Json.array?, items]

/-- A sensor is read back from its JSON form. -/
theorem decodeSensor_encode (fuel : Nat) (sensor : Sensor)
    (deep : 2 * sensor.encode.height ≤ fuel) :
    decodeSensor fuel sensor.encode = some sensor := by
  have step : sensor.encode.height ≤ fuel := by omega
  obtain ⟨fuel, rfl⟩ := Json.exists_step step
  cases sensor with
  | feel => rfl
  | infrared => rfl
  | bumper => rfl
  | compass => rfl
  | beacon color =>
    cases color <;> rfl
  | look direction =>
    -- the direction is an object, so this is not taken for a sensor without one
    rw [Sensor.encode] at deep ⊢
    have below : direction.encode.height < (Json.tagged "look" direction.encode).height :=
      Json.height_member _ List.mem_cons_self
    have content : (Json.tagged "look" direction.encode).constant? = none := by
      obtain ⟨members, object⟩ := direction.encode_eq_object
      rw [object]
      rfl
    simp [decodeSensor, content, decodeExpr_encode fuel direction (by omega)]

/-- A list of expressions is read back from its JSON form, item by item. -/
theorem mapM_decodeExpr_encode (fuel : Nat) : ∀ es : List Expr,
    2 * Json.heightOfItems (encodeExprs es) ≤ fuel →
      (encodeExprs es).mapM (decodeExpr fuel) = some es
  | [], _ => rfl
  | e :: es, deep => by
    rw [encodeExprs, Json.heightOfItems] at deep
    simp [encodeExprs, decodeExpr_encode fuel e (by omega),
      mapM_decodeExpr_encode fuel es (by omega)]

end

@[simp] lemma Expr.decode_encode (e : Expr) : Expr.decode e.encode = some e :=
  decodeExpr_encode _ e (Nat.le_refl _)

@[simp] lemma Call.decode_encode (site : Call) : Call.decode site.encode = some site :=
  decodeCall_encode _ site (Nat.le_refl _)

@[simp] lemma Sensor.decode_encode (sensor : Sensor) : Sensor.decode sensor.encode = some sensor :=
  decodeSensor_encode _ sensor (Nat.le_refl _)

@[simp] lemma arrayOf?_encodeExprs (es : List Expr) :
    (Json.array (encodeExprs es)).arrayOf? Expr.decode = some es := by
  have items : (encodeExprs es).mapM Expr.decode = some es := by
    induction es with
    | nil => rfl
    | cons e es ih => simp [encodeExprs, ih]
  rw [Json.arrayOf?, Json.array?, Option.bind_some, items]

@[simp] lemma optional?_orNull (value : Option Expr) :
    Json.optional? Expr.decode (some (.orNull Expr.encode value)) = some value := by
  cases value with
  | none => rfl
  | some e =>
    rw [Json.orNull, Json.optional?_object _ e.encode_eq_object, e.decode_encode, Option.map_some]

/-! ## Statements -/

@[simp] lemma Target.decode_encode (target : Target) :
    Target.decode target.encode = some target := by
  cases target with
  | var name => simp [Target.encode, Target.decode]
  | element array index =>
    have fields : (Json.object [("array", array.encode), ("index", index.encode)]).record?
        ["array", "index"] = some [some array.encode, some index.encode] :=
      Json.record?_eq rfl (by decide) rfl
    simp [Target.encode, Target.decode, fields]

/-- The form of a block is an object, so it is not taken for a missing branch. -/
lemma Block.encode_eq_object (block : Block) : ∃ members, block.encode = .object members := by
  cases block
  exact ⟨_, rfl⟩

mutual

/-- A statement is read back from its JSON form. -/
theorem decodeStmt_encode (fuel : Nat) (statement : Stmt)
    (deep : statement.encode.height ≤ fuel) :
    decodeStmt fuel statement.encode = some statement := by
  obtain ⟨fuel, rfl⟩ := Json.exists_step deep
  cases statement with
  | assign target value s =>
    have fields : (Json.object [("target", target.encode), ("value", value.encode),
        ("span", s.encode)]).record? ["target", "value", "span"] =
          some [some target.encode, some value.encode, some s.encode] :=
      Json.record?_eq rfl (by decide) rfl
    simp [Stmt.encode, decodeStmt, fields]
  | ifThen condition thenBlock elseBlock s =>
    rw [Stmt.encode] at deep ⊢
    generalize form : Json.object _ = content at deep ⊢
    have inner : content.height < (Json.tagged "If" content).height :=
      Json.height_member _ List.mem_cons_self
    have thenBelow : thenBlock.encode.height < content.height := by
      rw [← form]
      exact Json.height_member "then_block" (by simp)
    have elseBelow : (encodeElse elseBlock).height < content.height := by
      rw [← form]
      exact Json.height_member "else_block" (by simp)
    have fields : content.record? ["condition", "then_block", "else_block", "span"] =
        some [some condition.encode, some thenBlock.encode, some (encodeElse elseBlock),
          some s.encode] :=
      Json.record?_eq form.symm (by decide) rfl
    simp [decodeStmt, fields, decodeBlock_encode fuel thenBlock (by omega),
      optional?_encodeElse fuel elseBlock (by omega)]
  | whileDo condition body s =>
    rw [Stmt.encode] at deep ⊢
    generalize form : Json.object _ = content at deep ⊢
    have inner : content.height < (Json.tagged "While" content).height :=
      Json.height_member _ List.mem_cons_self
    have below : body.encode.height < content.height := by
      rw [← form]
      exact Json.height_member "body" (by simp)
    have fields : content.record? ["condition", "body", "span"] =
        some [some condition.encode, some body.encode, some s.encode] :=
      Json.record?_eq form.symm (by decide) rfl
    simp [decodeStmt, fields, decodeBlock_encode fuel body (by omega)]
  | giveBack value s =>
    have fields : (Json.object [("value", .orNull Expr.encode value),
        ("span", s.encode)]).record? ["value", "span"] =
          some [some (.orNull Expr.encode value), some s.encode] :=
      Json.record?_eq rfl (by decide) rfl
    simp [Stmt.encode, decodeStmt, fields]
  | read target s =>
    have fields : (Json.object [("target", target.encode), ("span", s.encode)]).record?
        ["target", "span"] = some [some target.encode, some s.encode] :=
      Json.record?_eq rfl (by decide) rfl
    simp [Stmt.encode, decodeStmt, fields]
  | write value s =>
    have fields : (Json.object [("value", value.encode), ("span", s.encode)]).record?
        ["value", "span"] = some [some value.encode, some s.encode] :=
      Json.record?_eq rfl (by decide) rfl
    simp [Stmt.encode, decodeStmt, fields]
  | actuate actuator args s =>
    have fields : (Json.object [("actuator", .string actuator.key),
        ("args", .array (encodeExprs args)), ("span", s.encode)]).record?
          ["actuator", "args", "span"] =
        some [some (.string actuator.key), some (.array (encodeExprs args)), some s.encode] :=
      Json.record?_eq rfl (by decide) rfl
    simp [Stmt.encode, decodeStmt, fields]
  | paint color s =>
    have fields : (Json.object [("color", color.encode), ("span", s.encode)]).record?
        ["color", "span"] = some [some color.encode, some s.encode] :=
      Json.record?_eq rfl (by decide) rfl
    simp [Stmt.encode, decodeStmt, fields]
  | pen down s =>
    have fields : (Json.object [("down", .bool down), ("span", s.encode)]).record?
        ["down", "span"] = some [some (.bool down), some s.encode] :=
      Json.record?_eq rfl (by decide) rfl
    simp [Stmt.encode, decodeStmt, fields, Json.bool?]
  | sense sensor s =>
    have fields : (Json.object [("sensor", sensor.encode), ("span", s.encode)]).record?
        ["sensor", "span"] = some [some sensor.encode, some s.encode] :=
      Json.record?_eq rfl (by decide) rfl
    simp [Stmt.encode, decodeStmt, fields]
  | call site => simp [Stmt.encode, decodeStmt]

/-- A block is read back from its JSON form. -/
theorem decodeBlock_encode (fuel : Nat) : ∀ block : Block, block.encode.height ≤ fuel →
    decodeBlock fuel block.encode = some block
  | ⟨stmts, span⟩, deep => by
    obtain ⟨fuel, rfl⟩ := Json.exists_step deep
    have fields : (Block.mk stmts span).encode.record? ["stmts", "span"] =
        some [some (.array (encodeStmts stmts)), some span.encode] :=
      Json.record?_eq rfl (by decide) rfl
    have below : (Json.array (encodeStmts stmts)).height < (Block.mk stmts span).encode.height :=
      Json.height_member "stmts" (by simp)
    rw [Json.height] at below
    have items := mapM_decodeStmt_encode fuel stmts (by omega)
    simp [decodeBlock, fields, Json.arrayOf?, Json.array?, items]

/-- A second branch is read back from its JSON form, also when there is none. -/
theorem optional?_encodeElse (fuel : Nat) : ∀ branch : Option Block,
    (encodeElse branch).height ≤ fuel →
      Json.optional? (decodeBlock fuel) (some (encodeElse branch)) = some branch
  | none, _ => rfl
  | some block, deep => by
    rw [encodeElse, Json.optional?_object _ block.encode_eq_object,
      decodeBlock_encode fuel block deep, Option.map_some]

/-- A list of statements is read back from its JSON form, item by item. -/
theorem mapM_decodeStmt_encode (fuel : Nat) : ∀ stmts : List Stmt,
    Json.heightOfItems (encodeStmts stmts) ≤ fuel →
      (encodeStmts stmts).mapM (decodeStmt fuel) = some stmts
  | [], _ => rfl
  | statement :: stmts, deep => by
    rw [encodeStmts, Json.heightOfItems] at deep
    simp [encodeStmts, decodeStmt_encode fuel statement (by omega),
      mapM_decodeStmt_encode fuel stmts (by omega)]

end

@[simp] lemma Stmt.decode_encode (statement : Stmt) :
    Stmt.decode statement.encode = some statement :=
  decodeStmt_encode _ statement (Nat.le_refl _)

@[simp] lemma Block.decode_encode (block : Block) : Block.decode block.encode = some block :=
  decodeBlock_encode _ block (Nat.le_refl _)

/-! ## Functions and programs -/

/-- Items that are read back one by one are read back as an array. -/
lemma Json.arrayOf?_map {α : Type} {encode : α → Json} {decode : Json → Option α}
    (back : ∀ item, decode (encode item) = some item) (items : List α) :
    (Json.array (items.map encode)).arrayOf? decode = some items := by
  have each : (items.map encode).mapM decode = some items := by
    induction items with
    | nil => rfl
    | cons item items ih => simp [back, ih]
  rw [Json.arrayOf?, Json.array?, Option.bind_some, each]

@[simp] lemma Function.decode_encode (f : Function) : Function.decode f.encode = some f := by
  obtain ⟨name, params, returns, body, span⟩ := f
  have all := Json.arrayOf?_map Param.decode_encode params
  cases returns with
  | none =>
    -- a function that declares no result has no member for it
    have fields : (Function.mk name params none body span).encode.record?
        ["name", "params", "returns", "body", "span"] =
          some [some name.encode, some (.array (params.map Param.encode)), none,
            some body.encode, some span.encode] :=
      Json.record?_eq rfl (by decide) rfl
    simp [Function.decode, fields, all, Json.optional?]
  | some kind =>
    have fields : (Function.mk name params (some kind) body span).encode.record?
        ["name", "params", "returns", "body", "span"] =
          some [some name.encode, some (.array (params.map Param.encode)),
            some (.string kind.key), some body.encode, some span.encode] :=
      Json.record?_eq rfl (by decide) rfl
    simp [Function.decode, fields, all, Json.optional?]

@[simp] lemma Program.decode_encode (p : Program) : Program.decode p.encode = some p := by
  have fields : p.encode.record? ["functions", "span"] =
      some [some (.array (p.functions.map Function.encode)), some p.span.encode] :=
    Json.record?_eq rfl (by decide) rfl
  simp [Program.decode, fields, Json.arrayOf?_map Function.decode_encode]

/-! ## Plain forms -/

section Plain

open Json (isPlain itemsPlain membersPlain)

/-- A whole number of at most 64 bits is plain. -/
lemma Json.isPlain_int {n : Int} (least : Int64.minValue.toInt ≤ n) (greatest : n < UInt64.size) :
    (Json.int n).isPlain = true := by
  rw [isPlain]
  exact (Bool.and_eq_true _ _).mpr ⟨decide_eq_true least, decide_eq_true greatest⟩

lemma Json.isPlain_position (n : UInt32) : (Json.int n.toNat).isPlain = true := by
  have least : Int64.minValue.toInt ≤ 0 := by decide
  have small : n.toNat < UInt64.size := Nat.lt_trans n.toNat_lt_size (by decide)
  exact isPlain_int (Int.le_trans least (Int.natCast_nonneg _)) (Int.ofNat_lt.mpr small)

@[simp] lemma Span.isPlain_encode (s : Span) : s.encode.isPlain = true := by
  rw [Span.encode, isPlain]
  simp only [membersPlain, Json.isPlain_position]
  rfl

@[simp] lemma Ident.isPlain_encode (i : Ident) : i.encode.isPlain = true := by
  simp [Ident.encode, isPlain, membersPlain]

@[simp] lemma Param.isPlain_encode (p : Param) : p.encode.isPlain = true := by
  simp [Param.encode, isPlain, membersPlain]

@[simp] lemma Json.isPlain_tagged (tag : String) (content : Json) :
    (Json.tagged tag content).isPlain = content.isPlain := by
  simp [Json.tagged, isPlain, membersPlain]

@[simp] lemma Expr.isPlain_node (kind : Json) (s : Span) :
    (Expr.encode.node kind s).isPlain = kind.isPlain := by
  simp [Expr.encode.node, isPlain, membersPlain]

mutual

@[simp] theorem Expr.isPlain_encode : ∀ e : Expr, e.encode.isPlain = true
  | .integer n _ => by
    rw [Expr.encode, Expr.isPlain_node, Json.isPlain_tagged]
    exact Json.isPlain_int n.minValue_le_toInt (Int.lt_of_le_of_lt n.toInt_le (by decide))
  | .boolean .. | .string .. | .color .. | .var .. => by simp [Expr.encode, isPlain]
  | .element _ index _ => by
    simp [Expr.encode, isPlain, membersPlain, Expr.isPlain_encode index]
  | .call site _ => by simp [Expr.encode, Call.isPlain_encode site]
  | .sense sensor _ => by simp [Expr.encode, Sensor.isPlain_encode sensor]
  | .binary left _ right _ => by
    simp [Expr.encode, isPlain, membersPlain, Expr.isPlain_encode left, Expr.isPlain_encode right]
  | .unary _ operand _ => by
    simp [Expr.encode, isPlain, membersPlain, Expr.isPlain_encode operand]
  | .paren inner _ => by simp [Expr.encode, Expr.isPlain_encode inner]

@[simp] theorem Call.isPlain_encode : ∀ site : Call, site.encode.isPlain = true
  | ⟨_, args, _⟩ => by simp [Call.encode, isPlain, membersPlain, itemsPlain_encodeExprs args]

@[simp] theorem Sensor.isPlain_encode : ∀ sensor : Sensor, sensor.encode.isPlain = true
  | .feel | .infrared | .bumper | .compass | .beacon _ => by simp [Sensor.encode, isPlain]
  | .look direction => by simp [Sensor.encode, Expr.isPlain_encode direction]

@[simp] theorem itemsPlain_encodeExprs : ∀ es : List Expr, itemsPlain (encodeExprs es) = true
  | [] => rfl
  | e :: es => by
    simp [encodeExprs, itemsPlain, Expr.isPlain_encode e, itemsPlain_encodeExprs es]

end

@[simp] lemma Target.isPlain_encode (target : Target) : target.encode.isPlain = true := by
  cases target <;> simp [Target.encode, isPlain, membersPlain]

@[simp] lemma isPlain_orNull (value : Option Expr) :
    (Json.orNull Expr.encode value).isPlain = true := by
  cases value <;> simp [Json.orNull, isPlain]

mutual

@[simp] theorem Stmt.isPlain_encode : ∀ statement : Stmt, statement.encode.isPlain = true
  | .ifThen _ thenBlock elseBlock _ => by
    simp [Stmt.encode, isPlain, membersPlain, Block.isPlain_encode thenBlock,
      isPlain_encodeElse elseBlock]
  | .whileDo _ body _ => by
    simp [Stmt.encode, isPlain, membersPlain, Block.isPlain_encode body]
  | .assign .. | .giveBack .. | .read .. | .write .. | .actuate .. | .paint .. | .pen ..
  | .sense .. | .call _ => by
    simp [Stmt.encode, isPlain, membersPlain]

@[simp] theorem Block.isPlain_encode : ∀ block : Block, block.encode.isPlain = true
  | ⟨stmts, _⟩ => by simp [Block.encode, isPlain, membersPlain, itemsPlain_encodeStmts stmts]

@[simp] theorem isPlain_encodeElse : ∀ branch : Option Block, (encodeElse branch).isPlain = true
  | none => rfl
  | some block => by simp [encodeElse, Block.isPlain_encode block]

@[simp] theorem itemsPlain_encodeStmts : ∀ stmts : List Stmt,
    itemsPlain (encodeStmts stmts) = true
  | [] => rfl
  | statement :: stmts => by
    simp [encodeStmts, itemsPlain, Stmt.isPlain_encode statement, itemsPlain_encodeStmts stmts]

end

/-- An array of plain items is plain. -/
lemma Json.itemsPlain_map {α : Type} {encode : α → Json}
    (plain : ∀ item, (encode item).isPlain = true) (items : List α) :
    itemsPlain (items.map encode) = true := by
  induction items with
  | nil => rfl
  | cons item items ih => simp [itemsPlain, plain, ih]

@[simp] lemma Function.isPlain_encode (f : Function) : f.encode.isPlain = true := by
  obtain ⟨name, params, returns, body, span⟩ := f
  cases returns <;>
    simp [Function.encode, encodeReturns, isPlain, membersPlain,
      Json.itemsPlain_map Param.isPlain_encode]

@[simp] lemma Program.isPlain_encode (p : Program) : p.encode.isPlain = true := by
  simp [Program.encode, isPlain, membersPlain, Json.itemsPlain_map Function.isPlain_encode]

end Plain

/-! ## Texts -/

/-- What a library makes of the text that it has written for a part of a program. -/
def throughText {α : Type} (lib : Json.Library) (encode : α → Json) (decode : Json → Option α)
    (part : α) : Option α :=
  (lib.read (lib.write (encode part))).bind decode

/-- With a library, every part of a program of some sort is read back from its text.  If the library
has a limit, this goes for the parts that are nested less deep, and the others are refused. -/
def ReadsBack {α : Type} (lib : Json.Library) (encode : α → Json) (decode : Json → Option α) :
    Prop :=
  ∀ part, (lib.limit = none → throughText lib encode decode part = some part) ∧
    ∀ limit, lib.limit = some limit →
      throughText lib encode decode part =
        if (encode part).nesting < limit then some part else none

lemma ReadsBack.of_plain {α : Type} {encode : α → Json} {decode : Json → Option α}
    {lib : Json.Library} (documented : lib.Documented)
    (plain : ∀ part, (encode part).isPlain = true)
    (back : ∀ part, decode (encode part) = some part) : ReadsBack lib encode decode := by
  intro part
  have within : (encode part).isWithin lib.limit = true →
      throughText lib encode decode part = some part := by
    intro within
    rw [throughText, documented.reads (plain part) within, Option.bind_some, back part]
  have beyond : (encode part).isWithin lib.limit = false →
      throughText lib encode decode part = none := by
    intro beyond
    rw [throughText, documented.refuses (plain part) beyond, Option.bind_none]
  refine ⟨fun unlimited => within ?_, fun limit limited => ?_⟩
  · rw [unlimited]
    rfl
  · rw [limited] at within beyond
    split
    · next less => exact within (by simpa [Json.isWithin] using less)
    · next more => exact beyond (by simpa [Json.isWithin] using more)

/-- A program with a text in which every kind of escape is needed. -/
def greeting : Program where
  functions :=
    [⟨⟨"main", .ofLine 1⟩, [.byReference ⟨"n", .unknown⟩], some .integer,
      ⟨[.ifThen (.binary (.var "n" .unknown) (.relational .less) (.integer .minValue .unknown)
          .unknown) ⟨[.write (.string "say \"\\\t\x01\u2603\"" .unknown) (.ofLine 3)], .unknown⟩
          none (.ofLine 2),
        .giveBack none ⟨4, 1, 4, 4294967295⟩], .unknown⟩, .ofLine 1⟩]
  span := .unknown

/-- A number in so many pairs of parentheses. -/
def wrapped : Nat → Expr
  | 0 => .integer 7 .unknown
  | pairs + 1 => .paren (wrapped pairs) .unknown

end RobotScribe
