/-
# Least covers

A place of the source is a line and a column, ordered first by the line.  A span covers spans
least if it starts where the first of them starts and ends where the last of them ends
(`CoversLeast`).  No two spans do that for the same spans.  Merging gives the span that does, and
so neither the order nor the number of the merges matters: not for the statements of a block, and
not for the shape of a tree of operators (`OperatorTree`).
-/
import RobotScribe.Syntax.Basic
import Mathlib.Data.List.Basic
import Mathlib.Data.Prod.Lex
import Mathlib.Order.Bounds.Basic

namespace RobotScribe

namespace Span

variable {s t : Span} {S T : Set Span}

/-! ## Places -/

/-- A line and a column as a place, ordered first by the line and then by the column. -/
def place (p : UInt32 × UInt32) : Nat ×ₗ Nat := toLex (p.1.toNat, p.2.toNat)

lemma place_injective : Function.Injective place := by
  intro p q same
  obtain ⟨line, col⟩ := Prod.ext_iff.mp (toLex.injective same)
  exact Prod.ext (UInt32.toNat_inj.mp line) (UInt32.toNat_inj.mp col)

lemma place_le_iff {p q : UInt32 × UInt32} :
    place p ≤ place q ↔ p.1 < q.1 ∨ p.1 = q.1 ∧ p.2 ≤ q.2 := by
  rw [place, place, Prod.Lex.toLex_le_toLex, UInt32.lt_iff_toNat_lt, UInt32.le_iff_toNat_le,
    ← UInt32.toNat_inj]

lemma place_earlier (p q : UInt32 × UInt32) : place (earlier p q) = min (place p) (place q) := by
  unfold earlier
  split_ifs with before after
  · rw [min_eq_left (place_le_iff.mpr (Or.inl before))]
  · rw [min_eq_right (place_le_iff.mpr (Or.inl after))]
  · -- the lines are the same one, so the columns decide
    have line : p.1 = q.1 := UInt32.le_antisymm (UInt32.not_lt.mp after) (UInt32.not_lt.mp before)
    by_cases left : p.2 ≤ q.2
    · have col : min p.2 q.2 = p.2 := if_pos left
      rw [min_eq_left (place_le_iff.mpr (Or.inr ⟨line, left⟩)), col]
    · have col : min p.2 q.2 = q.2 := if_neg left
      have right : q.2 ≤ p.2 := UInt32.le_of_lt (UInt32.not_le.mp left)
      rw [min_eq_right (place_le_iff.mpr (Or.inr ⟨line.symm, right⟩)), col, line]

lemma place_later (p q : UInt32 × UInt32) : place (later p q) = max (place p) (place q) := by
  unfold later
  split_ifs with after before
  · rw [max_eq_left (place_le_iff.mpr (Or.inl after))]
  · rw [max_eq_right (place_le_iff.mpr (Or.inl before))]
  · have line : p.1 = q.1 := UInt32.le_antisymm (UInt32.not_lt.mp after) (UInt32.not_lt.mp before)
    by_cases left : p.2 ≤ q.2
    · have col : max p.2 q.2 = q.2 := if_pos left
      rw [max_eq_right (place_le_iff.mpr (Or.inr ⟨line, left⟩)), col, line]
    · have col : max p.2 q.2 = p.2 := if_neg left
      have right : q.2 ≤ p.2 := UInt32.le_of_lt (UInt32.not_le.mp left)
      rw [max_eq_left (place_le_iff.mpr (Or.inr ⟨line.symm, right⟩)), col]

/-! ## Spans that cover others -/

/-- A span starts where the first of some spans starts, and ends where the last of them ends. -/
structure CoversLeast (S : Set Span) (s : Span) : Prop where
  first : IsLeast ((place ·.start) '' S) (place s.start)
  last : IsGreatest ((place ·.stop) '' S) (place s.stop)

namespace CoversLeast

/-- The ends of a span decide which span it is. -/
lemma unique (hs : CoversLeast S s) (ht : CoversLeast S t) : s = t := by
  have start : s.start = t.start := place_injective (hs.first.unique ht.first)
  have stop : s.stop = t.stop := place_injective (hs.last.unique ht.last)
  obtain ⟨startLine, startCol⟩ := Prod.mk.inj start
  obtain ⟨endLine, endCol⟩ := Prod.mk.inj stop
  cases s
  cases t
  simp_all

lemma singleton (s : Span) : CoversLeast {s} s := by
  constructor
  · rw [Set.image_singleton]
    exact isLeast_singleton
  · rw [Set.image_singleton]
    exact isGreatest_singleton

lemma merge (hs : CoversLeast S s) (ht : CoversLeast T t) : CoversLeast (S ∪ T) (s.merge t) := by
  constructor
  · rw [start_merge, place_earlier, Set.image_union]
    exact hs.first.union ht.first
  · rw [stop_merge, place_later, Set.image_union]
    exact hs.last.union ht.last

lemma foldl (hs : CoversLeast S s) (spans : List Span) :
    CoversLeast (S ∪ {t | t ∈ spans}) (spans.foldl Span.merge s) := by
  induction spans generalizing S s with
  | nil => simpa using hs
  | cons t rest ih =>
    rw [List.setOfPred_mem_cons, Set.insert_eq, ← Set.union_assoc]
    exact ih (hs.merge (.singleton t))

lemma cover {spans : List Span} (nonempty : spans ≠ []) :
    CoversLeast {s | s ∈ spans} (cover spans) := by
  cases spans with
  | nil => exact absurd rfl nonempty
  | cons s rest =>
    rw [List.setOfPred_mem_cons, Set.insert_eq]
    exact (CoversLeast.singleton s).foldl rest

end CoversLeast

/-! ## The laws of merging -/

lemma merge_comm (s t : Span) : s.merge t = t.merge s := by
  have turned : CoversLeast ({s} ∪ {t}) (t.merge s) :=
    Set.union_comm {t} {s} ▸ (CoversLeast.singleton t).merge (.singleton s)
  exact ((CoversLeast.singleton s).merge (.singleton t)).unique turned

lemma merge_assoc (s t u : Span) : (s.merge t).merge u = s.merge (t.merge u) := by
  have front := ((CoversLeast.singleton s).merge (.singleton t)).merge (.singleton u)
  have back := (CoversLeast.singleton s).merge ((CoversLeast.singleton t).merge (.singleton u))
  rw [← Set.union_assoc] at back
  exact front.unique back

lemma merge_self (s : Span) : s.merge s = s := by
  have twice := (CoversLeast.singleton s).merge (.singleton s)
  rw [Set.union_self] at twice
  exact twice.unique (.singleton s)

/-- In which order spans are listed, and how often, makes no difference to their cover. -/
lemma cover_congr {spans others : List Span} (same : ∀ s, s ∈ spans ↔ s ∈ others) :
    cover spans = cover others := by
  rcases spans with _ | ⟨s, rest⟩
  · have none : others = [] := List.eq_nil_iff_forall_not_mem.mpr fun s mem => by
      simpa using (same s).mpr mem
    rw [none]
  · have nonempty : others ≠ [] := List.ne_nil_of_mem ((same s).mp List.mem_cons_self)
    have sets : {t | t ∈ others} = {t | t ∈ s :: rest} := Set.ext fun t => (same t).symm
    exact (CoversLeast.cover (List.cons_ne_nil s rest)).unique (sets ▸ CoversLeast.cover nonempty)

end Span

open RobotScribe.Span

/-- Nodes of a list are covered by the span that covers their spans. -/
lemma coversLeast_cover_map {α : Type} (span : α → Span) {nodes : List α} (nonempty : nodes ≠ []) :
    CoversLeast (span '' {x | x ∈ nodes}) (cover (nodes.map span)) := by
  have all : span '' {x | x ∈ nodes} = {s | s ∈ nodes.map span} := by
    ext s
    simp
  rw [all]
  exact .cover (by simpa using nonempty)

/-! ## Trees of operators -/

/-- Operators over expressions that are given. -/
inductive OperatorTree where
  | leaf (e : Expr)
  | unary (op : UnaryOp) (operand : OperatorTree)
  | binary (left : OperatorTree) (op : BinOp) (right : OperatorTree)

namespace OperatorTree

/-- The expression of a tree, put together from the leaves upwards. -/
def toExpr : OperatorTree → Expr
  | leaf e => e
  | unary op operand => .applying op operand.toExpr
  | binary left op right => .joining left.toExpr op right.toExpr

/-- The expressions at the leaves, from left to right. -/
def leaves : OperatorTree → List Expr
  | leaf e => [e]
  | unary _ operand => operand.leaves
  | binary left _ right => left.leaves ++ right.leaves

lemma coversLeast (tree : OperatorTree) :
    CoversLeast (Expr.span '' {e | e ∈ tree.leaves}) tree.toExpr.span := by
  induction tree with
  | leaf e => simpa [leaves, toExpr] using CoversLeast.singleton e.span
  | unary op operand ih => exact ih
  | binary left op right left_ih right_ih =>
    have both : Expr.span '' {e | e ∈ left.leaves ++ right.leaves} =
        Expr.span '' {e | e ∈ left.leaves} ∪ Expr.span '' {e | e ∈ right.leaves} := by
      rw [← Set.image_union]
      congr 1
      ext e
      simp
    rw [leaves, both]
    exact left_ih.merge right_ih

end OperatorTree

/-- **A merged span is the least cover.**  Merging is commutative, associative and idempotent; the
place where a merged span starts is the lesser of the two starts, and the place where it ends the
greater of the two ends.  A block of one statement or more, and a program of one function or more,
has the span that starts where the first of them starts and ends where the last of them ends, in
whatever order they are listed.  The span of a tree of operators is that of its leaves: two trees
with the same spans at their leaves have the same span, however they are shaped. -/
theorem merged_span_covers_least :
    (∀ s t : Span, s.merge t = t.merge s) ∧
    (∀ s t u : Span, (s.merge t).merge u = s.merge (t.merge u)) ∧
    (∀ s : Span, s.merge s = s) ∧
    (∀ s t : Span, place (s.merge t).start = min (place s.start) (place t.start) ∧
      place (s.merge t).stop = max (place s.stop) (place t.stop)) ∧
    (∀ stmts : List Stmt, stmts ≠ [] →
      CoversLeast (Stmt.span '' {s | s ∈ stmts}) (Block.ofStmts stmts).span) ∧
    (∀ stmts others : List Stmt, stmts.Perm others →
      (Block.ofStmts stmts).span = (Block.ofStmts others).span) ∧
    (∀ functions : List Function, functions ≠ [] →
      CoversLeast (Function.span '' {f | f ∈ functions}) (Program.ofFunctions functions).span) ∧
    (∀ functions others : List Function, functions.Perm others →
      (Program.ofFunctions functions).span = (Program.ofFunctions others).span) ∧
    (∀ tree : OperatorTree, CoversLeast (Expr.span '' {e | e ∈ tree.leaves}) tree.toExpr.span) ∧
    ∀ tree other : OperatorTree,
      Expr.span '' {e | e ∈ tree.leaves} = Expr.span '' {e | e ∈ other.leaves} →
      tree.toExpr.span = other.toExpr.span := by
  refine ⟨merge_comm, merge_assoc, merge_self, fun s t => ⟨?_, ?_⟩,
    fun _ nonempty => coversLeast_cover_map _ nonempty, fun _ _ reordered => ?_,
    fun _ nonempty => coversLeast_cover_map _ nonempty, fun _ _ reordered => ?_,
    OperatorTree.coversLeast, fun tree other same => ?_⟩
  · rw [start_merge, place_earlier]
  · rw [stop_merge, place_later]
  · exact cover_congr fun _ => (reordered.map _).mem_iff
  · exact cover_congr fun _ => (reordered.map _).mem_iff
  · exact tree.coversLeast.unique (same ▸ other.coversLeast)

/-- Two statements, functions or operands that overlap: the one that starts later on a line ends on
a later line.  Their order makes no difference, and neither does a sign before both operands. -/
theorem merged_span_covers_least_overlapping :
    CoversLeast (Stmt.span '' {s | s ∈ [.pen true ⟨2, 5, 3, 1⟩, .pen false ⟨2, 3, 2, 9⟩]})
      ⟨2, 3, 3, 1⟩ ∧
    (Block.ofStmts [.pen true ⟨2, 5, 3, 1⟩, .pen false ⟨2, 3, 2, 9⟩]).span =
      (Block.ofStmts [.pen false ⟨2, 3, 2, 9⟩, .pen true ⟨2, 5, 3, 1⟩]).span ∧
    CoversLeast (Function.span '' {f | f ∈ [⟨⟨"f", unknown⟩, [], none, .ofStmts [], ⟨2, 5, 3, 1⟩⟩,
        ⟨⟨"main", unknown⟩, [], none, .ofStmts [], ⟨2, 3, 2, 9⟩⟩]}) ⟨2, 3, 3, 1⟩ ∧
    (Program.ofFunctions [⟨⟨"f", unknown⟩, [], none, .ofStmts [], ⟨2, 5, 3, 1⟩⟩,
        ⟨⟨"main", unknown⟩, [], none, .ofStmts [], ⟨2, 3, 2, 9⟩⟩]).span =
      (Program.ofFunctions [⟨⟨"main", unknown⟩, [], none, .ofStmts [], ⟨2, 3, 2, 9⟩⟩,
        ⟨⟨"f", unknown⟩, [], none, .ofStmts [], ⟨2, 5, 3, 1⟩⟩]).span ∧
    (Expr.joining (.integer 1 ⟨2, 5, 3, 1⟩) (.arithmetic .sub) (.integer 2 ⟨2, 3, 2, 9⟩)).span =
      (Expr.applying .neg (.joining (.integer 2 ⟨2, 3, 2, 9⟩) (.arithmetic .sub)
        (.integer 1 ⟨2, 5, 3, 1⟩))).span := by
  obtain ⟨-, -, -, -, blocks, reorderedBlocks, programs, reorderedPrograms, -, trees⟩ :=
    merged_span_covers_least
  refine ⟨?_, reorderedBlocks _ _ (.swap _ _ _), ?_, reorderedPrograms _ _ (.swap _ _ _), ?_⟩
  · exact blocks [.pen true ⟨2, 5, 3, 1⟩, .pen false ⟨2, 3, 2, 9⟩] (List.cons_ne_nil _ _)
  · exact programs [⟨⟨"f", unknown⟩, [], none, .ofStmts [], ⟨2, 5, 3, 1⟩⟩,
      ⟨⟨"main", unknown⟩, [], none, .ofStmts [], ⟨2, 3, 2, 9⟩⟩] (List.cons_ne_nil _ _)
  · refine trees
      (.binary (.leaf (.integer 1 ⟨2, 5, 3, 1⟩)) (.arithmetic .sub)
        (.leaf (.integer 2 ⟨2, 3, 2, 9⟩)))
      (.unary .neg (.binary (.leaf (.integer 2 ⟨2, 3, 2, 9⟩)) (.arithmetic .sub)
        (.leaf (.integer 1 ⟨2, 5, 3, 1⟩)))) ?_
    congr 1
    ext e
    simp [OperatorTree.leaves, or_comm]

end RobotScribe
