/-
**The tree of a postfix list.**

The postfix list of a tree leaves that tree on the stack, above whatever was there, unless one of
the trees built on the way is too deep; the whole tree is then too deep as well.

* `Measured.ofTree`: a tree with its depth.
* `run_rpn`: the stack after the postfix list of a tree.
* `toExpr_rpn`: the outcome for the postfix list of a tree.
* `ReadFrom`, `run_readFrom`: a list that leaves a stack is that of the trees on it.
* `toExpr_inverts_rpn`: a tree is built from its own postfix list, and from no other list.
-/

import ScientificCalculator.Proofs.Joined
import ScientificCalculator.Rpn.Tree

namespace ScientificCalculator.Rpn

/-- A tree with its depth. -/
def Measured.ofTree (tree : Expr) : Measured := ⟨tree, tree.depth, rfl⟩

/-- What the depth of a tree makes of its postfix list. -/
def depthGuarded {α : Type} (tree : Expr) (accepted : α) : Except Fault α :=
  if maximumDepth < tree.depth then .error (.malformed .tooDeep) else .ok accepted

theorem push_eq (measured : Measured) (stack : List Measured) :
    push measured stack = depthGuarded measured.tree (Measured.ofTree measured.tree :: stack) := by
  obtain ⟨tree, depth, rfl⟩ := measured
  rfl

section Depth

variable {α : Type} {tree part : Expr}

theorem depthGuarded_of_le (le : tree.depth ≤ maximumDepth) (accepted : α) :
    depthGuarded tree accepted = .ok accepted :=
  if_neg (Nat.not_lt.mpr le)

theorem depthGuarded_of_lt (lt : maximumDepth < tree.depth) (accepted : α) :
    depthGuarded tree accepted = .error (.malformed .tooDeep) :=
  if_pos lt

/-- **A tree with a part that is too deep is too deep.** -/
theorem depthGuarded_bind (smaller : part.depth ≤ tree.depth) {β : Type} {first : β}
    {next : β → Except Fault α} {accepted : α}
    (goes : next first = depthGuarded tree accepted) :
    depthGuarded part first >>= next = depthGuarded tree accepted := by
  rcases Nat.lt_or_ge maximumDepth part.depth with deep | low
  · rw [depthGuarded_of_lt deep, depthGuarded_of_lt (Nat.lt_of_lt_of_le deep smaller)]
    rfl
  · rw [depthGuarded_of_le low]
    exact goes

end Depth

theorem run_append (stack : List Measured) (first second : List Token) :
    run stack (first ++ second) = run stack first >>= fun after => run after second :=
  List.foldlM_append

theorem run_singleton (stack : List Measured) (token : Token) :
    run stack [token] = step stack token := by
  show step stack token >>= pure = step stack token
  rw [bind_pure]

/-- **The postfix list of a tree leaves the tree on the stack**, or is refused because the tree is
too deep. -/
theorem run_rpn (tree : Expr) : ∀ stack : List Measured,
    run stack tree.rpn = depthGuarded tree (Measured.ofTree tree :: stack) := by
  induction tree with
  | num value =>
    intro stack
    rfl
  | neg operand ih =>
    intro stack
    rw [Expr.rpn, run_append, ih]
    exact depthGuarded_bind (Nat.le_succ _) ((run_singleton _ _).trans (push_eq _ _))
  | call func argument ih =>
    intro stack
    rw [Expr.rpn, run_append, ih]
    exact depthGuarded_bind (Nat.le_succ _) ((run_singleton _ _).trans (push_eq _ _))
  | bin operation left right leftward rightward =>
    intro stack
    have smallerLeft : left.depth ≤ (Expr.bin operation left right).depth :=
      Nat.le_succ_of_le (Nat.le_max_left _ _)
    have smallerRight : right.depth ≤ (Expr.bin operation left right).depth :=
      Nat.le_succ_of_le (Nat.le_max_right _ _)
    rw [Expr.rpn, List.append_assoc, run_append, leftward]
    refine depthGuarded_bind smallerLeft ?_
    rw [run_append, rightward]
    exact depthGuarded_bind smallerRight ((run_singleton _ _).trans (push_eq _ _))

/-- **The tree of its postfix list**, unless it is too deep. -/
theorem toExpr_rpn (tree : Expr) : toExpr tree.rpn = depthGuarded tree tree := by
  rw [toExpr, run_rpn]
  rcases Nat.lt_or_ge maximumDepth tree.depth with deep | low
  · rw [depthGuarded_of_lt deep, depthGuarded_of_lt deep]
  · rw [depthGuarded_of_le low, depthGuarded_of_le low]
    rfl

section Inverse

variable {stack after below : List Measured} {token : Token} {tokens before : List Token}

/-- The postfix lists of the trees on a stack, the bottom one first. -/
def unread : List Measured → List Token
  | [] => []
  | top :: below => unread below ++ top.tree.rpn

/-- The tokens are those of the trees on the stack, none of which is too deep. -/
structure ReadFrom (tokens : List Token) (stack : List Measured) : Prop where
  tokens_eq : tokens = unread stack
  depth_le : ∀ measured ∈ stack, measured.tree.depth ≤ maximumDepth

theorem readFrom_nil : ReadFrom [] [] :=
  ⟨rfl, fun _ member => absurd member List.not_mem_nil⟩

/-- A tree that is put on the stack is not too deep. -/
theorem ReadFrom.push {measured : Measured} (kept : ∀ other ∈ below, other.tree.depth ≤ maximumDepth)
    (pushed : push measured below = .ok after) :
    ReadFrom (unread below ++ measured.tree.rpn) after := by
  unfold Rpn.push at pushed
  split at pushed
  · cases pushed
  · rename_i low
    obtain rfl := Except.ok.inj pushed
    rw [measured.depth_eq, Nat.not_lt] at low
    exact ⟨rfl, List.forall_mem_cons.mpr ⟨low, kept⟩⟩

/-- **One token more is read from the stack after it.** The cases are those of `step`: a number has
one level, and an operator takes its operands off the stack and writes itself behind them. -/
theorem ReadFrom.step (read : ReadFrom tokens stack) (stepped : step stack token = .ok after) :
    ReadFrom (tokens ++ [token]) after := by
  obtain ⟨rfl, kept⟩ := read
  unfold Rpn.step at stepped
  split at stepped
  · rename_i value
    obtain rfl := Except.ok.inj stepped
    have one : 1 ≤ maximumDepth := by decide
    exact ⟨rfl, List.forall_mem_cons.mpr ⟨one, kept⟩⟩
  · rename_i operand below
    rw [unread, List.append_assoc]
    exact .push (List.forall_mem_cons.mp kept).2 stepped
  · rename_i argument below func
    rw [unread, List.append_assoc]
    exact .push (List.forall_mem_cons.mp kept).2 stepped
  · rename_i right left below operation
    obtain ⟨-, others⟩ := List.forall_mem_cons.mp kept
    rw [unread, unread, List.append_assoc, List.append_assoc, ← List.append_assoc left.tree.rpn]
    exact .push (List.forall_mem_cons.mp others).2 stepped
  all_goals cases stepped

/-- **A list that leaves a stack is that of the trees on it**, behind what was there before. -/
theorem run_readFrom (read : ReadFrom before stack) (left : run stack tokens = .ok after) :
    ReadFrom (before ++ tokens) after := by
  induction tokens generalizing before stack with
  | nil =>
    obtain rfl := Except.ok.inj left
    rwa [List.append_nil]
  | cons token rest ih =>
    rw [← List.singleton_append, run_append, run_singleton] at left
    obtain ⟨next, stepped, following⟩ := bind_eq_ok_iff.mp left
    rw [← List.singleton_append, ← List.append_assoc]
    exact ih (read.step stepped) following

/-- **A tree is built from its own postfix list**, when it has no more than a thousand levels, and
from no other list. The postfix list of a tree is refused as too deep exactly when it has more. -/
theorem toExpr_inverts_rpn (tokens : List Token) (tree : Expr) :
    (toExpr tokens = .ok tree ↔ tokens = tree.rpn ∧ tree.depth ≤ 1000) ∧
      (toExpr tree.rpn = .error (.malformed .tooDeep) ↔ 1000 < tree.depth) := by
  constructor
  · constructor
    · intro built
      unfold toExpr at built
      split at built
      · cases built
      · rename_i measured ran
        obtain rfl := Except.ok.inj built
        have read := run_readFrom readFrom_nil ran
        exact ⟨read.tokens_eq, read.depth_le measured List.mem_cons_self⟩
      · cases built
    · rintro ⟨rfl, low⟩
      rw [toExpr_rpn]
      exact depthGuarded_of_le low tree
  · rw [toExpr_rpn]
    rcases Nat.lt_or_ge maximumDepth tree.depth with deep | low
    · rw [depthGuarded_of_lt deep]
      exact iff_of_true rfl deep
    · rw [depthGuarded_of_le low]
      exact iff_of_false nofun (Nat.not_lt.mpr low)

end Inverse

end ScientificCalculator.Rpn
