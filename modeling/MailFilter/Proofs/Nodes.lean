import MailFilter.Expression

/-!
# Looking into an expression

Two views of an expression serve to say what happens to it as a whole. Its `outline` keeps the
operator and the number of operands at every position and forgets what the leaves are. Its `nodes`
are the expressions in it, itself included, so that "everywhere in the expression" is a statement
about each of them.
-/

namespace MailFilter

/-- The operators of an expression and the places of their operands. -/
inductive Outline where
  | leaf
  | node (operator : Operator) (operands : List Outline)

mutual

/-- The outline of an expression. -/
def Expression.outline : Expression → Outline
  | .node op first rest => .node op (first.outline :: Operand.outlines rest)

/-- The outline of an operand; all literals and names look the same. -/
def Operand.outline : Operand → Outline
  | .value _ => .leaf
  | .field _ => .leaf
  | .identifier _ => .leaf
  | .nested e => e.outline

/-- The outlines of operands. -/
def Operand.outlines : List Operand → List Outline
  | [] => []
  | o :: os => o.outline :: Operand.outlines os

end

mutual

/-- The expression and all expressions nested in it, an operator before its operands. -/
def Expression.nodes : Expression → List Expression
  | .node op first rest => .node op first rest :: (first.nodes ++ Operand.nodesOfList rest)

/-- The expressions in an operand. -/
def Operand.nodes : Operand → List Expression
  | .value _ => []
  | .field _ => []
  | .identifier _ => []
  | .nested e => e.nodes

/-- The expressions in operands. -/
def Operand.nodesOfList : List Operand → List Expression
  | [] => []
  | o :: os => o.nodes ++ Operand.nodesOfList os

end

theorem Expression.forall_nodes_iff {P : Expression → Prop} {op : Operator} {first : Operand}
    {rest : List Operand} :
    (∀ node ∈ (Expression.node op first rest).nodes, P node) ↔
      P (.node op first rest) ∧ (∀ node ∈ first.nodes, P node) ∧
        ∀ node ∈ Operand.nodesOfList rest, P node := by
  rw [Expression.nodes, List.forall_mem_cons, List.forall_mem_append]

theorem Operand.forall_nodesOfList_iff {P : Expression → Prop} {o : Operand} {os : List Operand} :
    (∀ node ∈ Operand.nodesOfList (o :: os), P node) ↔
      (∀ node ∈ o.nodes, P node) ∧ ∀ node ∈ Operand.nodesOfList os, P node := by
  rw [Operand.nodesOfList, List.forall_mem_append]

theorem Operand.nodesOfList_append (os os' : List Operand) :
    Operand.nodesOfList (os ++ os') = Operand.nodesOfList os ++ Operand.nodesOfList os' := by
  induction os with
  | nil => rfl
  | cons o os ih =>
    rw [List.cons_append, Operand.nodesOfList, ih, Operand.nodesOfList, List.append_assoc]

end MailFilter
