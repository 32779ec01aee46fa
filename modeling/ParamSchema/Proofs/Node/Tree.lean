import ParamSchema.Node

/-!
Nodes as trees: `Node.Within` relates a node to the trees that it occurs in, `Node.Everywhere` says
that a property holds at every depth, and `Node.induct` is the induction that checks follow. In it a
node comes after its fields and a `multiple` node after `Node.single`, the node of its items.
-/

namespace ParamSchema.Node

/-- The node for one item of the array that a `multiple` node asks for. -/
def single (node : Node) : Node := { node with multiple := false }

@[simp] theorem single_multiple (node : Node) : node.single.multiple = false := rfl

theorem induct_fields {P : Node → Prop}
    (h : ∀ node : Node, (∀ field ∈ node.fields, P field.2) → P node) (node : Node) : P node := by
  refine @Node.rec P (fun fields => ∀ field ∈ fields, P field.2) (fun field => P field.2)
    ?node ?nil ?cons ?pair node
  case node =>
    intro skip multiple object fields acceptOtherKeys acceptNull defaultValue trim optional type
      rules ih
    exact h _ ih
  case nil =>
    intro field hfield
    cases hfield
  case cons =>
    intro first rest hfirst hrest field hfield
    rcases List.mem_cons.mp hfield with rfl | hfield
    · exact hfirst
    · exact hrest field hfield
  case pair =>
    intro key field hfield
    exact hfield

/-- What holds of a node once it holds of its fields and, for a `multiple` node, of the node of its
items, holds of every node. -/
@[elab_as_elim]
theorem induct {P : Node → Prop}
    (h : ∀ node : Node, (∀ field ∈ node.fields, P field.2) →
      (node.multiple = true → P node.single) → P node) (node : Node) : P node := by
  induction node using induct_fields with
  | h node ih =>
    refine h node ih fun _ => ?_
    exact h node.single ih fun hsingle => by simp at hsingle

/-- The node has a rule that goes by the name of a rule function. -/
def NamesRule (name : String) (node : Node) : Prop :=
  ∃ rule ∈ node.rules, rule.name = name ∧ ∃ args, rule.check = .named args

/-- `inner` is a node of the tree of `outer`: `outer` itself or, at some depth, a field. -/
inductive Within (inner : Node) : Node → Prop
  | self : Within inner inner
  | field {outer : Node} {field : String × Node} (mem : field ∈ outer.fields)
      (within : Within inner field.2) : Within inner outer

/-- `P` holds of the node and of its fields at every depth. -/
def Everywhere (P : Node → Prop) (node : Node) : Prop :=
  ∀ inner : Node, inner.Within node → P inner

namespace Everywhere

variable {P : Node → Prop} {node : Node}

theorem here (h : node.Everywhere P) : P node := h node .self

theorem field (h : node.Everywhere P) {field : String × Node} (hfield : field ∈ node.fields) :
    field.2.Everywhere P :=
  fun inner hinner => h inner (.field hfield hinner)

theorem of_fields (hnode : P node) (hfields : ∀ field ∈ node.fields, field.2.Everywhere P) :
    node.Everywhere P := by
  intro inner hinner
  cases hinner with
  | self => exact hnode
  | field hfield hinner => exact hfields _ hfield inner hinner

theorem of_leaf (hfields : node.fields = []) (hnode : P node) : node.Everywhere P :=
  of_fields hnode (by simp [hfields])

/-- The node of the items has the same fields. -/
theorem single (h : node.Everywhere P) (hsingle : P node.single) : node.single.Everywhere P :=
  of_fields hsingle fun _ hfield => h.field hfield

end Everywhere

end ParamSchema.Node
