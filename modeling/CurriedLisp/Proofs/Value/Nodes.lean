import CurriedLisp.Value.Node
import Mathlib.Tactic.Lemma

namespace CurriedLisp

namespace Form

mutual

def node : Form → Node
  | number _ n => .number n
  | symbol _ name => .symbol name
  | string _ text => .string text
  | list _ bracket items => .list bracket (nodes items)

def nodes : List Form → List Node
  | [] => []
  | form :: rest => form.node :: nodes rest

end

mutual

theorem value_node : (form : Form) → form.node.value = .ok form.value
  | number _ _ | symbol _ _ | string _ _ => rfl
  | list _ bracket items => by
    rw [node, Node.value, values_nodes items]
    rfl

lemma values_nodes : (forms : List Form) → Node.values (nodes forms) = .ok (values forms)
  | [] => rfl
  | form :: rest => by
    rw [nodes, Node.values, value_node form, values_nodes rest]
    rfl

end

end Form

namespace Node

mutual

def data : Node → List Datum
  | number _ | symbol _ | string _ => []
  | list _ children => dataOfEach children
  | datum d => [d]

def dataOfEach : List Node → List Datum
  | [] => []
  | node :: rest => node.data ++ dataOfEach rest

end

mutual

/-- The first datum has the conversion of the whole fail. -/
theorem value_eq_error_iff {d : Datum} : (node : Node) → (node.value = .error d ↔ node.data.head? = some d)
  | number _ | symbol _ | string _ => by simp [value, data]
  | datum e => by simp [value, data]
  | list bracket children => by
    rw [value, data, ← values_eq_error_iff children]
    cases values children with
    | ok items => exact ⟨nofun, nofun⟩
    | error e =>
      change (Except.error e : Except Datum Value) = .error d ↔ _
      rw [Except.error.injEq, Except.error.injEq]

lemma values_eq_error_iff {d : Datum} :
    (nodes : List Node) → (values nodes = .error d ↔ (dataOfEach nodes).head? = some d)
  | [] => by simp [values, dataOfEach]
  | node :: rest => by
    rw [values, dataOfEach, List.head?_append]
    cases hv : node.value with
    | error e =>
      rw [(value_eq_error_iff node).mp hv, Option.some_or, Option.some_inj]
      change (Except.error e : Except Datum (List Value)) = .error d ↔ _
      rw [Except.error.injEq]
    | ok v =>
      have hnone : node.data.head? = none := by
        cases hd : node.data.head? with
        | none => rfl
        | some e => cases hv.symm.trans ((value_eq_error_iff node).mpr hd)
      rw [hnone, Option.none_or, ← values_eq_error_iff rest]
      cases values rest with
      | ok items => exact ⟨nofun, nofun⟩
      | error e => rfl

end

end Node

end CurriedLisp
