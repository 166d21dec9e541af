import CurriedLisp.Eval.Complaint
import CurriedLisp.Store.Bindings

namespace CurriedLisp

inductive Bound where
  | complete (own : Bindings)
  | waiting (remaining : List String) (own : Bindings)
  | refused (complaint : Complaint)

/-- Binds formals to arguments one by one, on top of `own`. The variadic marker must stand before exactly
one formal, which takes all arguments that remain. -/
def bindFormals (own : Bindings) : List String → List Value → Bound
  | [], [] => .complete own
  | [], _ :: _ => .refused .tooManyArguments
  | formal :: rest, args =>
    if formal = variadicMarker then
      match rest with
      | [last] =>
        if last = variadicMarker then .refused .invalidFormals
        else .complete (own.put last (.qexpr args))
      | _ => .refused .invalidFormals
    else
      match args with
      | [] => .waiting (formal :: rest) own
      | a :: others => bindFormals (own.put formal a) rest others

end CurriedLisp
