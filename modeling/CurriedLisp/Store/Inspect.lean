import CurriedLisp.Store.Basic
import CurriedLisp.Value.Inspect

namespace CurriedLisp.Store

def inspect (s : Store) (id : FrameId) : String :=
  inspectFrame (s.bindings id) ++ if ((s.frame? id).bind (·.outer)).isSome then " -> ..." else ""

def inspectChain (s : Store) (id : FrameId) : String :=
  "<Environment chain: " ++
    " -> ".intercalate ((s.chain id).map fun i => inspectFrame (s.bindings i)) ++ ">"

end CurriedLisp.Store
