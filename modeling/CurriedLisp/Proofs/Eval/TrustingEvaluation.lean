import CurriedLisp.Proofs.Eval.Binding
import CurriedLisp.Proofs.Eval.Faults
import CurriedLisp.Proofs.Eval.TrustingActions
import CurriedLisp.Proofs.Value.Readable

namespace CurriedLisp

lemma Bindings.contains_names (b : Bindings) (name : String) :
    b.names.contains name = (b.find? name).isSome := by
  induction b with
  | nil => rfl
  | cons entry rest ih =>
    obtain ⟨m, v⟩ := entry
    rw [Bindings.find?_cons]
    by_cases h : name = m
    · simp [Bindings.names, h]
    · have hb : (name == m) = false := by simp [h]
      simpa [Bindings.names, h, hb] using ih

namespace Trusting

section Binding

def isWellPlaced (formals : List String) (position : Nat) : Attempt Bool :=
  if position + 2 = formals.length then do .value ((← item formals (position + 1)) != variadicMarker)
  else .value false

def bindFrom (formals : List String) (args : List Value) (own : Bindings) (f a : Nat) :
    Attempt (Bindings × Nat) :=
  if h : a < args.length then
    if formals.length ≤ f then .complaint .tooManyArguments
    else do
      let formal ← item formals f
      if formal = variadicMarker then
        if ← isWellPlaced formals f then
          .value (own.put (← item formals (f + 1)) (.qexpr (args.drop a)), formals.length)
        else .complaint .invalidFormals
      else bindFrom formals args (own.put formal (← item args a)) (f + 1) (a + 1)
  else .value (own, f)
termination_by args.length - a

def bindRest (formals : List String) (own : Bindings) (f : Nat) : Attempt Bound := do
  let marked ← if f < formals.length then do .value ((← item formals f) == variadicMarker) else .value false
  if marked then
    if ← isWellPlaced formals f then .value (.complete (own.put (← item formals (f + 1)) (.qexpr [])))
    else .complaint .invalidFormals
  else if f < formals.length then .value (.waiting (formals.drop f) own)
  else .value (.complete own)

def bindArguments (own : Bindings) (formals : List String) (args : List Value) : Attempt Bound := do
  let (own, f) ← bindFrom formals args own 0 0
  bindRest formals own f

def settled : Bound → Attempt Bound
  | .refused complaint => .complaint complaint
  | bound => .value bound

@[simp] lemma isWellPlaced_last (seen : List String) (formal last : String) :
    isWellPlaced (seen ++ [formal, last]) seen.length = .value (last != variadicMarker) := by
  simp [isWellPlaced, item]

@[simp] lemma isWellPlaced_inside (seen : List String) (formal : String) {rest : List String}
    (h : rest.length ≠ 1) : isWellPlaced (seen ++ formal :: rest) seen.length = .value false := by
  have hlength : seen.length + 2 ≠ (seen ++ formal :: rest).length := by
    simp only [List.length_append, List.length_cons]
    omega
  rw [isWellPlaced, if_neg hlength]

lemma bindRest_all (formals : List String) (own : Bindings) :
    bindRest formals own formals.length = .value (.complete own) := by
  simp [bindRest]

lemma bindFrom_none (formals : List String) (args : List Value) (own : Bindings) (f : Nat) :
    bindFrom formals args own f args.length = .value (own, f) := by
  rw [bindFrom, dif_neg (Nat.lt_irrefl _)]

lemma bindFrom_step (own : Bindings) (seen rest : List String) (formal : String) (given others : List Value)
    (a : Value) :
    bindFrom (seen ++ formal :: rest) (given ++ a :: others) own seen.length given.length =
      if formal = variadicMarker then do
        if ← isWellPlaced (seen ++ formal :: rest) seen.length then
          .value (own.put (← item (seen ++ formal :: rest) (seen.length + 1)) (.qexpr (a :: others)),
            (seen ++ formal :: rest).length)
        else .complaint .invalidFormals
      else
        bindFrom (seen ++ formal :: rest) (given ++ a :: others) (own.put formal a) (seen.length + 1)
          (given.length + 1) := by
  have hargs : given.length < (given ++ a :: others).length := by simp
  have hformals : ¬(seen ++ formal :: rest).length ≤ seen.length := by simp
  rw [bindFrom, dif_pos hargs, if_neg hformals, item_append, item_append, Attempt.value_bind, List.drop_left]
  rfl

lemma bindRest_eq (own : Bindings) (seen formals : List String) :
    bindRest (seen ++ formals) own seen.length = settled (bindFormals own formals []) := by
  rcases formals with _ | ⟨formal, rest⟩
  · rw [List.append_nil]
    exact bindRest_all seen own
  unfold bindFormals
  by_cases hm : formal = variadicMarker
  · subst hm
    rw [if_pos rfl]
    split
    · next last => by_cases hlast : last = variadicMarker <;> simp [bindRest, settled, hlast]
    · next hrest =>
      have hlength : rest.length ≠ 1 := fun h => (List.length_eq_one_iff.mp h).elim fun last => hrest last
      simp [bindRest, settled, hlength]
  · rw [if_neg hm]
    simp [bindRest, settled, hm]

lemma bindFrom_marked (own : Bindings) (seen rest : List String) (given others : List Value) (a : Value) :
    (do
      let (own, f) ← bindFrom (seen ++ variadicMarker :: rest) (given ++ a :: others) own seen.length given.length
      bindRest (seen ++ variadicMarker :: rest) own f) =
        settled (bindFormals own (variadicMarker :: rest) (a :: others)) := by
  unfold bindFormals
  rw [bindFrom_step, if_pos rfl, if_pos rfl]
  split
  · next last =>
    rw [isWellPlaced_last]
    by_cases hlast : last = variadicMarker
    · rw [if_pos hlast, hlast, bne_self_eq_false]
      exact Attempt.complaint_bind _ _
    · rw [if_neg hlast, bne_iff_ne.mpr hlast, item_append_succ]
      exact bindRest_all _ _
  · next hrest =>
    have hlength : rest.length ≠ 1 := fun h => (List.length_eq_one_iff.mp h).elim fun last => hrest last
    rw [isWellPlaced_inside _ _ hlength]
    exact Attempt.complaint_bind _ _

lemma bindFrom_eq (own : Bindings) (formals : List String) (args : List Value) (seen : List String)
    (given : List Value) :
    (do
      let (own, f) ← bindFrom (seen ++ formals) (given ++ args) own seen.length given.length
      bindRest (seen ++ formals) own f) = settled (bindFormals own formals args) := by
  -- the lists of `bindFormals` are what the positions have not reached yet
  induction args generalizing own formals seen given with
  | nil =>
    rw [List.append_nil, bindFrom_none]
    exact bindRest_eq own seen formals
  | cons a others ih =>
    rcases formals with _ | ⟨formal, rest⟩
    · have hbind : bindFrom (seen ++ []) (given ++ a :: others) own seen.length given.length =
          .complaint .tooManyArguments := by
        rw [bindFrom]
        simp
      rw [hbind]
      exact Attempt.complaint_bind _ _
    by_cases hm : formal = variadicMarker
    · subst hm
      exact bindFrom_marked own seen rest given others a
    · have hnext := ih (own.put formal a) rest (seen ++ [formal]) (given ++ [a])
      simp only [List.append_assoc, List.singleton_append, List.length_append, List.length_singleton] at hnext
      rw [bindFrom_step, if_neg hm, bindFormals_cons hm]
      exact hnext

theorem bindArguments_eq (own : Bindings) (formals : List String) (args : List Value) :
    bindArguments own formals args = settled (bindFormals own formals args) :=
  bindFrom_eq own formals args [] []

end Binding

section Lookup

def lookUp (name : String) : List Bindings → Attempt Value
  | [] => .defect (.unbound name)
  | b :: outer => if b.names.contains name then entry b name else lookUp name outer

lemma lookUp_eq (name : String) (frames : List Bindings) :
    lookUp name frames =
      match frames.findSome? (·.find? name) with
      | some v => .value v
      | none => .defect (.unbound name) := by
  induction frames with
  | nil => rfl
  | cons b outer ih =>
    rw [lookUp, Bindings.contains_names, List.findSome?_cons]
    cases h : b.find? name with
    | none => exact ih
    | some v =>
      have hentry : entry b name = .value v := by
        rw [entry, show b.lookup name = some v from h]
      exact hentry

end Lookup

section Display

mutual

def substitute (own : Bindings) : Value → Attempt Value
  | .symbol name => if own.names.contains name then lookUp name [own] else .value (.symbol name)
  | .list b items => do .value (.list b (← substituteEach own items))
  | v => .value v

def substituteEach (own : Bindings) : List Value → Attempt (List Value)
  | [] => .value []
  | v :: rest => do
    let first ← substitute own v
    .value (first :: (← substituteEach own rest))

end

variable (names : Builtin → Option String) (own : Bindings)

mutual

lemma exists_substitute : ∀ v : Value, ∃ w, substitute own v = .value w ∧
    w.display names = Value.displayWith names (Value.displayBindings names own) v
  | .symbol name => by
    rw [substitute, Bindings.contains_names, lookUp_eq, List.findSome?_cons, Value.displayWith,
      Value.lookup_displayBindings]
    cases own.find? name with
    | none => exact ⟨.symbol name, rfl, rfl⟩
    | some v => exact ⟨v, rfl, rfl⟩
  | .list b items => by
    obtain ⟨ws, hws, hdisplay⟩ := exists_substituteEach items
    refine ⟨.list b ws, ?_, ?_⟩
    · rw [substitute, hws]
      rfl
    · rw [Value.display_list, Value.displayWith, hdisplay]
  | .number n => ⟨.number n, rfl, rfl⟩
  | .error message => ⟨.error message, rfl, rfl⟩
  | .string text => ⟨.string text, rfl, rfl⟩
  | .lambda formals body own' captured => ⟨.lambda formals body own' captured, rfl, rfl⟩
  | .builtin op name => ⟨.builtin op name, rfl, rfl⟩

lemma exists_substituteEach : ∀ l : List Value, ∃ ws, substituteEach own l = .value ws ∧
    ws.map (Value.display names) = Value.displayEach names (Value.displayBindings names own) l
  | [] => ⟨[], rfl, rfl⟩
  | v :: rest => by
    obtain ⟨w, hw, hfirst⟩ := exists_substitute v
    obtain ⟨ws, hws, hrest⟩ := exists_substituteEach rest
    refine ⟨w :: ws, ?_, ?_⟩
    · rw [substituteEach, hw, hws]
      rfl
    · rw [List.map_cons, Value.displayEach, hfirst, hrest]

end

lemma exists_displayed (formals : List String) (body : List Value) (captured : Option FrameId) :
    ∃ shown, substituteEach own body = .value shown ∧
      (Value.lambda formals body own captured).display names =
        "\\ " ++ (Value.qexpr (formals.map .symbol)).display names ++ " " ++
          (Value.qexpr shown).display names := by
  obtain ⟨shown, hshown, hdisplay⟩ := exists_substituteEach names own body
  refine ⟨shown, hshown, ?_⟩
  have hformals : (formals.map Value.symbol).map (Value.display names) = formals :=
    (List.map_map ..).trans (List.map_id formals)
  rw [Value.display_list, Value.display_list, hformals, hdisplay, Value.display, Value.displayWith]
  simp only [String.append_assoc]

end Display

section Evaluation

variable (crash : Defect → Fault) (files : Files) (room : Nat) (below : Nat → Evaluator) (env : FrameId)

def carryOut {α : Type} (x : Attempt α) (next : α → Eval Value) : Eval Value :=
  match x with
  | .value a => next a
  | .complaint c => return c.value
  | .defect d => throw (crash d)

def lookUpSymbol (name : String) : Eval Value := do
  let s ← Eval.store
  match lookUp name ((s.chain env).map s.bindings) with
  | .defect (.unbound name) => return (Complaint.unbound name).value
  | x => carryOut crash x fun v => return v

def applyBuiltin (op : Builtin) (args : List Value) : Eval Value := do
  carryOut crash (action (← Eval.store) env op args) (Evaluator.perform files room below env)

def applyLambda (formals : List String) (body : List Value) (own : Bindings) (captured : Option FrameId)
    (args : List Value) : Eval Value :=
  carryOut crash (bindArguments own formals args) fun
    | .refused complaint => return complaint.value
    | .waiting remaining own => do
      Eval.log (.partialApplication (formals.length - remaining.length) formals.length)
      return .lambda remaining body own captured
    | .complete own => do
      let frame ← Eval.newFrame { bindings := own, outer := some (captured.getD env) }
      below Evaluator.Part.body.levels frame (.sexpr body)

def apply (args : List Value) : Value → Eval Value
  | .builtin op _ => applyBuiltin crash files room below env op args
  | .lambda formals body own captured => applyLambda crash below env formals body own captured args
  | _ => return Complaint.notFunction.value

def call (program : List Value) : Eval Value := do
  match ← (below Evaluator.Part.item.levels).items env program with
  | .error message => return .error message
  | .ok values =>
    if values.isEmpty then return .nothing
    else if values.length = 1 then carryOut crash (item values 0) fun v => return v
    else carryOut crash (unpackFirst values) fun (head, args) => apply crash files room below env args head

def step : Value → Eval Value
  | .symbol name => lookUpSymbol crash env name
  | .sexpr program => call crash files room below env program
  | v => return v

def evaluators : (room less : Nat) → Evaluator
  | 0, _ => fun _ _ => throw .tooDeep
  | room + 1, 0 => step crash files room (evaluators room)
  | room + 1, less + 1 => evaluators room less

def evaluate (room : Nat) : Evaluator := evaluators crash files room 0

lemma lookUpSymbol_eq (name : String) :
    lookUpSymbol crash env name = do
      return ((← Eval.store).get? env name).getD (Complaint.unbound name).value := by
  unfold lookUpSymbol
  refine bind_congr fun s => ?_
  rw [lookUp_eq, List.findSome?_map]
  unfold Store.get?
  have hframes : (fun b : Bindings => b.find? name) ∘ s.bindings = fun i => (s.bindings i).find? name := rfl
  rw [hframes]
  cases (s.chain env).findSome? fun i => (s.bindings i).find? name <;> rfl

lemma applyBuiltin_eq (op : Builtin) (args : List Value) :
    applyBuiltin crash files room below env op args = Evaluator.applyBuiltin files room below env op args := by
  unfold applyBuiltin Evaluator.applyBuiltin
  refine bind_congr fun s => ?_
  rw [action_eq]
  cases op.action s env args <;> rfl

lemma applyLambda_eq (formals : List String) (body : List Value) (own : Bindings)
    (captured : Option FrameId) (args : List Value) :
    applyLambda crash below env formals body own captured args =
      Evaluator.applyLambda below env formals body own captured args := by
  unfold applyLambda Evaluator.applyLambda
  rw [bindArguments_eq]
  cases bindFormals own formals args <;> rfl

lemma apply_eq (args : List Value) (head : Value) :
    apply crash files room below env args head = Evaluator.apply files room below env args head := by
  cases head with
  | builtin op name => exact applyBuiltin_eq crash files room below env op args
  | lambda formals body own captured => exact applyLambda_eq crash below env formals body own captured args
  | _ => rfl

lemma call_eq (program : List Value) :
    call crash files room below env program = Evaluator.call files room below env program := by
  unfold call Evaluator.call
  refine bind_congr fun r => ?_
  rcases r with message | _ | ⟨head, _ | ⟨a, args⟩⟩
  · rfl
  · rfl
  · rfl
  · exact apply_eq crash files room below env (a :: args) head

lemma step_eq : step crash files room below env = Evaluator.step files room below env := by
  funext v
  cases v with
  | symbol name => exact lookUpSymbol_eq crash env name
  | list b program =>
    cases b with
    | round => exact call_eq crash files room below env program
    | curly => rfl
  | _ => rfl

theorem evaluators_eq (less : Nat) : evaluators crash files room less = CurriedLisp.evaluators files room less := by
  induction room generalizing less with
  | zero => rfl
  | succ room ih =>
    cases less with
    | zero =>
      funext env
      rw [evaluators, CurriedLisp.evaluators, funext ih]
      exact step_eq crash files room _ env
    | succ less => exact ih less

end Evaluation

end Trusting

open Eval

lemma applyBuiltin_stopsBy (files : Files) (room : Nat) (env : FrameId) (op : Builtin) (args : List Value) :
    StopsBy files.Halts
      (Evaluator.applyBuiltin files room (fun less => evaluate files (room - less)) env op args) :=
  (composable_stopsBy files).applyBuiltin (fun less => evaluate_stopsBy files (room - less)) op args

/-- An evaluation that trusts in its checks never comes upon a defect, whatever would become of one, and so it
is the evaluation that looks at all it takes. If it gives no value, there is too little room for it or a file
is no text. The same holds of each builtin, whatever it is given. Nor does the display of a function, which
puts its own bindings in place of their names, come upon one. -/
theorem evaluate_trusting (files : Files) (room : Nat) (env : FrameId) (crash : Defect → Fault) :
    Trusting.evaluate crash files room = evaluate files room ∧
    (∀ v s, (∃ r, result (Trusting.evaluate crash files room env v) s = .ok r) ∨
      ∃ e, result (Trusting.evaluate crash files room env v) s = .error e ∧ files.Halts e) ∧
    (∀ op args s,
      (∃ r, result (Trusting.applyBuiltin crash files room
        (fun less => Trusting.evaluate crash files (room - less)) env op args) s = .ok r) ∨
      ∃ e, result (Trusting.applyBuiltin crash files room
        (fun less => Trusting.evaluate crash files (room - less)) env op args) s = .error e ∧ files.Halts e) ∧
    (∀ s op args d, Trusting.action s env op args ≠ .defect d) ∧
    (∀ own formals args d, Trusting.bindArguments own formals args ≠ .defect d) ∧
    (∀ own body d, Trusting.substituteEach own body ≠ .defect d) ∧
    ∀ names formals own body captured, ∃ shown, Trusting.substituteEach own body = .value shown ∧
      (Value.lambda formals body own captured).display names =
        "\\ " ++ (Value.qexpr (formals.map .symbol)).display names ++ " " ++ (Value.qexpr shown).display names := by
  have heq : ∀ room, Trusting.evaluate crash files room = evaluate files room :=
    fun room => Trusting.evaluators_eq crash files room 0
  refine ⟨heq room, fun v => ?_, fun op args => ?_, fun s op args d => ?_, fun own formals args d => ?_,
    fun own body d => ?_, fun names formals own => Trusting.exists_displayed names own formals⟩
  · rw [heq]
    exact (evaluate_stopsBy files room env v).outcome
  · simp only [heq, Trusting.applyBuiltin_eq]
    exact (applyBuiltin_stopsBy files room env op args).outcome
  · rw [Trusting.action_eq]
    cases op.action s env args <;> exact nofun
  · rw [Trusting.bindArguments_eq]
    cases bindFormals own formals args <;> exact nofun
  · obtain ⟨shown, hshown, -⟩ := Trusting.exists_substituteEach (fun _ => none) own body
    rw [hshown]
    exact nofun

end CurriedLisp
