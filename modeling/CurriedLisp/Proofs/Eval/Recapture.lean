import CurriedLisp.Eval.Action
import CurriedLisp.Proofs.Eval.Binding
import CurriedLisp.Proofs.Eval.Contracts
import CurriedLisp.Proofs.Value.Captures

namespace CurriedLisp

open Value (recapture)

def Action.recapture (c : Option FrameId) : Action → Action
  | .give v => .give (v.recapture c)
  | .compute n => .compute n
  | .bind target new => .bind target (Bindings.recapture c new)
  | .print line => .print line
  | .call items => .call (items.map (Value.recapture c))
  | .load path => .load path

def Bound.recapture (c : Option FrameId) : Bound → Bound
  | .complete own => .complete (own.recapture c)
  | .waiting remaining own => .waiting remaining (own.recapture c)
  | .refused complaint => .refused complaint

def firstNonSymbol (l : List Value) : Option Value := l.find? (·.kind ≠ .symbol)

def Builtin.displays : Builtin → List Value → List Value
  | .println, args => args.filter (·.kind ≠ .string)
  | .lambda, .qexpr symbols :: _ | .function, .qexpr symbols :: _ | .define, .qexpr symbols :: _
  | .assign, .qexpr symbols :: _ => (firstNonSymbol symbols).toList
  | _, _ => []

variable {c : Option FrameId}

namespace Contract

variable {op : String} {i : Nat}

@[simp] lemma map_ok {α β : Type} (f : α → β) (a : α) : f <$> (.ok a : Except Complaint α) = .ok (f a) := rfl

lemma map_bind_congr {α α' β β' : Type} {x : Except Complaint α} {f : α → α'} {g : β → β'}
    {next : α → Except Complaint β} {next' : α' → Except Complaint β'}
    (h : ∀ a, x = .ok a → next' (f a) = g <$> next a) : (f <$> x) >>= next' = g <$> (x >>= next) := by
  cases x with
  | error e => rfl
  | ok a => exact h a rfl

lemma one_recapture (args : List Value) :
    one op (args.map (recapture c)) = recapture c <$> one op args := by
  rcases args with _ | ⟨a, _ | ⟨b, rest⟩⟩
  · rfl
  · rfl
  · simp [one]

lemma two_recapture (args : List Value) :
    two op (args.map (recapture c)) = Prod.map (recapture c) (recapture c) <$> two op args := by
  rcases args with _ | ⟨a, _ | ⟨b, _ | ⟨d, rest⟩⟩⟩
  · rfl
  · rfl
  · rfl
  · simp [two]

lemma one_bind_recapture {next next' : Value → Except Complaint Action} {args : List Value}
    (h : ∀ v, next' (v.recapture c) = Action.recapture c <$> next v) :
    (one op (args.map (recapture c)) >>= next') = Action.recapture c <$> (one op args >>= next) := by
  rw [one_recapture]
  exact map_bind_congr fun v _ => h v

lemma two_bind_recapture {next next' : Value × Value → Except Complaint Action} {args : List Value}
    (h : ∀ v w, next' (v.recapture c, w.recapture c) = Action.recapture c <$> next (v, w)) :
    (two op (args.map (recapture c)) >>= next') = Action.recapture c <$> (two op args >>= next) := by
  rw [two_recapture]
  exact map_bind_congr fun (v, w) _ => h v w

lemma nonEmpty_recapture (args : List Value) :
    nonEmpty op (args.map (recapture c)) = Prod.map (recapture c) (List.map (recapture c)) <$> nonEmpty op args := by
  cases args <;> rfl

lemma number_recapture (v : Value) : number op i (v.recapture c) = number op i v := by
  cases v with
  | list b l => cases b <;> simp [number, Value.kind]
  | lambda => simp [number, Value.kind]
  | _ => rfl

lemma string_recapture (v : Value) : string op i (v.recapture c) = string op i v := by
  cases v with
  | list b l => cases b <;> simp [string, Value.kind]
  | lambda => simp [string, Value.kind]
  | _ => rfl

lemma items_recapture (v : Value) :
    items op i (v.recapture c) = List.map (recapture c) <$> items op i v := by
  cases v with
  | list b l => cases b <;> simp [items, Value.kind]
  | lambda => simp [items, Value.kind]
  | _ => rfl

lemma someItems_recapture (v : Value) :
    someItems op i (v.recapture c) = Prod.map (recapture c) (List.map (recapture c)) <$> someItems op i v := by
  unfold someItems
  rw [items_recapture, bind_map_left, map_bind]
  refine bind_congr fun l => ?_
  cases l <;> rfl

lemma each_recapture {α : Type} {contract : Nat → Value → Except Complaint α} {f : α → α}
    (h : ∀ i v, contract i (v.recapture c) = f <$> contract i v) (args : List Value) :
    each contract i (args.map (recapture c)) = List.map f <$> each contract i args := by
  induction args generalizing i with
  | nil => rfl
  | cons v rest ih =>
    simp only [List.map_cons, each, h, ih, bind_map_left, map_bind, map_ok]

lemma numbers_recapture (args : List Value) : numbers op (args.map (recapture c)) = numbers op args := by
  have hnumber : ∀ i v, number op i (v.recapture c) = id <$> number op i v := by
    intro i v
    rw [number_recapture, id_map]
  refine (each_recapture hnumber args).trans ?_
  rw [List.map_id_fun, id_map]
  rfl

lemma each_items_recapture (args : List Value) :
    each (items op) i (args.map (recapture c)) = List.map (List.map (recapture c)) <$> each (items op) i args :=
  each_recapture (fun _ v => items_recapture v) args

lemma one_check_recapture {α : Type} {check : Value → Except Complaint α} {next : α → Except Complaint Action}
    (hcheck : ∀ v, check (v.recapture c) = check v) (hnext : ∀ a, Action.recapture c <$> next a = next a)
    (args : List Value) :
    (one op (args.map (recapture c)) >>= fun v => check v >>= next) =
      Action.recapture c <$> (one op args >>= fun v => check v >>= next) := by
  refine one_bind_recapture fun v => ?_
  rw [hcheck, map_bind]
  exact bind_congr fun a => (hnext a).symm

lemma one_someItems_recapture {next : Value × List Value → Except Complaint Action}
    (hnext : ∀ first rest, next (first.recapture c, rest.map (recapture c)) =
      Action.recapture c <$> next (first, rest)) (args : List Value) :
    (one op (args.map (recapture c)) >>= fun v => someItems op i v >>= next) =
      Action.recapture c <$> (one op args >>= fun v => someItems op i v >>= next) := by
  refine one_bind_recapture fun v => ?_
  rw [someItems_recapture]
  exact map_bind_congr fun (first, rest) _ => hnext first rest

lemma two_equal_recapture (verdict : Bool → Bool) (args : List Value) :
    (two op (args.map (recapture c)) >>= fun (a, b) => .ok (.give (truth (verdict (a.equal b))))) =
      Action.recapture c <$> (two op args >>= fun (a, b) => .ok (.give (truth (verdict (a.equal b))))) := by
  refine two_bind_recapture fun a b => ?_
  dsimp only
  rw [Value.equal_recapture]
  rfl

lemma symbolNames_recapture {complaint complaint' : Value → Complaint} (l : List Value)
    (h : ∀ v ∈ firstNonSymbol l, complaint' (v.recapture c) = complaint v) :
    symbolNames complaint' (l.map (recapture c)) = symbolNames complaint l := by
  induction l with
  | nil => rfl
  | cons v rest ih =>
    cases v with
    | symbol name =>
      have hrest := ih fun v hv => h v hv
      rw [List.map_cons, Value.recapture_symbol, symbolNames, symbolNames, hrest]
    | list b items => exact congrArg Except.error (h _ (by cases b <;> rfl))
    | _ => exact congrArg Except.error (h _ rfl)

end Contract

open Contract

namespace Builtin

variable {d l : Store} {env : FrameId}

lemma names_recapture (complaint : String → Complaint) (symbols : List Value)
    (hshow : ∀ v ∈ firstNonSymbol symbols, v.display (l.builtinName? env) = v.display (d.builtinName? env)) :
    symbolNames (fun v => complaint (v.display (l.builtinName? env))) (symbols.map (recapture c)) =
      symbolNames (fun v => complaint (v.display (d.builtinName? env))) symbols := by
  refine symbolNames_recapture symbols fun v hv => ?_
  rw [Value.display_recapture, hshow v hv]

lemma newFunction_recapture {formals body : List Value}
    (hnew : (if l.scoping env = .lexical then some env else none) = c)
    (hshow : ∀ v ∈ firstNonSymbol formals, v.display (l.builtinName? env) = v.display (d.builtinName? env)) :
    newFunction l env (formals.map (recapture c)) (body.map (recapture c)) =
      recapture c <$> newFunction d env formals body := by
  unfold newFunction
  rw [names_recapture .nonSymbolFormal formals hshow, map_bind, hnew]
  refine bind_congr fun names => ?_
  rw [map_ok, Value.recapture_lambda]
  rfl

lemma bindAction_recapture {op : Builtin} {target : Target} {args : List Value}
    (hshow : ∀ symbols values, args = .qexpr symbols :: values → ∀ v ∈ firstNonSymbol symbols,
      v.display (l.builtinName? env) = v.display (d.builtinName? env)) :
    bindAction l env op target (args.map (recapture c)) =
      Action.recapture c <$> bindAction d env op target args := by
  unfold bindAction
  rw [nonEmpty_recapture]
  refine map_bind_congr fun ⟨first, values⟩ hargs => ?_
  obtain rfl := nonEmpty_eq_ok.mp hargs
  dsimp only [Prod.map]
  rw [items_recapture]
  refine map_bind_congr fun symbols hfirst => ?_
  obtain rfl := items_eq_ok.mp hfirst
  rw [names_recapture .nonSymbolName symbols (hshow symbols values rfl), map_bind]
  refine bind_congr fun names => ?_
  rw [List.length_map, ← Bindings.recapture_zip]
  split <;> rfl

lemma functionAction_recapture {args : List Value}
    (hnew : (if l.scoping env = .lexical then some env else none) = c)
    (hshow : ∀ symbols values, args = .qexpr symbols :: values → ∀ v ∈ firstNonSymbol symbols,
      v.display (l.builtinName? env) = v.display (d.builtinName? env)) :
    functionAction l env (args.map (recapture c)) = Action.recapture c <$> functionAction d env args := by
  unfold functionAction
  rw [two_recapture]
  refine map_bind_congr fun ⟨signature, body⟩ hargs => ?_
  obtain rfl := two_eq_ok.mp hargs
  dsimp only [Prod.map]
  rw [someItems_recapture]
  refine map_bind_congr fun ⟨first, formals⟩ hsignature => ?_
  obtain rfl := someItems_eq_ok.mp hsignature
  dsimp only [Prod.map]
  rw [items_recapture]
  refine map_bind_congr fun body _ => ?_
  have hall : ∀ v ∈ firstNonSymbol (first :: formals), v.display (l.builtinName? env) =
      v.display (d.builtinName? env) := hshow _ _ rfl
  have hfirst : first.kind ≠ .symbol → (first.recapture c).display (l.builtinName? env) =
      first.display (d.builtinName? env) := by
    intro hk
    rw [Value.display_recapture]
    exact hall first (List.find?_cons_of_pos (by simpa using hk))
  cases first with
  | symbol name =>
    have hformals : ∀ v ∈ firstNonSymbol formals, v.display (l.builtinName? env) =
        v.display (d.builtinName? env) := hall
    dsimp only [Value.recapture_symbol]
    rw [newFunction_recapture hnew hformals]
    exact map_bind_congr fun new _ => rfl
  | list b items =>
    have hkind : (Value.list b items).kind ≠ .symbol := by cases b <;> simp [Value.kind]
    exact congrArg (fun shown => Except.error (Complaint.nonSymbolName shown)) (hfirst hkind)
  | _ =>
    exact congrArg (fun shown => Except.error (Complaint.nonSymbolName shown)) (hfirst (by simp [Value.kind]))

lemma condAction_recapture (args : List Value) :
    condAction (args.map (recapture c)) = Action.recapture c <$> condAction args := by
  rcases args with _ | ⟨condition, _ | ⟨yes, rest⟩⟩
  · rfl
  · rfl
  simp only [List.map_cons, condAction, List.length_map, number_recapture, items_recapture, each_items_recapture,
    bind_map_left, List.length_cons]
  split
  · rfl
  · simp only [map_bind]
    refine bind_congr fun n => bind_congr fun l => bind_congr fun branches => ?_
    cases n.isTrue with
    | true => rfl
    | false => cases branches <;> rfl

lemma compareAction_recapture (r : Comparison) (args : List Value) :
    compareAction r (args.map (recapture c)) = Action.recapture c <$> compareAction r args := by
  unfold compareAction
  rw [List.length_map, numbers_recapture]
  split
  · rfl
  · rw [map_bind]
    rfl

lemma arithmeticAction_recapture (o : Arithmetic) (args : List Value) :
    arithmeticAction o (args.map (recapture c)) = Action.recapture c <$> arithmeticAction o args := by
  unfold arithmeticAction
  rw [numbers_recapture, map_bind]
  refine bind_congr fun operands => ?_
  rcases operands with _ | ⟨x, _ | ⟨y, rest⟩⟩
  · rfl
  · cases o <;> rfl
  · rw [map_bind]
    rfl

lemma testAction_recapture (op : Builtin) (test : Number → Number → Bool) (args : List Value) :
    testAction op test (args.map (recapture c)) = Action.recapture c <$> testAction op test args := by
  unfold testAction
  simp only [two_recapture, number_recapture, bind_map_left, map_bind, Prod.map]
  rfl

lemma outputLine_recapture {args : List Value}
    (hshow : ∀ v ∈ args.filter (·.kind ≠ .string), v.display (l.builtinName? env) = v.display (d.builtinName? env)) :
    outputLine (l.builtinName? env) (args.map (recapture c)) = outputLine (d.builtinName? env) args := by
  unfold outputLine
  rw [List.map_map]
  refine congrArg spaced (List.map_congr_left fun v hv => ?_)
  rw [Function.comp_apply, Value.output_recapture]
  cases v with
  | string text => rfl
  | list b items => exact hshow _ (List.mem_filter.mpr ⟨hv, by cases b <;> simp [Value.kind]⟩)
  | _ => exact hshow _ (List.mem_filter.mpr ⟨hv, by simp [Value.kind]⟩)

lemma lambda_recapture {args : List Value}
    (hnew : (if l.scoping env = .lexical then some env else none) = c)
    (hshow : ∀ symbols values, args = .qexpr symbols :: values → ∀ v ∈ firstNonSymbol symbols,
      v.display (l.builtinName? env) = v.display (d.builtinName? env)) :
    action l env .lambda (args.map (recapture c)) = Action.recapture c <$> action d env .lambda args := by
  unfold action
  rw [two_recapture]
  refine map_bind_congr fun ⟨formals, body⟩ hargs => ?_
  obtain rfl := two_eq_ok.mp hargs
  dsimp only [Prod.map]
  rw [items_recapture]
  refine map_bind_congr fun formals hformals => ?_
  obtain rfl := items_eq_ok.mp hformals
  rw [items_recapture]
  refine map_bind_congr fun body _ => ?_
  rw [newFunction_recapture hnew (hshow _ _ rfl)]
  exact map_bind_congr fun new _ => rfl

lemma cons_recapture (args : List Value) :
    action l env .cons (args.map (recapture c)) = Action.recapture c <$> action d env .cons args := by
  refine two_bind_recapture fun first rest => ?_
  dsimp only
  rw [items_recapture]
  exact map_bind_congr fun l _ => by simp [Action.recapture]

lemma join_recapture (args : List Value) :
    action l env .join (args.map (recapture c)) = Action.recapture c <$> action d env .join args := by
  dsimp only [action]
  rw [nonEmpty_recapture]
  refine map_bind_congr fun p _ => ?_
  rw [each_items_recapture]
  exact map_bind_congr fun ls _ => by simp [Action.recapture, List.map_flatten]

lemma eval_recapture (args : List Value) :
    action l env .eval (args.map (recapture c)) = Action.recapture c <$> action d env .eval args := by
  refine one_bind_recapture fun v => ?_
  rw [items_recapture]
  exact map_bind_congr fun l _ => rfl

/-- Operations do not look at captured frames. What they display must be displayed alike, and functions are
created with the same frame captured that stands in the place of others. -/
theorem action_recapture {op : Builtin} {args : List Value}
    (hnew : op = .lambda ∨ op = .function → (if l.scoping env = .lexical then some env else none) = c)
    (hshow : ∀ v ∈ op.displays args, v.display (l.builtinName? env) = v.display (d.builtinName? env)) :
    op.action l env (args.map (recapture c)) = Action.recapture c <$> op.action d env args := by
  have hsymbols : ∀ {o : Builtin} {symbols values : List Value},
      o = .lambda ∨ o = .function ∨ o = .define ∨ o = .assign → op = o → args = .qexpr symbols :: values →
      ∀ v ∈ firstNonSymbol symbols, v.display (l.builtinName? env) = v.display (d.builtinName? env) := by
    rintro o symbols values (rfl | rfl | rfl | rfl) rfl rfl v hv <;>
      exact hshow v (Option.mem_toList.mpr hv)
  cases op with
  | lambda => exact lambda_recapture (hnew (.inl rfl)) fun _ _ => hsymbols (.inl rfl) rfl
  | function => exact functionAction_recapture (hnew (.inr rfl)) fun _ _ => hsymbols (.inr (.inl rfl)) rfl
  | define => exact bindAction_recapture fun _ _ => hsymbols (.inr (.inr (.inl rfl))) rfl
  | assign => exact bindAction_recapture fun _ _ => hsymbols (.inr (.inr (.inr rfl))) rfl
  | eval => exact eval_recapture args
  | load => exact one_check_recapture string_recapture (fun _ => rfl) args
  | error => exact one_check_recapture string_recapture (fun _ => rfl) args
  | println => exact congrArg (fun line => Except.ok (Action.print line)) (outputLine_recapture hshow)
  | compare r => exact compareAction_recapture r args
  | equal => exact two_equal_recapture id args
  | differ => exact two_equal_recapture not args
  | cond => exact condAction_recapture args
  | both => exact testAction_recapture _ _ args
  | either => exact testAction_recapture _ _ args
  | negation => exact one_check_recapture number_recapture (fun _ => rfl) args
  | head => exact one_someItems_recapture (fun _ _ => by simp [Action.recapture]) args
  | tail => exact one_someItems_recapture (fun _ _ => by simp [Action.recapture]) args
  | list => exact congrArg (fun l => Except.ok (Action.give l)) (Value.recapture_list .curly args).symm
  | join => exact join_recapture args
  | cons => exact cons_recapture args
  | arithmetic o => exact arithmeticAction_recapture o args

end Builtin

theorem bindFormals_recapture (own : Bindings) (formals : List String) (args : List Value) :
    bindFormals (own.recapture c) formals (args.map (recapture c)) =
      (bindFormals own formals args).recapture c := by
  fun_induction bindFormals own formals args with
  | case1 own => rfl
  | case2 own a others => rfl
  | case3 own args =>
    unfold bindFormals
    simp [Bound.recapture]
  | case4 own args last hlast =>
    unfold bindFormals
    simp [Bound.recapture, Bindings.put_recapture, hlast]
  | case5 own rest args hrest =>
    unfold bindFormals
    rw [if_pos rfl]
    split
    · next last => exact (hrest last rfl).elim
    · rfl
  | case6 own formal rest hne =>
    unfold bindFormals
    rw [if_neg hne]
    rfl
  | case7 own formal rest hne a others ih =>
    rw [List.map_cons, bindFormals_cons hne, ← Bindings.put_recapture]
    exact ih

end CurriedLisp
