import CurriedLisp.Proofs.Store.Growth
import CurriedLisp.Proofs.Value.Readable
import Mathlib.Data.List.Forall2
import Mathlib.Data.List.Perm.Subperm

namespace CurriedLisp

section Pairs

variable {α : Type} {R : α → α → Prop} {xs ys zs : List α}

lemma symm_of_mem (h : List.Forall₂ R xs ys) (hR : ∀ x ∈ xs, ∀ y ∈ ys, R x y → R y x) :
    List.Forall₂ R ys xs := by
  rw [List.forall₂_iff_get] at h ⊢
  exact ⟨h.1.symm, fun i hy hx => hR _ (List.get_mem _ _) _ (List.get_mem _ _) (h.2 i hx hy)⟩

lemma trans_of_mem (h : List.Forall₂ R xs ys) (h' : List.Forall₂ R ys zs)
    (hR : ∀ x ∈ xs, ∀ y ∈ ys, ∀ z ∈ zs, R x y → R y z → R x z) : List.Forall₂ R xs zs := by
  rw [List.forall₂_iff_get] at h h' ⊢
  refine ⟨h.1.trans h'.1, fun i hx hz => ?_⟩
  have hy : i < ys.length := h.1 ▸ hx
  exact hR _ (List.get_mem _ _) _ (List.get_mem _ ⟨i, hy⟩) _ (List.get_mem _ _) (h.2 i hx hy) (h'.2 i hy hz)

lemma map_eq_map_of_mem {β : Type} {f g : α → β} (h : List.Forall₂ R xs ys)
    (hf : ∀ x ∈ xs, ∀ y ∈ ys, R x y → f x = g y) : xs.map f = ys.map g := by
  rw [List.forall₂_iff_get] at h
  refine List.ext_getElem (by simp [h.1]) fun i hx hy => ?_
  rw [List.getElem_map, List.getElem_map]
  rw [List.length_map] at hx hy
  exact hf _ (List.getElem_mem hx) _ (List.getElem_mem hy) (h.2 i hx hy)

end Pairs

namespace Number

variable {a b c : Number}

lemma signed_inj {s t : Bool} {q r : Nat} (h : signed s q = signed t r) : q = r ∧ (q = 0 ∨ s = t) := by
  cases s <;> cases t <;> simp only [signed, Bool.false_eq_true, if_false, if_true] at h <;> simp <;> omega

lemma same_self (a : Number) : a.same a = true := by
  cases a <;> simp [same, equal]

lemma same_symm (h : a.same b = true) : b.same a = true := by
  cases a <;> cases b <;> simp_all [same, equal]

lemma same_trans (h : a.same b = true) (h' : b.same c = true) : a.same c = true := by
  cases a <;> cases b <;> cases c <;> simp_all [same, equal]

lemma text_zero (s : Bool) (h : FitsBinary64 0) : (finite s 0 h).text = "0" := by
  have hwhole : 0 % one = 0 ∧ 0 < 10 ^ 16 * one :=
    ⟨Nat.zero_mod _, Nat.mul_pos (Nat.pow_pos (by decide)) quantaOfOne_pos⟩
  rw [text, if_pos hwhole, Nat.zero_div]
  simp
  rfl

lemma text_eq_of_same (h : a.same b = true) : a.text = b.text := by
  cases a with
  | finite s q hq =>
    cases b with
    | finite t r hr =>
      -- Equal numbers have one sign, or they are both zero.
      obtain ⟨rfl, rfl | rfl⟩ := signed_inj (eq_of_beq h)
      · rw [text_zero, text_zero]
      · rfl
    | _ => cases h
  | infinite s =>
    cases b with
    | infinite t => rw [eq_of_beq (show (s == t) = true from h)]
    | _ => cases h
  | nan m =>
    cases b with
    | nan n => rfl
    | _ => cases h

end Number

namespace Value

def Keyed (v : Value) : Prop := v.Every fun w => w.own.names.Nodup

variable {xs ys : List Value} {own others : Bindings}

lemma keyed_list {b : Bracket} {items : List Value} : (list b items).Keyed ↔ ∀ v ∈ items, v.Keyed :=
  every_list.trans (and_iff_right List.nodup_nil)

lemma keyed_lambda {formals : List String} {body : List Value} {frame : Option FrameId} :
    (lambda formals body own frame).Keyed ↔
      own.names.Nodup ∧ (∀ v ∈ body, v.Keyed) ∧ ∀ b ∈ own, b.2.Keyed := every_lambda

lemma sameItems_iff : sameItems xs ys = true ↔ List.Forall₂ (fun x y => x.same y = true) xs ys := by
  induction xs generalizing ys with
  | nil => cases ys <;> simp [sameItems]
  | cons x xs ih => cases ys <;> simp [sameItems, ih]

lemma sameBindings_iff :
    sameBindings own others = true ↔ ∀ b ∈ own, ∃ y, others.find? b.1 = some y ∧ b.2.same y = true := by
  induction own with
  | nil => simp [sameBindings]
  | cons entry rest ih =>
    obtain ⟨name, x⟩ := entry
    rw [sameBindings, Bool.and_eq_true, ih, List.forall_mem_cons]
    refine and_congr_left fun _ => ?_
    unfold Bindings.find?
    cases others.lookup name <;> simp

end Value

namespace Bindings

structure Agree (own others : Bindings) : Prop where
  missing : ∀ name, own.find? name = none → others.find? name = none
  found : ∀ name x, own.find? name = some x → ∃ y, others.find? name = some y ∧ x.same y = true

variable {own others more : Bindings}

lemma Agree.missing_iff (h : own.Agree others) (name : String) :
    own.find? name = none ↔ others.find? name = none := by
  refine ⟨h.missing name, fun hnone => ?_⟩
  cases hx : own.find? name with
  | none => rfl
  | some x =>
    obtain ⟨y, hy, -⟩ := h.found name x hx
    cases hnone.symm.trans hy

lemma Agree.symm_of_mem (h : own.Agree others)
    (hR : ∀ e ∈ own, ∀ e' ∈ others, e.2.same e'.2 = true → e'.2.same e.2 = true) : others.Agree own := by
  refine ⟨fun name => (h.missing_iff name).mpr, fun name y hy => ?_⟩
  cases hx : own.find? name with
  | none => cases hy.symm.trans (h.missing name hx)
  | some x =>
    obtain ⟨y', hy', hsame⟩ := h.found name x hx
    obtain rfl := Option.some.inj (hy.symm.trans hy')
    exact ⟨x, rfl, hR _ (mem_of_find? hx) _ (mem_of_find? hy) hsame⟩

lemma Agree.trans_of_mem (h : own.Agree others) (h' : others.Agree more)
    (hR : ∀ e ∈ own, ∀ e' ∈ others, ∀ e'' ∈ more, e.2.same e'.2 = true → e'.2.same e''.2 = true →
      e.2.same e''.2 = true) : own.Agree more := by
  refine ⟨fun name hnone => h'.missing name (h.missing name hnone), fun name x hx => ?_⟩
  obtain ⟨y, hy, hxy⟩ := h.found name x hx
  obtain ⟨z, hz, hyz⟩ := h'.found name y hy
  exact ⟨z, hz, hR _ (mem_of_find? hx) _ (mem_of_find? hy) _ (mem_of_find? hz) hxy hyz⟩

theorem equal_iff (hd : own.names.Nodup) (hd' : others.names.Nodup) :
    own.equal others = true ↔ own.Agree others := by
  rw [equal, Bool.and_eq_true, beq_iff_eq, Value.sameBindings_iff]
  constructor
  · rintro ⟨hlength, hsame⟩
    -- The names are distinct, and as many in both, so all names of the other one are among them.
    have hsubset : own.names ⊆ others.names := by
      intro name hname
      obtain ⟨⟨_, x⟩, hb, rfl⟩ := List.mem_map.mp hname
      obtain ⟨y, hy, -⟩ := hsame _ hb
      exact List.mem_map.mpr ⟨_, mem_of_find? hy, rfl⟩
    have hperm : own.names.Perm others.names :=
      (List.subperm_of_subset hd hsubset).perm_of_length_le (by simp [names, hlength])
    refine ⟨fun name hnone => ?_, fun name x hx => hsame _ (mem_of_find? hx)⟩
    rwa [find?_eq_none_iff, ← hperm.mem_iff, ← find?_eq_none_iff]
  · intro h
    have hperm : own.names.Perm others.names := by
      refine (List.perm_ext_iff_of_nodup hd hd').mpr fun name => ?_
      rw [← not_iff_not, ← find?_eq_none_iff, ← find?_eq_none_iff]
      exact h.missing_iff name
    refine ⟨by simpa [names] using hperm.length_eq, fun b hb => ?_⟩
    exact h.found b.1 b.2 (find?_of_mem hd hb)

end Bindings

namespace Value

inductive Corresponds : Value → Value → Prop
  | number {m n : Number} : m.same n = true → Corresponds (number m) (number n)
  | error (message : String) : Corresponds (error message) (error message)
  | symbol (name : String) : Corresponds (symbol name) (symbol name)
  | string (text : String) : Corresponds (string text) (string text)
  | builtin (op : Builtin) (m n : String) : Corresponds (builtin op m) (builtin op n)
  | list (b : Bracket) {xs ys : List Value} : List.Forall₂ (fun x y => x.same y = true) xs ys →
    Corresponds (list b xs) (list b ys)
  | lambda (formals : List String) {xs ys : List Value} {own others : Bindings} (frame frame' : Option FrameId) :
    List.Forall₂ (fun x y => x.same y = true) xs ys → own.Agree others →
      Corresponds (lambda formals xs own frame) (lambda formals ys others frame')

variable {a b c : Value}

lemma Keyed.nodup {formals : List String} {body : List Value} {own : Bindings} {frame : Option FrameId}
    (h : (Value.lambda formals body own frame).Keyed) : own.names.Nodup := (keyed_lambda.mp h).1

lemma same_iff (ha : a.Keyed) (hb : b.Keyed) : a.same b = true ↔ Corresponds a b := by
  constructor
  · intro h
    cases a with
    | list s xs =>
      cases b with
      | list t ys =>
        rw [same, Bool.and_eq_true, beq_iff_eq, sameItems_iff] at h
        exact h.1 ▸ .list s h.2
      | _ => cases h
    | lambda formals xs own frame =>
      cases b with
      | lambda formals' ys others frame' =>
        rw [same, Bool.and_assoc, ← Bindings.equal, Bool.and_eq_true, Bool.and_eq_true, beq_iff_eq, sameItems_iff,
          Bindings.equal_iff ha.nodup hb.nodup] at h
        exact h.1.1 ▸ .lambda formals frame frame' h.1.2 h.2
      | _ => cases h
    | number m => cases b <;> first | exact .number h | cases h
    | error m => cases b <;> first | exact eq_of_beq h ▸ .error m | cases h
    | symbol m => cases b <;> first | exact eq_of_beq h ▸ .symbol m | cases h
    | string m => cases b <;> first | exact eq_of_beq h ▸ .string m | cases h
    | builtin op m => cases b <;> first | exact eq_of_beq h ▸ .builtin op m _ | cases h
  · intro h
    cases h with
    | number h => exact h
    | list b h => rw [same, beq_self_eq_true, sameItems_iff.mpr h, Bool.and_self]
    | lambda formals frame frame' hbody hown =>
      rw [same, Bool.and_assoc, ← Bindings.equal, (Bindings.equal_iff ha.nodup hb.nodup).mpr hown,
        sameItems_iff.mpr hbody, beq_self_eq_true, Bool.and_self, Bool.and_self]
    | _ => exact beq_self_eq_true _

lemma kind_eq_of_same (h : a.same b = true) : a.kind = b.kind := by
  cases a with
  | list s xs =>
    cases b with
    | list t ys =>
      rw [same, Bool.and_eq_true, beq_iff_eq] at h
      rw [h.1]
      cases t <;> rfl
    | _ => cases h
  | _ => cases b <;> first | rfl | cases h

lemma same_self (h : a.Keyed) : a.same a = true := by
  induction a using induction_children with
  | h a ih =>
    refine (same_iff h h).mpr ?_
    cases a with
    | number n => exact .number n.same_self
    | error m => exact .error m
    | symbol m => exact .symbol m
    | string m => exact .string m
    | builtin op m => exact .builtin op m m
    | list b items => exact .list b (List.forall₂_same.mpr fun x hx => ih x hx (keyed_list.mp h x hx))
    | lambda formals body own frame =>
      obtain ⟨-, hbody, hown⟩ := keyed_lambda.mp h
      refine .lambda formals frame frame (List.forall₂_same.mpr fun x hx => ?_) ⟨fun _ => id, fun name x hx => ?_⟩
      · exact ih x (List.mem_append_left _ hx) (hbody x hx)
      · have hmem := Bindings.mem_of_find? hx
        exact ⟨x, hx, ih x (List.mem_append_right _ (List.mem_map_of_mem hmem)) (hown _ hmem)⟩

lemma same_symm (ha : a.Keyed) (hb : b.Keyed) (h : a.same b = true) : b.same a = true := by
  induction a using induction_children generalizing b with
  | h a ih =>
    refine (same_iff hb ha).mpr ?_
    cases (same_iff ha hb).mp h with
    | number h => exact .number (Number.same_symm h)
    | error m => exact .error m
    | symbol m => exact .symbol m
    | string m => exact .string m
    | builtin op m n => exact .builtin op n m
    | list s hitems =>
      refine .list s (symm_of_mem hitems fun x hx y hy => ?_)
      exact ih x hx (keyed_list.mp ha x hx) (keyed_list.mp hb y hy)
    | lambda formals frame frame' hbody hagree =>
      obtain ⟨-, hxs, hown⟩ := keyed_lambda.mp ha
      obtain ⟨-, hys, hothers⟩ := keyed_lambda.mp hb
      refine .lambda formals frame' frame (symm_of_mem hbody fun x hx y hy => ?_)
        (hagree.symm_of_mem fun e he e' he' => ?_)
      · exact ih x (List.mem_append_left _ hx) (hxs x hx) (hys y hy)
      · exact ih e.2 (List.mem_append_right _ (List.mem_map_of_mem he)) (hown e he) (hothers e' he')

lemma same_trans (ha : a.Keyed) (hb : b.Keyed) (hc : c.Keyed) (h : a.same b = true) (h' : b.same c = true) :
    a.same c = true := by
  induction a using induction_children generalizing b c with
  | h a ih =>
    refine (same_iff ha hc).mpr ?_
    rw [same_iff hb hc] at h'
    cases (same_iff ha hb).mp h with
    | number h =>
      cases h' with
      | number h' => exact .number (Number.same_trans h h')
    | error m => exact h'
    | symbol m => exact h'
    | string m => exact h'
    | builtin op m n =>
      cases h' with
      | builtin _ _ l => exact .builtin op m l
    | list s hxy =>
      cases h' with
      | list _ hyz =>
        refine .list s (trans_of_mem hxy hyz fun x hx y hy z hz => ?_)
        exact ih x hx (keyed_list.mp ha x hx) (keyed_list.mp hb y hy) (keyed_list.mp hc z hz)
    | lambda formals frame frame' hxy hagree =>
      cases h' with
      | lambda _ _ frame'' hyz hagree' =>
        obtain ⟨-, hxs, hown⟩ := keyed_lambda.mp ha
        obtain ⟨-, hys, hothers⟩ := keyed_lambda.mp hb
        obtain ⟨-, hzs, hmore⟩ := keyed_lambda.mp hc
        refine .lambda formals frame frame'' (trans_of_mem hxy hyz fun x hx y hy z hz => ?_)
          (hagree.trans_of_mem hagree' fun e he e' he' e'' he'' => ?_)
        · exact ih x (List.mem_append_left _ hx) (hxs x hx) (hys y hy) (hzs z hz)
        · exact ih e.2 (List.mem_append_right _ (List.mem_map_of_mem he)) (hown e he) (hothers e' he')
            (hmore e'' he'')

section Display

variable (names : Builtin → Option String)

lemma displayEach_eq_map_displayWith (shown : List (String × String)) (items : List Value) :
    displayEach names shown items = items.map (displayWith names shown) := by
  induction items with
  | nil => rfl
  | cons v rest ih => rw [displayEach, List.map_cons, ih]

lemma displayWith_of_same (ha : a.Keyed) (hb : b.Keyed) {shown shown' : List (String × String)}
    (hs : ∀ name, shown.lookup name = shown'.lookup name) (h : a.same b = true) :
    displayWith names shown a = displayWith names shown' b := by
  induction a using induction_children generalizing b shown shown' with
  | h a ih =>
    cases (same_iff ha hb).mp h with
    | number h => exact Number.text_eq_of_same h
    | error m => rfl
    | symbol m => rw [displayWith, displayWith, hs]
    | string m => rfl
    | builtin op m n => rfl
    | list s hitems =>
      have heach := map_eq_map_of_mem hitems fun x hx y hy hxy =>
        ih x hx (keyed_list.mp ha x hx) (keyed_list.mp hb y hy) hs hxy
      rw [displayWith, displayWith, displayEach_eq_map_displayWith, heach, displayEach_eq_map_displayWith]
    | @lambda formals xs ys own others frame frame' hbody hagree =>
      obtain ⟨-, hxs, hown⟩ := keyed_lambda.mp ha
      obtain ⟨-, hys, hothers⟩ := keyed_lambda.mp hb
      -- Symbols in the bodies are replaced by what is shown for the own bindings.
      have hshown : ∀ name, (displayBindings names own).lookup name = (displayBindings names others).lookup name := by
        intro name
        rw [lookup_displayBindings, lookup_displayBindings]
        cases hx : own.find? name with
        | none => rw [hagree.missing name hx]
        | some x =>
          obtain ⟨y, hy, hxy⟩ := hagree.found name x hx
          have hmem := Bindings.mem_of_find? hx
          rw [hy]
          exact congrArg some (ih x (List.mem_append_right _ (List.mem_map_of_mem hmem)) (hown _ hmem)
            (hothers _ (Bindings.mem_of_find? hy)) (fun _ => rfl) hxy)
      have heach := map_eq_map_of_mem hbody fun x hx y hy hxy =>
        ih x (List.mem_append_left _ hx) (hxs x hx) (hys y hy) hshown hxy
      rw [displayWith, displayWith, displayEach_eq_map_displayWith, heach, displayEach_eq_map_displayWith]

end Display

theorem same_of_equal (h : a.equal b = true) : a.same b = true := by
  cases a with
  | number m =>
    cases b with
    | number n => cases m <;> cases n <;> first | exact h | cases h
    | _ => cases h
  | _ => exact h

/-- No number inside is `nan`, and no function inside owns two bindings of one name. None that is made in a
session does, since what is bound again under a name takes the place of what was bound to it. -/
def Comparable (v : Value) : Prop :=
  v.Every fun w => (∀ n, w = number n → n.isNan = false) ∧ w.own.names.Nodup

lemma comparable_list {b : Bracket} {items : List Value} :
    (list b items).Comparable ↔ ∀ v ∈ items, v.Comparable :=
  every_list.trans (and_iff_right ⟨by rintro _ ⟨⟩, List.nodup_nil⟩)

lemma comparable_lambda {formals : List String} {body : List Value} {own : Bindings} {frame : Option FrameId} :
    (lambda formals body own frame).Comparable ↔
      own.names.Nodup ∧ (∀ v ∈ body, v.Comparable) ∧ ∀ b ∈ own, b.2.Comparable :=
  every_lambda.trans (and_congr_left fun _ => and_iff_right (by rintro _ ⟨⟩))

lemma comparable_number {n : Number} : (number n).Comparable ↔ n.isNan = false := by
  refine (every_of_children_nil rfl).trans ⟨fun h => h.1 n rfl, fun h => ⟨?_, List.nodup_nil⟩⟩
  rintro _ ⟨⟩
  exact h

lemma comparable_symbol (name : String) : (symbol name).Comparable :=
  (every_of_children_nil rfl).mpr ⟨by rintro _ ⟨⟩, List.nodup_nil⟩

lemma comparable_builtin (op : Builtin) (name : String) : (builtin op name).Comparable :=
  (every_of_children_nil rfl).mpr ⟨by rintro _ ⟨⟩, List.nodup_nil⟩

lemma Comparable.keyed (h : a.Comparable) : a.Keyed := h.mono fun _ hw => hw.2

lemma Comparable.equal_iff (h : a.Comparable) : a.equal b = true ↔ a.same b = true := by
  refine ⟨same_of_equal, fun hsame => ?_⟩
  cases a with
  | number m =>
    cases b with
    | number n => rwa [equal, ← Number.same_of_not_isNan (h.self.1 m rfl)]
    | _ => cases hsame
  | _ => exact hsame

theorem equal_equivalence_display :
    Equivalence (fun a b : { v : Value // v.Comparable } => a.1.equal b.1 = true) ∧
    (∀ a b : Value, a.kind ≠ b.kind → a.equal b = false) ∧
    (∀ a b : Value, a.Comparable → b.Comparable → a.equal b = true →
      (∀ (s : Store) (env : FrameId), a.display (s.builtinName? env) = b.display (s.builtinName? env)) ∧
        a.displayAnonymous = b.displayAnonymous) ∧
    (∀ a b : Value, a.Comparable → b.Comparable → (a.equal b = true ↔ Corresponds a b)) ∧
    ∀ h h' : FitsBinary64 0, (number (.finite true 0 h)).equal (number (.finite false 0 h')) = true := by
  refine ⟨⟨fun a => ?_, fun {a b} h => ?_, fun {a b c} h h' => ?_⟩, fun a b hkind => ?_,
    fun a b ha hb h => ?_, fun a b ha hb => ?_, fun h h' => rfl⟩
  · exact a.2.equal_iff.mpr (same_self a.2.keyed)
  · exact b.2.equal_iff.mpr (same_symm a.2.keyed b.2.keyed (same_of_equal h))
  · exact a.2.equal_iff.mpr (same_trans a.2.keyed b.2.keyed c.2.keyed (same_of_equal h) (same_of_equal h'))
  · rw [Bool.eq_false_iff]
    exact fun h => hkind (kind_eq_of_same (same_of_equal h))
  · have hdisplay : ∀ names, a.display names = b.display names := fun names =>
      displayWith_of_same names ha.keyed hb.keyed (fun _ => rfl) (same_of_equal h)
    exact ⟨fun s env => hdisplay _, hdisplay _⟩
  · rw [ha.equal_iff, same_iff ha.keyed hb.keyed]

def given (zero : Number) (own : Bindings) (frame : Option FrameId) : Value :=
  .lambda ["x"] [.symbol "f", .qexpr [.number zero, .symbol "n"]] own frame

def operationFirst : Value :=
  given .zero [("f", .builtin (.arithmetic .add) "+"), ("n", .number (.finite true 0 fitsBinary64_zero))] none

def operationLast : Value :=
  given (.finite true 0 fitsBinary64_zero) [("n", .number .zero), ("f", .builtin (.arithmetic .add) "plus")] (some 3)

theorem equal_display_given : operationFirst.Comparable ∧ operationLast.Comparable ∧
    operationFirst.equal operationLast = true ∧ operationLast.equal operationFirst = true ∧
    operationFirst.displayAnonymous = operationLast.displayAnonymous := by
  have hfirst : operationFirst.Comparable := by
    simp [operationFirst, given, comparable_lambda, comparable_list, comparable_symbol, comparable_builtin,
      comparable_number, Bindings.names, Number.zero, Number.isNan]
  have hlast : operationLast.Comparable := by
    simp [operationLast, given, comparable_lambda, comparable_list, comparable_symbol, comparable_builtin,
      comparable_number, Bindings.names, Number.zero, Number.isNan]
  have hequal : operationFirst.equal operationLast = true := by decide +kernel
  obtain ⟨hequivalence, -, hdisplay, -⟩ := equal_equivalence_display
  exact ⟨hfirst, hlast, hequal, hequivalence.symm (x := ⟨_, hfirst⟩) (y := ⟨_, hlast⟩) hequal,
    (hdisplay _ _ hfirst hlast hequal).2⟩

end Value

end CurriedLisp
