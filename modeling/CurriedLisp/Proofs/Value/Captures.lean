import CurriedLisp.Proofs.Value.Parts
import CurriedLisp.Store.Bindings
import CurriedLisp.Value.Display

/-! Values up to what functions have captured. Captured frames count neither for equality nor for display, so
a value may have others in their place and still pass for the same. -/

namespace CurriedLisp

namespace Value

mutual

def recapture (c : Option FrameId) : Value → Value
  | list b items => list b (recaptureEach c items)
  | lambda formals body own _ => lambda formals (recaptureEach c body) (recaptureOwn c own) c
  | v => v

def recaptureEach (c : Option FrameId) : List Value → List Value
  | [] => []
  | v :: rest => recapture c v :: recaptureEach c rest

def recaptureOwn (c : Option FrameId) : List (String × Value) → List (String × Value)
  | [] => []
  | (name, v) :: rest => (name, recapture c v) :: recaptureOwn c rest

end

def uncaptured (v : Value) : Value := v.recapture none

end Value

def Bindings.recapture (c : Option FrameId) (b : Bindings) : Bindings := b.map fun entry => (entry.1, entry.2.recapture c)

namespace Value

variable {c : Option FrameId}

lemma recaptureEach_eq (l : List Value) : recaptureEach c l = l.map (recapture c) := by
  induction l with
  | nil => rfl
  | cons v rest ih => rw [recaptureEach, List.map_cons, ih]

lemma recaptureOwn_eq (own : Bindings) : recaptureOwn c own = own.recapture c := by
  induction own with
  | nil => rfl
  | cons entry rest ih =>
    rw [recaptureOwn, ih]
    rfl

@[simp] lemma recapture_list (b : Bracket) (items : List Value) :
    (list b items).recapture c = list b (items.map (recapture c)) := by
  rw [recapture, recaptureEach_eq]

@[simp] lemma recapture_lambda (formals : List String) (body : List Value) (own : Bindings)
    (captured : Option FrameId) :
    (lambda formals body own captured).recapture c =
      lambda formals (body.map (recapture c)) (own.recapture c) c := by
  rw [recapture, recaptureEach_eq, recaptureOwn_eq]

@[simp] lemma recapture_number (n : Number) : (number n).recapture c = number n := rfl

@[simp] lemma recapture_symbol (name : String) : (symbol name).recapture c = symbol name := rfl

@[simp] lemma recapture_error (message : String) : (error message).recapture c = error message := rfl

@[simp] lemma recapture_string (text : String) : (string text).recapture c = string text := rfl

@[simp] lemma recapture_builtin (op : Builtin) (name : String) :
    (builtin op name).recapture c = builtin op name := rfl

@[simp] lemma isError_recapture (v : Value) : (v.recapture c).isError = v.isError := by
  cases v <;> simp [isError]

mutual

lemma recapture_plain : ∀ v : Value, v.Plain → v.recapture c = v
  | .number _, _ | .error _, _ | .symbol _, _ | .string _, _ | .builtin .., _ => rfl
  | .list b items, h => by
    rw [recapture, recaptureEach_plain items (plain_list.mp h)]
  | .lambda .., h => absurd rfl h.self.2.1

lemma recaptureEach_plain : ∀ l : List Value, (∀ v ∈ l, v.Plain) → recaptureEach c l = l
  | [], _ => rfl
  | v :: rest, h => by
    rw [recaptureEach, recapture_plain v (h v List.mem_cons_self),
      recaptureEach_plain rest fun v hv => h v (List.mem_cons_of_mem _ hv)]

end

mutual

lemma recapture_recapture (c' : Option FrameId) : ∀ v : Value, (v.recapture c').recapture c = v.recapture c
  | .number _ | .error _ | .symbol _ | .string _ | .builtin .. => rfl
  | .list b items => by rw [recapture, recapture, recapture, recaptureEach_recaptureEach]
  | .lambda formals body own captured => by
    rw [recapture, recapture, recapture, recaptureEach_recaptureEach, recaptureOwn_recaptureOwn]

lemma recaptureEach_recaptureEach (c' : Option FrameId) :
    ∀ l : List Value, recaptureEach c (recaptureEach c' l) = recaptureEach c l
  | [] => rfl
  | v :: rest => by
    rw [recaptureEach, recaptureEach, recaptureEach, recapture_recapture, recaptureEach_recaptureEach]

lemma recaptureOwn_recaptureOwn (c' : Option FrameId) :
    ∀ own : List (String × Value), recaptureOwn c (recaptureOwn c' own) = recaptureOwn c own
  | [] => rfl
  | (name, v) :: rest => by
    rw [recaptureOwn, recaptureOwn, recaptureOwn, recapture_recapture, recaptureOwn_recaptureOwn]

end

lemma lookup_recaptureOwn (own : List (String × Value)) (name : String) :
    (recaptureOwn c own).lookup name = (own.lookup name).map (recapture c) := by
  induction own with
  | nil => rfl
  | cons entry rest ih =>
    obtain ⟨m, v⟩ := entry
    rw [recaptureOwn, List.lookup_cons, List.lookup_cons, ih]
    cases name == m <;> rfl

mutual

lemma same_recapture : ∀ v w : Value, (v.recapture c).same (w.recapture c) = v.same w
  | .list b xs, w => by
    cases w with
    | list b' ys => rw [recapture, recapture, same, same, sameItems_recapture]
    | _ => rfl
  | .lambda formals xs own captured, w => by
    cases w with
    | lambda formals' ys others captured' =>
      rw [recapture, recapture, same, same, sameItems_recapture, sameBindings_recapture]
      simp only [recaptureOwn_eq, Bindings.recapture, List.length_map]
    | _ => rfl
  | .number n, w => by cases w <;> rfl
  | .error message, w => by cases w <;> rfl
  | .symbol name, w => by cases w <;> rfl
  | .string text, w => by cases w <;> rfl
  | .builtin op name, w => by cases w <;> rfl

lemma sameItems_recapture : ∀ xs ys : List Value,
    sameItems (recaptureEach c xs) (recaptureEach c ys) = sameItems xs ys
  | [], ys => by cases ys <;> rfl
  | x :: xs, ys => by
    cases ys with
    | nil => rfl
    | cons y ys => rw [recaptureEach, recaptureEach, sameItems, sameItems, same_recapture, sameItems_recapture]

lemma sameBindings_recapture : ∀ own others : List (String × Value),
    sameBindings (recaptureOwn c own) (recaptureOwn c others) = sameBindings own others
  | [], _ => rfl
  | (name, x) :: rest, others => by
    rw [recaptureOwn, sameBindings, sameBindings, sameBindings_recapture, lookup_recaptureOwn]
    cases others.lookup name with
    | none => rfl
    | some y =>
      simp only [Option.map_some]
      rw [same_recapture]

end

lemma equal_recapture (v w : Value) : (v.recapture c).equal (w.recapture c) = v.equal w := by
  cases v with
  | number n => cases w <;> rfl
  | _ => exact same_recapture _ w

lemma equal_builtin (v : Value) (op : Builtin) (name : String) :
    (v.recapture c).equal (.builtin op name) = v.equal (.builtin op name) :=
  equal_recapture v (.builtin op name)

mutual

lemma displayWith_recapture (names : Builtin → Option String) (shown : List (String × String)) :
    ∀ v : Value, displayWith names shown (v.recapture c) = displayWith names shown v
  | .number _ | .error _ | .symbol _ | .string _ | .builtin .. => rfl
  | .list b items => by rw [recapture, displayWith, displayWith, displayEach_recapture]
  | .lambda formals body own captured => by
    rw [recapture, displayWith, displayWith, displayBindings_recapture, displayEach_recapture]

lemma displayEach_recapture (names : Builtin → Option String) (shown : List (String × String)) :
    ∀ l : List Value, displayEach names shown (recaptureEach c l) = displayEach names shown l
  | [] => rfl
  | v :: rest => by rw [recaptureEach, displayEach, displayEach, displayWith_recapture, displayEach_recapture]

lemma displayBindings_recapture (names : Builtin → Option String) :
    ∀ own : List (String × Value), displayBindings names (recaptureOwn c own) = displayBindings names own
  | [] => rfl
  | (name, v) :: rest => by
    rw [recaptureOwn, displayBindings, displayBindings, displayWith_recapture, displayBindings_recapture]

end

@[simp] theorem display_recapture (names : Builtin → Option String) (v : Value) :
    (v.recapture c).display names = v.display names := displayWith_recapture names [] v

@[simp] lemma output_recapture (names : Builtin → Option String) (v : Value) :
    (v.recapture c).output names = v.output names := by
  cases v with
  | string text => rfl
  | _ => exact display_recapture names _

mutual

/-- The builtins that come up in the display of a value, `hidden` being those in what stands for symbols. -/
def asks (hidden : List (String × List Builtin)) : Value → List Builtin
  | symbol name => (hidden.lookup name).getD []
  | list _ items => asksEach hidden items
  | lambda _ body own _ => asksEach (asksOwn own) body
  | builtin op _ => [op]
  | _ => []

def asksEach (hidden : List (String × List Builtin)) : List Value → List Builtin
  | [] => []
  | v :: rest => asks hidden v ++ asksEach hidden rest

def asksOwn : List (String × Value) → List (String × List Builtin)
  | [] => []
  | (name, v) :: rest => (name, asks [] v) :: asksOwn rest

end

def shownBuiltins (v : Value) : List Builtin := v.asks []

section Names

variable {names names' : Builtin → Option String}

def AgreeBeneath (names names' : Builtin → Option String) (hidden : List (String × List Builtin))
    (shown shown' : List (String × String)) : Prop :=
  ∀ name, (∀ op ∈ (hidden.lookup name).getD [], names op = names' op) → shown.lookup name = shown'.lookup name

mutual

lemma displayWith_congr : ∀ (v : Value) (hidden : List (String × List Builtin))
    (shown shown' : List (String × String)), AgreeBeneath names names' hidden shown shown' →
    (∀ op ∈ v.asks hidden, names op = names' op) → displayWith names shown v = displayWith names' shown' v
  | .number _, _, _, _, _, _ | .error _, _, _, _, _, _ | .string _, _, _, _, _, _ => rfl
  | .symbol name, hidden, shown, shown', hb, h => by
    rw [displayWith, displayWith, hb name h]
  | .list b items, hidden, shown, shown', hb, h => by
    rw [displayWith, displayWith, displayEach_congr items hidden shown shown' hb h]
  | .lambda formals body own captured, _, _, _, _, h => by
    have hbody := displayEach_congr body (asksOwn own) (displayBindings names own) (displayBindings names' own)
      (displayBindings_congr own) h
    rw [displayWith, displayWith, hbody]
  | .builtin op name, _, _, _, _, h => by
    rw [displayWith, displayWith, h op List.mem_cons_self]

lemma displayEach_congr : ∀ (l : List Value) (hidden : List (String × List Builtin))
    (shown shown' : List (String × String)), AgreeBeneath names names' hidden shown shown' →
    (∀ op ∈ asksEach hidden l, names op = names' op) → displayEach names shown l = displayEach names' shown' l
  | [], _, _, _, _, _ => rfl
  | v :: rest, hidden, shown, shown', hb, h => by
    rw [displayEach, displayEach,
      displayWith_congr v hidden shown shown' hb fun op ho => h op (List.mem_append_left _ ho),
      displayEach_congr rest hidden shown shown' hb fun op ho => h op (List.mem_append_right _ ho)]

lemma displayBindings_congr : ∀ own : List (String × Value),
    AgreeBeneath names names' (asksOwn own) (displayBindings names own) (displayBindings names' own)
  | [], _, _ => rfl
  | (m, v) :: rest, name, h => by
    rw [asksOwn, List.lookup_cons] at h
    rw [displayBindings, displayBindings, List.lookup_cons, List.lookup_cons]
    cases hm : name == m with
    | true =>
      rw [hm] at h
      exact congrArg some (displayWith_congr v [] [] [] (fun _ _ => rfl) h)
    | false =>
      rw [hm] at h
      exact displayBindings_congr rest name h

end

lemma display_congr {v : Value} (h : ∀ op ∈ v.shownBuiltins, names op = names' op) :
    v.display names = v.display names' :=
  displayWith_congr v [] [] [] (fun _ _ => rfl) h

end Names

end Value

namespace Bindings

variable {c : Option FrameId}

lemma find?_recapture (b : Bindings) (name : String) :
    (b.recapture c).find? name = (b.find? name).map (Value.recapture c) := by
  rw [← Value.recaptureOwn_eq]
  exact Value.lookup_recaptureOwn b name

lemma recapture_recapture (c' : Option FrameId) (b : Bindings) : (b.recapture c').recapture c = b.recapture c := by
  simp only [← Value.recaptureOwn_eq]
  exact Value.recaptureOwn_recaptureOwn c' b

lemma recapture_cons (name : String) (v : Value) (rest : Bindings) :
    Bindings.recapture c ((name, v) :: rest) = (name, v.recapture c) :: rest.recapture c := rfl

lemma put_recapture (b : Bindings) (name : String) (v : Value) :
    (b.put name v).recapture c = (b.recapture c).put name (v.recapture c) := by
  induction b with
  | nil => rfl
  | cons entry rest ih =>
    obtain ⟨m, w⟩ := entry
    rw [recapture_cons, put, put]
    split
    · rfl
    · rw [recapture_cons, ih]

lemma putAll_recapture (b new : Bindings) :
    (b.putAll new).recapture c = (b.recapture c).putAll (new.recapture c) := by
  induction new generalizing b with
  | nil => rfl
  | cons entry rest ih =>
    have hput := put_recapture (c := c) b entry.1 entry.2
    exact (ih _).trans (congrArg (putAll · (Bindings.recapture c rest)) hput)

lemma nameOf?_recapture (b : Bindings) (op : Builtin) (name : String) :
    (b.recapture c).nameOf? (.builtin op name) = b.nameOf? (.builtin op name) := by
  unfold nameOf? recapture
  rw [List.find?_map, Option.map_map]
  have hequal : (fun entry : String × Value => entry.2.equal (.builtin op name)) ∘
      (fun entry : String × Value => (entry.1, entry.2.recapture c)) =
        fun entry => entry.2.equal (.builtin op name) :=
    funext fun entry => Value.equal_builtin entry.2 op name
  rw [hequal]
  rfl

lemma recapture_zip (names : List String) (values : List Value) :
    Bindings.recapture c (names.zip values) = names.zip (values.map (Value.recapture c)) := by
  rw [recapture, List.zip_map_right]
  rfl

end Bindings

end CurriedLisp
