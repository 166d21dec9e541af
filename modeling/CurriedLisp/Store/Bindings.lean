import CurriedLisp.Value.Equality

namespace CurriedLisp.Bindings

def find? (b : Bindings) (name : String) : Option Value := b.lookup name

/-- A name bound already keeps its place, a new one comes last. -/
def put : Bindings → String → Value → Bindings
  | [], name, v => [(name, v)]
  | (other, w) :: rest, name, v =>
    if other = name then (other, v) :: rest else (other, w) :: put rest name v

def putAll (b : Bindings) (new : List (String × Value)) : Bindings :=
  new.foldl (fun b entry => b.put entry.1 entry.2) b

def names (b : Bindings) : List String := b.map Prod.fst

def nameOf? (b : Bindings) (v : Value) : Option String :=
  (List.find? (fun entry => entry.2.equal v) b).map Prod.fst

def equal (a b : Bindings) : Bool := a.length == b.length && Value.sameBindings a b

theorem find?_cons (m : String) (w : Value) (rest : Bindings) (name : String) :
    find? ((m, w) :: rest) name = if name = m then some w else find? rest name := by
  by_cases h : name = m
  · simp [find?, h]
  · have hb : (name == m) = false := by simp [h]
    simp [find?, List.lookup_cons, hb, h]

theorem find?_put (b : Bindings) (name other : String) (v : Value) :
    (b.put name v).find? other = if other = name then some v else b.find? other := by
  induction b with
  | nil => exact find?_cons name v [] other
  | cons entry rest ih =>
    obtain ⟨m, w⟩ := entry
    by_cases hm : m = name
    · subst hm
      by_cases h : other = m <;> simp [put, find?_cons, h]
    · by_cases h : other = m
      · subst h
        simp [put, find?_cons, hm]
      · simp [put, find?_cons, hm, h, ih]

theorem names_put (b : Bindings) (name : String) (v : Value) :
    (b.put name v).names = if name ∈ b.names then b.names else b.names ++ [name] := by
  induction b with
  | nil => simp [put, names]
  | cons entry rest ih =>
    obtain ⟨m, w⟩ := entry
    by_cases hm : m = name
    · simp [put, names, hm]
    · simp only [names] at ih
      by_cases h : name ∈ rest.map Prod.fst <;> simp_all [put, names, Ne.symm hm]

end CurriedLisp.Bindings
