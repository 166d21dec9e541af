import CurriedLisp.Proofs.Session.Reachable

namespace CurriedLisp

open Eval Session

def Scoping.Allows (s : Store) : Scoping → Option FrameId → Prop
  | dynamic, captured => captured = none
  | lexical, captured => ∃ c, captured = some c ∧ (s.frame? c).isSome

def Value.ObeysScoping (scoping : Scoping) (s : Store) (v : Value) : Prop :=
  ∀ formals body own captured, (lambda formals body own captured).PartOf v → scoping.Allows s captured

structure Store.LeadsTo (s : Store) (id g : FrameId) (scoping : Scoping) : Prop where
  path : Relation.ReflTransGen s.Outer id g
  outermost : ¬ ∃ o, s.Outer g o
  chain : (s.chain id).head? = some id ∧ (s.chain id).IsChain s.Outer ∧ (s.chain id).getLast? = some g
  root : s.root id = g
  scoping : s.scoping id = scoping
  define : ∀ name v, s.define id name v = s.put g name v
  get : ∀ f, s.frame? id = some f → ∀ name,
    s.get? id name = (f.bindings.find? name).or (f.outer.bind fun o => s.get? o name)
  nameOf : ∀ f, s.frame? id = some f → ∀ v,
    s.nameOf? id v = (f.bindings.nameOf? v).or (f.outer.bind fun o => s.nameOf? o v)

structure Store.WellScoped (s : Store) (scoping : Scoping) : Prop where
  acyclic : ∀ id, ¬ Relation.TransGen s.Outer id id
  leads : ∀ id, (s.frame? id).isSome → s.LeadsTo id globalFrame scoping
  obeys : ∀ id, ∀ b ∈ s.bindings id, b.2.ObeysScoping scoping s

def Discipline.scoped (scoping : Scoping) : Discipline where
  scoping := scoping
  alone := True
  part v := v.kind = .function → (v.captured.isSome ↔ scoping = .lexical)
  bound _ := True
  part_of_kind _ _ hf h := (hf h).elim
  part_created _ _ _ _ := by cases scoping <;> simp [Value.captured]
  part_applied _ _ _ _ _ _ h _ _ := h rfl
  bound_own _ _ _ _ _ _ _ := trivial
  bound_of_settled _ _ := trivial

variable {scoping : Scoping} {s : Store} {v : Value}

lemma obeysScoping_of_fits (h : (Discipline.scoped scoping).Fits globalFrame s v) :
    v.ObeysScoping scoping s := by
  intro formals body own captured hp
  obtain ⟨hpart, hends⟩ := h _ hp
  have hcap : captured.isSome ↔ scoping = .lexical := hpart rfl
  cases scoping with
  | dynamic => simpa [Scoping.Allows] using hcap
  | lexical =>
    obtain ⟨c, rfl⟩ := Option.isSome_iff_exists.mp (hcap.mpr rfl)
    exact ⟨c, rfl, (hends c rfl).isSome⟩

lemma obeysScoping_of_result (h : (Discipline.scoped scoping).Result globalFrame s v) :
    v.ObeysScoping scoping s := by
  rcases h with h | h
  · intro formals body own captured hp
    cases hp with
    | refl => cases h
    | child hu _ => cases v <;> simp_all [Value.children, Value.isError]
  · exact obeysScoping_of_fits h.2

lemma leadsTo_of_holds (h : (Discipline.scoped scoping).Holds globalFrame s) {id : FrameId}
    (he : s.EndsIn id globalFrame) : s.LeadsTo id globalFrame scoping := by
  obtain ⟨g, hg, hgo⟩ := he.global
  refine ⟨he.path, ?_, ⟨?_, s.chain_isChain id, he⟩, he.root, he.scoping.trans h.scoping, ?_, ?_, ?_⟩
  · rintro ⟨o, f, hf, ho⟩
    cases hg.symm.trans hf
    simp [hgo] at ho
  · obtain ⟨f, hf⟩ := Option.isSome_iff_exists.mp he.isSome
    rw [Store.chain_of_frame? s hf, List.head?_cons]
  · intro name v
    rw [Store.define, he.root]
  · exact fun f hf name => Store.get?_of_frame? hf name
  · exact fun f hf v => Store.nameOf?_of_frame? hf v

lemma wellScoped_of_holds (h : (Discipline.scoped scoping).Holds globalFrame s) : s.WellScoped scoping where
  acyclic := s.acyclic
  leads id hid := leadsTo_of_holds h (h.alone trivial id hid)
  obeys id b hb := by
    have he := h.alone trivial id (Store.isSome_of_mem_bindings hb)
    exact obeysScoping_of_fits (h.good id he b hb).2

theorem session_wellScoped (scoping : Scoping) :
    (∀ s, Reachable scoping s → s.store.WellScoped scoping ∧
      ∀ w (i : Input) vs, result (i.run w) s = .ok vs →
        ∀ v ∈ vs, v.ObeysScoping scoping (final (i.run w) s).store) ∧
    (∀ files room m, Evaluates scoping files room m → m.state.store.WellScoped scoping ∧
      m.state.store.LeadsTo m.env globalFrame scoping ∧ m.value.ObeysScoping scoping m.state.store ∧
      ∀ v, m.result files room = .ok v → v.ObeysScoping scoping (m.final files room).store) ∧
    (scoping = .lexical → ∀ s formals body own captured,
      (Value.lambda formals body own captured).ObeysScoping scoping s →
      ∀ files room below args env₁ env₂,
        Evaluator.apply files room below env₁ args (.lambda formals body own captured) =
          Evaluator.apply files room below env₂ args (.lambda formals body own captured)) := by
  refine ⟨?_, ?_, ?_⟩
  · intro s hs
    have hd : Disciplined (.scoped scoping) s.store := Reachable.disciplined (.scoped scoping) hs
    refine ⟨wellScoped_of_holds hd.holds, fun w i vs hvs v hv => ?_⟩
    exact obeysScoping_of_result ((run_preserves (w := w) i hd).post vs hvs v hv)
  · intro files room m hm
    have hmeets : m.Meets (.scoped scoping) globalFrame := Evaluates.meets (.scoped scoping) hm
    refine ⟨wellScoped_of_holds hmeets.holds, leadsTo_of_holds hmeets.holds hmeets.endsIn,
      obeysScoping_of_fits hmeets.fits, fun v hv => ?_⟩
    exact obeysScoping_of_result ((hmeets.preserves files room).post v hv)
  · rintro rfl s formals body own captured hl files room below args env₁ env₂
    obtain ⟨c, rfl, -⟩ := hl formals body own captured (.refl _)
    rfl

theorem session_wellScoped_sample :
    (sample .lexical).store.WellScoped .lexical ∧
    (sample .lexical).store.LeadsTo globalFrame globalFrame .lexical ∧
    (∀ v, Moment.result .none 18 ⟨globalFrame, .symbol "k", sample .lexical⟩ = .ok v →
      v.ObeysScoping .lexical (Moment.final .none 18 ⟨globalFrame, .symbol "k", sample .lexical⟩).store) ∧
    ∀ below args,
      Evaluator.apply .none 18 below 0 args (.lambda ["y"] [.symbol "x"] [("x", .string "a")] (some 0)) =
        Evaluator.apply .none 18 below 1 args
          (.lambda ["y"] [.symbol "x"] [("x", .string "a")] (some 0)) := by
  obtain ⟨hstates, hmoments, happly⟩ := session_wellScoped .lexical
  have hscoped := (hstates _ (reachable_sample .lexical)).1
  have hframe : ((sample .lexical).store.frame? globalFrame).isSome :=
    (Reachable.disciplined (.scoped .lexical) (reachable_sample .lexical)).global.isSome
  have hcall : read sampleWorld.room "(k)" = .ok (.sexpr [.symbol "k"]) := by cbv
  have hsymbol : Evaluates .lexical .none 18 ⟨globalFrame, .symbol "k", sample .lexical⟩ :=
    .inside (evaluates_eval (reachable_sample .lexical) hcall) Moment.inside_call
  refine ⟨hscoped, hscoped.leads _ hframe, (hmoments _ _ _ hsymbol).2.2.2, fun below args => ?_⟩
  refine happly rfl (sample .lexical).store _ _ _ _ ?_ _ _ below args 0 1
  rintro formals body own captured (_ | ⟨hchild, hpart⟩)
  · exact ⟨globalFrame, rfl, hframe⟩
  · simp only [Value.children, List.map_cons, List.map_nil, List.cons_append, List.nil_append,
      List.mem_cons, List.not_mem_nil, or_false] at hchild
    rcases hchild with rfl | rfl <;> cases hpart with
    | child h _ => cases h

end CurriedLisp
