import CurriedLisp.Proofs.Eval.Transcripts
import CurriedLisp.Proofs.Session.Reachable

namespace CurriedLisp

open Eval Session

/-- The line about a value of a loaded form. Only errors have one, and it is the same wherever they are
displayed. -/
def reportOn (sink : Sink) (v : Value) : List Event :=
  if v.isError then [.wrote sink (v.displayAnonymous ++ "\n")] else []

lemma display_eq_of_isError {v : Value} (h : v.isError = true) (names : Builtin → Option String) :
    v.display names = v.displayAnonymous := by
  cases v with
  | error message => simp [Value.display, Value.displayAnonymous, Value.displayWith]
  | _ => simp [Value.isError] at h

namespace Evaluator

/-- The forms are evaluated in `env`, each once and in order. A step is the value of a form with the events
that its evaluation added; `after` tells what is added once there is the value. -/
inductive Runs (self : Evaluator) (env : FrameId) (after : Value → List Event) :
    List Value → State → List (Value × List Event) → State → Prop
  | nil (s : State) : Runs self env after [] s [] s
  | cons {form v : Value} {rest : List Value} {s t : State} {events : List Event}
    {steps : List (Value × List Event)} :
    result (self env form) s = .ok v → (final (self env form) s).told = s.told ++ events →
    Runs self env after rest ((final (self env form) s).retold (s.told ++ events ++ after v)) steps t →
      Runs self env after (form :: rest) s ((v, events) :: steps) t

variable {self : Evaluator} {env : FrameId} {after : Value → List Event} {forms : List Value} {s t : State}
  {steps : List (Value × List Event)} {sink : Sink}

lemma Runs.told (h : self.Runs env after forms s steps t) :
    t.told = s.told ++ steps.flatMap fun step => step.2 ++ after step.1 := by
  induction h with
  | nil s => simp
  | cons _ _ _ ih => simp [ih]

lemma Runs.retold (hb : ∀ env v, Blind (self env v)) (h : self.Runs env after forms s steps t)
    (other : Value → List Event) (told : List Event) :
    self.Runs env other forms (s.retold told) steps
      (t.retold (told ++ steps.flatMap fun step => step.2 ++ other step.1)) := by
  induction h generalizing told with
  | nil s =>
    rw [List.flatMap_nil, List.append_nil]
    exact .nil _
  | @cons form v rest s t events steps hr hf _ ih =>
    obtain ⟨added, hadded, hagain⟩ := (hb env form).exists_events s
    obtain rfl : added = events := List.append_cancel_left (hadded.symm.trans hf)
    obtain ⟨hresult, hfinal⟩ := hagain told
    refine .cons (hresult.trans hr) (congrArg State.told hfinal) ?_
    have hrest := ih (told ++ added ++ other v)
    simp only [hfinal, State.retold_retold, State.told_retold, List.flatMap_cons, List.append_assoc]
      at hrest ⊢
    exact hrest

lemma forms_of_runs (h : self.Runs env (reportOn sink) forms s steps t) :
    result (self.forms env sink forms) s = .ok () ∧ final (self.forms env sink forms) s = t := by
  induction h with
  | nil s => exact ⟨rfl, rfl⟩
  | @cons form v rest s t events steps hr hf _ ih =>
    rw [← hf] at ih
    unfold Evaluator.forms
    obtain ⟨hresult, hfinal⟩ := bind_of_ok (f := fun v => do
      if v.isError then
        Eval.write sink (v.display ((← Eval.store).builtinName? env) ++ "\n")
      self.forms env sink rest) hr
    rw [hresult, hfinal]
    cases hv : v.isError with
    | false => simpa [reportOn, hv] using ih
    | true =>
      have hwrite : ∀ u : State, final (Eval.write sink (v.displayAnonymous ++ "\n")) u =
          u.retold (u.told ++ reportOn sink v) := by
        intro u
        rw [reportOn, if_pos hv]
        exact final_record _ u
      simp only [reduceIte, display_eq_of_isError hv]
      rw [← hwrite] at ih
      exact ih

lemma loadForms_run (self : Evaluator) (env : FrameId) (sink : Sink) (forms : List Value) (s : State)
    (name : String) :
    result (self.loadForms env sink name forms) s = (result (self.forms env sink forms)
        (s.retold (s.told ++ [.logged (.loading forms.length name)]))).map (fun _ => .nothing) ∧
      final (self.loadForms env sink name forms) s = final (self.forms env sink forms)
        (s.retold (s.told ++ [.logged (.loading forms.length name)])) := by
  have hfirst : result (Eval.log (.loading forms.length name)) s = .ok () := rfl
  have hlog : final (Eval.log (.loading forms.length name)) s =
      s.retold (s.told ++ [.logged (.loading forms.length name)]) := final_record _ s
  unfold Evaluator.loadForms
  rw [(bind_of_ok hfirst).1, (bind_of_ok hfirst).2, hlog]
  cases hr : result (self.forms env sink forms)
    (s.retold (s.told ++ [.logged (.loading forms.length name)])) with
  | error e => exact bind_of_error hr
  | ok u => exact bind_of_ok hr

end Evaluator

namespace Session

def loadSourceTo (w : World) (sink : Sink) (name source : String) : Eval Value :=
  w.evaluate.loadSource w.room globalFrame sink name source

variable {self : Evaluator} {forms : List Value} {s : State}

lemma exists_runs (hb : ∀ env v, Blind (self env v)) {vs : List Value}
    (h : result (eachBy self forms) s = .ok vs) :
    ∃ steps, steps.map Prod.fst = vs ∧
      self.Runs globalFrame (fun _ => []) forms s steps (final (eachBy self forms) s) := by
  induction forms generalizing s vs with
  | nil =>
    cases h
    exact ⟨[], rfl, .nil s⟩
  | cons form rest ih =>
    obtain ⟨v, others, hv, hothers, rfl, hfinal⟩ := eachBy_eq_ok h
    obtain ⟨steps, rfl, hsteps⟩ := ih hothers
    obtain ⟨events, hevents, -⟩ := (hb globalFrame form).exists_events s
    refine ⟨(v, events) :: steps, rfl, .cons hv hevents ?_⟩
    rw [List.append_nil, ← hevents, State.retold_told, hfinal]
    exact hsteps

lemma forms_stopped (hb : ∀ env v, Blind (self env v)) (sink : Sink) {e : Fault} (told : List Event)
    (h : result (eachBy self forms) s = .error e) :
    result (self.forms globalFrame sink forms) (s.retold told) = .error e ∧
      (final (self.forms globalFrame sink forms) (s.retold told)).store =
        (final (eachBy self forms) s).store := by
  induction forms generalizing s told with
  | nil => cases h
  | cons form rest ih =>
    obtain ⟨events, -, hagain⟩ := (hb globalFrame form).exists_events s
    obtain ⟨hresult, hfinal⟩ := hagain told
    rw [eachBy] at h ⊢
    cases hr : result (self globalFrame form) s with
    | error e' =>
      obtain ⟨he, hst⟩ := bind_of_error (f := fun first => do return first :: (← eachBy self rest)) hr
      obtain rfl := Except.error.inj (he.symm.trans h)
      rw [Evaluator.forms, (bind_of_error (hresult.trans hr)).1, (bind_of_error (hresult.trans hr)).2, hst,
        hfinal]
      exact ⟨rfl, rfl⟩
    | ok v =>
      rw [(bind_of_ok hr).1] at h
      rw [(bind_of_ok hr).2, Evaluator.forms, (bind_of_ok (hresult.trans hr)).1,
        (bind_of_ok (hresult.trans hr)).2, hfinal]
      have hrest : result (eachBy self rest) (final (self globalFrame form) s) = .error e := by
        cases hr' : result (eachBy self rest) (final (self globalFrame form) s) with
        | error e' => rw [← h, (bind_of_error hr').1]
        | ok others =>
          rw [(bind_of_ok hr').1] at h
          cases h
      rw [(bind_of_error hrest).2]
      cases v.isError with
      | false => exact ih _ hrest
      | true => exact ih _ hrest

end Session

/-- A source that cannot be read has no effect, however it is run. One that can be read has the same effects
both ways, reports apart, and it is stopped in the one way if and only if it is in the other. -/
theorem loadSource_evalAll (w : World) (sink : Sink) (name source : String) (s : State) :
    (∀ e, readProgram w.room source = .error (.unreadable e) →
      (result (loadSourceTo w sink name source) s = .ok (.error ("could not load file: " ++ e.message name)) ∧
        final (loadSourceTo w sink name source) s = s) ∧
      result (evalAll w source) s = .error (.unreadable e inputName) ∧ final (evalAll w source) s = s) ∧
    (readProgram w.room source = .error .tooDeep →
      (result (loadSourceTo w sink name source) s = .error .tooDeep ∧
        final (loadSourceTo w sink name source) s = s) ∧
      result (evalAll w source) s = .error .tooDeep ∧ final (evalAll w source) s = s) ∧
    ∀ program, readProgram w.room source = .ok program →
      result (loadSourceTo w sink name source) s = (result (evalAll w source) s).map (fun _ => .nothing) ∧
      (final (loadSourceTo w sink name source) s).store = (final (evalAll w source) s).store ∧
      ∀ vs, result (evalAll w source) s = .ok vs →
        ∃ steps : List (Value × List Event), steps.map Prod.fst = vs ∧
          w.evaluate.Runs globalFrame (fun _ => []) program s steps (final (evalAll w source) s) ∧
          w.evaluate.Runs globalFrame (reportOn sink) program
            (s.retold (s.told ++ [.logged (.loading program.length name)])) steps
            (final (loadSourceTo w sink name source) s) ∧
          (final (evalAll w source) s).told = s.told ++ steps.flatMap Prod.snd ∧
          (final (loadSourceTo w sink name source) s).told =
            s.told ++ .logged (.loading program.length name) ::
              steps.flatMap fun step => step.2 ++ reportOn sink step.1 := by
  refine ⟨fun e he => ?_, fun he => ?_, fun program hp => ?_⟩
  · rw [loadSourceTo, Evaluator.loadSource, evalAll, he]
    exact ⟨⟨rfl, rfl⟩, rfl, rfl⟩
  · rw [loadSourceTo, Evaluator.loadSource, evalAll, he]
    exact ⟨⟨rfl, rfl⟩, rfl, rfl⟩
  have hblind : ∀ env v, Blind (w.evaluate env v) := evaluate_blind w.files w.room
  have hall : result (evalAll w source) s = result (eachBy w.evaluate program) s ∧
      final (evalAll w source) s = final (eachBy w.evaluate program) s := by
    rw [evalAll, hp, ← evaluateEach_eq]
    exact ⟨rfl, rfl⟩
  have hload : loadSourceTo w sink name source = w.evaluate.loadForms globalFrame sink name program := by
    rw [loadSourceTo, Evaluator.loadSource, hp]
  obtain ⟨hresult, hfinal⟩ := w.evaluate.loadForms_run globalFrame sink program s name
  rw [hall.1, hall.2, hload, hresult, hfinal]
  cases hr : result (eachBy w.evaluate program) s with
  | error e =>
    obtain ⟨hstop, hstore⟩ := forms_stopped hblind sink
      (s.told ++ [.logged (.loading program.length name)]) hr
    rw [hstop]
    exact ⟨rfl, hstore, by rintro vs ⟨⟩⟩
  | ok vs =>
    obtain ⟨steps, hsteps, hruns⟩ := exists_runs hblind hr
    have hreported := hruns.retold hblind (reportOn sink) (s.told ++ [.logged (.loading program.length name)])
    obtain ⟨hdone, hlast⟩ := Evaluator.forms_of_runs hreported
    rw [hdone, hlast]
    refine ⟨rfl, rfl, ?_⟩
    rintro _ ⟨⟩
    refine ⟨steps, hsteps, hruns, hreported, ?_, ?_⟩
    · simpa using hruns.told
    · simp

def reportedSource : String := "(head \x7b\x7d) (println 1)"

theorem loadSource_evalAll_sample :
    ∃ (program vs : List Value) (steps : List (Value × List Event)),
      readProgram sampleWorld.room reportedSource = .ok program ∧ program.length = 2 ∧
      result (evalAll sampleWorld reportedSource) (sample .dynamic) = .ok vs ∧
      result (loadSourceTo sampleWorld .report "f" reportedSource) (sample .dynamic) = .ok .nothing ∧
      steps.map Prod.fst = vs ∧ vs.map Value.isError = [true, false] ∧
      (final (loadSourceTo sampleWorld .report "f" reportedSource) (sample .dynamic)).told =
        (sample .dynamic).told ++ .logged (.loading 2 "f") ::
          steps.flatMap fun step => step.2 ++ reportOn .report step.1 := by
  have hread : (readProgram sampleWorld.room reportedSource).toOption.map List.length = some 2 := by
    decide +kernel
  have hvalues : (result (evalAll sampleWorld reportedSource) (sample .dynamic)).toOption.map
      (List.map Value.isError) = some [true, false] := by decide +kernel
  cases hp : readProgram sampleWorld.room reportedSource with
  | error e => simp [hp, Except.toOption] at hread
  | ok program =>
    cases hv : result (evalAll sampleWorld reportedSource) (sample .dynamic) with
    | error e => simp [hv, Except.toOption] at hvalues
    | ok vs =>
      have hlength : program.length = 2 := by simpa [hp, Except.toOption] using hread
      have herrors : vs.map Value.isError = [true, false] := by simpa [hv, Except.toOption] using hvalues
      obtain ⟨-, -, hloaded⟩ := loadSource_evalAll sampleWorld .report "f" reportedSource (sample .dynamic)
      obtain ⟨hresult, -, hsteps⟩ := hloaded program hp
      obtain ⟨steps, hmap, -, -, -, htold⟩ := hsteps vs hv
      rw [hlength] at htold
      exact ⟨program, vs, steps, rfl, hlength, rfl, by rw [hresult, hv]; rfl, hmap, herrors, htold⟩

end CurriedLisp
