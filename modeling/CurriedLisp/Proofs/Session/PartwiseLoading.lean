import CurriedLisp.Proofs.Session.Loading
import CurriedLisp.Proofs.Syntax.Concatenation

namespace CurriedLisp

open Eval Session

def Event.isText : Event → Bool
  | .wrote .. => true
  | _ => false

structure State.SameTexts (s t : State) : Prop where
  store : s.store = t.store
  marks : s.marks = t.marks
  texts : s.told.filter Event.isText = t.told.filter Event.isText

def Coincide {α : Type} (s t : State) (x y : Eval α) : Prop :=
  result x s = result y t ∧ (final x s).SameTexts (final y t)

namespace State.SameTexts

variable {s t u : State}

lemma refl (s : State) : s.SameTexts s := ⟨rfl, rfl, rfl⟩

lemma symm (h : s.SameTexts t) : t.SameTexts s := ⟨h.store.symm, h.marks.symm, h.texts.symm⟩

lemma trans (h : s.SameTexts t) (hu : t.SameTexts u) : s.SameTexts u :=
  ⟨h.store.trans hu.store, h.marks.trans hu.marks, h.texts.trans hu.texts⟩

end State.SameTexts

namespace Coincide

variable {α β : Type} {s t u : State} {x y z : Eval α} {f g : α → Eval β}

lemma symm (h : Coincide s t x y) : Coincide t s y x := ⟨h.1.symm, h.2.symm⟩

lemma trans (h : Coincide s t x y) (hu : Coincide t u y z) : Coincide s u x z :=
  ⟨h.1.trans hu.1, h.2.trans hu.2⟩

lemma pure (h : s.SameTexts t) (a : α) : Coincide s t (Pure.pure a) (Pure.pure a) := ⟨rfl, h⟩

lemma bind (hx : Coincide s t x y) (hf : ∀ a s t, s.SameTexts t → Coincide s t (f a) (g a)) :
    Coincide s t (x >>= f) (y >>= g) := by
  obtain ⟨hr, hsame⟩ := hx
  unfold Coincide
  cases h : result x s with
  | error e =>
    rw [(bind_of_error h).1, (bind_of_error h).2, (bind_of_error (hr.symm.trans h)).1,
      (bind_of_error (hr.symm.trans h)).2]
    exact ⟨rfl, hsame⟩
  | ok a =>
    rw [(bind_of_ok h).1, (bind_of_ok h).2, (bind_of_ok (hr.symm.trans h)).1, (bind_of_ok (hr.symm.trans h)).2]
    exact hf a _ _ hsame

lemma sameTexts_record {e : Event} (he : e.isText = false) (s : State) : (final (Eval.record e) s).SameTexts s := by
  refine ⟨rfl, rfl, ?_⟩
  rw [final_record, State.told_retold, List.filter_append, List.filter_cons_of_neg (by simp [he]),
    List.filter_nil, List.append_nil]

lemma record_left {e : Event} (he : e.isText = false) (h : s.SameTexts t)
    (hx : ∀ s, s.SameTexts t → Coincide s t x y) : Coincide s t (Eval.record e >>= fun _ => x) y := by
  have hrun : result (Eval.record e) s = .ok () := rfl
  unfold Coincide
  rw [(bind_of_ok hrun).1, (bind_of_ok hrun).2]
  exact hx _ ((sameTexts_record he s).trans h)

lemma record_right {e : Event} (he : e.isText = false) (h : s.SameTexts t)
    (hy : ∀ t, s.SameTexts t → Coincide s t x y) : Coincide s t x (Eval.record e >>= fun _ => y) :=
  (record_left he h.symm fun t ht => (hy t ht.symm).symm).symm

lemma of_blind (hx : Blind x) (h : s.SameTexts t) : Coincide s t x x := by
  obtain ⟨events, hevents, hagain⟩ := hx.exists_events s
  have ht : t = s.retold t.told := State.ext_told h.store.symm h.marks.symm rfl
  rw [ht, Coincide, (hagain t.told).1, (hagain t.told).2]
  refine ⟨rfl, rfl, rfl, ?_⟩
  rw [hevents, State.told_retold, List.filter_append, List.filter_append, h.texts]

end Coincide

section Reading

variable {room : Nat} {text : String} {program : List Value}

lemma within_append {first : List Value} (h : Reading.within room first = .ok first) (second : List Value) :
    Reading.within room (first ++ second) = (Reading.within room second).map (first ++ ·) := by
  unfold Reading.within at h ⊢
  split at h
  · next hall =>
    rw [List.all_append, hall, Bool.true_and]
    split <;> rfl
  · cases h

theorem readProgram_lines (h : readProgram room text = .ok program) (more : String) :
    readProgram room (text ++ "\n" ++ more) =
      ((readProgram room more).map (program ++ ·)).mapError (ReadError.movedDown (linesOf text)) := by
  simp only [readProgram, bind_eq_ok] at h
  obtain ⟨forms, hparse, hwithin⟩ := h
  obtain rfl : forms.map Form.value = program := by
    unfold Reading.within at hwithin
    split at hwithin
    · exact Except.ok.inj hwithin
    · cases hwithin
  rw [readProgram, readProgram, parseProgram_lines hparse]
  cases parseProgram (Reading.parserLimit room) more with
  | error e => rfl
  | ok others =>
    have hvalues : (forms ++ others.map (Form.movedDown (linesOf text))).map Form.value =
        forms.map Form.value ++ others.map Form.value := by
      simp only [List.map_append, List.map_map, Function.comp_def, Form.value_movedDown]
    show Reading.within room ((forms ++ others.map (Form.movedDown (linesOf text))).map Form.value) = _
    rw [hvalues, within_append hwithin]
    show _ = ((Reading.within room (others.map Form.value)).map _).mapError _
    unfold Reading.within
    split <;> rfl

end Reading

namespace Evaluator

variable (self : Evaluator) {env : FrameId} {sink : Sink} {files : Files} {room : Nat}

lemma forms_append (first second : List Value) :
    self.forms env sink (first ++ second) = self.forms env sink first >>= fun _ => self.forms env sink second := by
  induction first with
  | nil => rfl
  | cons form rest ih =>
    simp only [List.cons_append, Evaluator.forms, bind_assoc]
    refine bind_congr fun v => ?_
    cases v.isError with
    | true => simp only [reduceIte, ih, bind_assoc]
    | false => simp only [Bool.false_eq_true, reduceIte, ih]

lemma loadSource_of_read {name source : String} {program : List Value}
    (h : readProgram room source = .ok program) :
    self.loadSource room env sink name source = self.loadForms env sink name program := by
  rw [Evaluator.loadSource, h]

end Evaluator

def World.Holds (w : World) (path text : String) : Prop :=
  Path.hasNul path = false ∧ ∃ bytes raw, w.files.read (Path.normalize path) = .ok bytes ∧
    Text.Utf8.decode bytes = .ok raw ∧ String.ofList (Text.unifyNewlines raw.toList) = text

namespace Session

variable {w : World} {sink : Sink} {text more : String} {first second : List Value} {s t : State}

lemma loadSourceTo_blind (w : World) (sink : Sink) (name source : String) :
    Blind (loadSourceTo w sink name source) :=
  (Blind.composable w.files).loadSource (evaluate_blind w.files w.room) name source

lemma forms_blind (w : World) (sink : Sink) (program : List Value) :
    Blind (w.evaluate.forms globalFrame sink program) :=
  (Blind.composable w.files).forms (evaluate_blind w.files w.room) program

lemma loadSource_parts (hfirst : readProgram w.room text = .ok first)
    (hsecond : readProgram w.room more = .ok second) (name nameOfFirst nameOfSecond : String)
    (h : s.SameTexts t) :
    Coincide s t (loadSourceTo w sink name (text ++ "\n" ++ more)) (do
      let _ ← loadSourceTo w sink nameOfFirst text
      loadSourceTo w sink nameOfSecond more) := by
  have hboth : readProgram w.room (text ++ "\n" ++ more) = .ok (first ++ second) := by
    rw [readProgram_lines hfirst, hsecond]
    rfl
  simp only [loadSourceTo, Evaluator.loadSource_of_read _ hboth, Evaluator.loadSource_of_read _ hfirst,
    Evaluator.loadSource_of_read _ hsecond, Evaluator.loadForms, Evaluator.forms_append, bind_assoc]
  refine Coincide.record_left rfl h fun s h => Coincide.record_right rfl h fun t h => ?_
  refine (Coincide.of_blind (forms_blind w sink first) h).bind fun _ s t h => ?_
  rw [pure_bind]
  refine Coincide.record_right rfl h fun t h => ?_
  exact (Coincide.of_blind (forms_blind w sink second) h).bind fun _ s t h => .pure h _

lemma loadFile_coincides {path : String} (hw : w.Holds path text) (h : s.SameTexts t) :
    Coincide s t (Session.loadFile w sink path) (loadSourceTo w sink path text) := by
  obtain ⟨hnul, bytes, raw, hread, hdecode, rfl⟩ := hw
  rw [Session.loadFile, Evaluator.loadFile, hnul, hread]
  simp only [Bool.false_eq_true, reduceIte, hdecode]
  exact Coincide.record_left rfl h fun s h => .of_blind (loadSourceTo_blind w sink path _) h

lemma loadFile_parts {path pathOfFirst pathOfSecond : String} (hfirst : readProgram w.room text = .ok first)
    (hsecond : readProgram w.room more = .ok second) (hpath : w.Holds path (text ++ "\n" ++ more))
    (hpathOfFirst : w.Holds pathOfFirst text) (hpathOfSecond : w.Holds pathOfSecond more) (s : State) :
    Coincide s s (Session.loadFile w sink path) (do
      let _ ← Session.loadFile w sink pathOfFirst
      Session.loadFile w sink pathOfSecond) := by
  refine (loadFile_coincides hpath (.refl s)).trans ?_
  refine (loadSource_parts hfirst hsecond path pathOfFirst pathOfSecond (.refl s)).trans ?_
  refine (loadFile_coincides hpathOfFirst (.refl s)).symm.bind fun _ s t h => ?_
  exact (loadFile_coincides hpathOfSecond h.symm).symm

end Session

/-- A text that comes after a readable one, on a line of its own, is read as it is read alone, further down.
Where both are readable, loading them as one or one after the other runs the same forms; where the second
one is not, loading them as one runs none. -/
theorem reading_lines {limit : Nat} {text : String} {forms : List Form}
    (h : parseProgram limit text = .ok forms) (more : String) :
    ((∃ all, parseProgram limit (text ++ "\n" ++ more) = .ok all) ↔
      ∃ others, parseProgram limit more = .ok others) ∧
    (∀ others, parseProgram limit more = .ok others →
      parseProgram limit (text ++ "\n" ++ more) = .ok (forms ++ others.map (Form.movedDown (linesOf text)))) ∧
    (∀ e, parseProgram limit more = .error (.unreadable e) →
      parseProgram limit (text ++ "\n" ++ more) = .error (.unreadable ⟨e.problem, e.line + linesOf text⟩)) ∧
    (parseProgram limit more = .error .tooDeep →
      parseProgram limit (text ++ "\n" ++ more) = .error .tooDeep) ∧
    ∀ w program, readProgram w.room text = .ok program →
      (∀ others, readProgram w.room more = .ok others →
        readProgram w.room (text ++ "\n" ++ more) = .ok (program ++ others) ∧
        (∀ sink name nameOfFirst nameOfSecond s,
          Coincide s s (loadSourceTo w sink name (text ++ "\n" ++ more)) (do
            let _ ← loadSourceTo w sink nameOfFirst text
            loadSourceTo w sink nameOfSecond more)) ∧
        ∀ sink path pathOfFirst pathOfSecond s, w.Holds path (text ++ "\n" ++ more) →
          w.Holds pathOfFirst text → w.Holds pathOfSecond more →
          Coincide s s (Session.loadFile w sink path) (do
            let _ ← Session.loadFile w sink pathOfFirst
            Session.loadFile w sink pathOfSecond)) ∧
      ∀ e sink name s, readProgram w.room more = .error (.unreadable e) →
        result (loadSourceTo w sink name (text ++ "\n" ++ more)) s = .ok (.error ("could not load file: " ++
            SyntaxError.message ⟨e.problem, e.line + linesOf text⟩ name)) ∧
          final (loadSourceTo w sink name (text ++ "\n" ++ more)) s = s := by
  have hlines := parseProgram_lines h more
  refine ⟨?_, fun others ho => ?_, fun e he => ?_, fun he => ?_, fun w program hp => ⟨fun others ho => ?_, ?_⟩⟩
  · rw [hlines]
    cases parseProgram limit more <;> simp [Except.map, Except.mapError]
  · rw [hlines, ho]
    rfl
  · rw [hlines, he]
    rfl
  · rw [hlines, he]
    rfl
  · refine ⟨?_, fun sink name nameOfFirst nameOfSecond s => ?_, ?_⟩
    · rw [readProgram_lines hp, ho]
      rfl
    · exact loadSource_parts hp ho name nameOfFirst nameOfSecond (.refl s)
    · intro sink path pathOfFirst pathOfSecond s hpath hpathOfFirst hpathOfSecond
      exact loadFile_parts hp ho hpath hpathOfFirst hpathOfSecond s
  · intro e sink name s he
    have hread : readProgram w.room (text ++ "\n" ++ more) =
        .error (.unreadable ⟨e.problem, e.line + linesOf text⟩) := by
      rw [readProgram_lines hp, he]
      rfl
    rw [loadSourceTo, Evaluator.loadSource, hread]
    exact ⟨rfl, rfl⟩

def commentedText : String := "(f \"a\nb\") ; (("

def partedText (path : String) : String :=
  if path = "a" then commentedText
  else if path = "b" then "\x7bx\x7d" else commentedText ++ "\n" ++ "\x7bx\x7d"

def partedWorld : World where
  files := {
    read := fun path => .ok ((partedText path).toList.map fun c => UInt8.ofNat c.toNat)
    isDirectory := fun _ => .error .missing
    entries := fun _ => .error .missing }
  room := 20

lemma normalize_letter {path : String} (h : path = "a" ∨ path = "b" ∨ path = "c") :
    Path.normalize path = path := by
  have hsplit : path.splitOn "/" = [path] := by
    rw [String.splitOn, if_neg (by decide), String.splitOnAux]
    rcases h with rfl | rfl | rfl <;>
      rw [if_neg (by decide), if_neg (by decide), String.splitOnAux, if_pos (by decide)] <;> decide +kernel
  rw [Path.normalize, Path.parts, hsplit]
  rcases h with rfl | rfl | rfl <;> decide +kernel

lemma partedWorld_holds {path : String} (h : path = "a" ∨ path = "b" ∨ path = "c") :
    partedWorld.Holds path (partedText path) := by
  have hnul : Path.hasNul path = false := by
    rcases h with rfl | rfl | rfl <;> decide +kernel
  have hdecode : Text.Utf8.decode ((partedText path).toList.map fun c => UInt8.ofNat c.toNat) =
      .ok (partedText path) := by
    rcases h with rfl | rfl | rfl <;> decide +kernel
  have hlines : String.ofList (Text.unifyNewlines (partedText path).toList) = partedText path := by
    rcases h with rfl | rfl | rfl <;> decide +kernel
  refine ⟨hnul, _, partedText path, rfl, ?_, hlines⟩
  rw [normalize_letter h]
  exact hdecode

theorem reading_lines_sample :
    parseProgram 5 (commentedText ++ "\n" ++ "\n)") =
      .error (.unreadable ⟨.unexpectedToken (.closing .round), 4⟩) ∧
    ∃ first second, readProgram partedWorld.room commentedText = .ok first ∧
      readProgram partedWorld.room "\x7bx\x7d" = .ok second ∧
      readProgram partedWorld.room (commentedText ++ "\n" ++ "\x7bx\x7d") = .ok (first ++ second) ∧
      Coincide (sample .dynamic) (sample .dynamic) (Session.loadFile partedWorld .standard "c") (do
        let _ ← Session.loadFile partedWorld .standard "a"
        Session.loadFile partedWorld .standard "b") := by
  obtain ⟨forms, hforms⟩ : ∃ forms, parseProgram 5 commentedText = .ok forms :=
    parseProgram_readable_iff.mpr (by decide +kernel)
  obtain ⟨-, -, herror, -⟩ := reading_lines hforms "\n)"
  obtain ⟨-, -, -, -, hloads⟩ := reading_lines hforms "\x7bx\x7d"
  have hbracket : parseProgram 5 "\n)" = .error (.unreadable ⟨.unexpectedToken (.closing .round), 2⟩) := by cbv
  obtain ⟨first, hfirst⟩ : ∃ first, readProgram partedWorld.room commentedText = .ok first := ⟨_, by cbv⟩
  obtain ⟨second, hsecond⟩ : ∃ second, readProgram partedWorld.room "\x7bx\x7d" = .ok second := ⟨_, by cbv⟩
  have hwhole : partedWorld.Holds "c" (commentedText ++ "\n" ++ "\x7bx\x7d") := partedWorld_holds (by simp)
  have hfirstFile : partedWorld.Holds "a" commentedText := partedWorld_holds (by simp)
  have hsecondFile : partedWorld.Holds "b" "\x7bx\x7d" := partedWorld_holds (by simp)
  obtain ⟨hboth, -, hfiles⟩ := (hloads partedWorld first hfirst).1 second hsecond
  exact ⟨herror _ hbracket, first, second, hfirst, hsecond, hboth,
    hfiles .standard "c" "a" "b" _ hwhole hfirstFile hsecondFile⟩

end CurriedLisp
