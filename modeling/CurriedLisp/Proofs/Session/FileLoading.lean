import CurriedLisp.CommandLine
import CurriedLisp.Proofs.Eval.Faults
import CurriedLisp.Proofs.Session.Reachable

namespace CurriedLisp

open Eval Session

namespace Evaluator

variable (self : Evaluator) {files : Files} {room : Nat} {env : FrameId} {sink : Sink} {s : State}

def Loaded (v : Value) : Prop := v = .nothing ∨ ∃ reason, v = .error ("could not load file: " ++ reason)

lemma loadSource_loaded {name source : String} {v : Value}
    (h : result (self.loadSource room env sink name source) s = .ok v) : Loaded v := by
  unfold Evaluator.loadSource at h
  split at h
  · obtain ⟨_, -, h⟩ := bind_eq_ok_iff.mp h
    obtain ⟨_, -, h⟩ := bind_eq_ok_iff.mp h
    exact .inl (Except.ok.inj h).symm
  · exact .inr ⟨_, (Except.ok.inj h).symm⟩
  · cases h

lemma loadFile_embeddedNul {name path : String} (h : Path.hasNul path = true) :
    result (self.loadFile files room env sink name path) s = .error .embeddedNul ∧
      final (self.loadFile files room env sink name path) s = s := by
  unfold Evaluator.loadFile
  rw [if_pos h]
  exact bind_of_error rfl

variable {name path : String} (hnul : Path.hasNul path = false)
include hnul

lemma loadFile_unopened {problem : FileProblem} (h : files.read (Path.normalize path) = .error problem) :
    result (self.loadFile files room env sink name path) s =
        .ok (.error ("could not load file: " ++ (name ++ ": " ++ problem.text))) ∧
      (final (self.loadFile files room env sink name path) s).store = s.store := by
  unfold Evaluator.loadFile
  rw [hnul, h]
  exact ⟨rfl, rfl⟩

lemma loadFile_undecodable {bytes : List UInt8} {problem : Text.Utf8.Problem}
    (h : files.read (Path.normalize path) = .ok bytes) (hb : Text.Utf8.decode bytes = .error problem) :
    result (self.loadFile files room env sink name path) s = .error (.undecodable problem) ∧
      (final (self.loadFile files room env sink name path) s).store = s.store := by
  unfold Evaluator.loadFile
  rw [hnul, h]
  simp only [Bool.false_eq_true, reduceIte, hb]
  exact ⟨rfl, rfl⟩

lemma loadFile_unreadable {bytes : List UInt8} {text : String} {e : SyntaxError}
    (h : files.read (Path.normalize path) = .ok bytes) (hb : Text.Utf8.decode bytes = .ok text)
    (he : readProgram room (String.ofList (Text.unifyNewlines text.toList)) = .error (.unreadable e)) :
    result (self.loadFile files room env sink name path) s =
        .ok (.error ("could not load file: " ++ e.message name)) ∧
      (final (self.loadFile files room env sink name path) s).store = s.store := by
  unfold Evaluator.loadFile
  rw [hnul, h]
  simp only [Bool.false_eq_true, reduceIte, hb, Evaluator.loadSource, he]
  exact ⟨rfl, rfl⟩

omit hnul in
lemma loadFile_loaded {v : Value} (h : result (self.loadFile files room env sink name path) s = .ok v) :
    Loaded v := by
  cases hnul : Path.hasNul path with
  | true => cases (loadFile_embeddedNul self hnul).1.symm.trans h
  | false =>
    unfold Evaluator.loadFile at h
    rw [hnul] at h
    simp only [Bool.false_eq_true, reduceIte] at h
    obtain ⟨_, -, h⟩ := bind_eq_ok_iff.mp h
    split at h
    · exact .inr ⟨_, (Except.ok.inj h).symm⟩
    · split at h
      · cases h
      · exact loadSource_loaded self h

end Evaluator

section Callers

variable (w : World)

theorem loadFile_stopsBy (files : Files) (room : Nat) (env : FrameId) (sink : Sink) (name path : String) :
    StopsBy files.Halts ((evaluate files room).loadFile files room env sink name path) :=
  (composable_stopsBy files).loadFile (evaluate_stopsBy files room) name path

/-- Why a session may not start: a setting is wrong, it cannot be told what a prelude path stands for, or
loading the prelude comes to no end. -/
inductive World.Unstartable (w : World) : Fault → Prop
  | setting {problem : SettingProblem} : Setting.scoping w.vars = .error problem → Unstartable w (.setting problem)
  | path {fault : Fault} : w.preludeUnits = .error fault → Unstartable w fault
  | prelude {fault : Fault} : w.files.Halts fault → Unstartable w fault

lemma reading_stopsBy {α : Type} {F : Fault → Prop} {source : String} (r : Except ReadError α)
    (hr : ∀ e, F (.unreadable e source)) (hd : F .tooDeep) : StopsBy F (reading source r) := by
  unfold reading
  split
  · exact .pure _
  · exact .throw (hr _)
  · exact .throw hd

lemma loadUnit_stopsBy (unit : PreludeUnit) : StopsBy w.files.Halts (loadUnit w unit) := by
  cases unit with
  | file path => exact loadFile_stopsBy w.files w.room globalFrame .standard path path
  | bundled =>
    have hread : StopsBy w.files.Halts (reading Prelude.path (Reading.within w.room Prelude.program)) := by
      unfold Reading.within
      split
      · exact .pure _
      · exact .throw (.inl rfl)
    refine hread.bind fun program => ?_
    exact (composable_stopsBy w.files).loadForms (evaluate_stopsBy w.files w.room) _ program

lemma loadUnits_stopsBy (units : List PreludeUnit) : StopsBy w.files.Halts (loadUnits w units) := by
  induction units with
  | nil => exact .pure _
  | cons unit rest ih =>
    refine (loadUnit_stopsBy w unit).bind fun v => ?_
    split
    · exact (StopsBy.record _).bind fun _ => ih
    · exact ih

theorem start_stopsBy (prelude : Bool) : StopsBy w.Unstartable (start w none prelude) := by
  have hbegin : ∀ scoping, StopsBy w.Unstartable (beginBy w.evaluate w scoping prelude) := by
    intro scoping
    refine (StopsBy.modifyGet _).bind fun _ => (StopsBy.record _).bind fun _ => ?_
    cases prelude with
    | false => exact .pure _
    | true =>
      simp only [reduceIte]
      cases hu : w.preludeUnits with
      | error fault => exact .throw_bind (.path hu)
      | ok units =>
        have hunits : loadUnitsBy w.evaluate w = loadUnits w := funext fun units => (loadUnits_eq units).symm
        rw [hunits]
        exact (StopsBy.pure units).bind fun units => (loadUnits_stopsBy w units).mono fun _ => .prelude
  cases hs : Setting.scoping w.vars with
  | ok scoping =>
    have hgiven : scopingFor w none = .ok scoping := hs
    rw [start_eq hgiven]
    exact hbegin scoping
  | error problem =>
    unfold start
    simp only [hs]
    exact .throw_bind (.setting hs)

lemma answer_stopsBy (input : String) : StopsBy w.files.Misread (Repl.answer w input) := by
  have heval : StopsBy (fun e => (∃ problem source, e = .unreadable problem source) ∨ w.files.Halts e)
      (some <$> Session.eval w input) := by
    rw [map_eq_pure_bind]
    refine (StopsBy.bind ?_ fun v => ?_).bind fun v => .pure _
    · exact reading_stopsBy _ (fun problem => .inl ⟨problem, _, rfl⟩) (.inr (.inl rfl))
    · exact (evaluate_stopsBy w.files w.room globalFrame v).mono fun e => .inr
  unfold Repl.answer
  refine StopsBy.bind (StopsBy.tryCatch heval ?_) fun r => ?_
  · rintro e (⟨problem, source, rfl⟩ | rfl | he)
    · exact (StopsBy.record _).bind fun _ => .pure _
    · exact (StopsBy.record _).bind fun _ => (StopsBy.record _).bind fun _ => .pure _
    · cases he with
      | embeddedNul => exact .throw .embeddedNul
      | undecodable hread hdecode => exact .throw (.undecodable hread hdecode)
  · split
    · exact .pure _
    · exact .pure _
    · exact StopsBy.bind (.bind .store fun _ => .pure _) fun _ => .record _

lemma converse_stopsBy (pending : Option String) (lines : List String) :
    StopsBy w.files.Misread (Repl.converse w pending lines) := by
  induction lines generalizing pending with
  | nil => exact (StopsBy.record _).bind fun _ => (StopsBy.record _).bind fun _ => .record _
  | cons line rest ih =>
    refine (StopsBy.record _).bind fun _ => StopsBy.bind ?_ fun status => ?_
    · dsimp only [Repl.feed]
      split
      · exact .pure _
      · split
        · exact (StopsBy.record _).bind fun _ => .pure _
        · exact (answer_stopsBy w _).bind fun _ => .pure _
    · cases status with
      | waiting pending => exact ih pending
      | ended => exact .pure _

theorem repl_stopsBy (lines : List String) : StopsBy w.files.Misread (Repl.run w lines) :=
  (StopsBy.record _).bind fun _ => converse_stopsBy w none lines

theorem runFiles_stopsBy (status : Nat) (paths : List String) :
    StopsBy w.Unstartable (CommandLine.runFiles w status paths) := by
  induction paths generalizing status with
  | nil => exact .pure _
  | cons path rest ih =>
    refine (start_stopsBy w true).bind fun _ => StopsBy.bind (StopsBy.tryCatch (G := w.files.Halts) ?_ ?_) ?_
    · rw [map_eq_pure_bind]
      exact (loadFile_stopsBy w.files w.room globalFrame .standard path path).bind fun v => .pure _
    · rintro e (rfl | he)
      · exact (StopsBy.record _).bind fun _ => .pure _
      · cases he with
        | embeddedNul => exact .throw (.prelude (.inr .embeddedNul))
        | undecodable hread hdecode => exact .throw (.prelude (.inr (.undecodable hread hdecode)))
    · intro r
      split
      · exact .pure _
      · split
        · exact StopsBy.bind (.bind .store fun _ => .pure _) fun _ => (StopsBy.record _).bind fun _ => ih 1
        · exact ih status

end Callers

/-- What there is at a path decides what loading comes to. A path and bytes that are no text stop whoever has
them loaded; but for too little room, nothing else about a file does. -/
theorem loadFile_exact (w : World) (env : FrameId) (sink : Sink) (name path : String) (s : State) :
    (∀ v, result (w.evaluate.loadFile w.files w.room env sink name path) s = .ok v → Evaluator.Loaded v) ∧
    (∀ e, result (w.evaluate.loadFile w.files w.room env sink name path) s = .error e → w.files.Halts e) ∧
    (Path.hasNul path = true →
      result (w.evaluate.loadFile w.files w.room env sink name path) s = .error .embeddedNul ∧
      final (w.evaluate.loadFile w.files w.room env sink name path) s = s) ∧
    (Path.hasNul path = false →
      (∀ problem, w.files.read (Path.normalize path) = .error problem →
        result (w.evaluate.loadFile w.files w.room env sink name path) s =
          .ok (.error ("could not load file: " ++ (name ++ ": " ++ problem.text))) ∧
        (final (w.evaluate.loadFile w.files w.room env sink name path) s).store = s.store) ∧
      ∀ bytes, w.files.read (Path.normalize path) = .ok bytes →
        (∀ problem, Text.Utf8.decode bytes = .error problem →
          result (w.evaluate.loadFile w.files w.room env sink name path) s = .error (.undecodable problem) ∧
          (final (w.evaluate.loadFile w.files w.room env sink name path) s).store = s.store) ∧
        ∀ text e, Text.Utf8.decode bytes = .ok text →
          readProgram w.room (String.ofList (Text.unifyNewlines text.toList)) = .error (.unreadable e) →
          result (w.evaluate.loadFile w.files w.room env sink name path) s =
            .ok (.error ("could not load file: " ++ e.message name)) ∧
          (final (w.evaluate.loadFile w.files w.room env sink name path) s).store = s.store) ∧
    (∀ v e, result (w.evaluate env v) s = .error e → w.files.Halts e) ∧
    (∀ prelude e, result (start w none prelude) s = .error e → w.Unstartable e) ∧
    (∀ lines e, result (Repl.run w lines) s = .error e → w.files.Misread e) ∧
    ∀ status paths e, result (CommandLine.runFiles w status paths) s = .error e → w.Unstartable e := by
  refine ⟨fun v h => w.evaluate.loadFile_loaded h, loadFile_stopsBy w.files w.room env sink name path s,
    w.evaluate.loadFile_embeddedNul, fun hnul => ⟨fun problem h => w.evaluate.loadFile_unopened hnul h, ?_⟩,
    fun v => evaluate_stopsBy w.files w.room env v s, fun prelude => start_stopsBy w prelude s,
    fun lines => repl_stopsBy w lines s, fun status paths => runFiles_stopsBy w status paths s⟩
  intro bytes hread
  exact ⟨fun problem hb => w.evaluate.loadFile_undecodable hnul hread hb,
    fun text e hb he => w.evaluate.loadFile_unreadable hnul hread hb he⟩

def byteWorld (byte : UInt8) : World where
  files := { Files.none with read := fun _ => .ok [byte] }
  room := 20

theorem loadFile_exact_sample :
    result (Session.loadFile sampleWorld .standard "f") (sample .dynamic) =
      .ok (.error "could not load file: f: No such file or directory") ∧
    result (Session.loadFile (byteWorld 40) .standard "f") (sample .dynamic) =
      .ok (.error ("could not load file: " ++ SyntaxError.message ⟨.unexpectedEnd .round, 1⟩ "f")) ∧
    result (Session.loadFile (byteWorld 255) .standard "f") (sample .dynamic) =
      .error (.undecodable ⟨255, 0, 1, .invalidStart⟩) ∧
    result (Session.loadFile (byteWorld 255) .standard "\x00") (sample .dynamic) = .error .embeddedNul ∧
    (byteWorld 255).files.Halts .embeddedNul := by
  have hpath : Path.hasNul "f" = false := by decide +kernel
  have hnul : Path.hasNul "\x00" = true := by decide +kernel
  obtain ⟨-, -, -, hmissing, -⟩ :=
    loadFile_exact sampleWorld globalFrame .standard "f" "f" (sample .dynamic)
  obtain ⟨-, -, -, hbracket, -⟩ :=
    loadFile_exact (byteWorld 40) globalFrame .standard "f" "f" (sample .dynamic)
  obtain ⟨-, -, -, hbyte, -⟩ :=
    loadFile_exact (byteWorld 255) globalFrame .standard "f" "f" (sample .dynamic)
  obtain ⟨-, hhalts, hended, -⟩ :=
    loadFile_exact (byteWorld 255) globalFrame .standard "\x00" "\x00" (sample .dynamic)
  have hopen : Text.Utf8.decode [40] = .ok "(" := by decide +kernel
  have hbad : Text.Utf8.decode [255] = .error ⟨255, 0, 1, .invalidStart⟩ := by decide +kernel
  exact ⟨((hmissing hpath).1 .missing rfl).1, (((hbracket hpath).2 [40] rfl).2 "(" _ hopen rfl).1,
    (((hbyte hpath).2 [255] rfl).1 _ hbad).1, (hended hnul).1, hhalts _ (hended hnul).1⟩

theorem repl_ended_by_byte :
    result (Repl.run (byteWorld 255) ["load \"f\"", "+ 1 2"]) { store := freshStore .dynamic } =
      .error (.undecodable ⟨255, 0, 1, .invalidStart⟩) := by
  decide +kernel

end CurriedLisp
