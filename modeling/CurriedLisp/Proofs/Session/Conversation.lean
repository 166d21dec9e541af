import CurriedLisp.Proofs.Eval.Transcripts
import CurriedLisp.Proofs.Session.FileLoading
import CurriedLisp.Proofs.Syntax.Continuation
import CurriedLisp.Proofs.Text.Digits

/-! The course of a conversation. The lines that are typed in fall into groups, each as short as it can be,
and each group is evaluated once, in the state that the groups before it have left. -/

namespace CurriedLisp

open Eval Session

def State.saying (s : State) (texts : List String) : State :=
  s.retold (s.told ++ texts.map (.wrote .standard))

def State.asked (s : State) : Nat → State
  | 0 => s
  | n + 1 => s.retold (s.told ++ .prompted "> " :: List.replicate n (.prompted ". "))

namespace Repl

variable {w : World} {s t : State} {group earlier lines : List String} {line input : String}

def joined (lines : List String) : String := "\n".intercalate lines

def Unfinished (lines : List String) : Prop :=
  ∀ part, part <+: lines → part ≠ [] → needsMoreInput (joined part) = true

structure IsGroup (group : List String) : Prop where
  ne_nil : group ≠ []
  whole : needsMoreInput (joined group) = false
  shortest : ∀ part, part <+: group → part ≠ [] → part ≠ group → needsMoreInput (joined part) = true

inductive Answered (w : World) (input : String) (s : State) : State → Prop
  | shown {v : Value} : result (Session.eval w input) s = .ok v → v ≠ .nothing →
    Answered w input s ((final (Session.eval w input) s).saying
      [v.display ((final (Session.eval w input) s).store.builtinName? globalFrame) ++ "\n"])
  | silent : result (Session.eval w input) s = .ok .nothing →
    Answered w input s (final (Session.eval w input) s)
  | unreadable {e : SyntaxError} : read w.room input = .error (.unreadable e) →
    '\n' ∉ (e.message inputName).toList →
    Answered w input s (s.saying ["Error: " ++ e.message inputName ++ "\n"])
  | tooDeep {told : List Event} : result (Session.eval w input) s = .error .tooDeep →
    told = (final (Session.eval w input) s).told ++ [.logged (.tooDeep input)] →
    Answered w input s (((final (Session.eval w input) s).retold told).saying
      ["Error: maximum recursion depth exceeded\n"])

inductive Course (w : World) : List String → State → Except Fault Unit → State → Prop
  | answered {group rest : List String} {s t u : State} {r : Except Fault Unit} : IsGroup group →
    Text.strip (joined group) ≠ quitWord → Answered w (joined group) (s.asked group.length) t →
    Course w rest t r u → Course w (group ++ rest) s r u
  | quit {group : List String} (unread : List String) {s : State} : IsGroup group →
    Text.strip (joined group) = quitWord →
    Course w (group ++ unread) s (.ok ()) ((s.asked group.length).saying [farewell])
  | endOfInput {lines : List String} {s : State} : Unfinished lines →
    Course w lines s (.ok ()) ((s.asked (lines.length + 1)).saying ["\n", farewell])
  | stopped {group : List String} (unread : List String) {s : State} {e : Fault} : IsGroup group →
    Text.strip (joined group) ≠ quitWord →
    result (Session.eval w (joined group)) (s.asked group.length) = .error e → w.files.Misread e →
    Course w (group ++ unread) s (.error e) (final (Session.eval w (joined group)) (s.asked group.length))

def pendingOf : List String → Option String
  | [] => none
  | line :: rest => some (joined (line :: rest))

lemma joined_concat (h : lines ≠ []) (line : String) :
    joined (lines ++ [line]) = joined lines ++ "\n" ++ line := by
  rw [joined, String.intercalate_append_of_ne_nil h (List.cons_ne_nil _ _), String.intercalate_singleton]
  rfl

lemma pendingOf_concat (earlier : List String) (line : String) :
    pendingOf (earlier ++ [line]) = some (extend (pendingOf earlier) line) := by
  cases earlier with
  | nil => simp [pendingOf, extend, joined]
  | cons first rest =>
    rw [pendingOf, extend, ← joined_concat (List.cons_ne_nil _ _)]
    rfl

lemma extend_pendingOf (earlier : List String) (line : String) :
    extend (pendingOf earlier) line = joined (earlier ++ [line]) := by
  have h := pendingOf_concat earlier line
  cases earlier <;> exact (Option.some.inj h).symm

lemma unfinished_nil : Unfinished [] := fun _ hp hne => absurd (List.prefix_nil.mp hp) hne

lemma Unfinished.concat (h : Unfinished earlier) (hl : needsMoreInput (joined (earlier ++ [line])) = true) :
    Unfinished (earlier ++ [line]) := by
  intro part hp hne
  rcases List.prefix_concat_iff.mp hp with rfl | hp
  · exact hl
  · exact h part hp hne

lemma Unfinished.isGroup (h : Unfinished earlier) (hl : needsMoreInput (joined (earlier ++ [line])) = false) :
    IsGroup (earlier ++ [line]) where
  ne_nil := by simp
  whole := hl
  shortest part hp hne hother := by
    rcases List.prefix_concat_iff.mp hp with rfl | hp
    · exact absurd rfl hother
    · exact h part hp hne

lemma record_run {α : Type} (e : Event) (x : Eval α) (s : State) :
    (do Eval.record e; x : Eval α) s = x (s.retold (s.told ++ [e])) := by
  rw [← final_record]
  rfl

lemma asked_concat (s : State) (earlier : List String) :
    (s.asked earlier.length).retold ((s.asked earlier.length).told ++ [.prompted (prompt (pendingOf earlier))]) =
      s.asked (earlier.length + 1) := by
  cases earlier with
  | nil => rfl
  | cons first rest =>
    have hprompts : List.replicate rest.length (Event.prompted ". ") ++ [.prompted ". "] =
        List.replicate (rest.length + 1) (.prompted ". ") := List.replicate_succ'.symm
    simp only [List.length_cons, State.asked, State.told_retold, State.retold_retold, List.append_assoc]
    rw [List.cons_append, ← hprompts]
    rfl

lemma write_run (text : String) (s : State) :
    result (Eval.write .standard text) s = .ok () ∧ final (Eval.write .standard text) s = s.saying [text] :=
  ⟨rfl, final_record _ s⟩

lemma parse_of_unreadable {room : Nat} {source : String} {e : SyntaxError}
    (h : read room source = .error (.unreadable e)) :
    parse (Reading.parserLimit room) source = .error (.unreadable e) := by
  cases hp : parse (Reading.parserLimit room) source with
  | error problem =>
    rw [read, hp] at h
    exact congrArg Except.error (Except.error.inj h)
  | ok form =>
    rw [read, hp] at h
    by_cases hroom : [form.value].all fun v => Reading.bracketLevels * v.nesting ≤ room
    · simp [bind, Except.bind, Reading.within, hroom] at h
    · simp [bind, Except.bind, Reading.within, hroom] at h

lemma newline_not_mem_digits (n : Nat) : '\n' ∉ Nat.toDigits 10 n := by
  intro h
  have hdigit : Text.isDigit '\n' = true := Text.isDigit_of_mem_toDigits n _ h
  exact absurd hdigit (by decide)

lemma problem_one_line {l : Lexed} {e : SyntaxError} (h : FirstProblem l e) :
    '\n' ∉ e.problem.text.toList := by
  have hclosing : ∀ b, '\n' ∉ (SyntaxProblem.unexpectedToken (.closing b)).text.toList := by
    intro b
    cases b <;> decide +kernel
  have hend : ∀ b, '\n' ∉ (SyntaxProblem.unexpectedEnd b).text.toList := by
    intro b
    cases b <;> decide +kernel
  have hstring : '\n' ∉ SyntaxProblem.unclosedString.text.toList := by decide +kernel
  cases h with
  | unexpected _ hv hn =>
    obtain ⟨b, hb⟩ := closing_of_not_viable hv hn
    rw [hb]
    exact hclosing b
  | unclosed => exact hstring
  | unfinished => exact hend _

lemma message_one_line {e : SyntaxError} (h : read w.room input = .error (.unreadable e)) :
    '\n' ∉ (e.message inputName).toList := by
  have hproblem := problem_one_line (parse_eq_error_iff.mp (parse_of_unreadable h)).2
  have hname : '\n' ∉ inputName.toList := by decide +kernel
  simp [SyntaxError.message, location, hproblem, hname, newline_not_mem_digits]

lemma eval_of_unreadable {e : SyntaxError} (h : read w.room input = .error (.unreadable e)) :
    result (Session.eval w input) s = .error (.unreadable e inputName) ∧ final (Session.eval w input) s = s := by
  rw [Session.eval, h]
  exact bind_of_error rfl

lemma eval_stopped {e : Fault} (h : result (Session.eval w input) s = .error e) :
    (∃ p, read w.room input = .error (.unreadable p)) ∨ w.files.Halts e := by
  rw [Session.eval] at h
  cases hr : read w.room input with
  | ok v =>
    rw [hr] at h
    exact .inr (evaluate_stopsBy w.files w.room globalFrame v s e h)
  | error problem =>
    cases problem with
    | unreadable p => exact .inl ⟨p, rfl⟩
    | tooDeep =>
      rw [hr] at h
      cases h
      exact .inr (.inl rfl)

section Answer

variable {v : Value} {e : Fault}

def recover (input : String) : Fault → Eval (Option Value)
  | .unreadable e source => do
    Eval.write .standard ("Error: " ++ e.message source ++ "\n")
    pure none
  | .tooDeep => do
    Eval.log (.tooDeep input)
    Eval.write .standard ("Error: " ++ Fault.tooDeep.message ++ "\n")
    pure none
  | fault => throw fault

def present : Option Value → Eval Unit
  | none | some (.sexpr []) => return ()
  | some v => do Eval.write .standard ((← Session.display v) ++ "\n")

lemma answer_eq (w : World) (input : String) :
    answer w input = tryCatch (some <$> Session.eval w input) (recover input) >>= present := rfl

lemma present_shown (hv : v ≠ .nothing) (s : State) :
    result (present (some v)) s = .ok () ∧
      final (present (some v)) s = s.saying [v.display (s.store.builtinName? globalFrame) ++ "\n"] := by
  have hpresent : present (some v) =
      (do Eval.write .standard ((← Session.display v) ++ "\n") : Eval Unit) := by
    cases v with
    | list b items =>
      cases b with
      | round =>
        cases items with
        | nil => exact absurd rfl hv
        | cons => rfl
      | curly => rfl
    | _ => rfl
  have hdisplay : result (Session.display v) s = .ok (v.display (s.store.builtinName? globalFrame)) := rfl
  rw [hpresent, (bind_of_ok hdisplay).1, (bind_of_ok hdisplay).2]
  exact write_run _ s

lemma answer_of_ok (h : result (Session.eval w input) s = .ok v) :
    result (answer w input) s = result (present (some v)) (final (Session.eval w input) s) ∧
      final (answer w input) s = final (present (some v)) (final (Session.eval w input) s) := by
  have hattempt : result (some <$> Session.eval w input) s = .ok (some v) ∧
      final (some <$> Session.eval w input) s = final (Session.eval w input) s := by
    rw [map_eq_pure_bind]
    exact bind_of_ok h
  have hcaught : result (tryCatch (some <$> Session.eval w input) (recover input)) s = .ok (some v) ∧
      final (tryCatch (some <$> Session.eval w input) (recover input)) s = final (Session.eval w input) s := by
    rw [← hattempt.2]
    exact tryCatch_of_ok hattempt.1
  rw [answer_eq, ← hcaught.2]
  exact bind_of_ok hcaught.1

lemma answer_of_error (h : result (Session.eval w input) s = .error e) :
    result (answer w input) s = result (recover input e >>= present) (final (Session.eval w input) s) ∧
      final (answer w input) s = final (recover input e >>= present) (final (Session.eval w input) s) := by
  have hattempt : result (some <$> Session.eval w input) s = .error e ∧
      final (some <$> Session.eval w input) s = final (Session.eval w input) s := by
    rw [map_eq_pure_bind]
    exact bind_of_error h
  have hcaught : result (tryCatch (some <$> Session.eval w input) (recover input)) s =
        result (recover input e) (final (Session.eval w input) s) ∧
      final (tryCatch (some <$> Session.eval w input) (recover input)) s =
        final (recover input e) (final (Session.eval w input) s) := by
    rw [← hattempt.2]
    exact tryCatch_of_error hattempt.1
  rw [answer_eq]
  exact bind_of_same hcaught.1 hcaught.2

lemma answer_of_misread (h : result (Session.eval w input) s = .error e) (he : w.files.Misread e) :
    result (answer w input) s = .error e ∧ final (answer w input) s = final (Session.eval w input) s := by
  obtain ⟨hresult, hfinal⟩ := answer_of_error h
  rw [hresult, hfinal]
  cases he <;> exact ⟨rfl, rfl⟩

lemma Answered.run (h : Answered w input s t) :
    result (answer w input) s = .ok () ∧ final (answer w input) s = t := by
  cases h with
  | shown h hv =>
    obtain ⟨hresult, hfinal⟩ := answer_of_ok h
    rw [hresult, hfinal]
    exact present_shown hv _
  | silent h => exact answer_of_ok h
  | @unreadable p h _ =>
    obtain ⟨heval, hleft⟩ := eval_of_unreadable (s := s) h
    obtain ⟨hresult, hfinal⟩ := answer_of_error heval
    have hsaid : final (recover input (.unreadable p inputName) >>= present) s =
        s.saying ["Error: " ++ p.message inputName ++ "\n"] := (write_run _ s).2
    rw [hresult, hfinal, hleft, hsaid]
    exact ⟨rfl, rfl⟩
  | tooDeep h ht =>
    obtain ⟨hresult, hfinal⟩ := answer_of_error h
    have hsaid : final (recover input .tooDeep >>= present) (final (Session.eval w input) s) =
        (final (Eval.log (.tooDeep input)) (final (Session.eval w input) s)).saying
          ["Error: maximum recursion depth exceeded\n"] := (write_run _ _).2
    rw [hresult, hfinal, hsaid, Eval.log, final_record, ht]
    exact ⟨rfl, rfl⟩

lemma exists_answered (w : World) (input : String) (s : State) :
    (∃ t, Answered w input s t) ∨
      ∃ e, result (Session.eval w input) s = .error e ∧ w.files.Misread e := by
  cases h : result (Session.eval w input) s with
  | ok v =>
    by_cases hv : v = .nothing
    · exact .inl ⟨_, .silent (hv ▸ h)⟩
    · exact .inl ⟨_, .shown h hv⟩
  | error e =>
    rcases eval_stopped h with ⟨p, hp⟩ | rfl | he
    · exact .inl ⟨_, .unreadable hp (message_one_line hp)⟩
    · exact .inl ⟨_, .tooDeep h rfl⟩
    · exact .inr ⟨e, rfl, he⟩

end Answer

lemma saying_saying (s : State) (first second : List String) :
    (s.saying first).saying second = s.saying (first ++ second) := by
  simp [State.saying]

lemma converse_line (s : State) (earlier : List String) (line : String) (rest : List String) :
    converse w (pendingOf earlier) (line :: rest) (s.asked earlier.length) =
      (do
        match ← feed w (pendingOf earlier) line with
        | .waiting pending => converse w pending rest
        | .ended => return () : Eval Unit) (s.asked (earlier ++ [line]).length) := by
  rw [converse, record_run, asked_concat, List.length_append]
  rfl

lemma converse_waits (s : State) (rest : List String)
    (h : needsMoreInput (joined (earlier ++ [line])) = true) :
    converse w (pendingOf earlier) (line :: rest) (s.asked earlier.length) =
      converse w (pendingOf (earlier ++ [line])) rest (s.asked (earlier ++ [line]).length) := by
  rw [converse_line, feed, extend_pendingOf, if_pos h, pendingOf_concat, extend_pendingOf]
  rfl

lemma IsGroup.exists_last (h : IsGroup group) :
    ∃ earlier line, group = earlier ++ [line] ∧ Unfinished earlier := by
  have hsplit : group.dropLast ++ [group.getLast h.ne_nil] = group := List.dropLast_append_getLast h.ne_nil
  refine ⟨group.dropLast, group.getLast h.ne_nil, hsplit.symm, fun part hp hne => ?_⟩
  refine h.shortest part (hp.trans (List.dropLast_prefix group)) hne ?_
  rintro rfl
  have hlength := hp.length_le
  have hpos := List.length_pos_iff.mpr hne
  rw [List.length_dropLast] at hlength
  omega

lemma converse_unfinished (h : Unfinished earlier) (rest : List String) (s : State) :
    converse w none (earlier ++ rest) s = converse w (pendingOf earlier) rest (s.asked earlier.length) := by
  induction earlier using List.reverseRecOn generalizing rest with
  | nil => rfl
  | append_singleton earlier line ih =>
    have hearlier : Unfinished earlier := fun part hp => h part (hp.trans (List.prefix_append _ _))
    have hline : needsMoreInput (joined (earlier ++ [line])) = true := h _ (List.prefix_refl _) (by simp)
    rw [List.append_assoc, ih hearlier]
    exact converse_waits s rest hline

lemma converse_ends (h : Unfinished lines) (s : State) :
    result (converse w none lines) s = .ok () ∧
      final (converse w none lines) s = (s.asked (lines.length + 1)).saying ["\n", farewell] := by
  have hrun : converse w none (lines ++ []) s = endOfInput (s.asked (lines.length + 1)) := by
    rw [converse_unfinished h, converse, record_run, asked_concat]
  have hend : final endOfInput (s.asked (lines.length + 1)) =
      ((s.asked (lines.length + 1)).saying ["\n"]).saying [farewell] := by
    rw [← (write_run "\n" _).2, ← (write_run farewell _).2]
    rfl
  rw [List.append_nil] at hrun
  obtain ⟨hresult, hfinal⟩ := run_eq hrun
  exact ⟨hresult, (hfinal.trans hend).trans (saying_saying _ _ _)⟩

lemma converse_group (h : IsGroup group) (rest : List String) (s : State) :
    ∃ earlier line, group = earlier ++ [line] ∧ converse w none (group ++ rest) s =
      (do
        match ← feed w (pendingOf earlier) line with
        | .waiting pending => converse w pending rest
        | .ended => return () : Eval Unit) (s.asked group.length) := by
  obtain ⟨earlier, line, rfl, hearlier⟩ := h.exists_last
  refine ⟨earlier, line, rfl, ?_⟩
  rw [List.append_assoc, List.singleton_append, converse_unfinished hearlier, converse_line]

lemma converse_quits (h : IsGroup group) (hq : Text.strip (joined group) = quitWord) (unread : List String)
    (s : State) :
    result (converse w none (group ++ unread)) s = .ok () ∧
      final (converse w none (group ++ unread)) s = (s.asked group.length).saying [farewell] := by
  obtain ⟨earlier, line, hgroup, hrun⟩ := converse_group (w := w) h unread s
  rw [feed, extend_pendingOf, ← hgroup, h.whole, if_neg Bool.false_ne_true, if_pos hq] at hrun
  obtain ⟨hresult, hfinal⟩ := run_eq hrun
  exact ⟨hresult, hfinal.trans (write_run farewell _).2⟩

lemma converse_answers (h : IsGroup group) (hq : Text.strip (joined group) ≠ quitWord) (rest : List String)
    (s : State) : converse w none (group ++ rest) s =
      (do answer w (joined group); converse w none rest : Eval Unit) (s.asked group.length) := by
  obtain ⟨earlier, line, hgroup, hrun⟩ := converse_group (w := w) h rest s
  rw [feed, extend_pendingOf, ← hgroup, h.whole, if_neg Bool.false_ne_true, if_neg hq, bind_assoc] at hrun
  exact hrun

lemma exists_group (lines : List String) :
    Unfinished lines ∨ ∃ group rest, lines = group ++ rest ∧ IsGroup group := by
  induction lines using List.reverseRecOn with
  | nil => exact .inl unfinished_nil
  | append_singleton earlier line ih =>
    rcases ih with h | ⟨group, rest, rfl, hgroup⟩
    · cases hl : needsMoreInput (joined (earlier ++ [line])) with
      | true => exact .inl (h.concat hl)
      | false => exact .inr ⟨_, [], (List.append_nil _).symm, h.isGroup hl⟩
    · exact .inr ⟨group, rest ++ [line], List.append_assoc _ _ _, hgroup⟩

theorem exists_course (w : World) (lines : List String) (s : State) : ∃ r t, Course w lines s r t := by
  induction hn : lines.length using Nat.strongRecOn generalizing lines s with
  | ind n ih =>
    rcases exists_group lines with h | ⟨group, rest, rfl, hgroup⟩
    · exact ⟨_, _, .endOfInput h⟩
    · by_cases hq : Text.strip (joined group) = quitWord
      · exact ⟨_, _, .quit rest hgroup hq⟩
      · rcases exists_answered w (joined group) (s.asked group.length) with ⟨t, ht⟩ | ⟨e, heval, he⟩
        · have hshorter : rest.length < n := by
            have hpos := List.length_pos_iff.mpr hgroup.ne_nil
            rw [List.length_append] at hn
            omega
          obtain ⟨r, u, hrest⟩ := ih rest.length hshorter rest t rfl
          exact ⟨r, u, .answered hgroup hq ht hrest⟩
        · exact ⟨_, _, .stopped rest hgroup hq heval he⟩

theorem Course.run {r : Except Fault Unit} (h : Course w lines s r t) :
    result (converse w none lines) s = r ∧ final (converse w none lines) s = t := by
  induction h with
  | @answered group rest s t u r hgroup hq hanswered _ ih =>
    obtain ⟨hok, hleft⟩ := hanswered.run
    obtain ⟨hresult, hfinal⟩ := run_eq (converse_answers hgroup hq rest s)
    obtain ⟨hnext, hlast⟩ := bind_of_ok (f := fun _ => converse w none rest) hok
    rw [hresult, hfinal, hnext, hlast, hleft]
    exact ih
  | quit unread hgroup hq => exact converse_quits hgroup hq unread _
  | endOfInput hlines => exact converse_ends hlines _
  | @stopped group unread s e hgroup hq heval he =>
    obtain ⟨herror, hleft⟩ := answer_of_misread heval he
    obtain ⟨hresult, hfinal⟩ := run_eq (converse_answers hgroup hq unread s)
    obtain ⟨hnext, hlast⟩ := bind_of_error (f := fun _ => converse w none unread) herror
    rw [hresult, hfinal, hnext, hlast, hleft]
    exact ⟨rfl, rfl⟩

lemma Course.farewell_last {r : Except Fault Unit} (h : Course w lines s r t) :
    (r = .ok () ∧ ∃ told, t.told = told ++ [.wrote .standard farewell]) ∨
      ∃ e, r = .error e ∧ w.files.Misread e := by
  induction h with
  | answered _ _ _ _ ih => exact ih
  | quit => exact .inl ⟨rfl, _, rfl⟩
  | @endOfInput lines s _ =>
    refine .inl ⟨rfl, (s.asked (lines.length + 1)).told ++ [.wrote .standard "\n"], ?_⟩
    simp [State.saying]
  | stopped _ _ _ _ he => exact .inr ⟨_, rfl, he⟩

end Repl

open Repl in
/-- The loop has one course over the lines, whatever they are, and all that happens is on it. -/
theorem run_course (w : World) (lines : List String) (s : State) :
    (∀ r t, Course w lines (s.saying [banner]) r t ↔
      result (Repl.run w lines) s = r ∧ final (Repl.run w lines) s = t) ∧
    ((result (Repl.run w lines) s = .ok () ∧
        ∃ told, (final (Repl.run w lines) s).told = told ++ [.wrote .standard farewell]) ∨
      ∃ e, result (Repl.run w lines) s = .error e ∧ w.files.Misread e) := by
  have hrun : Repl.run w lines s = converse w none lines (s.saying [banner]) := record_run _ _ s
  obtain ⟨hresult, hfinal⟩ := run_eq hrun
  obtain ⟨r, t, hcourse⟩ := exists_course w lines (s.saying [banner])
  rw [hresult, hfinal]
  refine ⟨fun r' t' => ⟨Course.run, ?_⟩, ?_⟩
  · rintro ⟨rfl, rfl⟩
    rw [hcourse.run.1, hcourse.run.2]
    exact hcourse
  · rw [hcourse.run.1, hcourse.run.2]
    exact hcourse.farewell_last

end CurriedLisp
