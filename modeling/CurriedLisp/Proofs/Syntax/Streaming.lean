import CurriedLisp.Proofs.Syntax.Continuation
import CurriedLisp.Session.Basic

/-! Streams under any use. Whatever is asked of a stream, and whether it can be answered or not, what has been read
is a beginning of the tokens of the source, and the rest is still to come. Only where brackets are nested too deep
it is lost. -/

namespace CurriedLisp

def Unfinished (tokens : List Token) : Prop :=
  Viable (tokens.map Token.lexeme) ∧
    ∀ first, first <+: tokens → Sentence (first.map Token.lexeme) → first = []

namespace TokenStream

inductive Request where
  | peek
  | advance
  | form
  | program

inductive Answer where
  | token (found : Option Token)
  | form (found : Option Form)
  | program (forms : List Form)

def serve (limit : Nat) (s : TokenStream) : Request → Except ReadError Answer × TokenStream
  | .peek => (s.peek.1.map .token, s.peek.2)
  | .advance => (s.advance.1.map .token, s.advance.2)
  | .form => ((s.parseExpr limit).1.map .form, (s.parseExpr limit).2)
  | .program => ((s.parseAll limit).1.map .program, (s.parseAll limit).2)

def left (s : TokenStream) : Lexed := ⟨s.unread, s.unclosed⟩

def Request.Parses : Request → Prop
  | peek | advance => False
  | form | program => True

def Request.Wants (limit : Nat) : Request → List Token → Prop
  | peek, tokens | advance, tokens => tokens = []
  | form, tokens => Unfinished tokens ∧ NestsWithin limit tokens
  | program, tokens => Viable (tokens.map Token.lexeme) ∧ NestsWithin limit tokens

def Request.nothing : Request → Answer
  | peek | advance => .token none
  | form => .form none
  | program => .program []

inductive Gives (limit : Nat) (l : Lexed) : Request → Except ReadError Answer → List Token → Prop
  | peek {t : Token} {rest : List Token} : l.tokens = t :: rest → Gives limit l .peek (.ok (.token (some t))) []
  | advance {t : Token} {rest : List Token} : l.tokens = t :: rest →
    Gives limit l .advance (.ok (.token (some t))) [t]
  | form {form : Form} {taken rest : List Token} : l.tokens = taken ++ rest → Spells [form] taken →
    NestsWithin limit taken → Gives limit l .form (.ok (.form (some form))) taken
  | program {forms : List Form} : l.unclosed = none → Spells forms l.tokens → NestsWithin limit l.tokens →
    Gives limit l .program (.ok (.program forms)) l.tokens
  | nothing {request : Request} : l = ⟨[], none⟩ → Gives limit l request (.ok request.nothing) []
  | unclosed {request : Request} {quote : Nat} : l.unclosed = some quote → request.Wants limit l.tokens →
    Gives limit l request (.error (.unreadable ⟨.unclosedString, quote⟩)) l.tokens
  | unfinished {request : Request} {before inside : List Token} {b : Bracket} {line : Nat} {last : Token} :
    l.unclosed = none → request.Wants limit l.tokens → l.tokens = before ++ ⟨.opening b, line⟩ :: inside →
    Viable (before.map Token.lexeme) → Sentence (inside.map Token.lexeme) → l.tokens.getLast? = some last →
    Gives limit l request (.error (.unreadable ⟨.unexpectedEnd b, last.line⟩)) l.tokens
  | unexpected {request : Request} {taken rest : List Token} {t : Token} : request.Parses →
    l.tokens = taken ++ t :: rest → request.Wants limit taken → ¬ Viable ((taken ++ [t]).map Token.lexeme) →
    Gives limit l request (.error (Parser.unexpected t)) taken
  | tooDeep {request : Request} {taken rest : List Token} {t : Token} : request.Parses →
    l.tokens = taken ++ t :: rest → request.Wants limit taken → ¬ NestsWithin limit (taken ++ [t]) →
    Gives limit l request (.error .tooDeep) (taken ++ [t])

def exhausts : Except ReadError Answer → Bool
  | .error (.unreadable ⟨.unclosedString, _⟩) | .error .tooDeep => true
  | _ => false

def lineAfter (line : Nat) (tokens : List Token) : Nat := (tokens.getLast?.map Token.line).getD line

def after (l : Lexed) (answer : Except ReadError Answer) (taken : List Token) : Lexed :=
  if exhausts answer then ⟨[], none⟩ else ⟨l.tokens.drop taken.length, l.unclosed⟩

structure Served (limit : Nat) (l : Lexed) (line : Nat) (request : Request) (taken : List Token)
    (result : Except ReadError Answer × TokenStream) : Prop where
  gives : Gives limit l request result.1 taken
  left : result.2.left = after l result.1 taken
  line : result.2.line = lineAfter line taken

structure Exchange where
  request : Request
  answer : Except ReadError Answer
  taken : List Token

def consumed (course : List Exchange) : List Token := course.flatMap Exchange.taken

def remaining (l : Lexed) (course : List Exchange) : Lexed :=
  if course.any fun x => exhausts x.answer then ⟨[], none⟩
  else ⟨l.tokens.drop (consumed course).length, l.unclosed⟩

def reached (limit : Nat) (source : String) (requests : List Request) : TokenStream :=
  requests.foldl (fun s request => (s.serve limit request).2) (ofSource source)

/-- What has been read is a beginning of the source, the stream goes on after it, and its line is that of the last
token read. -/
structure Stands (limit : Nat) (source : String) (course : List Exchange) : Prop where
  consumed : consumed course <+: (lex source).tokens
  left : (reached limit source (course.map Exchange.request)).left = remaining (lex source) course
  line : (reached limit source (course.map Exchange.request)).line = lineAfter 1 (TokenStream.consumed course)

variable {limit start line : Nat} {before taken rest : List Token} {done : List Form} {groups : List Group} {t : Token}
  {unclosed : Option Nat} {request : Request} {l : Lexed} {answer : Except ReadError Answer} {source : String}
  {course : List Exchange}

lemma after_append (h : exhausts answer = false) (taken rest : List Token) (unclosed : Option Nat) :
    after ⟨taken ++ rest, unclosed⟩ answer taken = ⟨rest, unclosed⟩ := by
  rw [after, h, if_neg Bool.false_ne_true, List.drop_left]

lemma after_all (h : exhausts answer = false) (tokens : List Token) :
    after ⟨tokens, none⟩ answer tokens = ⟨[], none⟩ := by
  rw [after, h, if_neg Bool.false_ne_true, List.drop_length]

lemma lineAfter_concat (line : Nat) (tokens : List Token) (t : Token) : lineAfter line (tokens ++ [t]) = t.line := by
  rw [lineAfter, List.getLast?_concat]
  rfl

lemma lineAfter_append (line : Nat) (xs ys : List Token) :
    lineAfter line (xs ++ ys) = lineAfter (lineAfter line xs) ys := by
  rcases List.eq_nil_or_concat ys with rfl | ⟨ys, t, rfl⟩
  · rw [List.append_nil]
    rfl
  · rw [List.concat_eq_append, ← List.append_assoc, lineAfter_concat, lineAfter_concat]

lemma Request.Wants.viable (h : request.Wants limit before) :
    Viable (before.map Token.lexeme) ∧ NestsWithin limit before := by
  cases request with
  | form => exact ⟨h.1.1, h.2⟩
  | program => exact h
  | _ =>
    obtain rfl : before = [] := h
    exact ⟨Sentence.nil.viable, nestsWithin_nil limit⟩

lemma served_end (h : Reached before done groups) (hw : request.Wants limit before)
    (hl : line = lineAfter start before) {e : SyntaxError} (he : Parser.missing unclosed groups line = some e) :
    Served limit ⟨before, unclosed⟩ start request before (.error (.unreadable e), ended line) := by
  cases unclosed with
  | some quote =>
    cases he
    exact ⟨.unclosed rfl hw, rfl, hl⟩
  | none =>
    cases h with
    | outside => cases he
    | @inside before inner done g outer ho hi =>
      cases he
      obtain ⟨last, hlast⟩ : ∃ last, (before ++ ⟨.opening g.bracket, g.line⟩ :: inner).getLast? = some last := by
        simp [List.getLast?_append, List.getLast?_cons]
      have hline : line = last.line := by
        rw [hl, lineAfter, hlast]
        rfl
      refine ⟨?_, (after_all rfl _).symm, hl⟩
      rw [hline]
      exact .unfinished rfl hw rfl ho.viable hi.sentence hlast

lemma served_refused (h : Reached before done groups) (hw : request.Wants limit before) (hp : request.Parses)
    (hl : line = lineAfter start before) {e : ReadError} (he : Parser.shift limit groups t = .error e) :
    ∃ taken, Served limit ⟨before ++ t :: rest, unclosed⟩ start request taken
      (.error e, refused t rest unclosed line e) := by
  rcases h.shift_error he with ⟨rfl, hv⟩ | ⟨rfl, hdeep, b, hb⟩
  · exact ⟨before, .unexpected hp rfl hw hv, (after_append rfl before (t :: rest) unclosed).symm, hl⟩
  · exact ⟨before ++ [t], .tooDeep hp rfl hw (h.not_nestsWithin hdeep hb), rfl, (lineAfter_concat start before t).symm⟩

lemma spells_of_reached (h : Reached before done []) : Spells done.reverse before := by
  cases h with
  | outside hs => exact hs

lemma missing_eq_none (h : Parser.missing unclosed groups line = none) : unclosed = none ∧ groups = [] := by
  cases unclosed with
  | some quote => cases h
  | none =>
    cases groups with
    | nil => exact ⟨rfl, rfl⟩
    | cons => cases h

lemma unfinished_concat (hu : Unfinished before) (h : Reached (before ++ [t]) [] groups) :
    Unfinished (before ++ [t]) := by
  refine ⟨h.viable, fun first hfirst hs => ?_⟩
  rcases List.prefix_concat_iff.mp hfirst with rfl | hfirst
  · have hopen : some [] = some (groups.map Group.bracket) := (hs.openAfter []).symm.trans h.openAfter
    obtain rfl := List.map_eq_nil_iff.mp (Option.some.inj hopen).symm
    cases before <;> cases spells_of_reached h
  · exact hu.2 first hfirst hs

lemma served_form (h : Reached before [] groups) (hw : Request.form.Wants limit before)
    (hl : line = lineAfter start before) :
    ∃ taken, Served limit ⟨before ++ rest, unclosed⟩ start .form taken
      ((parseExprFrom limit unclosed groups line rest).1.map .form,
        (parseExprFrom limit unclosed groups line rest).2) := by
  induction rest generalizing before groups line with
  | nil =>
    rw [List.append_nil]
    rw [parseExprFrom]
    cases he : Parser.missing unclosed groups line with
    | some e => exact ⟨before, served_end h hw hl he⟩
    | none =>
      obtain ⟨rfl, rfl⟩ := missing_eq_none he
      cases spells_of_reached h
      exact ⟨[], .nothing rfl, rfl, hl⟩
  | cons t rest ih =>
    rw [parseExprFrom]
    cases hs : Parser.shift limit groups t with
    | error e => exact served_refused h hw trivial hl hs
    | ok p =>
      have hreached := h.shift hs
      have hnest := hw.2.shift h hs
      have hlast := (lineAfter_concat start before t).symm
      rw [List.append_cons]
      cases p with
      | within groups => exact ih hreached ⟨unfinished_concat hw.1 hreached, hnest⟩ hlast
      | complete form =>
        exact ⟨before ++ [t], .form rfl (spells_of_reached hreached) hnest, (after_append rfl _ _ _).symm, hlast⟩

lemma served_program (h : Reached before done groups) (hw : Request.program.Wants limit before)
    (hl : line = lineAfter start before) :
    ∃ taken, Served limit ⟨before ++ rest, unclosed⟩ start .program taken
      ((parseAllFrom limit unclosed done groups line rest).1.map .program,
        (parseAllFrom limit unclosed done groups line rest).2) := by
  induction rest generalizing before done groups line with
  | nil =>
    rw [List.append_nil]
    rw [parseAllFrom]
    cases he : Parser.missing unclosed groups line with
    | some e => exact ⟨before, served_end h hw hl he⟩
    | none =>
      obtain ⟨rfl, rfl⟩ := missing_eq_none he
      exact ⟨before, .program rfl (spells_of_reached h) hw.2, (after_all rfl before).symm, hl⟩
  | cons t rest ih =>
    rw [parseAllFrom]
    cases hs : Parser.shift limit groups t with
    | error e => exact served_refused h hw trivial hl hs
    | ok p =>
      have hreached := h.shift hs
      have hnest := hw.2.shift h hs
      have hlast := (lineAfter_concat start before t).symm
      rw [List.append_cons]
      cases p with
      | within groups => exact ih hreached ⟨hreached.viable, hnest⟩ hlast
      | complete form => exact ih hreached ⟨hreached.viable, hnest⟩ hlast

lemma wants_nil (limit : Nat) (request : Request) : request.Wants limit [] := by
  have hnil : ∀ first : List Token, first <+: [] → Sentence (first.map Token.lexeme) → first = [] :=
    fun _ hfirst _ => List.prefix_nil.mp hfirst
  cases request with
  | form => exact ⟨⟨Sentence.nil.viable, hnil⟩, nestsWithin_nil limit⟩
  | program => exact ⟨Sentence.nil.viable, nestsWithin_nil limit⟩
  | _ => rfl

lemma exists_served (limit : Nat) (s : TokenStream) (request : Request) :
    ∃ taken, Served limit s.left s.line request taken (s.serve limit request) := by
  have hstart : Reached [] [] [] := .outside .nil
  cases request with
  | peek =>
    match s with
    | ⟨some t, tokens, unclosed, line⟩ => exact ⟨[], .peek rfl, rfl, rfl⟩
    | ⟨none, t :: tokens, unclosed, line⟩ => exact ⟨[], .peek rfl, rfl, rfl⟩
    | ⟨none, [], some quote, line⟩ => exact ⟨[], .unclosed rfl rfl, rfl, rfl⟩
    | ⟨none, [], none, line⟩ => exact ⟨[], .nothing rfl, rfl, rfl⟩
  | advance =>
    match s with
    | ⟨some t, tokens, unclosed, line⟩ => exact ⟨[t], .advance rfl, rfl, rfl⟩
    | ⟨none, t :: tokens, unclosed, line⟩ => exact ⟨[t], .advance rfl, rfl, rfl⟩
    | ⟨none, [], some quote, line⟩ => exact ⟨[], .unclosed rfl rfl, rfl, rfl⟩
    | ⟨none, [], none, line⟩ => exact ⟨[], .nothing rfl, rfl, rfl⟩
  | form => exact served_form hstart (wants_nil limit .form) rfl
  | program => exact served_program hstart (wants_nil limit .program) rfl

lemma Gives.taken_prefix (h : Gives limit l request answer taken) : taken <+: l.tokens := by
  cases h with
  | peek | nothing => exact List.nil_prefix
  | advance ht => exact ⟨_, ht.symm⟩
  | form ht => exact ⟨_, ht.symm⟩
  | unexpected _ ht => exact ⟨_, ht.symm⟩
  | tooDeep _ ht =>
    rw [ht]
    exact prefix_append_cons _ _ _
  | _ => exact List.prefix_refl _

lemma Gives.unclosed_iff (h : Gives limit l request answer taken) (quote : Nat) :
    answer = .error (.unreadable ⟨.unclosedString, quote⟩) ↔
      l.unclosed = some quote ∧ request.Wants limit l.tokens := by
  constructor
  · rintro rfl
    cases h with
    | unclosed hq hw => exact ⟨hq, hw⟩
  · rintro ⟨hq, hw⟩
    cases h with
    | peek ht => cases ht.symm.trans hw
    | advance ht => cases ht.symm.trans hw
    | form ht hs _ =>
      obtain rfl := hw.1.2 _ ⟨_, ht.symm⟩ hs.sentence
      cases hs
    | program hu => cases hu.symm.trans hq
    | nothing hl =>
      subst hl
      cases hq
    | unclosed hr _ => rw [Option.some.inj (hr.symm.trans hq)]
    | unfinished hu => cases hu.symm.trans hq
    | unexpected _ ht _ hv => exact (not_viable_of_split ht hv hw.viable.1).elim
    | tooDeep _ ht _ hn =>
      rw [ht] at hw
      exact (hn (hw.viable.2.shorter (prefix_append_cons _ _ _))).elim

lemma consumed_concat (course : List Exchange) (x : Exchange) :
    consumed (course ++ [x]) = consumed course ++ x.taken := by
  rw [consumed, List.flatMap_append, List.flatMap_singleton]
  rfl

lemma remaining_concat (l : Lexed) (course : List Exchange) (x : Exchange) :
    remaining l (course ++ [x]) = after (remaining l course) x.answer x.taken := by
  unfold remaining after
  rw [List.any_append, List.any_cons, List.any_nil, Bool.or_false, consumed_concat, List.length_append]
  cases course.any fun x => exhausts x.answer <;> cases exhausts x.answer <;> simp [List.drop_drop]

lemma prefix_concat (hc : consumed course <+: l.tokens) (ht : taken <+: (remaining l course).tokens) :
    consumed course ++ taken <+: l.tokens := by
  unfold remaining at ht
  split at ht
  · rw [List.prefix_nil.mp ht, List.append_nil]
    exact hc
  · obtain ⟨rest, hrest⟩ := hc
    rw [← hrest, List.drop_left] at ht
    rw [← hrest]
    exact (List.prefix_append_right_inj _).mpr ht

lemma stands_nil (limit : Nat) (source : String) : Stands limit source [] := ⟨List.nil_prefix, rfl, rfl⟩

lemma reached_concat (limit : Nat) (source : String) (course : List Exchange) (x : Exchange) :
    reached limit source ((course ++ [x]).map Exchange.request) =
      ((reached limit source (course.map Exchange.request)).serve limit x.request).2 := by
  rw [List.map_append, reached, List.foldl_append]
  rfl

lemma Stands.serve (h : Stands limit source course) (request : Request) :
    ∃ x : Exchange, x.request = request ∧
      x.answer = ((reached limit source (course.map Exchange.request)).serve limit request).1 ∧
      Gives limit (remaining (lex source) course) request x.answer x.taken ∧ Stands limit source (course ++ [x]) := by
  obtain ⟨taken, hserved⟩ := exists_served limit (reached limit source (course.map Exchange.request)) request
  rw [h.left] at hserved
  refine ⟨⟨request, _, taken⟩, rfl, rfl, hserved.gives, ?_, ?_, ?_⟩
  · rw [consumed_concat]
    exact prefix_concat h.consumed hserved.gives.taken_prefix
  · rw [reached_concat, remaining_concat]
    exact hserved.left
  · rw [reached_concat, consumed_concat, lineAfter_append, ← h.line]
    exact hserved.line

theorem stream_exact (limit : Nat) (source : String) (requests : List Request) :
    ∃ course : List Exchange, course.map Exchange.request = requests ∧ Stands limit source course ∧
      ∀ before x after, course = before ++ x :: after →
        Stands limit source before ∧
        x.answer = ((reached limit source (before.map Exchange.request)).serve limit x.request).1 ∧
        Gives limit (remaining (lex source) before) x.request x.answer x.taken ∧
        ∀ quote, x.answer = .error (.unreadable ⟨.unclosedString, quote⟩) ↔
          (remaining (lex source) before).unclosed = some quote ∧
            x.request.Wants limit (remaining (lex source) before).tokens := by
  induction requests using List.reverseRecOn with
  | nil => exact ⟨[], rfl, stands_nil limit source, by simp⟩
  | append_singleton requests request ih =>
    obtain ⟨course, rfl, hstands, hsplit⟩ := ih
    obtain ⟨x, rfl, hanswer, hgives, hnext⟩ := hstands.serve request
    refine ⟨course ++ [x], by simp, hnext, ?_⟩
    intro before y after heq
    rcases List.eq_nil_or_concat after with rfl | ⟨after, z, rfl⟩
    · obtain ⟨rfl, ⟨⟩⟩ := List.append_inj' heq rfl
      exact ⟨hstands, hanswer, hgives, hgives.unclosed_iff⟩
    · rw [List.concat_eq_append, ← List.cons_append, ← List.append_assoc] at heq
      obtain ⟨rfl, -⟩ := List.append_inj' heq rfl
      exact hsplit before y after rfl

lemma parseExprFrom_tooDeep {b : Bracket} (hg : groups.length ≤ limit) {n : Nat} (hn : limit < groups.length + n) :
    parseExprFrom limit unclosed groups line (List.replicate n ⟨.opening b, start⟩ ++ rest) =
      (.error .tooDeep, ended start) := by
  induction n generalizing groups line with
  | zero => omega
  | succ n ih =>
    rw [List.replicate_succ, List.cons_append, parseExprFrom]
    by_cases hdeep : limit ≤ groups.length
    · have hshift : Parser.shift limit groups ⟨.opening b, start⟩ = .error .tooDeep := if_pos hdeep
      rw [hshift]
      rfl
    · have hshift : Parser.shift limit groups ⟨.opening b, start⟩ = .ok (.within (⟨b, start, []⟩ :: groups)) :=
        if_neg hdeep
      rw [hshift]
      refine ih ?_ ?_ <;> rw [List.length_cons] <;> omega

open Lexer in
lemma covers_openings {text : List Char} (h : Covers line text l) (n : Nat) :
    Covers line (List.replicate n '(' ++ text) ⟨List.replicate n ⟨.opening .round, line⟩ ++ l.tokens, l.unclosed⟩ := by
  induction n with
  | zero => exact h
  | succ n ih =>
    have hw : (Lexeme.opening .round).WellFormed := trivial
    have hs : (Lexeme.opening .round).StopsBefore (List.replicate n '(' ++ text) := trivial
    exact .token .nil hw hs ih

def nested (n : Nat) : String := String.ofList (List.replicate n '(' ++ ['\n', 'x'])

open Lexer in
lemma lex_nested (n : Nat) :
    lex (nested n) = ⟨List.replicate n ⟨.opening .round, 1⟩ ++ [⟨.atom ['x'], 2⟩], none⟩ := by
  have hw : (Lexeme.atom ['x']).WellFormed := ⟨List.cons_ne_nil _ _, List.forall_mem_singleton.mpr (by decide)⟩
  have hs : (Lexeme.atom ['x']).StopsBefore [] := nofun
  have hlast : Covers 1 ['\n', 'x'] ⟨[⟨.atom ['x'], 2⟩], none⟩ :=
    .token (.blank Text.isBlank_newline .nil) hw hs (.last (.inl .nil))
  rw [lex_eq_iff, nested, String.toList_ofList]
  exact covers_openings hlast n

lemma serve_nested {n : Nat} (hn : limit < n) :
    (ofSource (nested n)).serve limit .form = (.error .tooDeep, ended 1) := by
  show ((parseExprFrom limit (lex (nested n)).unclosed [] 1 (lex (nested n)).tokens).1.map Answer.form,
    (parseExprFrom limit (lex (nested n)).unclosed [] 1 (lex (nested n)).tokens).2) = _
  rw [lex_nested, parseExprFrom_tooDeep (Nat.zero_le limit) (by simpa using hn)]
  rfl

theorem tooDeep_loses :
    let limit := Reading.parserLimit ({} : World).room
    let s := ((ofSource (nested 6000)).serve limit .form).2
    ¬ ∃ taken rest, (lex (nested 6000)).tokens = taken ++ rest ∧ s.line = lineAfter 1 taken ∧
      (s.serve limit .peek).1 = .ok (.token rest.head?) := by
  intro limit s
  have hlimit : limit < 6000 := by decide
  have hs : s = ended 1 := congrArg Prod.snd (serve_nested hlimit)
  rw [hs, lex_nested]
  rintro ⟨taken, rest, htokens, hline, hpeek⟩
  cases rest with
  | cons t rest => cases hpeek
  | nil =>
    rw [← List.append_nil taken, ← htokens, lineAfter_concat] at hline
    cases hline

end TokenStream

end CurriedLisp
