import CurriedLisp.Syntax.Parser

/-! A source read token by token or form by form. An unclosed quote is reported once, by the first
reading that would need a token after the last good one; after that the stream is at its end. -/

namespace CurriedLisp

structure TokenStream where
  ahead : Option Token
  tokens : List Token
  unclosed : Option Nat
  line : Nat := 1

namespace TokenStream

def ofLexed (lexed : Lexed) : TokenStream := ⟨none, lexed.tokens, lexed.unclosed, 1⟩

def ofSource (source : String) : TokenStream := ofLexed (lex source)

def pull (s : TokenStream) : Except ReadError (Option Token) × TokenStream :=
  match s.tokens, s.unclosed with
  | t :: rest, _ => (.ok (some t), { s with tokens := rest })
  | [], some quote => (.error (.unreadable ⟨.unclosedString, quote⟩), { s with unclosed := none })
  | [], none => (.ok none, s)

def peek (s : TokenStream) : Except ReadError (Option Token) × TokenStream :=
  match s.ahead with
  | some t => (.ok (some t), s)
  | none =>
    match s.pull with
    | (.ok (some t), s) => (.ok (some t), { s with ahead := some t })
    | atEnd => atEnd

def advance (s : TokenStream) : Except ReadError (Option Token) × TokenStream :=
  let next : Except ReadError (Option Token) × TokenStream :=
    match s.ahead with
    | some t => (.ok (some t), { s with ahead := none })
    | none => s.pull
  match next with
  | (.ok (some t), s) => (.ok (some t), { s with line := t.line })
  | atEnd => atEnd

def unread (s : TokenStream) : List Token := s.ahead.toList ++ s.tokens

def ended (line : Nat) : TokenStream := ⟨none, [], none, line⟩

/-- A token at which an error shows is next, but where brackets are nested too deep the stream ends. -/
def refused (t : Token) (rest : List Token) (unclosed : Option Nat) (line : Nat) : ReadError → TokenStream
  | .unreadable _ => ⟨some t, rest, unclosed, line⟩
  | .tooDeep => ended t.line

def parseExprFrom (limit : Nat) (unclosed : Option Nat) (groups : List Group) (line : Nat) :
    List Token → Except ReadError (Option Form) × TokenStream
  | [] =>
    match Parser.missing unclosed groups line with
    | some e => (.error (.unreadable e), ended line)
    | none => (.ok none, ended line)
  | t :: rest =>
    match Parser.shift limit groups t with
    | .error e => (.error e, refused t rest unclosed line e)
    | .ok (.within groups) => parseExprFrom limit unclosed groups t.line rest
    | .ok (.complete form) => (.ok (some form), ⟨none, rest, unclosed, t.line⟩)

def parseExpr (limit : Nat) (s : TokenStream) : Except ReadError (Option Form) × TokenStream :=
  parseExprFrom limit s.unclosed [] s.line s.unread

def parseAllFrom (limit : Nat) (unclosed : Option Nat) (done : List Form) (groups : List Group) (line : Nat) :
    List Token → Except ReadError (List Form) × TokenStream
  | [] =>
    match Parser.missing unclosed groups line with
    | some e => (.error (.unreadable e), ended line)
    | none => (.ok done.reverse, ended line)
  | t :: rest =>
    match Parser.shift limit groups t with
    | .error e => (.error e, refused t rest unclosed line e)
    | .ok (.within groups) => parseAllFrom limit unclosed done groups t.line rest
    | .ok (.complete form) => parseAllFrom limit unclosed (form :: done) [] t.line rest

def parseAll (limit : Nat) (s : TokenStream) : Except ReadError (List Form) × TokenStream :=
  parseAllFrom limit s.unclosed [] [] s.line s.unread

end TokenStream

end CurriedLisp
