namespace CurriedLisp.StringLiteral

def escape (c : Char) : List Char :=
  if c = '\\' then ['\\', '\\']
  else if c = '"' then ['\\', '"']
  else if c = '\n' then ['\\', 'n']
  else if c = '\t' then ['\\', 't']
  else [c]

def encode (text : List Char) : List Char := text.flatMap escape

def unescape (c : Char) : Char :=
  if c = 'n' then '\n' else if c = 't' then '\t' else c

/-- A backslash at the very end stands for itself. -/
def decode : List Char → List Char
  | '\\' :: c :: rest => unescape c :: decode rest
  | c :: rest => c :: decode rest
  | [] => []

theorem decode_escape_append (c : Char) (rest : List Char) :
    decode (escape c ++ rest) = c :: decode rest := by
  simp only [escape]
  split
  · simp_all [decode, unescape]
  split
  · simp_all [decode, unescape]
  split
  · simp_all [decode, unescape]
  split
  · simp_all [decode, unescape]
  · simp_all [decode]

theorem decode_encode (text : List Char) : decode (encode text) = text := by
  induction text with
  | nil => rfl
  | cons c rest ih =>
    show decode (escape c ++ encode rest) = c :: rest
    rw [decode_escape_append, ih]

end CurriedLisp.StringLiteral
