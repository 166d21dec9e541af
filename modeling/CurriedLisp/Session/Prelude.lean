import CurriedLisp.Value.Basic

namespace CurriedLisp.Prelude

def path : String := "<mlisp>/prelude/prelude.mlisp"

def number (n : Nat) : Value := .number (.ofNat n)

local instance : Coe String Value := ⟨.symbol⟩

def define (name : String) (v : Value) : Value := .sexpr ["def", .qexpr [.symbol name], v]

def function (names : List String) (body : List Value) : Value :=
  .sexpr ["fun", .qexpr (names.map .symbol), .qexpr body]

def byEmptiness (empty other : List Value) : List Value :=
  ["if", .sexpr ["==", "l", "nil"], .qexpr empty, .qexpr other]

def byZero (zero other : List Value) : List Value :=
  ["if", .sexpr ["==", "n", number 0], .qexpr zero, .qexpr other]

def headOf (v : Value) : Value := .sexpr ["head", v]

def tailOf (v : Value) : Value := .sexpr ["tail", v]

def firstOf (v : Value) : Value := .sexpr ["fst", v]

def oneLess (v : Value) : Value := .sexpr ["-", v, number 1]

def constants : List Value :=
  [define "nil" (.qexpr []), define "true" (number 1), define "false" (number 0)]

def calling : List Value :=
  [function ["unpack", "f", "l"] ["eval", .sexpr ["join", .sexpr ["list", "f"], "l"]],
    function ["pack", "f", variadicMarker, "xs"] ["f", "xs"],
    define "curry" "unpack", define "uncurry" "pack",
    function ["do", variadicMarker, "l"] (byEmptiness ["nil"] ["last", "l"]),
    function ["flip", "f", "a", "b"] ["f", "b", "a"],
    function ["comp", "f", "g", "x"] ["f", .sexpr ["g", "x"]]]

def selecting : List Value :=
  [function ["fst", "l"] ["eval", headOf "l"],
    function ["snd", "l"] ["eval", headOf (tailOf "l")],
    function ["trd", "l"] ["eval", headOf (tailOf (tailOf "l"))],
    function ["len", "l"] (byEmptiness [number 0] ["+", number 1, .sexpr ["len", tailOf "l"]]),
    function ["nth", "n", "l"] (byZero ["fst", "l"] ["nth", oneLess "n", tailOf "l"]),
    function ["last", "l"] ["nth", oneLess (.sexpr ["len", "l"]), "l"],
    function ["take", "n", "l"]
      (byZero ["nil"] ["join", headOf "l", .sexpr ["take", oneLess "n", tailOf "l"]]),
    function ["drop", "n", "l"] (byZero ["l"] ["drop", oneLess "n", tailOf "l"])]

def folding : List Value :=
  [function ["map", "f", "l"]
      (byEmptiness ["nil"]
        ["join", .sexpr ["list", .sexpr ["f", firstOf "l"]], .sexpr ["map", "f", tailOf "l"]]),
    function ["filter", "f", "l"]
      (byEmptiness ["nil"]
        ["join", .sexpr ["if", .sexpr ["f", firstOf "l"], .qexpr ["head", "l"], .qexpr ["nil"]],
          .sexpr ["filter", "f", tailOf "l"]]),
    function ["foldl", "f", "z", "l"]
      (byEmptiness ["z"] ["foldl", "f", .sexpr ["f", "z", firstOf "l"], tailOf "l"]),
    function ["sum", "l"] ["foldl", "+", number 0, "l"],
    function ["product", "l"] ["foldl", "*", number 1, "l"]]

def program : List Value := constants ++ calling ++ selecting ++ folding

end CurriedLisp.Prelude
