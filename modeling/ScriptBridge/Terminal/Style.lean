/-!
# Coloured text

A style wraps a text in the escape sequences that switch the style on and off again.
-/

namespace ScriptBridge

/-- A way to show a text on a terminal. -/
inductive Style
  | bold | dimmed | red | green | yellow | blue | magenta | cyan | white
  | brightGreen | brightYellow | brightCyan
deriving DecidableEq, Repr

namespace Style

/-- The number that switches the style on. -/
def on : Style → Nat
  | bold => 1
  | dimmed => 2
  | red => 31
  | green => 32
  | yellow => 33
  | blue => 34
  | magenta => 35
  | cyan => 36
  | white => 37
  | brightGreen => 92
  | brightYellow => 93
  | brightCyan => 96

/-- The number that switches it off: everything for a weight, the foreground for a colour. -/
def off : Style → Nat
  | bold | dimmed => 0
  | _ => 39

/-- The sequence for a number. -/
def sequence (n : Nat) : String := "\x1b[" ++ toString n ++ "m"

/-- `s` in this style. -/
def paint (style : Style) (s : String) : String := sequence style.on ++ s ++ sequence style.off

end Style

/-- `s` with blanks behind it up to a width. -/
def padRight (width : Nat) (s : String) : String :=
  s ++ String.ofList (List.replicate (width - s.length) ' ')

end ScriptBridge
