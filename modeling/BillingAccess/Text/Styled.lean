/-
Text in colours, for terminals that show them.
-/

namespace BillingAccess.Text

inductive Style
  | bold
  | red
  | green
  | yellow
deriving Repr, DecidableEq

/-- What switches a style on. -/
def Style.mark : Style → List Char
  | .bold => "\x1b[1m".toList
  | .red => "\x1b[31m".toList
  | .green => "\x1b[32m".toList
  | .yellow => "\x1b[33m".toList

/-- What switches every style off. -/
def plainMark : List Char := "\x1b[0m".toList

/-- A style that is switched off within a text is switched on again. -/
def Style.kept (style : Style) : List Char → List Char
  | '\x1b' :: '[' :: '0' :: 'm' :: rest => plainMark ++ style.mark ++ style.kept rest
  | c :: rest => c :: style.kept rest
  | [] => []

/-- The text in a style, if `colors` are shown at all. -/
def styled (colors : Bool) (style : Style) (text : String) : String :=
  if colors then String.ofList (style.mark ++ style.kept text.toList ++ plainMark) else text

example : styled true .green "ok" = "\x1b[32mok\x1b[0m" := by decide +kernel

end BillingAccess.Text
