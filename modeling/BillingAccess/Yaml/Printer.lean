/-
Scalars as they are written: in quotation marks, on one line, with every
character escaped that a document cannot hold or that ends a line.
-/
import BillingAccess.Yaml.Scalar

namespace BillingAccess.Yaml

/-- The last eight digits of a number in base sixteen. -/
def eightDigits (n : Nat) : List Char :=
  [0x10000000, 0x1000000, 0x100000, 0x10000, 0x1000, 0x100, 0x10, 1].map fun unit =>
    Hex.digit (n / unit % 16)

/-- Whether a character between quotation marks stands for itself. -/
def standsForItself (c : Char) : Bool :=
  let n := c.toNat
  c != '"' && c != '\\' && ((0x20 ≤ n && n ≤ 0x7E) || (0xA0 ≤ n && n ≤ 0xFFFD) || 0x10000 ≤ n)
    && n != 0x2028 && n != 0x2029 && n != 0xFEFF

def quotedChar (c : Char) : List Char :=
  if standsForItself c then [c] else '\\' :: 'U' :: eightDigits c.toNat

def quoted (text : String) : String :=
  String.ofList ('"' :: text.toList.flatMap quotedChar ++ ['"'])

example : quoted "a\n\"é" = "\"a\\U0000000A\\U00000022é\"" := by decide +kernel
example : (readQuoted true { rest := (quoted "a\n\"é").toList }).map
    (fun (node, after) => (node.text?, after.rest)) = some (some "a\n\"é", []) := by
  decide +kernel

end BillingAccess.Yaml
