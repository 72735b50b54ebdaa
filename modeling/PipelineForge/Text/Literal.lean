import PipelineForge.Text.Unprinted

/-!
# Quoted text

A quoted text stands between double quotes. The quote, the backslash and a few controls are
written with a backslash and a letter, and a character that is not printed as itself by its
number in hexadecimal.
-/

namespace PipelineForge.Text

def hex (n : Nat) : List Char := Nat.toDigits 16 n

def escape (c : Char) : List Char :=
  match c with
  | '\x00' => ['\\', '0']
  | '\t' => ['\\', 't']
  | '\r' => ['\\', 'r']
  | '\n' => ['\\', 'n']
  | '\\' => ['\\', '\\']
  | '"' => ['\\', '"']
  | _ => if isUnprinted c then ['\\', 'u', '\x7b'] ++ hex c.toNat ++ ['\x7d'] else [c]

def quote (s : String) : String := String.ofList ('"' :: s.toList.flatMap escape ++ ['"'])

end PipelineForge.Text
