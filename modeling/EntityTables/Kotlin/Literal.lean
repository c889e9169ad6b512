/-!
# String literals

A string literal escapes the quote, the backslash, the dollar sign, which would start a
template, and the line feed; every other character stands for itself.
-/

namespace EntityTables.Kotlin

def literalChar (c : Char) : List Char :=
  match c with
  | '"' => ['\\', '"']
  | '\\' => ['\\', '\\']
  | '$' => ['\\', '$']
  | '\n' => ['\\', 'n']
  | _ => [c]

def literal (text : String) : String :=
  String.ofList ('"' :: text.toList.flatMap literalChar ++ ['"'])

end EntityTables.Kotlin
