import Storygraph.Text.Decimal
import Storygraph.Unicode.Newest

/-!
# Quoted text

Text between quotation marks, for messages. Characters without a form of their own are shown by
their code points.
-/

namespace Storygraph

namespace Text

def quotedChar (c : Char) : Text :=
  match c with
  | '\t' => ['\\', 't']
  | '\n' => ['\\', 'n']
  | '\r' => ['\\', 'r']
  | '"' => ['\\', '"']
  | '\\' => ['\\', '\\']
  | _ =>
    if c.toNat = 0 then ['\\', '0']
    else if Unicode.Newest.isPrintable c then [c]
    else ['\\', 'u', '\x7b'] ++ hexOfNat c.toNat ++ ['\x7d']

def quoted (t : Text) : Text := '"' :: t.flatMap quotedChar ++ ['"']

end Text

end Storygraph
