import SensorLink.Decimal.Reader
import SensorLink.Text.Integer

/-!
# Values of options

What the value of an option may be is part of the grammar of a command line, so a text that is no
value of its kind is a mistake in the command line itself and not in what it asks for.

Whole numbers come in two kinds. Those of a small field may have a minus sign, which leaves zero as
their only value; those that fill a machine word may not.
-/

namespace SensorLink.CommandLine

/-- What the value of an option may be. -/
inductive ValueKind where
  | text
  /-- The name of a file, which is not empty. -/
  | file
  /-- A whole number below a limit, with any sign. -/
  | signed (limit : Nat)
  /-- A whole number below a limit, with no minus sign. -/
  | unsigned (limit : Nat)
  | real
  deriving DecidableEq, Repr

/-- The value of an option. -/
inductive Value where
  | text (text : String)
  | whole (n : Nat)
  | real (x : Binary64)

/-- A whole number below a limit, with no minus sign. -/
def unsigned? (limit : Nat) (cs : List Char) : Option Nat :=
  (Text.Integer.read 10 limit cs).toOption

/-- A whole number below a limit. With a minus sign it can only be zero. -/
def signed? (limit : Nat) : List Char → Option Nat
  | '-' :: rest => if !rest.isEmpty && rest.all (· = '0') then some 0 else none
  | cs => unsigned? limit cs

/-- Reads a value of a kind. -/
def ValueKind.read? (kind : ValueKind) (text : String) : Option Value :=
  match kind with
  | .text => some (.text text)
  | .file => if text.isEmpty then none else some (.text text)
  | .signed limit => (signed? limit text.toList).map .whole
  | .unsigned limit => (unsigned? limit text.toList).map .whole
  | .real => (Decimal.read? text).map .real

end SensorLink.CommandLine
