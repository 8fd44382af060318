import Mailroom.Source.Compile

/-!
# Programs that come with the machine

A bundled program is a text together with the values that have to lie on the floor before it runs.

This follows the program's tables of bundled programs and of their floors.

- `Bundled`: such a program.
- `Bundled.digitExploder`: sends out the digits of every number that comes in.
- `bundled`: all of them under their names.
-/

namespace Mailroom.Source

/-- A program text and what it finds on the floor. -/
structure Bundled where
  text : String
  floor : List (Int × Int)
  deriving Repr

namespace Bundled

/-- Sends out the digits of every number that comes in. -/
def digitExploder : Bundled where
  text := "// Grab each number from the inbox and send its digits to the outbox.
// 123 -> 1, 2, 3 / 100 -> 1, 0, 0 / 40 -> 4, 0 / 5 -> 5

const int *ZeroPtr = 9;
const int *TenPtr = 10;
const int *HundredPtr = 11;

int n;
int tens;
int hundreds;

while (true)
\x7b
	tens = *ZeroPtr;
	hundreds = *ZeroPtr;

	n = input();

	while (n - *HundredPtr >= 0)
	\x7b
		debug(1);
		n = n - *HundredPtr;
		++hundreds;
	\x7d

	if (hundreds != 0)
	\x7b
		output(hundreds);
	\x7d

	while (n - *TenPtr >= 0)
	\x7b
		debug(3);
		n = n - *TenPtr;
		++tens;
	\x7d

	// A zero tens digit still shows once a hundreds digit went out
	if (hundreds != 0 || tens != 0)
	\x7b
		output(tens);
	\x7d
	output(n);
\x7d
"
  floor := [(9, 0), (10, 10), (11, 100)]

/-- The listing of a bundled program for a floor of the given size. -/
def listing (b : Bundled) (floorSize : Int) : Except CompileError (List String) :=
  (compile { floorSize } b.text.toList).outcome

end Bundled

/-- The bundled programs under their names. -/
def bundled : List (String × Bundled) :=
  [("digit_exploder", .digitExploder)]

end Mailroom.Source
