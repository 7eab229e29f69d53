/-!
# The limit on nesting

Reading a document takes a call for each list and each object that is open, and
there is a limit on the calls that may be under way at a time. It is counted here
in *levels*: the calls that may still be made, one inside the other. A document
that needs more of them is not read.

Only the reader counts its calls. A value that is nested almost as deep as can be
read may take a few calls too many when something else is done with it later,
such as showing it in a message; these are not counted.
-/

namespace StateMachine.NestingLimit

/-- The levels there are when a file is read: a thousand, less the calls that are
    under way then. -/
def levels : Nat := 991

/-- The levels it takes to make a complaint on the spot. -/
def complaining : Nat := 3

/-- The levels it takes to look up a word that stands for a number. -/
def lookingUp : Nat := 1

/-- What all wordings of the fault begin with. -/
def wording : String := "maximum recursion depth exceeded"

end StateMachine.NestingLimit
